import ScopeAtlas.Location.Rust
import ScopeAtlas.Proofs.Text.Blanks
import ScopeAtlas.Proofs.Text.Cutting

/-!
# Declared dependencies

A manifest declares a crate by a line of a section of dependencies or by a section of its own.  What
is read of a line depends on the section that was opened last.  Of two readings that stand in the
same section and differ in one recorded crate, each further line makes two that differ in this crate
only, so a declaration has the same effect wherever it stands.  A section of its own for a
dependency of the build is passed over.
-/

namespace ScopeAtlas.Location.Rust

open ScopeAtlas.Data ScopeAtlas.Text

/-! ## Lines of a manifest -/

/-- A name of a crate as manifests write it without quotes. -/
def IsCrateName (name : String) : Prop := name ≠ "" ∧ ∀ c ∈ name.toList, isKeyChar c = true

instance (name : String) : Decidable (IsCrateName name) :=
  decidable_of_iff (name ≠ "" ∧ name.toList.all isKeyChar = true)
    (and_congr_right' List.all_eq_true)

/-- The line opens the section of a heading: it begins with brackets around the heading. -/
def Opens (heading line : String) : Prop :=
  ∃ indent inner rest, AllBlank indent ∧ inner ≠ "" ∧ (∀ c ∈ inner.toList, c ≠ ']' ∧ c ≠ '#') ∧
    trim inner = heading ∧ line = indent ++ ("[" ++ inner ++ "]") ++ rest

/-- The line gives a key a value: an equals sign stands behind the key. -/
def Gives (key line : String) : Prop :=
  ∃ indent gap value, AllBlank indent ∧ AllBlank gap ∧
    line = indent ++ (key ++ gap ++ "=") ++ value

/-- The line opens no section. -/
def Stays (line : String) : Prop := ∀ heading, ¬Opens heading line

/-- What a line says: the text before a comment, without the blanks around it. -/
def content (line : String) : String := trim (beforeFirst "#" line)

theorem isKeyChar_eq_false_of_isBlank {c : Char} (blank : isBlank c = true) :
    isKeyChar c = false := by
  rw [Bool.eq_false_iff]
  intro isKey
  simp only [isKeyChar, Bool.or_eq_true, Bool.and_eq_true, decide_eq_true_eq, beq_iff_eq,
    Char.le_def, UInt32.le_iff_toNat_le] at isKey
  simp only [isBlank, Bool.or_eq_true, Bool.and_eq_true, decide_eq_true_eq, beq_iff_eq] at blank
  have := c.toNat_val
  rcases isKey with (((⟨_, _⟩ | ⟨_, _⟩) | ⟨_, _⟩) | rfl) | rfl <;> simp_all <;> omega

namespace IsCrateName

variable {name : String}

theorem not_mem (named : IsCrateName name) {c : Char} (other : isKeyChar c = false) :
    c ∉ name.toList := fun member =>
  Bool.false_ne_true (other.symm.trans (named.2 c member))

theorem isWord (named : IsCrateName name) : IsWord name where
  begun := named.1
  plain c member := by
    rw [Bool.eq_false_iff]
    exact fun blank => named.not_mem (isKeyChar_eq_false_of_isBlank blank) member

theorem exists_eq_cons (named : IsCrateName name) :
    ∃ first rest, name.toList = first :: rest ∧ isKeyChar first = true := by
  have nonempty : name.toList ≠ [] := by simpa using named.1
  obtain ⟨first, rest, shape⟩ := List.exists_cons_of_ne_nil nonempty
  exact ⟨first, rest, shape, named.2 first (by simp [shape])⟩

end IsCrateName

/-! ## What a line says -/

/-- What begins with a solid text, and holds no comment up to the end of it, begins so in what the
line says. -/
theorem content_append {indent core : String} (blank : AllBlank indent) (solid : Solid core)
    (plain : '#' ∉ core.toList) (rest : String) :
    content (indent ++ core ++ rest) = core ++ trimRightWhile isBlank (beforeFirst "#" rest) := by
  have free : '#' ∉ (indent ++ core).toList := by
    rw [String.toList_append, List.mem_append, not_or]
    exact ⟨fun member => absurd (blank '#' member) (by decide), plain⟩
  rw [content, beforeFirst_append_of_not_mem (show "#".toList = ['#'] from rfl) free,
    String.append_assoc, trim_blank_append blank, trim_solid_append solid]

/-- A line is blanks, what it says, and the rest. -/
theorem exists_eq_append_content (line : String) :
    ∃ front rest, AllBlank front ∧ '#' ∉ (content line).toList ∧
      line = front ++ content line ++ rest := by
  obtain ⟨front, back, blank, _, whole⟩ := exists_eq_append_trim (beforeFirst "#" line)
  have before : (beforeFirst "#" line).toList = line.toList.takeWhile (· != '#') :=
    (toList_beforeFirst "#" line).trans (beforeFirstChars_singleton '#' line.toList)
  refine ⟨front, back ++ .ofList (line.toList.dropWhile (· != '#')), blank, fun member => ?_, ?_⟩
  · have inBefore : '#' ∈ (beforeFirst "#" line).toList := by
      rw [whole, String.toList_append, String.toList_append]
      exact List.mem_append_left _ (List.mem_append_right _ member)
    rw [before] at inBefore
    simpa using List.mem_takeWhile_imp inBefore
  · have cut : line = beforeFirst "#" line ++ .ofList (line.toList.dropWhile (· != '#')) := by
      rw [← String.toList_inj, String.toList_append, before, String.toList_ofList,
        List.takeWhile_append_dropWhile]
    rw [← String.append_assoc, content, ← whole]
    exact cut

theorem takeWhile_append_cons_of_not_mem {mark : Char} {front : List Char} (free : mark ∉ front)
    (rest : List Char) : (front ++ mark :: rest).takeWhile (· != mark) = front := by
  have passed : ∀ c ∈ front, (c != mark) = true := fun c member => by
    rw [bne_iff_ne]
    exact fun same => free (same ▸ member)
  rw [List.takeWhile_append_of_pos passed]
  simp

theorem exists_eq_takeWhile_append {mark : Char} {text : List Char}
    (found : (text.takeWhile (· != mark)).length ≠ text.length) :
    ∃ rest, text = text.takeWhile (· != mark) ++ mark :: rest := by
  have parts := List.takeWhile_append_dropWhile (p := (· != mark)) (l := text)
  have kept := List.head?_dropWhile_not (· != mark) text
  cases shape : text.dropWhile (· != mark) with
  | nil =>
      rw [shape, List.append_nil] at parts
      exact absurd (congrArg List.length parts) found
  | cons first rest =>
      have isMark : first = mark := by simpa [shape] using kept
      rw [shape, isMark] at parts
      exact ⟨rest, parts.symm⟩

theorem header?_eq_some_iff {text heading : String} :
    header? text = some heading ↔
      ∃ inner rest, inner ≠ "" ∧ ']' ∉ inner.toList ∧ trim inner = heading ∧
        text = "[" ++ inner ++ "]" ++ rest := by
  constructor
  · intro found
    rw [header?] at found
    split at found
    case h_2 => contradiction
    case h_1 rest opens =>
      simp only [Option.ite_none_left_eq_some, Bool.or_eq_true, List.isEmpty_iff, beq_iff_eq,
        not_or, Option.some.injEq] at found
      obtain ⟨⟨begun, closed⟩, trimmed⟩ := found
      obtain ⟨others, shape⟩ := exists_eq_takeWhile_append closed
      refine ⟨.ofList (rest.takeWhile (· != ']')), .ofList others, by simpa using begun,
        fun member => ?_, trimmed, ?_⟩
      · rw [String.toList_ofList] at member
        exact absurd (List.mem_takeWhile_imp member) (by decide)
      · rw [← String.toList_inj, opens]
        simp [← shape]
  · rintro ⟨inner, rest, begun, closed, rfl, rfl⟩
    have chars : ("[" ++ inner ++ "]" ++ rest).toList =
        '[' :: (inner.toList ++ ']' :: rest.toList) := by simp
    have nonempty : inner.toList ≠ [] := by simpa using begun
    rw [header?, chars]
    simp [takeWhile_append_cons_of_not_mem closed, nonempty]

theorem solid_bracketed (inner : String) : Solid ("[" ++ inner ++ "]") where
  begins := ⟨'[', inner.toList ++ [']'], by simp, rfl⟩
  ends := ⟨'[' :: inner.toList, ']', by simp, rfl⟩

/-- A section is opened by something in brackets at the beginning of a line, and by nothing else. -/
theorem header?_content_eq_some_iff {heading line : String} :
    header? (content line) = some heading ↔ Opens heading line := by
  constructor
  · intro found
    obtain ⟨inner, back, begun, closed, trimmed, bracketed⟩ := header?_eq_some_iff.mp found
    obtain ⟨front, rest, blank, free, whole⟩ := exists_eq_append_content line
    refine ⟨front, inner, back ++ rest, blank, begun, fun c member => ⟨?_, ?_⟩, trimmed, ?_⟩
    · exact fun same => closed (same ▸ member)
    · rintro rfl
      exact free (by simp [bracketed, member])
    · rw [bracketed] at whole
      rw [whole]
      simp only [String.append_assoc]
  · rintro ⟨indent, inner, rest, blank, begun, plain, trimmed, rfl⟩
    have free : '#' ∉ ("[" ++ inner ++ "]").toList := by
      simpa using fun member => (plain '#' member).2 rfl
    rw [content_append blank (solid_bracketed inner) free, header?_eq_some_iff]
    exact ⟨inner, _, begun, fun member => (plain ']' member).1 rfl, trimmed, rfl⟩

instance (heading line : String) : Decidable (Opens heading line) :=
  decidable_of_iff _ header?_content_eq_some_iff

theorem Stays.header? {line : String} (stays : Stays line) : header? (content line) = none :=
  Option.eq_none_iff_forall_ne_some.mpr fun heading found =>
    stays heading (header?_content_eq_some_iff.mp found)

theorem key?_append {name gap : String} (named : IsCrateName name) (blank : AllBlank gap)
    (rest : String) : key? (name ++ gap ++ "=" ++ rest) = some name := by
  have chars : (name ++ gap ++ "=" ++ rest).toList =
      name.toList ++ (gap.toList ++ '=' :: rest.toList) := by simp
  -- The key ends with the name, because a blank or the equals sign comes next.
  have nameEnds : ∃ next others, gap.toList ++ '=' :: rest.toList = next :: others ∧
      isKeyChar next = false := by
    cases shape : gap.toList with
    | nil => exact ⟨'=', rest.toList, rfl, rfl⟩
    | cons next others =>
        exact ⟨next, others ++ '=' :: rest.toList, rfl,
          isKeyChar_eq_false_of_isBlank (blank next (by simp [shape]))⟩
  obtain ⟨next, others, behind, notKey⟩ := nameEnds
  have taken : (name.toList ++ (gap.toList ++ '=' :: rest.toList)).takeWhile isKeyChar =
      name.toList := by
    rw [List.takeWhile_append_of_pos named.2, behind]
    simp [notKey]
  have dropped : (name.toList ++ (gap.toList ++ '=' :: rest.toList)).dropWhile isKeyChar =
      gap.toList ++ '=' :: rest.toList := by
    rw [List.dropWhile_append_of_pos named.2, behind]
    simp [notKey]
  have nonempty : name.toList ≠ [] := by simpa using named.1
  rw [key?, afterKey?, chars, taken, dropped, List.dropWhile_append_of_pos blank]
  simp [nonempty, isBlank]

theorem stays_iff {line : String} : Stays line ↔ header? (content line) = none := by
  refine ⟨Stays.header?, fun missing heading opens => ?_⟩
  rw [header?_content_eq_some_iff.mpr opens] at missing
  exact absurd missing (Option.some_ne_none heading)

instance (line : String) : Decidable (Stays line) := decidable_of_iff _ stays_iff.symm

/-- A line that gives a crate a value says the name of the crate and the equals sign first. -/
theorem Gives.content {name line : String} (named : IsCrateName name) (gives : Gives name line) :
    header? (content line) = none ∧ key? (content line) = some name := by
  obtain ⟨indent, gap, value, blank, blankGap, rfl⟩ := gives
  have equals : Solid "=" := ⟨⟨'=', [], rfl, rfl⟩, ⟨[], '=', rfl, rfl⟩⟩
  have free : '#' ∉ (name ++ gap ++ "=").toList := by
    have inGap : '#' ∉ gap.toList := fun member => absurd (blankGap '#' member) (by decide)
    simp [named.not_mem (c := '#') rfl, inGap]
  rw [content_append blank (named.isWord.solid.append equals gap) free]
  refine ⟨?_, key?_append named blankGap _⟩
  obtain ⟨first, others, shape, isKey⟩ := named.exists_eq_cons
  rw [Rust.header?]
  split
  case h_1 inner opens =>
    obtain ⟨rfl, _⟩ : first = '[' ∧ _ := by simpa [shape] using opens
    contradiction
  case h_2 => rfl

/-! ## One line -/

/-- The sections that list dependencies. -/
inductive DependencyKind where
  | normal
  | development
  | build
deriving DecidableEq, Repr

namespace DependencyKind

/-- The heading of the section. -/
def label : DependencyKind → String
  | normal => "dependencies"
  | development => "dev-dependencies"
  | build => "build-dependencies"

/-- The heading of the section of one dependency. -/
def labelOf (kind : DependencyKind) (name : String) : String := kind.label ++ "." ++ name

/-- The dependencies of the section are needed for development only. -/
def forDevelopment (kind : DependencyKind) : Bool := kind == development

end DependencyKind

namespace Reading

variable {reading one other : Reading} {line name heading : String}

theorem isEmpty_of_said (said : content line ≠ "") :
    (trim (beforeFirst "#" line)).isEmpty = false := by
  rw [Bool.eq_false_iff, ne_eq, String.isEmpty_iff]
  exact said

theorem line_of_header (found : header? (content line) = some heading) :
    reading.line line = reading.enter heading := by
  have said : content line ≠ "" := by
    intro nothing
    have noHeader : header? "" = none := rfl
    rw [nothing, noHeader] at found
    exact absurd found (Option.some_ne_none heading).symm
  rw [content] at found
  simp only [Reading.line, isEmpty_of_said said, Bool.false_eq_true, if_false, found]

theorem line_of_entry (said : content line ≠ "") (missing : header? (content line) = none) :
    reading.line line = reading.entry (content line) := by
  rw [content] at missing ⊢
  simp only [Reading.line, isEmpty_of_said said, Bool.false_eq_true, if_false, missing]

theorem line_of_silent (silent : content line = "") : reading.line line = reading := by
  have nothing : (trim (beforeFirst "#" line)).isEmpty = true := String.isEmpty_iff.mpr silent
  simp only [Reading.line, nothing, if_true]

theorem line_of_opens (opens : Opens heading line) : reading.line line = reading.enter heading :=
  line_of_header (header?_content_eq_some_iff.mpr opens)

/-- A line that opens no section is an entry of the current one, or nothing. -/
theorem line_of_stays (reading : Reading) (stays : Stays line) :
    reading.line line = reading ∨ reading.line line = reading.entry (content line) := by
  by_cases said : content line = ""
  · exact .inl (line_of_silent said)
  · exact .inr (line_of_entry said stays.header?)

theorem line_of_gives (named : IsCrateName name) (gives : Gives name line) :
    reading.line line = reading.entry (content line) := by
  obtain ⟨missing, key⟩ := gives.content named
  have said : content line ≠ "" := by
    intro nothing
    have noKey : key? "" = none := rfl
    rw [nothing, noKey] at key
    exact absurd key (Option.some_ne_none name).symm
  exact line_of_entry said missing

@[simp]
theorem depend_true_manifest (reading : Reading) (name : String) :
    (reading.depend true name).manifest =
      { reading.manifest with
        devDependencies := reading.manifest.devDependencies ++ [crateName name] } := rfl

@[simp]
theorem depend_false_manifest (reading : Reading) (name : String) :
    (reading.depend false name).manifest =
      { reading.manifest with
        dependencies := reading.manifest.dependencies ++ [crateName name] } := rfl

@[simp]
theorem depend_heading (reading : Reading) (development : Bool) (name : String) :
    (reading.depend development name).heading = reading.heading := by
  cases development <;> rfl

@[simp]
theorem enter_heading (reading : Reading) (heading : String) :
    (reading.enter heading).heading = heading := by
  rw [enter]
  split
  · simp
  · split <;> simp

@[simp]
theorem entry_heading (reading : Reading) (line : String) :
    (reading.entry line).heading = reading.heading := by
  simp only [entry]
  split
  · cases stringValue? line with
    | none => rfl
    | some value => rfl
  · split
    · cases key? line with
      | none => rfl
      | some name => exact depend_heading _ _ _
    · rfl

theorem line_heading_of_stays (stays : Stays line) :
    (reading.line line).heading = reading.heading := by
  rcases line_of_stays reading stays with same | same
  · rw [same]
  · rw [same, entry_heading]

/-- What a section is entered with does not depend on the section that is left. -/
theorem enter_congr (same : one.manifest = other.manifest) (heading : String) :
    one.enter heading = other.enter heading := by
  have entered : { one with heading } = { other with heading } := by
    rw [Reading.mk.injEq]
    exact ⟨rfl, same⟩
  simp only [enter, entered]

/-- In a section of dependencies the line of a crate takes note of the crate. -/
theorem line_of_dependency {kind : DependencyKind} (inside : reading.heading = kind.label)
    (named : IsCrateName name) (gives : Gives name line) :
    reading.line line = reading.depend kind.forDevelopment name := by
  have notPackage : (kind.label == "package") = false := by cases kind <;> rfl
  have listed :
      ["dependencies", "dev-dependencies", "build-dependencies"].contains kind.label = true := by
    cases kind <;> rfl
  have development : (kind.label == "dev-dependencies") = kind.forDevelopment := by
    cases kind <;> rfl
  rw [line_of_gives named gives]
  simp only [entry, (gives.content named).2, inside, notPackage, listed, development,
    Bool.false_and, Bool.false_eq_true, if_false, if_true]

/-- In a section that lists no dependencies and does not describe the package nothing is read. -/
theorem entry_of_foreign (notPackage : reading.heading ≠ "package")
    (noKind : ∀ kind : DependencyKind, reading.heading ≠ kind.label) (line : String) :
    reading.entry line = reading := by
  have noList : ["dependencies", "dev-dependencies", "build-dependencies"].contains
      reading.heading = false := by
    rw [Bool.eq_false_iff, ne_eq, List.contains_iff_mem]
    simpa [DependencyKind.label] using
      (⟨noKind .normal, noKind .development, noKind .build⟩ :
        reading.heading ≠ DependencyKind.label .normal ∧
          reading.heading ≠ DependencyKind.label .development ∧
            reading.heading ≠ DependencyKind.label .build)
  have otherHeading : (reading.heading == "package") = false := by simpa using notPackage
  simp only [entry, otherHeading, noList, Bool.false_and, Bool.false_eq_true, if_false]

/-- A section of its own declares the dependency, unless it is one of the build. -/
theorem enter_labelOf (reading : Reading) (kind : DependencyKind) (name : String) :
    (reading.enter (kind.labelOf name)).manifest =
      if kind = .build then reading.manifest
      else (reading.depend kind.forDevelopment name).manifest := by
  cases kind with
  | normal =>
      rw [show DependencyKind.normal.labelOf name = "dependencies." ++ name from rfl, enter,
        startsWith_append_self, dropChars_append_self]
      rfl
  | development =>
      have other : startsWith "dependencies." ("dev-dependencies." ++ name) = false := by
        simp [startsWith, List.isPrefixOf]
      rw [show DependencyKind.development.labelOf name = "dev-dependencies." ++ name from rfl,
        enter, other, startsWith_append_self, dropChars_append_self]
      rfl
  | build =>
      have other : startsWith "dependencies." ("build-dependencies." ++ name) = false := by
        simp [startsWith, List.isPrefixOf]
      have alsoOther : startsWith "dev-dependencies." ("build-dependencies." ++ name) = false := by
        simp [startsWith, List.isPrefixOf]
      rw [show DependencyKind.build.labelOf name = "build-dependencies." ++ name from rfl, enter,
        other, alsoOther]
      rfl

end Reading

/-! ## One crate more -/

/-- The new manifest lists one crate more than the old one, for development or not, and is the same
apart from this. -/
structure Records (development : Bool) (crate : String) (old new : Manifest) : Prop where
  kept : { new with dependencies := [], devDependencies := [] } =
    { old with dependencies := [], devDependencies := [] }
  dependencies name :
    name ∈ new.dependencies ↔ name ∈ old.dependencies ∨ (development = false ∧ name = crate)
  devDependencies name :
    name ∈ new.devDependencies ↔ name ∈ old.devDependencies ∨ (development = true ∧ name = crate)

/-- Two readings stand in one section, and the other has recorded one crate more. -/
structure Beside (development : Bool) (crate : String) (one other : Reading) : Prop where
  heading : other.heading = one.heading
  records : Records development crate one.manifest other.manifest

section Steps

variable {development : Bool} {crate : String} {one other : Reading} {old new : Manifest}

theorem records_depend (reading : Reading) (development : Bool) (name : String) :
    Records development (crateName name) reading.manifest
      (reading.depend development name).manifest := by
  cases development <;> constructor <;> simp

/-- What both take note of is no difference between them. -/
theorem Records.depend (records : Records development crate one.manifest other.manifest)
    (kind : Bool) (name : String) :
    Records development crate (one.depend kind name).manifest
      (other.depend kind name).manifest := by
  cases kind with
  | false =>
      refine ⟨records.kept, fun crate => ?_, records.devDependencies⟩
      simp only [Reading.depend_false_manifest, List.mem_append, records.dependencies]
      tauto
  | true =>
      refine ⟨records.kept, records.dependencies, fun crate => ?_⟩
      simp only [Reading.depend_true_manifest, List.mem_append, records.devDependencies]
      tauto

theorem Records.rename (records : Records development crate old new) (name : Value) :
    Records development crate { old with name } { new with name } where
  kept := congrArg (fun manifest : Manifest => { manifest with name }) records.kept
  dependencies := records.dependencies
  devDependencies := records.devDependencies

/-- Entering a section makes up for different sections before. -/
theorem Records.enter (records : Records development crate one.manifest other.manifest)
    (heading : String) : Beside development crate (one.enter heading) (other.enter heading) := by
  refine ⟨by simp, ?_⟩
  have entered : Records development crate ({ one with heading } : Reading).manifest
      ({ other with heading } : Reading).manifest := records
  simp only [Reading.enter]
  split
  · exact entered.depend _ _
  · split
    · exact entered.depend _ _
    · exact entered

namespace Beside

theorem entry (beside : Beside development crate one other) (line : String) :
    Beside development crate (one.entry line) (other.entry line) := by
  refine ⟨by simp [beside.heading], ?_⟩
  simp only [Reading.entry, beside.heading]
  split
  · cases stringValue? line with
    | none => exact beside.records
    | some name => exact beside.records.rename _
  · split
    · cases key? line with
      | none => exact beside.records
      | some name => exact beside.records.depend _ _
    · exact beside.records

theorem line (beside : Beside development crate one other) (line : String) :
    Beside development crate (one.line line) (other.line line) := by
  by_cases said : content line = ""
  · rw [Reading.line_of_silent said, Reading.line_of_silent said]
    exact beside
  · cases found : header? (content line) with
    | none =>
        rw [Reading.line_of_entry said found, Reading.line_of_entry said found]
        exact beside.entry (content line)
    | some heading =>
        rw [Reading.line_of_header found, Reading.line_of_header found]
        exact beside.records.enter heading

/-- A crate that has been recorded stays the only difference to the end. -/
theorem foldl (beside : Beside development crate one other) (rest : List String) :
    Beside development crate (rest.foldl Reading.line one) (rest.foldl Reading.line other) := by
  induction rest generalizing one other with
  | nil => exact beside
  | cons line rest ih =>
      rw [List.foldl_cons, List.foldl_cons]
      exact ih (beside.line line)

end Beside

end Steps

/-! ## Lines in between -/

namespace Reading

variable {reading one other : Reading} {inside rest : List String}

/-- The section stays the same up to the next line that opens one. -/
theorem foldl_heading (stay : ∀ line ∈ inside, Stays line) (reading : Reading) :
    (inside.foldl Reading.line reading).heading = reading.heading := by
  induction inside generalizing reading with
  | nil => rfl
  | cons line inside ih =>
      rw [List.forall_mem_cons] at stay
      rw [List.foldl_cons, ih stay.2, line_heading_of_stays stay.1]

/-- Nothing is read in a section that lists no dependencies and does not describe the package. -/
theorem foldl_of_foreign (notPackage : reading.heading ≠ "package")
    (noKind : ∀ kind : DependencyKind, reading.heading ≠ kind.label)
    (stay : ∀ line ∈ inside, Stays line) : inside.foldl Reading.line reading = reading := by
  induction inside with
  | nil => rfl
  | cons line inside ih =>
      rw [List.forall_mem_cons] at stay
      have same : reading.line line = reading := by
        rcases line_of_stays reading stay.1 with same | same
        · exact same
        · rw [same, entry_of_foreign notPackage noKind]
      rw [List.foldl_cons, same, ih stay.2]

end Reading

/-- The heading of a section for one dependency is none under which lines are read. -/
theorem labelOf_foreign (kind : DependencyKind) (name : String) :
    kind.labelOf name ≠ "package" ∧ ∀ other : DependencyKind, kind.labelOf name ≠ other.label := by
  have dotted : '.' ∈ (kind.labelOf name).toList := by simp [DependencyKind.labelOf]
  refine ⟨fun same => ?_, fun other same => ?_⟩
  · rw [same] at dotted
    exact absurd dotted (by decide)
  · rw [same] at dotted
    cases other <;> exact absurd dotted (by decide)

/-! ## Declarations -/

/-- The text has one line more than the other, which gives a crate a value, and this line stands in
the section of a heading: no line between the two opens another section. -/
inductive DeclaredByLine (heading name base declared : String) : Prop where
  | intro (before inside after : List String) (header entry : String)
      (opens : Opens heading header) (stay : ∀ line ∈ inside, Stays line) (gives : Gives name entry)
      (without : lines base = before ++ header :: inside ++ after)
      (within : lines declared = before ++ header :: inside ++ entry :: after)

/-- The text has one section more than the other: it begins with the heading and goes on to the next
section or to the end. -/
inductive DeclaredByTable (heading base declared : String) : Prop where
  | intro (before body after : List String) (header : String)
      (opens : Opens heading header) (stay : ∀ line ∈ body, Stays line)
      (ends : ∀ line ∈ after.head?, ∃ next, Opens next line)
      (without : lines base = before ++ after)
      (within : lines declared = before ++ header :: body ++ after)

section Declared

variable {name base declared : String}

/-- Up to the line of the crate both texts are read alike, and its section is the current one. -/
theorem DeclaredByLine.exists_reading {heading : String}
    (byLine : DeclaredByLine heading name base declared) :
    ∃ (reading : Reading) (entry : String) (after : List String),
      reading.heading = heading ∧ Gives name entry ∧
      readManifest base = (after.foldl Reading.line reading).manifest ∧
      readManifest declared = (after.foldl Reading.line (reading.line entry)).manifest := by
  obtain ⟨before, inside, after, header, entry, opens, stay, gives, without, within⟩ := byLine
  refine ⟨inside.foldl Reading.line ((before.foldl Reading.line {}).line header), entry, after, ?_,
    gives, ?_, ?_⟩
  · rw [Reading.foldl_heading stay, Reading.line_of_opens opens, Reading.enter_heading]
  · rw [readManifest, without, List.foldl_append, List.foldl_append, List.foldl_cons]
  · rw [readManifest, within, List.foldl_append, List.foldl_append, List.foldl_cons,
      List.foldl_cons]

theorem DeclaredByLine.records {kind : DependencyKind} (named : IsCrateName name)
    (byLine : DeclaredByLine kind.label name base declared) :
    Records kind.forDevelopment (crateName name) (readManifest base) (readManifest declared) := by
  obtain ⟨reading, entry, after, current, gives, without, within⟩ := byLine.exists_reading
  rw [without, within, Reading.line_of_dependency current named gives]
  have beside : Beside kind.forDevelopment (crateName name) reading
      (reading.depend kind.forDevelopment name) :=
    ⟨Reading.depend_heading _ _ _, records_depend _ _ _⟩
  exact (beside.foldl after).records

/-- The line of a crate means nothing in a section of another kind. -/
theorem DeclaredByLine.readManifest_eq {heading : String} (notPackage : heading ≠ "package")
    (noKind : ∀ kind : DependencyKind, heading ≠ kind.label) (named : IsCrateName name)
    (byLine : DeclaredByLine heading name base declared) :
    readManifest declared = readManifest base := by
  obtain ⟨reading, entry, after, rfl, gives, without, within⟩ := byLine.exists_reading
  rw [without, within, Reading.line_of_gives named gives,
    Reading.entry_of_foreign notPackage noKind]

theorem DeclaredByTable.manifest {kind : DependencyKind}
    (byTable : DeclaredByTable (kind.labelOf name) base declared) :
    if kind = .build then readManifest declared = readManifest base
    else Records kind.forDevelopment (crateName name) (readManifest base)
      (readManifest declared) := by
  obtain ⟨before, body, after, header, opens, stay, ends, without, within⟩ := byTable
  rw [readManifest, readManifest, without, within]
  simp only [List.foldl_append, List.foldl_cons]
  generalize before.foldl Reading.line {} = reading
  obtain ⟨notPackage, noKind⟩ := labelOf_foreign kind name
  have passed : body.foldl Reading.line (reading.line header) =
      reading.enter (kind.labelOf name) := by
    rw [Reading.line_of_opens opens]
    exact Reading.foldl_of_foreign (by simpa using notPackage) (by simpa using noKind) stay
  rw [passed]
  have entered := reading.enter_labelOf kind name
  split
  case isTrue build =>
    rw [if_pos build] at entered
    cases after with
    | nil => exact entered
    | cons line after =>
        obtain ⟨next, opens⟩ := ends line rfl
        rw [List.foldl_cons, List.foldl_cons, Reading.line_of_opens opens,
          Reading.line_of_opens opens, Reading.enter_congr entered]
  case isFalse build =>
    rw [if_neg build] at entered
    have records := records_depend reading kind.forDevelopment name
    rw [← entered] at records
    cases after with
    | nil => exact records
    | cons line after =>
        obtain ⟨next, opens⟩ := ends line rfl
        rw [List.foldl_cons, List.foldl_cons, Reading.line_of_opens opens,
          Reading.line_of_opens opens]
        exact ((records.enter next).foldl after).records

end Declared

/-- The manifests list the same crates, for development and otherwise, and are the same apart from
the order. -/
structure Alike (one other : Manifest) : Prop where
  kept : { one with dependencies := [], devDependencies := [] } =
    { other with dependencies := [], devDependencies := [] }
  dependencies name : name ∈ one.dependencies ↔ name ∈ other.dependencies
  devDependencies name : name ∈ one.devDependencies ↔ name ∈ other.devDependencies

theorem Records.alike {development : Bool} {crate : String} {old one other : Manifest}
    (first : Records development crate old one) (second : Records development crate old other) :
    Alike one other where
  kept := first.kept.trans second.kept.symm
  dependencies name := (first.dependencies name).trans (second.dependencies name).symm
  devDependencies name := (first.devDependencies name).trans (second.devDependencies name).symm

theorem Records.alike_iff {crate : String} {old new : Manifest}
    (records : Records false crate old new) : Alike new old ↔ crate ∈ old.dependencies := by
  constructor
  · intro alike
    rw [← alike.dependencies, records.dependencies]
    exact .inr ⟨rfl, rfl⟩
  · intro listed
    refine ⟨records.kept, fun name => ?_, fun name => ?_⟩
    · rw [records.dependencies]
      exact ⟨fun kind => kind.elim id fun same => same.2 ▸ listed, .inl⟩
    · rw [records.devDependencies]
      exact ⟨fun kind => kind.elim id fun same => absurd same.1 (by decide), .inl⟩

/-- A line of a crate in a section of dependencies records the crate beside everything that is
recorded without the line, whatever stands around it, and so does a section for the crate unless it
is a dependency of the build, for which nothing is recorded.  So the two declarations are read alike
exactly if the crate is no dependency of the build or is listed anyway.  Which section the line
belongs to is decided by what was opened last: under another heading nothing is read of it. -/
theorem declarations_recorded_alike_unless_build {name : String} (named : IsCrateName name)
    (kind : DependencyKind) :
    (∀ base declared, DeclaredByLine kind.label name base declared →
      Records kind.forDevelopment (crateName name) (readManifest base) (readManifest declared)) ∧
    (∀ base declared, DeclaredByTable (kind.labelOf name) base declared →
      if kind = .build then readManifest declared = readManifest base
      else Records kind.forDevelopment (crateName name) (readManifest base)
        (readManifest declared)) ∧
    (∀ base byLine byTable, DeclaredByLine kind.label name base byLine →
      DeclaredByTable (kind.labelOf name) base byTable →
        (Alike (readManifest byLine) (readManifest byTable) ↔
          kind ≠ .build ∨ crateName name ∈ (readManifest base).dependencies)) ∧
    (∀ heading base declared, heading ≠ "package" →
      (∀ kind : DependencyKind, heading ≠ kind.label) →
        DeclaredByLine heading name base declared → readManifest declared = readManifest base) := by
  refine ⟨fun _ _ byLine => byLine.records named, fun _ _ byTable => byTable.manifest,
    fun base byLine byTable inSection ofItsOwn => ?_,
    fun _ _ _ notPackage noKind byLine => byLine.readManifest_eq notPackage noKind named⟩
  have ofLine := inSection.records named
  have ofTable := ofItsOwn.manifest
  by_cases build : kind = .build
  · subst build
    rw [if_pos rfl] at ofTable
    rw [ofTable, Records.alike_iff ofLine]
    simp
  · rw [if_neg build] at ofTable
    exact iff_of_true (ofLine.alike ofTable) (.inl build)

/-- A manifest with an empty section and comments in it. -/
def notedManifest : String :=
  "[package]\nname = \"my-app\"\n[ dependencies ] # used\n# sorted\n[features]\n"

/-- The manifest with a crate in the section. -/
def listedManifest : String :=
  "[package]\nname = \"my-app\"\n[ dependencies ] # used\n# sorted\n serde-json= 1\n[features]\n"

/-- The manifest with a section for the crate. -/
def tabledManifest : String :=
  "[package]\nname = \"my-app\"\n[ dependencies ] # used\n# sorted\n" ++
    "[dependencies.serde-json]\nversion = 1\n[features]\n"

theorem hyphenated_crate_recorded_alike :
    IsCrateName "serde-json" ∧
    Records false "serde_json" (readManifest notedManifest) (readManifest listedManifest) ∧
    Records false "serde_json" (readManifest notedManifest) (readManifest tabledManifest) ∧
    Alike (readManifest listedManifest) (readManifest tabledManifest) ∧
    (readManifest notedManifest).properName? = some "my_app" := by
  have named : IsCrateName "serde-json" := by decide
  have byLine : DeclaredByLine "dependencies" "serde-json" notedManifest listedManifest :=
    ⟨["[package]", "name = \"my-app\""], ["# sorted"], ["[features]"], "[ dependencies ] # used",
      " serde-json= 1", by decide, by decide, ⟨" ", "", " 1", by decide, by decide, rfl⟩,
      by decide +kernel, by decide +kernel⟩
  have byTable : DeclaredByTable "dependencies.serde-json" notedManifest tabledManifest := by
    refine ⟨["[package]", "name = \"my-app\"", "[ dependencies ] # used", "# sorted"],
      ["version = 1"], ["[features]"], "[dependencies.serde-json]", by decide, by decide,
      fun line first => ⟨"features", ?_⟩, by decide +kernel, by decide +kernel⟩
    obtain rfl := Option.some.inj first
    decide
  obtain ⟨ofLine, ofTable, alike, -⟩ := declarations_recorded_alike_unless_build named .normal
  exact ⟨named, ofLine _ _ byLine, ofTable _ _ byTable,
    (alike _ _ _ byLine byTable).mpr (.inl (by decide)), by decide +kernel⟩

/-- A dependency of the build that has a section of its own is lost.  So is a line of a section
behind a comment, or behind a value, that goes on with brackets at the beginning of a line. -/
theorem declared_crates_unrecorded :
    (DeclaredByTable "build-dependencies.cc" "" "[build-dependencies.cc]\nversion = \"1\"\n" ∧
      (readManifest "[build-dependencies.cc]\nversion = \"1\"\n").dependencies = []) ∧
    (DeclaredByLine "build-dependencies" "cc" "[build-dependencies]\n"
        "[build-dependencies]\ncc = \"1\"\n" ∧
      (readManifest "[build-dependencies]\ncc = \"1\"\n").dependencies = ["cc"]) ∧
    (readManifest "[dependencies]\n# see\u2028[notes]\nserde = \"1\"\n").dependencies = [] ∧
    (readManifest
      ("[dependencies]\ngrid = \x7b version = \"1\", rows = [\n  [1, 2],\n] \x7d\n" ++
        "serde = \"1\"\n")).dependencies = ["grid"] := by
  refine ⟨⟨?_, by decide +kernel⟩, ⟨?_, by decide +kernel⟩, by decide +kernel, by decide +kernel⟩
  · exact ⟨[], ["version = \"1\""], [], "[build-dependencies.cc]", by decide, by decide,
      by simp, by decide +kernel, by decide +kernel⟩
  · exact ⟨[], [], [], "[build-dependencies]", "cc = \"1\"", by decide, by decide,
      ⟨"", " ", " \"1\"", by decide, by decide, rfl⟩, by decide +kernel, by decide +kernel⟩

end ScopeAtlas.Location.Rust
