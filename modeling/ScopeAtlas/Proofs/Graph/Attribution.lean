import ScopeAtlas.Proofs.Extraction.FileDrafts
import ScopeAtlas.Proofs.FirstOccurrence
import ScopeAtlas.Proofs.Graph.Inheritance
import ScopeAtlas.Proofs.Text.Cutting

/-!
# Two attributions of an import

Extraction and classification each decide which import a reference uses.  Both look up names of the
reference in a table of the file's imports and take the first one that is there.  Their tables
differ where a dotted import without an alias takes its first segment as well, and the names that
they look up differ where the qualifier is spelled with an arrow or a double colon.  Nowhere else
can they disagree.
-/

namespace ScopeAtlas.Graph

open ScopeAtlas.Data ScopeAtlas.Extraction ScopeAtlas.Language ScopeAtlas.Syntax ScopeAtlas.Text

/-! ## Names of an import -/

/-- The import binds the name in its file. -/
def Binds (binding : Import) (name : String) : Prop :=
  binding.localName? = some name ∧ name ≠ ""

/-- The import has no alias and a dotted name, of which the given one is the first segment. -/
def TakesHead (binding : Import) (name : String) : Prop :=
  binding.newName = none ∧ ∃ whole, binding.localName? = some whole ∧
    contains "." whole = true ∧ beforeFirst "." whole = name

/-- Some import of the file binds the name. -/
def Bound (imports : List Import) (name : String) : Prop := ∃ binding ∈ imports, Binds binding name

/-- No import binds the first segment that it takes. -/
theorem TakesHead.not_binds {binding : Import} {name : String} (takes : TakesHead binding name) :
    ¬Binds binding name := by
  rintro ⟨known, _⟩
  obtain ⟨_, whole, same, dotted, head⟩ := takes
  obtain rfl : whole = name := Option.some.inj (same.symm.trans known)
  exact beforeFirst_ne_of_contains dotted head

theorem mem_importedNames_iff (binding : Import) (name : String) :
    name ∈ importedNames binding ↔ Binds binding name ∨ TakesHead binding name := by
  have undotted : contains "." "" = false := rfl
  unfold importedNames Binds TakesHead
  simp only [String.isEmpty_iff, Bool.and_eq_true, Option.isNone_iff_eq_none]
  cases binding.localName? with
  | none => simp
  | some whole => grind

/-! ## Tables of imports -/

/-- The imports of a file by the names that each has; the first import that has a name keeps it. -/
def tableBy (names : Import → List String) (imports : List Import) : List (String × Import) :=
  imports.foldl (fun table binding =>
    (names binding).foldl (fun table name => putNewEntry name binding table) table) []

/-- A table answers with the first import that has the name. -/
theorem lookup_tableBy (names : Import → List String) (imports : List Import) (name : String) :
    (tableBy names imports).lookup name =
      imports.find? fun binding => decide (name ∈ names binding) := by
  induction imports using List.reverseRecOn with
  | nil => rfl
  | append_singleton rest last ih =>
      rw [tableBy, List.foldl_append, List.foldl_cons, List.foldl_nil, lookup_foldl_putNewEntry,
        List.find?_append, ← ih, tableBy]
      congr 1
      by_cases has : name ∈ names last
      · simp [has]
      · simp [has]

theorem lookup_tableBy_eq_some_iff {names : Import → List String} {imports : List Import}
    {name : String} {binding : Import} :
    (tableBy names imports).lookup name = some binding ↔
      FirstWith (fun other => name ∈ names other) imports binding := by
  rw [lookup_tableBy, find?_eq_some_iff_firstWith]
  simp only [decide_eq_true_eq]

theorem isSome_lookup_tableBy_iff {names : Import → List String} {imports : List Import}
    {name : String} :
    ((tableBy names imports).lookup name).isSome = true ↔
      ∃ binding ∈ imports, name ∈ names binding := by
  rw [lookup_tableBy, List.find?_isSome]
  simp only [decide_eq_true_eq]

/-- The name that an import binds, if any. -/
def boundNames (binding : Import) : List String :=
  match binding.localName? with
  | some name => if name.isEmpty then [] else [name]
  | none => []

theorem mem_boundNames_iff (binding : Import) (name : String) :
    name ∈ boundNames binding ↔ Binds binding name := by
  unfold boundNames Binds
  simp only [String.isEmpty_iff]
  cases binding.localName? with
  | none => simp
  | some whole => grind

theorem importTable_eq_tableBy (imports : List Import) :
    importTable imports = tableBy importedNames imports := rfl

theorem bindingTable_eq_tableBy (imports : List Import) :
    bindingTable imports = tableBy boundNames imports := by
  rw [bindingTable, tableBy]
  congr 1
  funext table binding
  rw [boundNames]
  cases binding.localName? with
  | none => rfl
  | some name => by_cases empty : name.isEmpty <;> simp [empty]

/-- The first import that has the name, as the one it binds or as its first segment, has it as its
first segment. -/
def HeadTaken (imports : List Import) (name : String) : Prop :=
  ∃ binding, FirstWith (fun other => Binds other name ∨ TakesHead other name) imports binding ∧
    TakesHead binding name

/-- The two tables differ at a name exactly where a first segment was taken before the name was
bound. -/
theorem lookup_importTable_eq_lookup_bindingTable_iff (imports : List Import) (name : String) :
    (importTable imports).lookup name = (bindingTable imports).lookup name ↔
      ¬HeadTaken imports name := by
  rw [importTable_eq_tableBy, bindingTable_eq_tableBy]
  constructor
  · rintro same ⟨binding, first, takes⟩
    simp only [← mem_importedNames_iff] at first
    rw [lookup_tableBy_eq_some_iff.mpr first, eq_comm, lookup_tableBy_eq_some_iff] at same
    obtain ⟨_, _, _, binds, _⟩ := same
    exact takes.not_binds ((mem_boundNames_iff binding name).mp binds)
  · intro free
    cases found : (tableBy importedNames imports).lookup name with
    | none =>
        have absent : ¬∃ binding ∈ imports, name ∈ importedNames binding := by
          rw [← isSome_lookup_tableBy_iff, found]
          simp
        symm
        rw [← Option.not_isSome_iff_eq_none, isSome_lookup_tableBy_iff]
        rintro ⟨binding, member, binds⟩
        rw [mem_boundNames_iff] at binds
        exact absent ⟨binding, member, (mem_importedNames_iff binding name).mpr (Or.inl binds)⟩
    | some binding =>
        have first := lookup_tableBy_eq_some_iff.mp found
        simp only [mem_importedNames_iff] at first
        have binds : Binds binding name := by
          obtain ⟨_, _, _, has, _⟩ := id first
          exact has.resolve_right fun takes => free ⟨binding, first, takes⟩
        obtain ⟨before, after, split, _, earlier⟩ := first
        symm
        rw [lookup_tableBy_eq_some_iff]
        simp only [mem_boundNames_iff]
        exact ⟨before, after, split, binds, fun other member bound =>
          earlier other member (Or.inl bound)⟩

theorem isSome_lookup_bindingTable_iff (imports : List Import) (name : String) :
    ((bindingTable imports).lookup name).isSome = true ↔ Bound imports name := by
  rw [bindingTable_eq_tableBy, isSome_lookup_tableBy_iff]
  simp only [mem_boundNames_iff, Bound]

theorem isSome_lookup_importTable_iff (imports : List Import) (name : String) :
    ((importTable imports).lookup name).isSome = true ↔
      Bound imports name ∨ ∃ binding ∈ imports, TakesHead binding name := by
  rw [importTable_eq_tableBy, isSome_lookup_tableBy_iff]
  simp only [mem_importedNames_iff, Bound, and_or_left, exists_or]

/-! ## Names of a reference -/

/-- A qualifier with dots in place of double colons. -/
def dottedSpelling (qualifier : String) : String := replaceAll "::" "." qualifier

/-- The first segment of a qualifier, whichever of dot and double colon ends it. -/
def firstSegment (qualifier : String) : String := beforeFirst "." (dottedSpelling qualifier)

/-- What extraction looks up for a qualifier. -/
def usedSpellings (qualifier : String) : List String :=
  [qualifier, beforeFirst "." qualifier, beforeFirst "::" qualifier, beforeFirst "->" qualifier]

/-- What classification looks up for a qualifier. -/
def bindingSpellings (qualifier : String) : List String :=
  [dottedSpelling qualifier, firstSegment qualifier]

/-- What extraction looks up for a reference. -/
def usedNames (reference : Reference) : List String :=
  (reference.qualifier.bind nonEmpty?).elim [] usedSpellings ++ [reference.identifier]

theorem usedImport?_eq_findSome? (table : List (String × Import)) (reference : Reference) :
    usedImport? table reference = (usedNames reference).findSome? fun name => table.lookup name := by
  rw [usedImport?, usedNames]
  cases reference.qualifier with
  | none => rfl
  | some qualifier => by_cases empty : qualifier.isEmpty <;> simp [empty, nonEmpty?, usedSpellings]

theorem bindingNames_eq (reference : Reference) :
    bindingNames reference =
      (reference.qualifier.bind nonEmpty?).elim [] bindingSpellings ++ [reference.identifier] := by
  rw [bindingNames]
  cases reference.qualifier with
  | none => rfl
  | some qualifier =>
      by_cases empty : qualifier.isEmpty <;>
        simp [empty, nonEmpty?, bindingSpellings, dottedSpelling, firstSegment]

/-- A spelling that only one side looks up: not the first segment, and not the qualifier itself
when it holds no double colon. -/
def OneSided (qualifier name : String) : Prop :=
  name ∈ dottedSpelling qualifier :: usedSpellings qualifier ∧ name ≠ firstSegment qualifier ∧
    ¬(name = qualifier ∧ dottedSpelling qualifier = qualifier)

theorem firstSegment_mem_usedSpellings (qualifier : String) :
    firstSegment qualifier ∈ usedSpellings qualifier := by
  rcases beforeFirst_replaceAll "::" "." qualifier (c := '.') rfl with same | same
  · simp [usedSpellings, firstSegment, dottedSpelling, same]
  · simp [usedSpellings, firstSegment, dottedSpelling, same]

/-- The two sides find the same for a qualifier when no one-sided spelling is found. -/
theorem findSome?_usedSpellings {α : Type} {answer : String → Option α} {qualifier : String}
    (unfound : ∀ name, OneSided qualifier name → answer name = none) :
    (usedSpellings qualifier).findSome? answer = (bindingSpellings qualifier).findSome? answer := by
  -- With the qualifier itself out of the way, the first segment is all that both sides can find.
  have toSegment : (dottedSpelling qualifier = qualifier → answer qualifier = none) →
      (usedSpellings qualifier).findSome? answer =
        (bindingSpellings qualifier).findSome? answer := by
    intro whole
    have only : ∀ name ∈ dottedSpelling qualifier :: usedSpellings qualifier,
        name = firstSegment qualifier ∨ answer name = none := by
      intro name member
      by_cases segment : name = firstSegment qualifier
      · exact Or.inl segment
      · right
        by_cases plain : name = qualifier ∧ dottedSpelling qualifier = qualifier
        · rw [plain.1]
          exact whole plain.2
        · exact unfound name ⟨member, segment, plain⟩
    rw [findSome?_eq_of_only (firstSegment_mem_usedSpellings qualifier) fun name member =>
      only name (List.mem_cons_of_mem _ member)]
    refine (findSome?_eq_of_only (by simp [bindingSpellings]) ?_).symm
    intro name member
    simp only [bindingSpellings, List.mem_cons, List.not_mem_nil, or_false] at member
    rcases member with rfl | rfl
    · exact only _ List.mem_cons_self
    · exact Or.inl rfl
  cases found : answer qualifier with
  | none => exact toSegment fun _ => found
  | some value =>
      by_cases plain : dottedSpelling qualifier = qualifier
      · simp [usedSpellings, bindingSpellings, plain, found]
      · exact toSegment fun same => absurd same plain

/-! ## Agreement -/

/-- What can set the two attributions of a reference apart. -/
inductive Apart (imports : List Import) (reference : Reference) : Prop where
  /-- A name that extraction looks up was taken as the first segment of a dotted import. -/
  | headTaken (name : String) (looked : name ∈ usedNames reference)
      (taken : HeadTaken imports name)
  /-- A spelling of the qualifier that only one side looks up is bound. -/
  | oneSided (qualifier name : String) (qualified : reference.qualifier = some qualifier)
      (nonempty : qualifier ≠ "") (lone : OneSided qualifier name) (bound : Bound imports name)

theorem usedImport?_eq_boundImport? {imports : List Import} {reference : Reference}
    (together : ¬Apart imports reference) :
    usedImport? (importTable imports) reference =
      boundImport? (bindingTable imports) reference := by
  have sameTable : usedImport? (importTable imports) reference =
      (usedNames reference).findSome? fun name => (bindingTable imports).lookup name := by
    rw [usedImport?_eq_findSome?, ← List.head?_filterMap, ← List.head?_filterMap]
    congr 1
    refine List.filterMap_congr ?_
    intro name looked
    rw [lookup_importTable_eq_lookup_bindingTable_iff]
    exact fun taken => together (.headTaken name looked taken)
  rw [sameTable, boundImport?, bindingNames_eq, usedNames, List.findSome?_append,
    List.findSome?_append]
  congr 1
  cases qualified : reference.qualifier with
  | none => rfl
  | some qualifier =>
      by_cases empty : qualifier = ""
      · simp [empty, nonEmpty?]
      · have given : (some qualifier).bind nonEmpty? = some qualifier := by
          simp [nonEmpty?, empty]
        rw [given]
        refine findSome?_usedSpellings ?_
        intro name lone
        rw [← Option.not_isSome_iff_eq_none, isSome_lookup_bindingTable_iff]
        exact fun bound => together (.oneSided qualifier name qualified empty lone bound)

/-- When classification finds no import for a reference, and when extraction finds one. -/
theorem boundImport?_eq_none_iff (imports : List Import) (reference : Reference) :
    boundImport? (bindingTable imports) reference = none ↔
      ∀ name ∈ bindingNames reference, ¬Bound imports name := by
  rw [boundImport?, List.findSome?_eq_none_iff]
  simp only [← isSome_lookup_bindingTable_iff, Option.not_isSome_iff_eq_none]

theorem isSome_usedImport?_iff (imports : List Import) (reference : Reference) :
    (usedImport? (importTable imports) reference).isSome = true ↔
      ∃ name ∈ usedNames reference,
        Bound imports name ∨ ∃ binding ∈ imports, TakesHead binding name := by
  rw [usedImport?_eq_findSome?, List.findSome?_isSome_iff]
  simp only [isSome_lookup_importTable_iff]

theorem mem_foldl_addImport_iff (found imports : List Import) (binding : Import) :
    binding ∈ found.foldl addImport imports ↔ binding ∈ imports ∨ binding ∈ found := by
  induction found generalizing imports with
  | nil => simp
  | cons next rest ih =>
      rw [List.foldl_cons, ih, addImport]
      split
      · rename_i there
        rw [List.contains_iff_mem] at there
        grind
      · grind

/-- A list of references uses the imports that extraction attributes to its members. -/
theorem mem_usedImports_iff (imports : List Import) (references : List Reference)
    (binding : Import) :
    binding ∈ usedImports imports references ↔
      ∃ reference ∈ references, usedImport? (importTable imports) reference = some binding := by
  have added : usedImports imports references =
      (references.filterMap (usedImport? (importTable imports))).foldl addImport [] := by
    rw [List.foldl_filterMap, usedImports]
    congr 1
    funext used reference
    cases usedImport? (importTable imports) reference <;> rfl
  rw [added, mem_foldl_addImport_iff, List.mem_filterMap]
  simp

/-- The imports of an extracted scope are those that its references use. -/
theorem mem_imports_iff_of_extracted {file : FileAnalysis} (extracted : Extracted file)
    {scope : Scope} (member : scope ∈ file.scopes) (binding : Import) :
    binding ∈ scope.imports ↔ ∃ reference ∈ scope.references,
      usedImport? (importTable file.imports) reference = some binding := by
  obtain ⟨_, _, _, _, _, _, _, extraction⟩ := extracted
  obtain ⟨profile, rfl⟩ := ScopeAtlas.Reading.exists_analyze_of_extractTree extraction
  obtain ⟨draft, _, rfl⟩ := mem_scopes_analyze_iff.mp member
  exact mem_usedImports_iff _ _ binding

/-- Extraction and classification attribute the same import to a reference unless a first segment
or a one-sided spelling sets them apart.  Extraction finds an import and classification none
exactly when nothing that classification looks up is bound, and something that extraction looks up
is bound or taken.  In an extracted file every import that a scope lists is one that a reference of
the scope uses, and classification writes that import into the reference, whatever the project,
unless the two are set apart. -/
theorem attributions_agree_unless_apart (file : FileAnalysis) (reference : Reference) :
    (usedImport? (importTable file.imports) reference =
        boundImport? (bindingTable file.imports) reference ∨
      Apart file.imports reference) ∧
    (((usedImport? (importTable file.imports) reference).isSome = true ∧
        boundImport? (bindingTable file.imports) reference = none) ↔
      (∀ name ∈ bindingNames reference, ¬Bound file.imports name) ∧
        ∃ name ∈ usedNames reference,
          Bound file.imports name ∨ ∃ binding ∈ file.imports, TakesHead binding name) ∧
    (Extracted file → ∀ scope ∈ file.scopes, ∀ binding ∈ scope.imports,
      ∃ used ∈ scope.references,
        usedImport? (importTable file.imports) used = some binding ∧
        ((∀ locators analyses, fate locators analyses file used =
            .usesImport binding (isLocalImport (locators file.language) binding)) ∨
          Apart file.imports used)) := by
  refine ⟨?_, ?_, ?_⟩
  · by_cases apart : Apart file.imports reference
    · exact Or.inr apart
    · exact Or.inl (usedImport?_eq_boundImport? apart)
  · rw [boundImport?_eq_none_iff, isSome_usedImport?_iff]
    exact and_comm
  · intro extracted scope member binding listed
    obtain ⟨used, usedMem, found⟩ :=
      (mem_imports_iff_of_extracted extracted member binding).mp listed
    refine ⟨used, usedMem, found, ?_⟩
    by_cases apart : Apart file.imports used
    · exact Or.inr apart
    · left
      intro locators analyses
      rw [fate, ← usedImport?_eq_boundImport? apart, found]

/-- A file that imports a dotted module, and a use of the module's first segment in it. -/
def dottedFile : FileAnalysis :=
  { filePath := "m.py"
    language := "python"
    imports := [{ source := "os.path", imported := "os.path", kind := .wholeModule }] }

def headUse : Reference :=
  { identifier := "getcwd", line := 2, column := 3, context := "os.getcwd()"
    qualifier := some "os" }

/-- The use of the first segment counts as a use of the dotted import, and yet nothing is known of
it when the project is classified. -/
theorem used_import_stays_unknown :
    ¬∀ file reference, usedImport? (importTable file.imports) reference =
        boundImport? (bindingTable file.imports) reference ∧
      ∀ binding, usedImport? (importTable file.imports) reference = some binding →
        fate (fun _ => none) [file] file reference ≠ .isUnknown := by
  intro agree
  have used : usedImport? (importTable dottedFile.imports) headUse = dottedFile.imports.head? := by
    decide
  have unknown : fate (fun _ => none) [dottedFile] dottedFile headUse = .isUnknown := by
    decide +kernel
  exact (agree dottedFile headUse).2 _ used unknown

end ScopeAtlas.Graph
