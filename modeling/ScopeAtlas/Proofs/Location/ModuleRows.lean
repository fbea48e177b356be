import ScopeAtlas.Location.Go
import ScopeAtlas.Proofs.Text.Blanks
import ScopeAtlas.Proofs.Text.Cutting
import ScopeAtlas.Proofs.Text.Lines

/-!
# Rows of a module file

A row holds a statement, whose fields stand one space apart, or a comment, or nothing.  What is read
of a row are the fields of the statement.  Of a comment nothing is read, unless it holds a line
boundary other than the line feed and what stands behind that is effective as a line of its own.
-/

namespace ScopeAtlas.Location.Go

open ScopeAtlas.Data ScopeAtlas.Text

/-! ## What a line says -/

/-- What a line says: the text before a comment, without the blanks around it. -/
def content (line : String) : String := trim (beforeFirst "//" line)

namespace Reading

/-- Takes what a line says into account. -/
def hear (reading : Reading) (said : String) : Reading :=
  if said.isEmpty then reading
  else if startsWith "module " said then
    let name := trimOf "\"" (trim (dropChars "module ".length said))
    { reading with manifest := { reading.manifest with name := .text name } }
  else if startsWith "require (" said then { reading with inBlock := true }
  else if said == ")" then { reading with inBlock := false }
  else if startsWith "require " said || reading.inBlock then
    reading.require (words (dropStart "require " said))
  else reading

theorem line_eq_hear (reading : Reading) (raw : String) :
    reading.line raw = reading.hear (content raw) := rfl

@[simp]
theorem hear_empty (reading : Reading) : reading.hear "" = reading := rfl

/-- Takes note of the paths of requirements. -/
def noting (reading : Reading) (paths : List String) : Reading :=
  { reading with
    manifest := { reading.manifest with dependencies := reading.manifest.dependencies ++ paths } }

variable {reading : Reading}

@[simp]
theorem noting_nil (reading : Reading) : reading.noting [] = reading := by simp [noting]

theorem noting_append (reading : Reading) (first second : List String) :
    (reading.noting first).noting second = reading.noting (first ++ second) := by
  simp [noting]

@[simp]
theorem noting_inBlock (reading : Reading) (paths : List String) :
    (reading.noting paths).inBlock = reading.inBlock := rfl

end Reading

/-- The line has an effect inside or outside of a block of requirements: it names the module, opens
or closes the block, or gives a requirement. -/
def Effective (inBlock : Bool) (line : String) : Prop :=
  startsWith "module " (content line) = true ∨
    (if inBlock then content line = ")" else startsWith "require (" (content line) = true) ∨
    ((startsWith "require " (content line) = true ∨ inBlock = true) ∧
      startsWith "require (" (content line) = false ∧
      2 ≤ (words (dropStart "require " (content line))).length)

theorem Reading.require_of_short {reading : Reading} {parts : List String}
    (short : parts.length < 2) : reading.require parts = reading := by
  match parts with
  | [] => rfl
  | [_] => rfl
  | _ :: _ :: rest =>
      simp only [List.length_cons] at short
      omega

/-- A line without effect leaves every reading as it is. -/
theorem line_of_ineffective {reading : Reading} {line : String}
    (still : ¬Effective reading.inBlock line) : reading.line line = reading := by
  rw [Reading.line_eq_hear]
  simp only [Effective, not_or] at still
  generalize content line = said at still ⊢
  obtain ⟨noModule, noBlock, noRequirement⟩ := still
  rw [Reading.hear]
  by_cases nothing : said.isEmpty = true
  · exact if_pos nothing
  rw [if_neg nothing, if_neg noModule]
  by_cases opens : startsWith "require (" said = true
  · have inside : reading.inBlock = true := by
      by_contra outside
      rw [if_neg outside] at noBlock
      exact noBlock opens
    rw [if_pos opens]
    exact congrArg (Reading.mk · reading.manifest) inside.symm
  rw [if_neg opens]
  by_cases closes : said = ")"
  · have outside : reading.inBlock = false := by
      rw [Bool.eq_false_iff]
      intro inside
      rw [if_pos inside] at noBlock
      exact noBlock closes
    rw [if_pos (by simpa using closes)]
    exact congrArg (Reading.mk · reading.manifest) outside.symm
  rw [if_neg (by simpa using closes)]
  by_cases requires : (startsWith "require " said || reading.inBlock) = true
  · rw [if_pos requires]
    refine Reading.require_of_short (Nat.lt_of_not_le fun enough => noRequirement ?_)
    exact ⟨by simpa using requires, eq_false_of_ne_true opens, enough⟩
  · exact if_neg requires

/-- An effective line is one that changes a reading. -/
theorem effective_iff {inBlock : Bool} {line : String} :
    Effective inBlock line ↔ ∃ reading : Reading, reading.inBlock = inBlock ∧
      reading.line line ≠ reading := by
  constructor
  · intro effective
    refine ⟨{ inBlock }, rfl, ?_⟩
    rw [Reading.line_eq_hear]
    rw [Effective] at effective
    generalize content line = said at effective ⊢
    have something : ¬said.isEmpty = true := by
      intro nothing
      rw [String.isEmpty_iff] at nothing
      subst nothing
      revert effective
      cases inBlock <;> decide
    rw [Reading.hear, if_neg something]
    by_cases names : startsWith "module " said = true
    · rw [if_pos names]
      intro same
      have name := congrArg (fun reading => reading.manifest.name) same
      simp at name
    rw [if_neg names]
    have effective := effective.resolve_left names
    by_cases opens : startsWith "require (" said = true
    · rw [if_pos opens]
      cases inBlock with
      | false => simp
      | true =>
          rcases effective with closes | ⟨_, notOpen, _⟩
          · rw [if_pos rfl] at closes
            subst closes
            exact absurd opens (by decide)
          · exact absurd opens (by simp [notOpen])
    rw [if_neg opens]
    by_cases closes : said = ")"
    · subst closes
      cases inBlock with
      | false => exact absurd effective (by decide)
      | true => simp
    rw [if_neg (by simpa using closes)]
    have requires := effective.resolve_left (by cases inBlock <;> simp [closes, opens])
    rw [if_pos (by simpa using requires.1)]
    match parts : words (dropStart "require " said), requires.2.2 with
    | path :: _ :: _, _ =>
        intro same
        have paths := congrArg (fun reading => reading.manifest.dependencies) same
        simp [Reading.require] at paths
  · rintro ⟨reading, rfl, changed⟩
    by_contra still
    exact changed (line_of_ineffective still)

/-! ## Fields -/

/-- No comment begins in the text. -/
def Uncommented (text : String) : Prop := beforeFirst "//" text = text

instance (text : String) : Decidable (Uncommented text) :=
  inferInstanceAs (Decidable (beforeFirst "//" text = text))

/-- A field of a statement. -/
structure Field where
  text : String
  isWord : IsWord text
  uncommented : Uncommented text

/-- Fields one space apart. -/
def sentence (fields : List Field) : String := String.intercalate " " (fields.map Field.text)

theorem beforeFirstChars_of_uncommented {text : String} (uncommented : Uncommented text) :
    beforeFirstChars ['/', '/'] text.toList = text.toList := by
  rw [Uncommented, ← String.toList_inj, toList_beforeFirst] at uncommented
  exact uncommented

/-- A comment behind a text and a character of another kind begins where it begins without them. -/
theorem beforeFirst_append_of_uncommented {text separator : String} {c : Char}
    (uncommented : Uncommented text) (single : separator.toList = [c]) (other : c ≠ '/')
    (rest : String) :
    beforeFirst "//" (text ++ separator ++ rest) =
      text ++ separator ++ beforeFirst "//" rest := by
  have chars := beforeFirstChars_pair_append (beforeFirstChars_of_uncommented uncommented) other
    rest.toList
  rw [← String.toList_inj, toList_beforeFirst]
  simp only [String.toList_append, single, toList_beforeFirst, List.append_assoc,
    List.singleton_append]
  exact chars

theorem Uncommented.append {front back separator : String} {c : Char} (first : Uncommented front)
    (single : separator.toList = [c]) (other : c ≠ '/') (second : Uncommented back) :
    Uncommented (front ++ separator ++ back) := by
  rw [Uncommented, beforeFirst_append_of_uncommented first single other, second]

theorem uncommented_sentence (fields : List Field) : Uncommented (sentence fields) := by
  induction fields with
  | nil => rfl
  | cons field rest ih =>
      cases rest with
      | nil => simpa [sentence] using field.uncommented
      | cons next rest =>
          have seam := field.uncommented.append (show " ".toList = [' '] from rfl) (by decide) ih
          simpa [sentence, String.intercalate_cons_cons] using seam

theorem solid_sentence {fields : List Field} (begun : fields ≠ []) : Solid (sentence fields) := by
  refine solid_intercalate (by simpa using begun) ?_
  rw [List.forall_mem_map]
  exact fun field _ => field.isWord

theorem words_sentence (fields : List Field) : words (sentence fields) = fields.map Field.text := by
  refine words_intercalate ?_
  rw [List.forall_mem_map]
  exact fun field _ => field.isWord

theorem Field.unbroken (field : Field) : Unbroken field.text := by
  intro c member
  rw [Bool.eq_false_iff]
  intro isBreak
  exact Bool.false_ne_true
    ((field.isWord.plain c member).symm.trans (isBlank_of_isLineBreak isBreak))

theorem unbroken_sentence (fields : List Field) : Unbroken (sentence fields) := by
  induction fields with
  | nil => simp [sentence, Unbroken]
  | cons field rest ih =>
      cases rest with
      | nil => simpa [sentence] using field.unbroken
      | cons next rest =>
          have space : Unbroken " " := by decide
          have seam := (field.unbroken.append space).append ih
          simpa [sentence, String.intercalate_cons_cons] using seam

/-! ## Remarks -/

/-- Spaces and tabs. -/
def Indented (text : String) : Prop := ∀ c ∈ text.toList, isIndent c = true

instance (text : String) : Decidable (Indented text) :=
  decidable_of_iff (text.toList.all isIndent = true) List.all_eq_true

namespace Indented

variable {text : String}

theorem eq_or_eq (indented : Indented text) {c : Char} (member : c ∈ text.toList) :
    c = ' ' ∨ c = '\t' := by
  simpa [isIndent] using indented c member

theorem allBlank (indented : Indented text) : AllBlank text := fun c member => by
  rcases indented.eq_or_eq member with rfl | rfl <;> rfl

theorem unbroken (indented : Indented text) : Unbroken text := fun c member => by
  rcases indented.eq_or_eq member with rfl | rfl <;> rfl

theorem not_mem_slash (indented : Indented text) : '/' ∉ text.toList := fun member => by
  rcases indented.eq_or_eq member with same | same <;> contradiction

end Indented

/-- Blanks, and a comment up to the end of the row. -/
structure Remark where
  gap : String := ""
  indented : Indented gap
  note : Option String := none
  oneRow : ∀ text ∈ note, '\n' ∉ text.toList

namespace Remark

/-- The row of a remark that stands alone. -/
def row (remark : Remark) : String :=
  match remark.note with
  | none => remark.gap
  | some text => remark.gap ++ "//" ++ text

/-- What is read of a comment as further lines: what stands behind its first line boundary. -/
def leftover (remark : Remark) : List String :=
  match remark.note with
  | none => []
  | some text => (lines text).tail

/-- Nothing of the comment is effective. -/
def Clear (inBlock : Bool) (remark : Remark) : Prop :=
  ∀ line ∈ remark.leftover, ¬Effective inBlock line

/-- A remark adds to the line in front of it nothing but blanks and a comment. -/
theorem lines_append (remark : Remark) {front : String} (plain : Unbroken front)
    (begun : front ++ remark.row ≠ "") :
    ∃ rest, AllBlank (beforeFirst "//" rest) ∧
      lines (front ++ remark.row) = (front ++ rest) :: remark.leftover := by
  obtain ⟨gap, indented, note, oneRow⟩ := remark
  have blank (more : String) (cut : beforeFirstChars ['/', '/'] (gap ++ more).toList = gap.toList) :
      AllBlank (beforeFirst "//" (gap ++ more)) := by
    have whole : beforeFirst "//" (gap ++ more) = gap := by
      rw [← String.toList_inj, toList_beforeFirst]
      exact cut
    rw [whole]
    exact indented.allBlank
  cases note with
  | none =>
      refine ⟨gap ++ "", blank "" ?_, ?_⟩
      · simpa using beforeFirstChars_of_not_mem ['/'] indented.not_mem_slash
      · rw [String.append_empty]
        exact lines_of_unbroken (plain.append indented.unbroken) begun
  | some text =>
      refine ⟨gap ++ ("//" ++ (lines text).headD ""), blank _ ?_, ?_⟩
      · have cut := beforeFirstChars_append_of_not_mem ['/'] ((lines text).headD "").toList
          indented.not_mem_slash
        simpa using cut
      · have slashes : Unbroken "//" := by decide
        have opened : Unbroken (front ++ (gap ++ "//")) :=
          plain.append (indented.unbroken.append slashes)
        have first := lines_append_of_unbroken opened (by simp) text
        simpa [row, leftover, String.append_assoc] using first

end Remark

/-! ## Statements -/

/-- A row that says something, with what stands around it. -/
structure Statement (α : Type) where
  indent : String := ""
  indented : Indented indent
  said : α
  remark : Option Remark := none

namespace Statement

variable {α : Type}

/-- The row of a statement with the given fields.  A remark behind it stands at least one space
apart. -/
def row (statement : Statement α) (fields : List Field) : String :=
  match statement.remark with
  | none => statement.indent ++ sentence fields
  | some remark => statement.indent ++ sentence fields ++ " " ++ remark.row

/-- Nothing of the comment behind the statement is effective. -/
def Clear (inBlock : Bool) (statement : Statement α) : Prop :=
  ∀ remark ∈ statement.remark, remark.Clear inBlock

end Statement

/-! ## Reading a row -/

/-- Reads a row, line by line. -/
def readRow (reading : Reading) (row : String) : Reading := (lines row).foldl Reading.line reading

/-- A module file is read row by row. -/
theorem readManifest_intercalate (rows : List String) :
    readManifest (String.intercalate "\n" rows) = (rows.foldl readRow {}).manifest := by
  rw [readManifest, foldl_lines_intercalate fun _ => rfl]
  rfl

theorem foldl_of_ineffective {reading : Reading} {rest : List String}
    (still : ∀ line ∈ rest, ¬Effective reading.inBlock line) :
    rest.foldl Reading.line reading = reading := by
  induction rest with
  | nil => rfl
  | cons line rest ih =>
      rw [List.forall_mem_cons] at still
      rw [List.foldl_cons, line_of_ineffective still.1, ih still.2]

/-- Nothing is read of a remark. -/
theorem Remark.readRow {reading : Reading} {remark : Remark}
    (clear : remark.Clear reading.inBlock) : readRow reading remark.row = reading := by
  by_cases nothing : remark.row = ""
  · rw [nothing]
    rfl
  · have plain : Unbroken "" := by decide
    obtain ⟨rest, blank, cut⟩ := remark.lines_append plain (by simpa using nothing)
    rw [String.empty_append, String.empty_append] at cut
    have silent : content rest = "" := trim_of_allBlank blank
    rw [Go.readRow, cut, List.foldl_cons, Reading.line_eq_hear, silent, Reading.hear_empty,
      foldl_of_ineffective clear]

theorem beforeFirst_indent_append {indent : String} (indented : Indented indent) (text : String) :
    beforeFirst "//" (indent ++ text) = indent ++ beforeFirst "//" text :=
  beforeFirst_append_of_not_mem (show "//".toList = ['/', '/'] from rfl) indented.not_mem_slash
    text

/-- A line with nothing but blanks around the fields, up to a comment, says the fields. -/
theorem content_of_sentence {line indent gap : String} {fields : List Field} (begun : fields ≠ [])
    (indented : Indented indent) (blank : AllBlank gap)
    (cut : beforeFirst "//" line = indent ++ (sentence fields ++ gap)) :
    content line = sentence fields := by
  rw [content, cut, trim_blank_append indented.allBlank,
    trim_append_blank (solid_sentence begun) blank]

/-- Of a statement the fields are read. -/
theorem Statement.readRow {α : Type} {statement : Statement α} {fields : List Field}
    {reading later : Reading} (begun : fields ≠ []) (heard : reading.hear (sentence fields) = later)
    (clear : statement.Clear later.inBlock) :
    readRow reading (statement.row fields) = later := by
  obtain ⟨indent, indented, said, remark⟩ := statement
  have plain : Unbroken (indent ++ sentence fields) :=
    indented.unbroken.append (unbroken_sentence fields)
  have nonempty : sentence fields ≠ "" := (solid_sentence begun).ne_empty
  cases remark with
  | none =>
      have whole : lines (indent ++ sentence fields) = [indent ++ sentence fields] :=
        lines_of_unbroken plain (by simp [nonempty])
      have said : content (indent ++ sentence fields) = sentence fields := by
        refine content_of_sentence begun indented (show AllBlank "" by decide) ?_
        rw [beforeFirst_indent_append indented, uncommented_sentence, String.append_empty]
      rw [Go.readRow, row, whole, List.foldl_cons, Reading.line_eq_hear, said, heard,
        List.foldl_nil]
  | some remark =>
      have space : Unbroken " " := by decide
      obtain ⟨rest, blank, whole⟩ := remark.lines_append (plain.append space) (by simp)
      have blankGap : AllBlank (" " ++ beforeFirst "//" rest) := by
        intro c member
        rw [String.toList_append, List.mem_append] at member
        rcases member with inSpace | inRest
        · exact (by decide : AllBlank " ") c inSpace
        · exact blank c inRest
      have said : content (indent ++ sentence fields ++ " " ++ rest) = sentence fields := by
        refine content_of_sentence begun indented blankGap ?_
        rw [String.append_assoc, String.append_assoc, beforeFirst_indent_append indented,
          ← String.append_assoc, beforeFirst_append_of_uncommented (uncommented_sentence fields)
            (c := ' ') rfl (by decide), String.append_assoc]
      rw [Go.readRow, row, whole, List.foldl_cons, Reading.line_eq_hear, said, heard]
      exact foldl_of_ineffective (clear remark rfl)

end ScopeAtlas.Location.Go
