import ScopeAtlas.Proofs.Location.ModuleRows

/-!
# Requirements of a module file

A module file names the module and has directives around the name.  Requirements stand behind the
word that says so, one by one or in a block, and the other directives have the same two forms.  Read
row by row, every directive leaves the reading outside of blocks again and adds the paths that it
requires, so the name and the requirements are read back, in their order.
-/

namespace ScopeAtlas.Location.Go

open ScopeAtlas.Data ScopeAtlas.Text

/-! ## Fields that mean something -/

namespace Field

def moduleWord : Field := ⟨"module", by decide, by decide⟩

def requireWord : Field := ⟨"require", by decide, by decide⟩

def opening : Field := ⟨"(", by decide, by decide⟩

def closing : Field := ⟨")", by decide, by decide⟩

def arrow : Field := ⟨"=>", by decide, by decide⟩

/-- The first of the two versions of an interval. -/
def low (version : Field) : Field where
  text := "[" ++ (version.text ++ ",")
  isWord := IsWord.append (by decide) (version.isWord.append (by decide))
  uncommented := by
    have comma := version.uncommented.append (show ",".toList = [','] from rfl) (by decide)
      (show Uncommented "" by decide)
    have bracket := Uncommented.append (show Uncommented "" by decide)
      (show "[".toList = ['['] from rfl) (by decide) comma
    simpa using bracket

/-- The second of the two versions of an interval. -/
def high (version : Field) : Field where
  text := version.text ++ "]"
  isWord := version.isWord.append (by decide)
  uncommented := by
    have bracket := version.uncommented.append (show "]".toList = [']'] from rfl) (by decide)
      (show Uncommented "" by decide)
    simpa using bracket

theorem space_not_mem (field : Field) : ' ' ∉ field.text.toList := fun member =>
  absurd (field.isWord.plain ' ' member) (by decide)

end Field

theorem sentence_singleton (field : Field) : sentence [field] = field.text := by simp [sentence]

theorem sentence_cons_cons (first next : Field) (rest : List Field) :
    sentence (first :: next :: rest) = first.text ++ " " ++ sentence (next :: rest) := by
  simp [sentence, String.intercalate_cons_cons]

theorem isPrefixOf_word {verb first : List Char} (noSpace : ' ' ∉ verb) (oneWord : ' ' ∉ first)
    (rest : List Char) :
    (verb ++ [' ']).isPrefixOf (first ++ ' ' :: rest) = true ↔ first = verb := by
  induction verb generalizing first with
  | nil =>
      cases first with
      | nil => simp
      | cons c first =>
          rw [List.mem_cons, not_or] at oneWord
          simp [oneWord.1]
  | cons d verb ih =>
      rw [List.mem_cons, not_or] at noSpace
      cases first with
      | nil => simp [Ne.symm noSpace.1]
      | cons c first =>
          rw [List.mem_cons, not_or] at oneWord
          have later := ih noSpace.2 oneWord.2
          simp only [List.cons_append, List.isPrefixOf_cons_cons, Bool.and_eq_true, beq_iff_eq,
            later, List.cons.injEq]
          tauto

/-- A statement begins with a verb and a space if the verb is its first field and another one
follows. -/
theorem startsWith_sentence (verb : String) (noSpace : ' ' ∉ verb.toList) (first : Field)
    (rest : List Field) :
    startsWith (verb ++ " ") (sentence (first :: rest)) = true ↔ first.text = verb ∧ rest ≠ [] := by
  cases rest with
  | nil =>
      simp only [ne_eq, not_true_eq_false, and_false, iff_false, sentence_singleton, startsWith,
        List.isPrefixOf_iff_prefix, String.toList_append]
      intro starts
      exact first.space_not_mem (starts.subset (by simp))
  | cons next rest =>
      have word := isPrefixOf_word noSpace first.space_not_mem (sentence (next :: rest)).toList
      rw [String.toList_inj] at word
      simpa [sentence_cons_cons, startsWith] using word

namespace Reading

variable {reading : Reading} {first : Field} {rest : List Field}

/-- A statement with another first field than the verbs closes a block, or is a requirement of one,
or means nothing. -/
theorem hear_of_not_verb
    (notVerb : rest ≠ [] → first.text ≠ "module" ∧ first.text ≠ "require") :
    reading.hear (sentence (first :: rest)) =
      if sentence (first :: rest) = ")" then { reading with inBlock := false }
      else if reading.inBlock then reading.require (first.text :: rest.map Field.text)
      else reading := by
  have something : (sentence (first :: rest)).isEmpty = false := by
    rw [Bool.eq_false_iff, ne_eq, String.isEmpty_iff]
    exact (solid_sentence (List.cons_ne_nil _ _)).ne_empty
  have noModule : startsWith "module " (sentence (first :: rest)) = false := by
    rw [Bool.eq_false_iff]
    intro starts
    obtain ⟨same, more⟩ := (startsWith_sentence "module" (by decide) first rest).mp starts
    exact (notVerb more).1 same
  have noRequire : startsWith "require " (sentence (first :: rest)) = false := by
    rw [Bool.eq_false_iff]
    intro starts
    obtain ⟨same, more⟩ := (startsWith_sentence "require" (by decide) first rest).mp starts
    exact (notVerb more).2 same
  have noBlock : startsWith "require (" (sentence (first :: rest)) = false := by
    rw [Bool.eq_false_iff]
    intro starts
    have shorter : startsWith "require " (sentence (first :: rest)) = true :=
      startsWith_of_startsWith_append "require " "(" starts
    rw [noRequire] at shorter
    contradiction
  have whole : words (dropStart "require " (sentence (first :: rest))) =
      first.text :: rest.map Field.text := by
    rw [dropStart, noRequire, if_neg Bool.false_ne_true, words_sentence, List.map_cons]
  simp only [hear, something, noModule, noBlock, noRequire, whole, beq_iff_eq, Bool.false_or,
    Bool.false_eq_true, if_false]

/-- Outside of blocks such a statement means nothing. -/
theorem hear_outside (outside : reading.inBlock = false)
    (notVerb : rest ≠ [] → first.text ≠ "module" ∧ first.text ≠ "require") :
    reading.hear (sentence (first :: rest)) = reading := by
  rw [hear_of_not_verb notVerb, outside]
  split
  · exact congrArg (Reading.mk · reading.manifest) outside.symm
  · rfl

/-- In a block it is a requirement, when it has two fields. -/
theorem hear_inside (inside : reading.inBlock = true) {path version : Field}
    (notVerb : path.text ≠ "module" ∧ path.text ≠ "require") :
    reading.hear (sentence [path, version]) = reading.noting [path.text] := by
  have notClosing : sentence [path, version] ≠ ")" := by
    intro same
    have pieces := words_sentence [path, version]
    have single : words ")" = [")"] := rfl
    rw [same, single] at pieces
    simp at pieces
  rw [hear_of_not_verb fun _ => notVerb, if_neg notClosing, inside]
  rfl

theorem hear_opening :
    reading.hear (sentence [.requireWord, .opening]) = { reading with inBlock := true } := rfl

theorem hear_closing : reading.hear (sentence [.closing]) = { reading with inBlock := false } := rfl

/-- Behind its verb a requirement adds its path, unless the path looks like the beginning of a
block. -/
theorem hear_single (path version : Field) :
    reading.hear (sentence [.requireWord, path, version]) =
      if startsWith "(" path.text then { reading with inBlock := true }
      else reading.noting [path.text] := by
  have cut : sentence [.requireWord, path, version] = "require " ++ sentence [path, version] :=
    sentence_cons_cons .requireWord path [version]
  have something : (sentence [.requireWord, path, version]).isEmpty = false := by
    rw [cut, Bool.eq_false_iff, ne_eq, String.isEmpty_iff]
    simp
  have noModule : startsWith "module " (sentence [.requireWord, path, version]) = false := by
    rw [Bool.eq_false_iff]
    intro starts
    have same := (startsWith_sentence "module" (by decide) _ _).mp starts
    exact absurd same.1 (by decide)
  have requires : startsWith "require " (sentence [.requireWord, path, version]) = true :=
    (startsWith_sentence "require" (by decide) .requireWord [path, version]).mpr ⟨rfl, by simp⟩
  have opens : startsWith "require (" (sentence [.requireWord, path, version]) =
      startsWith "(" path.text := by
    obtain ⟨c, others, shape⟩ := List.exists_cons_of_ne_nil
      (String.toList_eq_nil_iff.not.mpr path.isWord.begun)
    rw [cut, show "require (" = "require " ++ "(" from rfl, startsWith_append_append]
    simp [sentence, startsWith, shape, List.isPrefixOf]
  have notClosing : sentence [.requireWord, path, version] ≠ ")" := by
    intro same
    rw [same] at requires
    exact absurd requires (by decide)
  have pieces : words (dropStart "require " (sentence [.requireWord, path, version])) =
      [path.text, version.text] := by
    have dropped : dropStart "require " (sentence [.requireWord, path, version]) =
        sentence [path, version] := by
      rw [dropStart, requires, if_pos rfl, cut, dropChars_append_self]
    rw [dropped, words_sentence]
    rfl
  simp only [hear, something, noModule, opens, requires, pieces, notClosing, beq_iff_eq,
    Bool.true_or, Bool.false_eq_true, if_false, if_true]
  rfl

end Reading

/-! ## Directives -/

/-- The path of a module.  It stands without quotes, and it is none of the words by which the
statements about modules begin. -/
structure ModulePath extends Field where
  unquoted : '"' ∉ text.toList
  notVerb : text ≠ "module" ∧ text ≠ "require"

/-- A module that is required, in one version. -/
structure Requirement where
  path : ModulePath
  version : Field

/-- What another directive is about: a module and its version, what replaces it, versions that are
retracted.  None of these begins with a word that is more than a version standing alone. -/
structure Entry where
  first : Field
  rest : List Field
  notVerb : rest ≠ [] → first.text ≠ "module" ∧ first.text ≠ "require"

namespace Entry

/-- A version by itself, or the version of the language. -/
def alone (version : Field) : Entry := ⟨version, [], fun more => absurd rfl more⟩

/-- One version of a module. -/
def version (path : ModulePath) (version : Field) : Entry :=
  ⟨path.toField, [version], fun _ => path.notVerb⟩

/-- A module, or one version of it, and what it is replaced with. -/
def replacement (path : ModulePath) (old : Option Field) (target : Field) (new : Option Field) :
    Entry :=
  ⟨path.toField, old.toList ++ .arrow :: target :: new.toList, fun _ => path.notVerb⟩

/-- The versions from one to another. -/
def interval (low high : Field) : Entry :=
  ⟨low.low, [high.high], fun _ => by
    constructor <;> intro same <;> exact absurd (congrArg String.toList same) (by simp [Field.low])⟩

end Entry

def Requirement.fields (requirement : Requirement) : List Field :=
  [requirement.path.toField, requirement.version]

def Entry.fields (entry : Entry) : List Field := entry.first :: entry.rest

/-- A remark of its own, or something else. -/
inductive Piece (α : Type) where
  | remark (remark : Remark)
  | said (item : α)

/-- A directive about items: one behind its verb, or several in a block. -/
inductive Clause (α : Type) where
  | single (statement : Statement α)
  | block (opening : Statement Unit) (body : List (Piece (Statement α))) (closing : Statement Unit)

/-- The directives that require nothing. -/
inductive Verb where
  | go
  | toolchain
  | exclude
  | replace
  | retract

inductive Directive where
  | require (clause : Clause Requirement)
  | other (verb : Verb) (clause : Clause Entry)

/-- A module file: directives and remarks around the statement that names the module. -/
structure Document where
  before : List (Piece Directive)
  heading : Statement ModulePath
  after : List (Piece Directive)

/-! ## Written out -/

def Verb.field : Verb → Field
  | go => ⟨"go", by decide, by decide⟩
  | toolchain => ⟨"toolchain", by decide, by decide⟩
  | exclude => ⟨"exclude", by decide, by decide⟩
  | replace => ⟨"replace", by decide, by decide⟩
  | retract => ⟨"retract", by decide, by decide⟩

section Rows

variable {α : Type}

def Piece.rows (rows : α → List String) : Piece α → List String
  | .remark note => [note.row]
  | said item => rows item

/-- The rows of a directive.  A block has the parentheses on rows of their own. -/
def Clause.rows (verb : Field) (fields : α → List Field) : Clause α → List String
  | single statement => [statement.row (verb :: fields statement.said)]
  | block opening body closing =>
      opening.row [verb, .opening] ::
        body.flatMap (Piece.rows fun statement => [statement.row (fields statement.said)]) ++
        [closing.row [.closing]]

def Directive.rows : Directive → List String
  | require clause => clause.rows .requireWord Requirement.fields
  | other verb clause => clause.rows verb.field Entry.fields

namespace Document

def rows (document : Document) : List String :=
  document.before.flatMap (Piece.rows Directive.rows) ++
    document.heading.row [.moduleWord, document.heading.said.toField] ::
    document.after.flatMap (Piece.rows Directive.rows)

/-- The text of a module file. -/
def text (document : Document) : String := String.intercalate "\n" document.rows

end Document

/-! ## Required paths -/

/-- What is collected of the pieces that are no remarks. -/
def Piece.collect {β : Type} (part : α → List β) : Piece α → List β
  | remark _ => []
  | said item => part item

def Clause.collect (paths : α → List String) : Clause α → List String
  | single statement => paths statement.said
  | block _ body _ => body.flatMap (Piece.collect fun statement => paths statement.said)

end Rows

/-- The paths that a directive requires. -/
def Directive.requirements : Directive → List String
  | require clause => clause.collect fun requirement => [requirement.path.text]
  | other _ _ => []

/-- The paths that are required, in the order in which they stand. -/
def Document.requirements (document : Document) : List String :=
  (document.before ++ document.after).flatMap (Piece.collect Directive.requirements)

/-! ## Places where something may be misheard -/

/-- Remarks, each with whether it stands in a block of requirements. -/
abbrev Places := List (Bool × Remark)

/-- No comment is effective where it stands. -/
def Places.Clear (places : Places) : Prop := ∀ place ∈ places, place.2.Clear place.1

section Places

variable {α : Type}

def Statement.places (inBlock : Bool) (statement : Statement α) : Places :=
  statement.remark.toList.map (inBlock, ·)

def Piece.places (inBlock : Bool) (inner : α → Places) : Piece α → Places
  | remark note => [(inBlock, note)]
  | said item => inner item

/-- The remarks of a directive; `requires` says that the block is one of requirements. -/
def Clause.places (requires : Bool) : Clause α → Places
  | single statement => statement.places false
  | block opening body closing =>
      opening.places requires ++ body.flatMap (Piece.places requires (Statement.places requires)) ++
        closing.places false

def Directive.places : Directive → Places
  | require clause => clause.places true
  | other _ clause => clause.places false

/-- The requirements that stand behind their verb. -/
def Directive.singles : Directive → List Requirement
  | require (.single statement) => [statement.said]
  | _ => []

namespace Document

/-- The remarks of a module file. -/
def places (document : Document) : Places :=
  (document.before ++ document.after).flatMap (Piece.places false Directive.places) ++
    document.heading.places false

/-- The requirements outside of blocks. -/
def singles (document : Document) : List Requirement :=
  (document.before ++ document.after).flatMap (Piece.collect Directive.singles)

/-- Nothing is misheard: no comment is effective where it stands, and no path behind the verb looks
like the beginning of a block. -/
def Clear (document : Document) : Prop :=
  document.places.Clear ∧
    ∀ requirement ∈ document.singles, startsWith "(" requirement.path.text = false

end Document

theorem Places.clear_append {first second : Places} :
    Places.Clear (first ++ second) ↔ first.Clear ∧ second.Clear := List.forall_mem_append

theorem Statement.clear_of_places {inBlock : Bool} {statement : Statement α}
    (clear : (statement.places inBlock).Clear) : statement.Clear inBlock := fun remark isRemark =>
  clear (inBlock, remark) (List.mem_map_of_mem (Option.mem_toList.mpr isRemark))

theorem Places.clear_of_remark {inBlock : Bool} {inner : α → Places} {pieces : List (Piece α)}
    (clear : Places.Clear (pieces.flatMap (Piece.places inBlock inner))) {note : Remark}
    (member : .remark note ∈ pieces) : note.Clear inBlock :=
  clear (inBlock, note) (List.mem_flatMap_of_mem member (List.mem_singleton_self _))

theorem Places.clear_of_said {inBlock : Bool} {inner : α → Places} {pieces : List (Piece α)}
    (clear : Places.Clear (pieces.flatMap (Piece.places inBlock inner))) {item : α}
    (member : .said item ∈ pieces) : (inner item).Clear := fun place inItem =>
  clear place (List.mem_flatMap_of_mem member inItem)

end Places

/-! ## Read back -/

/-- The statement about the module gives its name. -/
theorem Reading.hear_module (path : ModulePath) (reading : Reading) :
    reading.hear (sentence [.moduleWord, path.toField]) =
      { reading with manifest := { reading.manifest with name := .text path.text } } := by
  have cut : sentence [.moduleWord, path.toField] = "module " ++ path.text := by
    rw [sentence_cons_cons, sentence_singleton]
    rfl
  have something : ("module " ++ path.text).isEmpty = false := by
    rw [Bool.eq_false_iff, ne_eq, String.isEmpty_iff]
    simp
  have bare : trimOf "\"" (trim path.text) = path.text := by
    rw [trim_of_solid path.isWord.solid]
    refine trimWhile_of_forall fun c member => ?_
    have noQuote : c ≠ '"' := fun same => path.unquoted (same ▸ member)
    simpa [oneOf] using noQuote
  simp only [hear, cut, something, startsWith_append_self, dropChars_append_self, bare,
    Bool.false_eq_true, if_false, if_true]

/-- Where every item adds its paths, pieces add what is collected of them. -/
theorem foldl_pieces {α : Type} {inBlock : Bool} {inner : α → Places} {pieces : List (Piece α)}
    (rows paths : α → List String)
    (clear : Places.Clear (pieces.flatMap (Piece.places inBlock inner)))
    (step : ∀ item, .said item ∈ pieces → ∀ reading : Reading, reading.inBlock = inBlock →
      (rows item).foldl readRow reading = reading.noting (paths item))
    {reading : Reading} (here : reading.inBlock = inBlock) :
    (pieces.flatMap (Piece.rows rows)).foldl readRow reading =
      reading.noting (pieces.flatMap (Piece.collect paths)) := by
  induction pieces generalizing reading with
  | nil => simp
  | cons piece pieces ih =>
      have first :
          (piece.rows rows).foldl readRow reading = reading.noting (piece.collect paths) := by
        cases piece with
        | remark note =>
            have noteClear := Places.clear_of_remark clear List.mem_cons_self
            have silent : readRow reading note.row = reading := Remark.readRow (here ▸ noteClear)
            simp [Piece.rows, Piece.collect, silent]
        | said item => exact step item List.mem_cons_self reading here
      rw [List.flatMap_cons, Places.clear_append] at clear
      rw [List.flatMap_cons, List.flatMap_cons, List.foldl_append, first,
        ih clear.2 (fun item member => step item (List.mem_cons_of_mem _ member))
          ((Reading.noting_inBlock _ _).trans here), Reading.noting_append]

/-- A directive outside of blocks adds what its items add: one behind the verb, or those between a row
that enters the block and one that leaves it. -/
theorem Clause.read {α : Type} (verb : Field) (fields : α → List Field) (paths : α → List String)
    {clause : Clause α} {requires : Bool} {reading : Reading} (begun : ∀ item, fields item ≠ [])
    (clear : (clause.places requires).Clear) (outside : reading.inBlock = false)
    (single : ∀ statement, clause = .single statement →
      reading.hear (sentence (verb :: fields statement.said)) =
        reading.noting (paths statement.said))
    (opens : reading.hear (sentence [verb, .opening]) = { reading with inBlock := requires })
    (listed : ∀ item (inside : Reading), inside.inBlock = requires →
      inside.hear (sentence (fields item)) = inside.noting (paths item)) :
    (clause.rows verb fields).foldl readRow reading = reading.noting (clause.collect paths) := by
  cases clause with
  | single statement =>
      rw [rows, List.foldl_cons, List.foldl_nil]
      exact Statement.readRow (List.cons_ne_nil _ _) (single statement rfl)
        ((Reading.noting_inBlock _ _).trans outside ▸ Statement.clear_of_places clear)
  | block opening body closing =>
      rw [places, Places.clear_append, Places.clear_append] at clear
      obtain ⟨⟨clearOpening, clearBody⟩, clearClosing⟩ := clear
      have entered : readRow reading (opening.row [verb, .opening]) =
          { reading with inBlock := requires } :=
        Statement.readRow (List.cons_ne_nil _ _) opens (Statement.clear_of_places clearOpening)
      have item (statement : Statement α) (member : .said statement ∈ body) (inside : Reading)
          (here : inside.inBlock = requires) :
          [statement.row (fields statement.said)].foldl readRow inside =
            inside.noting (paths statement.said) := by
        rw [List.foldl_cons, List.foldl_nil]
        exact Statement.readRow (begun _) (listed statement.said inside here)
          ((Reading.noting_inBlock _ _).trans here ▸
            Statement.clear_of_places (Places.clear_of_said clearBody member))
      have here : ({ reading with inBlock := requires } : Reading).inBlock = requires := rfl
      rw [rows, List.cons_append, List.foldl_cons, entered, List.foldl_append,
        foldl_pieces _ _ clearBody item here, List.foldl_cons, List.foldl_nil]
      -- The row that leaves the block puts the reading back outside.
      have left :
          (reading.noting ((Clause.block opening body closing).collect paths)).inBlock = false :=
        outside
      refine Statement.readRow (List.cons_ne_nil _ _) ?_
        (left ▸ Statement.clear_of_places clearClosing)
      rw [Reading.hear_closing]
      exact congrArg (Reading.mk · _) outside.symm

theorem Clause.collect_nil {α : Type} (clause : Clause α) : (clause.collect fun _ => []) = [] := by
  cases clause with
  | single statement => rfl
  | block opening body closing =>
      rw [collect, List.flatMap_eq_nil_iff]
      intro piece _
      cases piece <;> rfl

/-- Every directive leaves the reading outside of blocks and adds the paths that it requires. -/
theorem Directive.read {directive : Directive} (clear : directive.places.Clear)
    (notBlock : ∀ requirement ∈ directive.singles, startsWith "(" requirement.path.text = false)
    {reading : Reading} (outside : reading.inBlock = false) :
    directive.rows.foldl readRow reading = reading.noting directive.requirements := by
  cases directive with
  | require clause =>
      rw [rows, requirements]
      refine Clause.read .requireWord Requirement.fields _ (fun _ => List.cons_ne_nil _ _) clear
        outside (fun statement single => ?_) Reading.hear_opening fun requirement inside here =>
          Reading.hear_inside here requirement.path.notVerb
      subst single
      rw [Requirement.fields, Reading.hear_single,
        notBlock statement.said (List.mem_singleton_self _), if_neg Bool.false_ne_true]
  | other verb clause =>
      have notVerb : verb.field.text ≠ "module" ∧ verb.field.text ≠ "require" := by
        cases verb <;> decide
      rw [rows, requirements, ← clause.collect_nil]
      refine Clause.read verb.field Entry.fields _ (fun _ => List.cons_ne_nil _ _) clear outside
        (fun statement _ => ?_) ?_ fun entry inside here => ?_
      · rw [Reading.noting_nil, Reading.hear_outside outside fun _ => notVerb]
      · rw [Reading.hear_outside outside fun _ => notVerb]
        exact congrArg (Reading.mk · reading.manifest) outside
      · rw [Reading.noting_nil, Entry.fields, Reading.hear_outside here entry.notVerb]

/-- What is read of a module file in which nothing is misheard: the name of the module and the paths
that are required. -/
theorem Document.read {document : Document} (clear : document.Clear) :
    readManifest document.text =
      { name := .text document.heading.said.text, dependencies := document.requirements } := by
  obtain ⟨clearPlaces, notBlock⟩ := clear
  rw [places, Places.clear_append] at clearPlaces
  have directive (directive : Directive)
      (member : .said directive ∈ document.before ++ document.after) (reading : Reading)
      (outside : reading.inBlock = false) :
      directive.rows.foldl readRow reading = reading.noting directive.requirements :=
    Directive.read (Places.clear_of_said clearPlaces.1 member)
      (fun requirement inDirective =>
        notBlock requirement (List.mem_flatMap.mpr ⟨.said directive, member, inDirective⟩)) outside
  have clearPieces := clearPlaces.1
  rw [List.flatMap_append, Places.clear_append] at clearPieces
  have start : ({} : Reading).inBlock = false := rfl
  have before := foldl_pieces _ _ clearPieces.1
    (fun item member => directive item (List.mem_append_left _ member)) start
  have named := Statement.readRow (List.cons_ne_nil _ _) (Reading.hear_module document.heading.said
    (Reading.noting {} (document.before.flatMap (Piece.collect Directive.requirements))))
    (Statement.clear_of_places clearPlaces.2)
  rw [text, readManifest_intercalate, rows, List.foldl_append, before, List.foldl_cons, named,
    foldl_pieces _ _ clearPieces.2
      (fun item member => directive item (List.mem_append_right _ member)) rfl, requirements,
    List.flatMap_append]
  rfl

/-! ## What is misheard -/

theorem content_sentence {fields : List Field} (begun : fields ≠ []) :
    content (sentence fields) = sentence fields := by
  have blank : AllBlank "" := by decide
  refine content_of_sentence begun (show Indented "" by decide) blank ?_
  rw [uncommented_sentence, String.append_empty, String.empty_append]

/-- A requirement behind its verb with a path that begins like a block is taken for the beginning of
one. -/
theorem line_of_mistaken {requirement : Requirement}
    (mistaken : startsWith "(" requirement.path.text = true) (reading : Reading) :
    reading.line (sentence (.requireWord :: requirement.fields)) =
      { reading with inBlock := true } := by
  rw [Reading.line_eq_hear, content_sentence (List.cons_ne_nil _ _), Requirement.fields,
    Reading.hear_single, if_pos mistaken]

/-- A module file of any directives, with any blanks and comments, is read back, the name of the
module and the required paths, unless something is misheard: the rest of a comment behind a line
boundary, which is read as lines of its own and changes what has been read, or a requirement, whose
path is taken for the beginning of a block. -/
theorem module_file_read_back_unless_misheard (document : Document) :
    (document.Clear → readManifest document.text =
      { name := .text document.heading.said.text, dependencies := document.requirements }) ∧
    (¬document.Clear →
      (∃ place ∈ document.places, ∃ line ∈ place.2.leftover, ∃ reading : Reading,
        reading.inBlock = place.1 ∧ reading.line line ≠ reading) ∨
      ∃ requirement ∈ document.singles, ∀ reading : Reading,
        reading.line (sentence (.requireWord :: requirement.fields)) =
          { reading with inBlock := true }) := by
  refine ⟨Document.read, fun misheard => ?_⟩
  by_cases clear : document.places.Clear
  · right
    by_contra none
    push Not at none
    refine misheard ⟨clear, fun requirement member => ?_⟩
    obtain ⟨reading, other⟩ := none requirement member
    rw [Bool.eq_false_iff]
    exact fun mistaken => other (line_of_mistaken mistaken reading)
  · left
    simp only [Places.Clear, Remark.Clear, not_forall, not_not] at clear
    obtain ⟨place, member, line, leftover, effective⟩ := clear
    exact ⟨place, member, line, leftover, effective_iff.mp effective⟩

/-! ## Module files with directives of every kind -/

/-- A row with nothing on it. -/
def Remark.blank : Remark where
  indented := by decide
  oneRow := by simp

/-- A statement with nothing around it. -/
def Statement.bare {α : Type} (said : α) : Statement α where
  indented := by decide
  said

def onePath : ModulePath := ⟨⟨"example.com/one", by decide, by decide⟩, by decide, by decide⟩

def twoPath : ModulePath := ⟨⟨"example.com/two", by decide, by decide⟩, by decide, by decide⟩

def threePath : ModulePath := ⟨⟨"example.com/three", by decide, by decide⟩, by decide, by decide⟩

def firstVersion : Field := ⟨"v1.0.0", by decide, by decide⟩

def secondVersion : Field := ⟨"v1.1.0", by decide, by decide⟩

def variedDocument : Document where
  before := [.said (.other .go (.single (.bare (.alone ⟨"1.21", by decide, by decide⟩))))]
  heading :=
    { indented := by decide
      said := ⟨⟨"example.com/app", by decide, by decide⟩, by decide, by decide⟩
      remark := some ⟨"", by decide, some " the \"app\"", by decide⟩ }
  after :=
    [.remark .blank,
      .said (.other .toolchain (.single (.bare (.alone ⟨"go1.21.3", by decide, by decide⟩)))),
      .said (.require (.single (.bare ⟨onePath, firstVersion⟩))),
      .said (.require (.block (.bare ())
        [.said ⟨"\t", by decide, ⟨twoPath, secondVersion⟩,
            some ⟨"", by decide, some " indirect", by decide⟩⟩,
          .remark ⟨"\t", by decide, some " require example.com/four v1.0.0", by decide⟩,
          .said ⟨"\t", by decide, ⟨threePath, firstVersion⟩, none⟩]
        (.bare ()))),
      .said (.other .exclude (.block (.bare ())
        [.said ⟨"\t", by decide, .version onePath secondVersion, none⟩] (.bare ()))),
      .said (.other .replace (.single (.bare
        (.replacement twoPath (some secondVersion) ⟨"../two", by decide, by decide⟩ none)))),
      .said (.other .retract (.single (.bare (.interval firstVersion secondVersion)))),
      .remark .blank]

example : variedDocument.text =
    "go 1.21\nmodule example.com/app // the \"app\"\n\ntoolchain go1.21.3\n" ++
    "require example.com/one v1.0.0\nrequire (\n\texample.com/two v1.1.0 // indirect\n" ++
    "\t// require example.com/four v1.0.0\n\texample.com/three v1.0.0\n)\n" ++
    "exclude (\n\texample.com/one v1.1.0\n)\nreplace example.com/two v1.1.0 => ../two\n" ++
    "retract [v1.0.0, v1.1.0]\n" := by decide +kernel

theorem varied_document_read_back :
    variedDocument.Clear ∧ readManifest variedDocument.text =
      { name := .text "example.com/app",
        dependencies := ["example.com/one", "example.com/two", "example.com/three"] } := by
  have app : (lines " the \"app\"").tail = [] := by decide
  have indirect : (lines " indirect").tail = [] := by decide
  have four : (lines " require example.com/four v1.0.0").tail = [] := by decide
  have one : startsWith "(" onePath.text = false := by decide
  have clear : variedDocument.Clear := by
    simp [variedDocument, Document.Clear, Places.Clear, Document.places, Piece.places,
      Directive.places, Clause.places, Statement.places, Statement.bare, Remark.blank, Remark.Clear,
      Remark.leftover, Document.singles, Piece.collect, Directive.singles, app, indirect, four, one]
  exact ⟨clear, (module_file_read_back_unless_misheard variedDocument).1 clear⟩

/-- A comment that goes on with a requirement behind a line separator. -/
def separatedDocument : Document where
  before := []
  heading := .bare ⟨⟨"example.com/app", by decide, by decide⟩, by decide, by decide⟩
  after :=
    [.remark .blank,
      .remark ⟨"", by decide, some " see\u2028require example.com/x v1.0.0", by decide⟩,
      .remark .blank]

/-- A requirement whose path begins with a parenthesis. -/
def parenthesizedDocument : Document where
  before := []
  heading := .bare ⟨⟨"example.com/app", by decide, by decide⟩, by decide, by decide⟩
  after :=
    [.remark .blank,
      .said (.require (.single (.bare
        ⟨⟨⟨"(foo", by decide, by decide⟩, by decide, by decide⟩, firstVersion⟩))),
      .remark .blank]

/-- A requirement is read of a comment, and another requirement is not read. -/
theorem comment_heard_and_requirement_misheard :
    (separatedDocument.text =
        "module example.com/app\n\n// see\u2028require example.com/x v1.0.0\n" ∧
      separatedDocument.requirements = [] ∧
      (readManifest separatedDocument.text).dependencies = ["example.com/x"]) ∧
    (parenthesizedDocument.text = "module example.com/app\n\nrequire (foo v1.0.0\n" ∧
      parenthesizedDocument.requirements = ["(foo"] ∧
      (readManifest parenthesizedDocument.text).dependencies = []) := by
  decide +kernel

end ScopeAtlas.Location.Go
