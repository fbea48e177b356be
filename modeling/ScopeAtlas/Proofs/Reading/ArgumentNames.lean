import ScopeAtlas.Proofs.Data.Tables
import ScopeAtlas.Proofs.Reading.OwnNames

/-!
# Names that a Python scope binds

A scope does not refer to the names it binds.  The tables that say where a name is bound also list
the place where a call names an argument, which is no use of that name but binds nothing either.  So
a scope that names an argument does not refer to that name anywhere, whatever binds it outside.
-/

namespace ScopeAtlas.Reading.Python

open ScopeAtlas.Data ScopeAtlas.Extraction ScopeAtlas.Language ScopeAtlas.Syntax

/-! ## Targets -/

/-- Patterns that group the targets of a binding. -/
def groupings : List String :=
  ["pattern_list", "tuple_pattern", "list_pattern", "list_splat_pattern", "dictionary_splat_pattern"]

/-- The place is singled out by its parent, or is grouped with others in a place that is. -/
inductive Target (singles : Cursor → Cursor → Prop) : Cursor → Prop where
  | single {parent child : Cursor} (below : child.parent? = some parent)
      (holds : singles parent child) : Target singles child
  | grouped {parent child : Cursor} (below : child.parent? = some parent)
      (isGroup : parent.kind ∈ groupings) (target : Target singles parent) : Target singles child

/-- The fields in which constructs bind names: definitions, assignments, loops and comprehensions,
parameters with a default, assignment expressions and aliases. -/
def bindingFields : List (String × String) :=
  [("function_definition", "name"), ("class_definition", "name"), ("assignment", "left"),
   ("for_statement", "left"), ("for_in_clause", "left"), ("default_parameter", "name"),
   ("typed_default_parameter", "name"), ("named_expression", "name"), ("as_pattern", "alias")]

/-- The constructs that bind all names right below them. -/
def bindingLists : List String :=
  ["parameters", "lambda_parameters", "typed_parameter", "global_statement", "nonlocal_statement",
   "as_pattern_target"]

/-- The parent binds the child. -/
def BindsChild (parent child : Cursor) : Prop :=
  parent.kind ∈ bindingLists ∨
    ∃ field ∈ child.field, (parent.kind, field) ∈ bindingFields
deriving Decidable

/-- The child is the name of an argument of a call. -/
def NamesArgument (parent child : Cursor) : Prop :=
  parent.kind = "keyword_argument" ∧ child.field = some "name"
deriving Decidable

/-- The place is the target of a binding. -/
abbrev IsBound : Cursor → Prop := Target BindsChild

/-- The place is the name of an argument. -/
abbrev IsArgumentName : Cursor → Prop := Target NamesArgument

theorem not_target_root {singles : Cursor → Cursor → Prop} {node : Node} :
    ¬Target singles (.root node) := by
  rintro (⟨below, _⟩ | ⟨below, _, _⟩) <;> contradiction

theorem target_child_iff {singles : Cursor → Cursor → Prop} {parent : Cursor} {before : List Node}
    {node : Node} :
    Target singles (.child parent before node) ↔
      singles parent (.child parent before node) ∨
        parent.kind ∈ groupings ∧ Target singles parent := by
  constructor
  · rintro (⟨below, holds⟩ | ⟨below, isGroup, target⟩)
    · obtain rfl := Option.some.inj below
      exact Or.inl holds
    · obtain rfl := Option.some.inj below
      exact Or.inr ⟨isGroup, target⟩
  · rintro (holds | ⟨isGroup, target⟩)
    · exact .single rfl holds
    · exact .grouped rfl isGroup target

instance decidableTarget {singles : Cursor → Cursor → Prop} [DecidableRel singles] :
    DecidablePred (Target singles)
  | .root _ => isFalse not_target_root
  | .child parent _ _ =>
      have : Decidable (Target singles parent) := decidableTarget parent
      decidable_of_iff _ target_child_iff.symm

theorem target_or_iff {first second : Cursor → Cursor → Prop} {place : Cursor} :
    Target (fun parent child => first parent child ∨ second parent child) place ↔
      Target first place ∨ Target second place := by
  constructor
  · intro target
    induction target with
    | single below holds => exact holds.imp (.single below) (.single below)
    | grouped below isGroup _ ih => exact ih.imp (.grouped below isGroup) (.grouped below isGroup)
  · rintro (target | target)
    · induction target with
      | single below holds => exact .single below (Or.inl holds)
      | grouped below isGroup _ ih => exact .grouped below isGroup ih
    · induction target with
      | single below holds => exact .single below (Or.inr holds)
      | grouped below isGroup _ ih => exact .grouped below isGroup ih

/-- The table of fields lists those that bind a name, and the name of an argument. -/
theorem exists_fields_iff {kind : String} {field : Option String} :
    (∃ fields, pythonNodes.definitionFields.lookup kind = some fields ∧
        (fields.any fun name => field == some name) = true) ↔
      (∃ name ∈ field, (kind, name) ∈ bindingFields) ∨
        kind = "keyword_argument" ∧ field = some "name" := by
  constructor
  · rintro ⟨fields, found, inField⟩
    have listed : ∀ pair ∈ pythonNodes.definitionFields, ∀ name ∈ pair.2,
        (pair.1, name) ∈ bindingFields ∨ pair.1 = "keyword_argument" ∧ name = "name" := by
      decide
    obtain ⟨name, member, same⟩ := List.any_eq_true.mp inField
    rw [beq_iff_eq] at same
    rcases listed (kind, fields) (mem_of_lookup found) name member with binds | ⟨isCall, isName⟩
    · exact Or.inl ⟨name, same, binds⟩
    · exact Or.inr ⟨isCall, by rw [same, isName]⟩
  · have found : ∀ pair ∈ bindingFields, pythonNodes.definitionFields.lookup pair.1 =
        some [pair.2] := by
      decide
    rintro (⟨name, rfl, binds⟩ | ⟨rfl, rfl⟩)
    · exact ⟨[name], found (kind, name) binds, by simp⟩
    · exact ⟨["name"], rfl, by simp⟩

/-- What the tables say of a place: its parent singles it out, or it is grouped with others. -/
theorem isDefinition_child_iff (parent : Cursor) (before : List Node) (node : Node) :
    isDefinition pythonNodes (.child parent before node) = true ↔
      (BindsChild parent (.child parent before node) ∨
        NamesArgument parent (.child parent before node)) ∨
      parent.kind ∈ groupings ∧ isDefinition pythonNodes parent = true := by
  have singles : BindsChild parent (.child parent before node) ∨
      NamesArgument parent (.child parent before node) ↔
      parent.kind ∈ bindingLists ∨
        ∃ fields, pythonNodes.definitionFields.lookup parent.kind = some fields ∧
          (fields.any fun name => node.field == some name) = true := by
    rw [exists_fields_iff, BindsChild, NamesArgument, or_assoc]
    rfl
  rw [singles, isDefinition]
  by_cases listed : parent.kind ∈ bindingLists
  · have contained : pythonNodes.definitionContainers.contains parent.kind = true :=
      List.contains_iff_mem.mpr listed
    rw [if_pos contained]
    simp [listed]
  · have free : ¬pythonNodes.definitionContainers.contains parent.kind = true :=
      mt List.contains_iff_mem.mp listed
    rw [if_neg free]
    by_cases isGroup : parent.kind ∈ groupings
    · -- No group has fields that bind.
      have noFields : ∀ kind ∈ groupings, pythonNodes.definitionFields.lookup kind = none := by
        decide
      have isPattern : pythonNodes.patternTypes.contains parent.kind = true :=
        List.contains_iff_mem.mpr isGroup
      rw [noFields parent.kind isGroup, isPattern]
      simp [isGroup, listed]
    · have noPattern : pythonNodes.patternTypes.contains parent.kind = false :=
        Bool.eq_false_iff.mpr (mt List.contains_iff_mem.mp isGroup)
      rw [noPattern]
      cases pythonNodes.definitionFields.lookup parent.kind <;> simp [listed, isGroup]

/-- A place is in a defining position exactly if it is bound or is the name of an argument. -/
theorem isDefinition_iff (place : Cursor) :
    isDefinition pythonNodes place = true ↔ IsBound place ∨ IsArgumentName place := by
  rw [← target_or_iff]
  induction place with
  | root node => exact iff_of_false (by simp [isDefinition]) not_target_root
  | child parent before node ih => rw [isDefinition_child_iff, ih, target_child_iff]

/-! ## Excluded names -/

/-- No Python draft excludes further names or adds references. -/
structure IsBare (draft : Draft) : Prop where
  exclude : draft.exclude = []
  synthetic : draft.synthetic = []

@[simp]
theorem everyDraft_functionSteps_bare (decorators : List Decorator) (ctx : Context)
    (place : Cursor) (depth : Nat) (parent : Option String) :
    EveryDraft IsBare (functionSteps decorators ctx place depth parent) := by
  simp only [functionSteps, everyDraft_scope_cons, everyDraft_enterBody, and_true]
  exact ⟨rfl, rfl⟩

@[simp]
theorem everyDraft_classSteps_bare (decorators : List Decorator) (ctx : Context) (place : Cursor)
    (depth : Nat) (parent : Option String) :
    EveryDraft IsBare (classSteps decorators ctx place depth parent) := by
  simp only [classSteps, everyDraft_scope_cons, everyDraft_enterBody, and_true]
  exact ⟨rfl, rfl⟩

theorem everyDraft_readStatement_bare (ctx : Context) (place : Cursor) (depth : Nat)
    (parent : Option String) : EveryDraft IsBare (readStatement ctx place depth parent) := by
  rw [readStatement]
  repeat' split
  all_goals simp only [everyDraft_scope_cons, everyDraft_nil, and_true]
  all_goals exact ⟨rfl, rfl⟩

theorem strategy_bare (ctx : Context) : strategy.Drafts ctx IsBare := by
  intro construct reading chosen place depth parent
  simp only [strategy] at chosen
  split at chosen <;> try obtain rfl := Option.some.inj chosen
  · simp [readClass]
  · simp [readFunction]
  · rw [stepsOf_always, readDecorated]
    split
    · simp
    · split <;> simp
  · exact everyDraft_readStatement_bare ctx place depth parent
  · contradiction

end ScopeAtlas.Reading.Python

namespace ScopeAtlas.Reading

open ScopeAtlas.Extraction ScopeAtlas.Language ScopeAtlas.Syntax

/-- A plain identifier within a root of a scope that nothing in the scope binds. -/
structure FreeName (ctx : Context) (draft : Draft) (root place : Cursor) : Prop where
  within : root.Within place
  isName : place.kind = "identifier"
  notBound : ¬Python.IsBound place
  notArgument : ¬Python.IsArgumentName place
  notReserved : ctx.text place ∉ ctx.profile.stopWords
  notBuiltin : ctx.text place ∉ ctx.profile.builtins
  notOwn : ctx.text place ∉ draft.ownNames ctx
  free : ∀ other ∈ draft.places, ∀ binder, other.Within binder → binder.kind = "identifier" →
    Python.IsBound binder → ctx.text binder ≠ ctx.text place

/-- An argument is named like that somewhere in the scope. -/
def ArgumentNamed (ctx : Context) (draft : Draft) (name : String) : Prop :=
  ∃ root ∈ draft.places, ∃ place, root.Within place ∧ place.kind = "identifier" ∧
    Python.IsArgumentName place ∧ ctx.text place = name

/-- Why a free name may go unreported where it stands. -/
inductive Unsought (ctx : Context) (skip : List Cursor) (root place : Cursor) : Prop where
  /-- It lies in a string, a comment, an import or the name of the scope. -/
  | leftOut (outer : Cursor) (below : root.Within outer) (around : outer.Within place)
      (hides : ctx.leftOut skip outer = true)
  | missed (missed : ctx.Missed skip root place)

section Names

variable {ctx : Context} (isPython : ctx.nodes = pythonNodes)

include isPython

theorem isIdentifier_python_iff {kind : String} :
    ctx.nodes.isIdentifier kind = true ↔ kind = "identifier" := by
  rw [isPython]
  simp [NodeTable.isIdentifier, pythonNodes]

/-- A free name is excluded exactly if an argument is named like it. -/
theorem FreeName.mem_exclusions_iff {draft : Draft} {root place : Cursor} (bare : Python.IsBare draft)
    (isFree : FreeName ctx draft root place) :
    ctx.text place ∈ draft.exclusions ctx ↔ ArgumentNamed ctx draft (ctx.text place) := by
  rw [Draft.mem_exclusions_iff, bare.exclude]
  constructor
  · rintro (own | excluded | ⟨other, otherMem, bound⟩)
    · exact absurd own isFree.notOwn
    · contradiction
    · obtain ⟨binder, within, isName, binds, same⟩ := Context.mem_localSymbols_iff.mp bound
      rw [isIdentifier_python_iff isPython] at isName
      rw [isPython, Python.isDefinition_iff] at binds
      rcases binds with binds | isArgument
      · exact absurd same (isFree.free other otherMem binder within isName binds)
      · exact ⟨other, otherMem, binder, within, isName, isArgument, same⟩
  · rintro ⟨other, otherMem, argument, within, isName, isArgument, same⟩
    refine Or.inr (Or.inr ⟨other, otherMem, Context.mem_localSymbols_iff.mpr
      ⟨argument, within, (isIdentifier_python_iff isPython).mpr isName, ?_, same⟩⟩)
    rw [isPython]
    exact (Python.isDefinition_iff argument).mpr (Or.inr isArgument)

end Names

/-- A name that nothing in a Python scope binds is reported where it stands, unless it lies where no
reference is looked for or an argument is named like it anywhere in the scope.  In that case the
scope refers to the name exactly if it uses a member of that name. -/
theorem free_names_reported_unless_argument_named (stack : StackLimit) (includeModuleScopes : Bool)
    (filePath language : String) (bytes : ByteArray) (tree : Node) :
    let ctx := prepare python Python.strategy stack filePath bytes (Cursor.root tree)
    let drafts := fileDrafts Python.strategy ctx includeModuleScopes (Cursor.root tree)
    (analyze python Python.strategy stack includeModuleScopes filePath language bytes tree).scopes =
        sortScopes (drafts.map fun draft => draft.complete ctx Python.strategy.packageName) ∧
      ∀ draft ∈ drafts, ∀ root ∈ draft.places, ∀ place, FreeName ctx draft root place →
        let references := (draft.complete ctx Python.strategy.packageName).references
        let skip := draft.skip ++ draft.nameNode.toList
        (¬ArgumentNamed ctx draft (ctx.text place) →
          ReportedAt (ctx.text place) (ctx.line place) (ctx.column place) references ∨
            Unsought ctx skip root place) ∧
        (ArgumentNamed ctx draft (ctx.text place) →
          ((∃ reference ∈ references, reference.identifier = ctx.text place) ↔
            ∃ other ∈ draft.places, ctx.UsesMember skip other (ctx.text place))) := by
  intro ctx drafts
  refine ⟨scopes_analyze python Python.strategy stack includeModuleScopes filePath language bytes tree,
    ?_⟩
  intro draft drafted root rootMem place isFree references skip
  have isPython : ctx.nodes = pythonNodes := rfl
  have bare : Python.IsBare draft :=
    of_mem_fileDrafts (Python.strategy_bare ctx) (fun _ _ _ => ⟨rfl, rfl⟩) drafted
  have excluded := isFree.mem_exclusions_iff isPython bare
  constructor
  · intro unnamed
    rcases Context.exposed_or_leftOut isFree.within with exposed | ⟨outer, below, around, hides⟩
    · have isUse : isDefinition ctx.nodes place = false := by
        rw [isPython, ← Bool.not_eq_true, Python.isDefinition_iff, not_or]
        exact ⟨isFree.notBound, isFree.notArgument⟩
      rcases Context.reportedAt_explore_or_missed rootMem exposed
        ((isIdentifier_python_iff isPython).mpr isFree.isName) isUse isFree.notReserved
        (mt excluded.mp unnamed) (fun builtin => absurd builtin isFree.notBuiltin) with found | missed
      · exact Or.inl (Draft.reportedAt_references found)
      · exact Or.inr (.missed missed)
    · exact Or.inr (.leftOut outer below around hides)
  · intro named
    exact Draft.refers_iff_usesMember bare.synthetic (excluded.mpr named)

/-- The text of a function that passes a variable as an argument of the same name. -/
def passedText : ByteArray := "def f():\n    return g(timeout=timeout)\n".toUTF8

/-- The tree of the function. -/
def passedTree : Node :=
  let node (index : Nat) (kind : String) (field : Option String) (start stop : Nat)
      (children : List Node) : Node :=
    .mk { index, kind, field, isNamed := true, isMissing := false, startByte := start,
          endByte := stop } children
  let argument := node 9 "keyword_argument" none 22 37
    [node 10 "identifier" "name" 22 29 [], node 11 "identifier" "value" 30 37 []]
  let call := node 6 "call" none 20 38
    [node 7 "identifier" "function" 20 21 [], node 8 "argument_list" "arguments" 21 38 [argument]]
  let body := node 4 "block" "body" 13 38 [node 5 "return_statement" none 13 38 [call]]
  node 0 "module" none 0 39
    [node 1 "function_definition" none 0 38
      [node 2 "identifier" "name" 4 5 [], node 3 "parameters" "parameters" 5 7 [], body]]

/-- The file of the function before its scopes are collected. -/
def passedContext : Context :=
  prepare python Python.strategy .unlimited "m.py" passedText (Cursor.root passedTree)

/-- The function does not refer to the variable that it passes. -/
theorem argument_name_hides_use :
    ∃ draft ∈ fileDrafts Python.strategy passedContext true (Cursor.root passedTree),
      ∃ root ∈ draft.places, ∃ place, FreeName passedContext draft root place ∧
        passedContext.Exposed (draft.skip ++ draft.nameNode.toList) root place ∧
        passedContext.text place = "timeout" ∧ ArgumentNamed passedContext draft "timeout" ∧
        ∀ line column, ¬ReportedAt "timeout" line column
          (draft.complete passedContext Python.strategy.packageName).references := by
  have found : ((fileDrafts Python.strategy passedContext true
      (Cursor.root passedTree)).any fun draft => draft.places.any fun root =>
        ((passedContext.exposedPlaces (draft.skip ++ draft.nameNode.toList) root).any fun place =>
          passedContext.text place == "timeout" && place.kind == "identifier" &&
            !decide (Python.IsBound place) && !decide (Python.IsArgumentName place)) &&
        (root.preorder.any fun place => place.kind == "identifier" &&
          decide (Python.IsArgumentName place) && passedContext.text place == "timeout") &&
        (draft.places.all fun other => other.preorder.all fun binder =>
          !(binder.kind == "identifier" && decide (Python.IsBound binder) &&
            passedContext.text binder == "timeout")) &&
        !(draft.ownNames passedContext).contains "timeout" &&
        (draft.references passedContext).all fun reference =>
          reference.identifier != "timeout") = true := by
    decide +kernel
  simp only [List.any_eq_true, List.all_eq_true, Bool.and_eq_true, Bool.not_eq_true', beq_iff_eq,
    bne_iff_ne, decide_eq_true_eq, decide_eq_false_iff_not, Context.mem_exposedPlaces_iff,
    Cursor.mem_preorder_iff] at found
  obtain ⟨draft, drafted, root, rootMem, ⟨⟨⟨⟨place, exposed, ⟨⟨spelled, isName⟩, notBound⟩,
    notArgument⟩, argument, argumentWithin, ⟨argumentKind, isArgument⟩, same⟩, free⟩, notOwn⟩,
    unnamed⟩ := found
  refine ⟨draft, drafted, root, rootMem, place, ?_, exposed, spelled,
    ⟨root, rootMem, argument, argumentWithin, argumentKind, isArgument, same⟩, ?_⟩
  · refine ⟨exposed.within, isName, notBound, notArgument, ?_, ?_, ?_, ?_⟩ <;> rw [spelled]
    · decide
    · decide
    · simpa using notOwn
    · intro other otherMem binder binderWithin binderKind bound same
      simpa [binderKind, bound, same] using free other otherMem binder binderWithin
  · rintro line column ⟨reference, member, sameName, _⟩
    exact unnamed reference member sameName

end ScopeAtlas.Reading
