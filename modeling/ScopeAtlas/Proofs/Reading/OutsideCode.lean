import ScopeAtlas.Extraction.Extractor
import ScopeAtlas.Proofs.Extraction.Stretches

/-!
# Code outside the constructs of a file

What a reading of a language drafts is never a stretch of code, so the kind of a scope tells the
stretches of a file from its constructs.  Every top-level node of code holds the beginning of a
construct or lies in exactly one stretch, with one exception: a construct that begins beside a node,
on a row that the node has a part in, hides it.  A node that takes the line end in with it, as the
directives of C do, has a part in the row below.
-/

namespace ScopeAtlas.Reading

open ScopeAtlas.Extraction ScopeAtlas.Language ScopeAtlas.Syntax

/-! ## Constructs -/

/-- The draft is of a construct of the language. -/
def IsConstruct (draft : Draft) : Prop := draft.kind ≠ .moduleCode

/-- A construct whose kind depends on a condition. -/
theorem ite_ne_moduleCode {condition : Prop} [Decidable condition] {first second : ScopeKind}
    (inFirst : first ≠ .moduleCode) (inSecond : second ≠ .moduleCode) :
    (if condition then first else second) ≠ .moduleCode := by
  split
  · exact inFirst
  · exact inSecond

namespace EcmaScript

theorem everyDraft_declaratorSteps_construct (ctx : Context) (declaration : Cursor) (count : Nat)
    (keyword : String) (depth : Nat) (parent : Option String) (declarator : Cursor) :
    EveryDraft IsConstruct
      (declaratorSteps ctx declaration count keyword depth parent declarator) := by
  simp only [declaratorSteps]
  split
  · exact everyDraft_nil
  · split
    · simp [functionSteps, IsConstruct]
    · split <;> cases declarator.childByField? "value" <;>
        simp [variableDraft, IsConstruct, ite_ne_moduleCode]

theorem strategy_constructs (ctx : Context) : strategy.Drafts ctx IsConstruct := by
  intro construct reading chosen place depth parent
  simp only [strategy] at chosen
  split at chosen <;> try obtain rfl := Option.some.inj chosen
  all_goals try rw [stepsOf_always]
  · simp [readClass, IsConstruct]
  · simp [readInterface, IsConstruct]
  · simp [readFunction, functionSteps, IsConstruct]
  · simp [readMethod, functionSteps, IsConstruct]
  · simp [readEnum, IsConstruct]
  · simp [readTypeAlias, IsConstruct]
  · simp [readNamespace, IsConstruct]
  · simp [readVariables, everyDraft_declaratorSteps_construct]
  · contradiction

end EcmaScript

namespace Python

theorem everyDraft_functionSteps_construct (decorators : List Decorator) (ctx : Context)
    (place : Cursor) (depth : Nat) (parent : Option String) :
    EveryDraft IsConstruct (functionSteps decorators ctx place depth parent) := by
  simp [functionSteps, IsConstruct, ite_ne_moduleCode]

theorem everyDraft_classSteps_construct (decorators : List Decorator) (ctx : Context)
    (place : Cursor) (depth : Nat) (parent : Option String) :
    EveryDraft IsConstruct (classSteps decorators ctx place depth parent) := by
  simp [classSteps, IsConstruct, ite_ne_moduleCode]

theorem strategy_constructs (ctx : Context) : strategy.Drafts ctx IsConstruct := by
  intro construct reading chosen place depth parent
  simp only [strategy] at chosen
  split at chosen <;> try obtain rfl := Option.some.inj chosen
  all_goals try rw [stepsOf_always]
  · exact everyDraft_classSteps_construct _ ctx place depth parent
  · exact everyDraft_functionSteps_construct _ ctx place depth parent
  · rw [readDecorated]
    split
    · exact everyDraft_enterChildren place depth parent
    · split
      · exact everyDraft_classSteps_construct _ ctx _ depth parent
      · exact everyDraft_functionSteps_construct _ ctx _ depth parent
  · rw [readStatement]
    repeat' split
    all_goals simp [lambdaDraft, bindingDraft, IsConstruct, ite_ne_moduleCode]
  · contradiction

end Python

namespace Go

theorem strategy_constructs (ctx : Context) : strategy.Drafts ctx IsConstruct := by
  intro construct reading chosen place depth parent
  simp only [strategy] at chosen
  split at chosen <;> try obtain rfl := Option.some.inj chosen
  all_goals try rw [stepsOf_always]
  · simp [readFunction, IsConstruct]
  · simp [readMethod, IsConstruct]
  · simp only [readTypes, everyDraft_map, everyDraft_scope_cons, everyDraft_nil, and_true]
    intro spec _
    simp only [IsConstruct, typeDraft, typeBody]
    split <;> exact ScopeKind.noConfusion
  · rw [readBindings]
    split
    · exact everyDraft_nil
    · simp [bindingDraft, IsConstruct, ite_ne_moduleCode]
  · contradiction

end Go

namespace Rust

theorem strategy_constructs (ctx : Context) : strategy.Drafts ctx IsConstruct := by
  intro construct reading chosen place depth parent
  simp only [strategy] at chosen
  split at chosen <;> try obtain rfl := Option.some.inj chosen
  all_goals try rw [stepsOf_always]
  · simp [readStruct, IsConstruct]
  · simp [readTrait, IsConstruct]
  · simp [readImplementation, IsConstruct]
  · simp [readFunction, IsConstruct, ite_ne_moduleCode]
  · simp [readEnum, IsConstruct]
  · simp [readTypeAlias, IsConstruct]
  · simp [readModule, IsConstruct]
  · rw [readConstant]
    split <;> simp [IsConstruct, ite_ne_moduleCode]
  · contradiction

end Rust

namespace CSharp

theorem everyDraft_unitSteps_construct (ctx : Context) (depth : Nat) (parent : Option String)
    (places : List Cursor) : EveryDraft IsConstruct (unitSteps ctx depth parent places) := by
  induction places with
  | nil => exact everyDraft_nil
  | cons place rest ih =>
      rw [unitSteps]
      split
      · simp [namespaceSteps, IsConstruct]
      · simp [ih]

theorem everyDraft_readType_construct (ctx : Context) (place : Cursor) (depth : Nat)
    (parent : Option String) :
    EveryDraft IsConstruct (stepsOf (readType ctx place depth parent)) := by
  rw [readType]
  split <;> simp [typeSteps, IsConstruct, ite_ne_moduleCode]

theorem strategy_constructs (ctx : Context) : strategy.Drafts ctx IsConstruct := by
  intro construct reading chosen place depth parent
  simp only [strategy] at chosen
  split at chosen <;> try obtain rfl := Option.some.inj chosen
  all_goals try rw [stepsOf_always]
  · exact everyDraft_unitSteps_construct ctx depth parent place.children
  · simp [readNamespace, namespaceSteps, IsConstruct]
  · exact everyDraft_readType_construct ctx place depth parent
  · exact everyDraft_readType_construct ctx place depth parent
  · simp [readEnum, IsConstruct]
  · simp [readMethod, IsConstruct]
  · simp [readLocalFunction, IsConstruct]
  · simp [readDelegate, IsConstruct]
  · contradiction

end CSharp

namespace CFamily

theorem everyDraft_functionSteps_construct (ctx : Context) (place scopePlace : Cursor)
    (generics : List GenericParameter) (depth : Nat) (parent : Option String) :
    EveryDraft IsConstruct (functionSteps ctx place scopePlace generics depth parent) := by
  unfold functionSteps
  extract_lets declarator function name
  split
  · exact everyDraft_enterChildren place depth parent
  · rw [everyDraft_scope_cons]
    refine ⟨?_, everyDraft_enterBody _ _ _⟩
    simp only [IsConstruct]
    exact ite_ne_moduleCode ScopeKind.noConfusion ScopeKind.noConfusion

theorem everyDraft_recordSteps_construct (ctx : Context) (place scopePlace : Cursor)
    (given : GivenName) (generics : List GenericParameter) (depth : Nat)
    (parent : Option String) :
    EveryDraft IsConstruct
      (stepsOf (recordSteps ctx place scopePlace given generics depth parent)) := by
  rw [recordSteps]
  repeat' split
  all_goals simp [bodySteps, IsConstruct]

theorem everyDraft_typeSteps_construct (ctx : Context) (place scopePlace : Cursor)
    (given : GivenName) (depth : Nat) (parent : Option String) :
    EveryDraft IsConstruct (stepsOf (typeSteps ctx place scopePlace given depth parent)) := by
  rw [typeSteps]
  split
  · rw [stepsOf_ok, enumSteps]
    split <;> simp [IsConstruct]
  · exact everyDraft_recordSteps_construct ctx place scopePlace given [] depth parent

theorem everyDraft_usingSteps_construct (ctx : Context) (place scopePlace : Cursor)
    (generics : List GenericParameter) (depth : Nat) (parent : Option String) :
    EveryDraft IsConstruct (usingSteps ctx place scopePlace generics depth parent) := by
  simp [usingSteps, IsConstruct]

theorem everyDraft_readTypeDefinition_construct (ctx : Context) (place : Cursor) (depth : Nat)
    (parent : Option String) :
    EveryDraft IsConstruct (stepsOf (readTypeDefinition ctx place depth parent)) := by
  simp only [readTypeDefinition]
  split
  · split
    · exact everyDraft_typeSteps_construct ctx _ place _ depth parent
    · refine of_stepsOf_map_append (EveryDraft _) everyDraft_nil ?_
      split <;> simp [everyDraft_typeSteps_construct, IsConstruct]
  · repeat' split
    all_goals simp [IsConstruct]

theorem isConstruct_variableDraft (ctx : Context) (place declaration declarator : Cursor)
    (type : Option Cursor) (qualifiers : List String) (depth : Nat) (parent : Option String) :
    IsConstruct (variableDraft ctx place declaration declarator type qualifiers depth parent) :=
  ite_ne_moduleCode ScopeKind.noConfusion ScopeKind.noConfusion

theorem everyDraft_readDeclaration_construct (ctx : Context) (place : Cursor) (depth : Nat)
    (parent : Option String) :
    EveryDraft IsConstruct (stepsOf (readDeclaration ctx place depth parent)) := by
  unfold readDeclaration
  extract_lets type defined declarators qualifiers named
  have types : EveryDraft IsConstruct (stepsOf defined) := by
    simp only [defined]
    split <;> simp [everyDraft_typeSteps_construct]
  split
  · exact types
  · refine of_stepsOf_map_append (EveryDraft _) everyDraft_nil ?_
    simpa [isConstruct_variableDraft] using types

theorem everyDraft_readTemplate_construct (ctx : Context) (place : Cursor) (depth : Nat)
    (parent : Option String) :
    EveryDraft IsConstruct (stepsOf (readTemplate ctx place depth parent)) := by
  simp only [readTemplate]
  repeat' split
  all_goals simp [everyDraft_functionSteps_construct, everyDraft_recordSteps_construct,
    everyDraft_usingSteps_construct]

theorem cStrategy_constructs (ctx : Context) : cStrategy.Drafts ctx IsConstruct := by
  intro construct reading chosen place depth parent
  simp only [cStrategy, commonReading?] at chosen
  split at chosen <;> try obtain rfl := Option.some.inj chosen
  all_goals try rw [stepsOf_always]
  · exact everyDraft_functionSteps_construct ctx place place [] depth parent
  · exact everyDraft_typeSteps_construct ctx place place none depth parent
  · exact everyDraft_typeSteps_construct ctx place place none depth parent
  · rw [readAlias]
    split
    · exact everyDraft_usingSteps_construct ctx place place [] depth parent
    · exact everyDraft_readTypeDefinition_construct ctx place depth parent
  · exact everyDraft_readDeclaration_construct ctx place depth parent
  · simp [readMacro, IsConstruct, ite_ne_moduleCode]
  · contradiction

theorem cppStrategy_constructs (ctx : Context) : cppStrategy.Drafts ctx IsConstruct := by
  intro construct reading chosen place depth parent
  simp only [cppStrategy] at chosen
  split at chosen
  · obtain rfl := Option.some.inj chosen
    simp [readNamespace, IsConstruct]
  · obtain rfl := Option.some.inj chosen
    exact everyDraft_readTemplate_construct ctx place depth parent
  · exact cStrategy_constructs ctx _ reading chosen place depth parent

end CFamily

/-- In every language what a reading drafts is a construct. -/
theorem strategyOf_constructs (family : Family) (ctx : Context) :
    (strategyOf family).Drafts ctx IsConstruct := by
  cases family with
  | typescript => exact EcmaScript.strategy_constructs ctx
  | python => exact Python.strategy_constructs ctx
  | rust => exact Rust.strategy_constructs ctx
  | go => exact Go.strategy_constructs ctx
  | c => exact CFamily.cStrategy_constructs ctx
  | cpp => exact CFamily.cppStrategy_constructs ctx
  | csharp => exact CSharp.strategy_constructs ctx

/-! ## The stretches of a file -/

/-- The scopes of a file are told apart by their kind into stretches and constructs. -/
theorem filter_kind_scopes {constructs stretches : List Draft} {complete : Draft → Scope}
    (kindOf : ∀ draft, (complete draft).kind = draft.kind)
    (areConstructs : ∀ draft ∈ constructs, IsConstruct draft)
    (areStretches : ∀ draft ∈ stretches, draft.kind = .moduleCode) :
    (constructs.map complete ++ stretches.map complete).filter (·.kind == .moduleCode) =
        stretches.map complete ∧
      (constructs.map complete ++ stretches.map complete).filter (·.kind != .moduleCode) =
        constructs.map complete := by
  have first : ∀ scope ∈ constructs.map complete, scope.kind ≠ .moduleCode := by
    rw [List.forall_mem_map]
    intro draft member
    rw [kindOf]
    exact areConstructs draft member
  have second : ∀ scope ∈ stretches.map complete, scope.kind = .moduleCode := by
    rw [List.forall_mem_map]
    intro draft member
    rw [kindOf]
    exact areStretches draft member
  constructor
  · rw [List.filter_append, List.filter_eq_nil_iff.mpr, List.filter_eq_self.mpr, List.nil_append]
    · simpa using second
    · simpa using first
  · rw [List.filter_append, List.filter_eq_self.mpr, List.filter_eq_nil_iff.mpr, List.append_nil]
    · simpa using second
    · simpa using first

/-- The scopes of a file are its constructs and its stretches of code outside them.  A top-level node
that is neither an import nor a comment holds the beginning of a construct or lies in exactly one
stretch, unless it is overshadowed.  The stretches share no byte, follow each other in the text and
in the list of scopes, begin and end on such nodes and are numbered from one. -/
theorem outside_code_in_one_stretch_unless_overshadowed (profile : Profile) (stack : StackLimit)
    (filePath language : String) (bytes : ByteArray) (tree : Node) :
    let strategy := strategyOf profile.family
    let root := Cursor.root tree
    let ctx := prepare profile strategy stack filePath bytes root
    let constructs := constructDrafts strategy ctx root
    let stretches := outsideDrafts ctx constructs root
    let complete := fun draft : Draft => draft.complete ctx strategy.packageName
    let scopes := (analyze profile strategy stack true filePath language bytes tree).scopes
    Sequential root.namedChildren →
      (scopes.filter (·.kind == .moduleCode) = stretches.map complete ∧
        (scopes.filter (·.kind != .moduleCode)).Perm (constructs.map complete)) ∧
      (∀ place ∈ root.namedChildren, IsCode profile.nodes place →
        ((∃ draft ∈ constructs, draft.BeginsIn place) ∨
            (∃! draft, draft ∈ stretches ∧ draft.Spans place) ↔
          ¬Overshadowed ctx constructs place)) ∧
      stretches.Pairwise (fun a b => a.range.2 < b.range.1) ∧
      (∀ draft ∈ stretches, ∀ place ∈ [draft.place, draft.lastPlace],
        place ∈ root.namedChildren ∧ IsCode profile.nodes place) ∧
      stretches.map (·.name) =
        (List.range' 1 stretches.length).map fun number => "file_scope_" ++ twoDigits number := by
  intro strategy root ctx constructs stretches complete scopes sequential
  have areConstructs : ∀ draft ∈ constructs, IsConstruct draft := by
    intro draft member
    obtain ⟨place, depth, parent, _, made⟩ := mem_constructDrafts member
    exact everyDraft_stepsAt (strategyOf_constructs profile.family ctx) place depth parent draft made
  have areStretches : ∀ draft ∈ stretches, draft.kind = .moduleCode := by
    intro draft member
    obtain ⟨_, _, _, _, rfl⟩ := exists_stretch_of_mem_moduleDrafts member
    rfl
  have completed : scopes = sortScopes (constructs.map complete ++ stretches.map complete) := by
    rw [← List.map_append]
    exact scopes_analyze profile strategy stack true filePath language bytes tree
  have kindOf : ∀ draft, (complete draft).kind = draft.kind := fun _ => rfl
  obtain ⟨onlyStretches, onlyConstructs⟩ :=
    filter_kind_scopes kindOf areConstructs areStretches
  refine ⟨⟨?_, ?_⟩, ?_, pairwise_range_outsideDrafts sequential, ?_,
    map_name_outsideDrafts ctx constructs root⟩
  · rw [completed]
    refine filter_sortScopes onlyStretches (List.pairwise_map.mpr ?_)
    refine (pairwise_startRow_outsideDrafts sequential).imp ?_
    intro a b rows
    exact Int.add_lt_add_right (Int.ofNat_lt.mpr rows) 1
  · rw [completed, sortScopes]
    exact ((List.mergeSort_perm _ _).filter _).trans (.of_eq onlyConstructs)
  · intro place member code
    rw [existsUnique_spanning_iff sequential member code, Overshadowed, ← coversRow_startRows_iff]
    constructor
    · rintro (⟨draft, draftMem, begins⟩ | uncovered) ⟨isCovered, none⟩
      · exact none draft draftMem begins
      · rw [uncovered] at isCovered
        contradiction
    · intro notOvershadowed
      by_cases isCovered : coversRow ctx.source (startRows ctx constructs) place = true
      · left
        by_contra none
        push Not at none
        exact notOvershadowed ⟨isCovered, none⟩
      · exact Or.inr (Bool.eq_false_iff.mpr isCovered)
  · intro draft member
    exact code_of_mem_outsideDrafts member

/-- The text of a file whose code stands around a function. -/
def surroundedText : ByteArray := "start();\nfunction helper() \x7b\x7d\nfinish(); // done\n".toUTF8

/-- The tree of the file. -/
def surroundedTree : Node :=
  let node (index : Nat) (kind : String) (field : Option String) (start stop : Nat)
      (children : List Node) : Node :=
    .mk { index, kind, field, isNamed := true, isMissing := false, startByte := start,
          endByte := stop } children
  let call (index start stop : Nat) : Node :=
    node index "expression_statement" none start (stop + 1)
      [node (index + 1) "call_expression" none start stop
        [node (index + 2) "identifier" (some "function") start (stop - 2) []]]
  let function := node 4 "function_declaration" none 9 29
    [node 5 "identifier" (some "name") 18 24 [],
      node 6 "statement_block" (some "body") 27 29 []]
  node 0 "program" none 0 48
    [call 1 0 7, function, call 7 30 38, node 10 "comment" none 40 47 []]

theorem surrounding_code_in_two_stretches :
    Sequential (Cursor.root surroundedTree).namedChildren ∧
      (outsideDrafts
          (prepare typescript EcmaScript.strategy .unlimited "m.ts" surroundedText
            (Cursor.root surroundedTree))
          (constructDrafts EcmaScript.strategy
            (prepare typescript EcmaScript.strategy .unlimited "m.ts" surroundedText
              (Cursor.root surroundedTree)) (Cursor.root surroundedTree))
          (Cursor.root surroundedTree)).map (·.name) = ["file_scope_01", "file_scope_02"] := by
  have sequential : Sequential (Cursor.root surroundedTree).namedChildren := by decide +kernel
  refine ⟨sequential, ?_⟩
  have numbered := (outside_code_in_one_stretch_unless_overshadowed typescript .unlimited "m.ts"
    "typescript" surroundedText surroundedTree sequential).2.2.2.2
  refine numbered.trans ?_
  decide +kernel

/-- The text of a file with a call and a function on one line. -/
def sharedRowText : ByteArray := "start(); function helper() \x7b\x7d\n".toUTF8

/-- The tree of the file. -/
def sharedRowTree : Node :=
  let node (index : Nat) (kind : String) (field : Option String) (start stop : Nat)
      (children : List Node) : Node :=
    .mk { index, kind, field, isNamed := true, isMissing := false, startByte := start,
          endByte := stop } children
  let function := node 4 "function_declaration" none 9 29
    [node 5 "identifier" (some "name") 18 24 [],
      node 6 "statement_block" (some "body") 27 29 []]
  node 0 "program" none 0 30
    [node 1 "expression_statement" none 0 8
      [node 2 "call_expression" none 0 7 [node 3 "identifier" (some "function") 0 5 []]], function]

/-- The text of a file with a directive on the line above a function. -/
def directiveText : ByteArray := "#pragma once\nint f(void) \x7b\x7d\n".toUTF8

/-- The tree of the file.  The directive ends with its line, at the beginning of the next one. -/
def directiveTree : Node :=
  let node (index : Nat) (kind : String) (field : Option String) (start stop : Nat)
      (children : List Node) : Node :=
    .mk { index, kind, field, isNamed := true, isMissing := false, startByte := start,
          endByte := stop } children
  let function := node 3 "function_definition" none 13 27
    [node 4 "primitive_type" (some "type") 13 16 [],
      node 5 "function_declarator" (some "declarator") 17 24
        [node 6 "identifier" (some "declarator") 17 18 [],
          node 7 "parameter_list" (some "parameters") 18 24 []],
      node 8 "compound_statement" (some "body") 25 27 []]
  node 0 "translation_unit" none 0 28
    [node 1 "preproc_call" none 0 13 [node 2 "preproc_directive" (some "directive") 0 7 []], function]

/-- A call beside a function, and a directive above one, neither hold the beginning of a construct
nor lie in a stretch. -/
theorem code_on_row_of_construct_escapes :
    (let root := Cursor.root sharedRowTree
      let ctx := prepare typescript EcmaScript.strategy .unlimited "m.ts" sharedRowText root
      let constructs := constructDrafts EcmaScript.strategy ctx root
      Sequential root.namedChildren ∧
        ∃ place ∈ root.namedChildren, place.kind = "expression_statement" ∧
          IsCode ctx.nodes place ∧ (∀ draft ∈ constructs, ¬draft.BeginsIn place) ∧
          ∀ draft ∈ outsideDrafts ctx constructs root, ¬draft.Spans place) ∧
    (let root := Cursor.root directiveTree
      let ctx := prepare c CFamily.cStrategy .unlimited "f.h" directiveText root
      let constructs := constructDrafts CFamily.cStrategy ctx root
      Sequential root.namedChildren ∧
        ∃ place ∈ root.namedChildren, place.kind = "preproc_call" ∧
          IsCode ctx.nodes place ∧ (∀ draft ∈ constructs, ¬draft.BeginsIn place) ∧
          ∀ draft ∈ outsideDrafts ctx constructs root, ¬draft.Spans place) := by
  decide +kernel

end ScopeAtlas.Reading
