import ScopeAtlas.Proofs.Extraction.Problems
import ScopeAtlas.Proofs.Reading.Containment
import ScopeAtlas.Proofs.Reading.Totality

/-!
# Issues of a file

Every reading enters children of nodes at or below its construct and nothing else, and none of them
fails, so a tree for which the call stack has room is walked to its end, whatever is missing in it.
What is then reported of a file is what is wrong with its tree, and what is reported of a scope is
what of this lies within it.
-/

namespace ScopeAtlas.Reading

open ScopeAtlas.Extraction ScopeAtlas.Language ScopeAtlas.Syntax

/-! ## Where readings go -/

theorem entersBelow_childByField? (place : Cursor) (field : String) (depth : Nat)
    (parent : Option String) :
    EntersBelow place (enterBody (place.childByField? field) depth parent) :=
  entersBelow_enterBody (fun _ found => Cursor.within_of_childByField? found) depth parent

namespace EcmaScript

theorem entersBelow_functionSteps (ctx : Context) {place function : Cursor} (name : String)
    (nameNode : Option Cursor) (depth : Nat) (parent keyword : Option String)
    (inside : place.Within function) :
    EntersBelow place (functionSteps ctx place function name nameNode depth parent keyword) := by
  simpa [functionSteps] using (entersBelow_childByField? function "body" _ _).widen inside

/-- A declarator enters its value or the body of its function. -/
theorem entersBelow_declaratorSteps (ctx : Context) (declaration : Cursor) (count : Nat)
    (keyword : String) (depth : Nat) (parent : Option String) (declarator : Cursor) :
    EntersBelow declarator
      (declaratorSteps ctx declaration count keyword depth parent declarator) := by
  have entered (depth : Nat) (parent : Option String) : EntersBelow declarator
      ((declarator.childByField? "value").map fun value =>
        Step.enter value depth parent).toList := by
    intro step member
    obtain ⟨value, found, rfl⟩ := Option.map_eq_some_iff.mp (Option.mem_toList.mp member)
    exact ⟨declarator, Cursor.Within.refl declarator, Cursor.mem_children_of_childByField? found⟩
  simp only [declaratorSteps]
  split
  · exact entersBelow_nil
  · split
    · rename_i function chosen
      obtain ⟨found, _⟩ := Option.filter_eq_some_iff.mp chosen
      exact entersBelow_functionSteps ctx _ _ _ _ _ (Cursor.within_of_childByField? found)
    · split
      · exact (entersBelow_scope_cons _ _).mpr (entered _ _)
      · exact entered _ _

theorem entersBelow_readVariables (ctx : Context) (place : Cursor) (depth : Nat)
    (parent : Option String) : EntersBelow place (readVariables ctx place depth parent) := by
  simp only [readVariables, entersBelow_flatMap]
  intro declarator member
  have isChild := Cursor.mem_children_of_mem_namedChildren (List.mem_of_mem_filter member)
  exact (entersBelow_declaratorSteps ctx place _ _ depth parent declarator).widen
    (Cursor.within_of_mem_children isChild)

theorem strategy_entersBelow (ctx : Context) : strategy.EntersBelow ctx := by
  intro construct reading chosen place depth parent
  simp only [strategy] at chosen
  split at chosen <;> try obtain rfl := Option.some.inj chosen
  · simp [readClass, entersBelow_childByField?]
  · simp [readInterface]
  · exact entersBelow_functionSteps ctx _ _ _ _ _ (Cursor.Within.refl place)
  · exact entersBelow_functionSteps ctx _ _ _ _ _ (Cursor.Within.refl place)
  · simp [readEnum]
  · simp [readTypeAlias]
  · simp [readNamespace, entersBelow_childByField?]
  · exact entersBelow_readVariables ctx place depth parent
  · contradiction

end EcmaScript

namespace Python

theorem entersBelow_functionSteps (decorators : List Decorator) (ctx : Context) (place : Cursor)
    (depth : Nat) (parent : Option String) :
    EntersBelow place (functionSteps decorators ctx place depth parent) := by
  simp [functionSteps, entersBelow_childByField?]

theorem entersBelow_classSteps (decorators : List Decorator) (ctx : Context) (place : Cursor)
    (depth : Nat) (parent : Option String) :
    EntersBelow place (classSteps decorators ctx place depth parent) := by
  simp [classSteps, entersBelow_childByField?]

theorem entersBelow_readStatement (ctx : Context) (place : Cursor) (depth : Nat)
    (parent : Option String) : EntersBelow place (readStatement ctx place depth parent) := by
  rw [readStatement]
  repeat' split
  all_goals simp

theorem strategy_entersBelow (ctx : Context) : strategy.EntersBelow ctx := by
  intro construct reading chosen place depth parent
  simp only [strategy] at chosen
  split at chosen <;> try obtain rfl := Option.some.inj chosen
  · exact entersBelow_classSteps _ ctx place depth parent
  · exact entersBelow_functionSteps _ ctx place depth parent
  · rw [stepsOf_always, readDecorated]
    split
    · exact entersBelow_enterChildren (Cursor.Within.refl place) depth parent
    · rename_i definition found
      have inside := Cursor.within_of_childByField? found
      split
      · exact (entersBelow_classSteps _ ctx definition depth parent).widen inside
      · exact (entersBelow_functionSteps _ ctx definition depth parent).widen inside
  · exact entersBelow_readStatement ctx place depth parent
  · contradiction

end Python

namespace Rust

theorem strategy_entersBelow (ctx : Context) : strategy.EntersBelow ctx := by
  intro construct reading chosen place depth parent
  simp only [strategy] at chosen
  split at chosen <;> try obtain rfl := Option.some.inj chosen
  · simp [readStruct]
  · simp [readTrait, entersBelow_childByField?]
  · simp [readImplementation, entersBelow_childByField?]
  · simp [readFunction, entersBelow_childByField?]
  · simp [readEnum]
  · simp [readTypeAlias]
  · simp [readModule, entersBelow_childByField?]
  · rw [stepsOf_always, readConstant]
    split <;> simp
  · contradiction

end Rust

namespace Go

theorem entersBelow_readBindings (ctx : Context) (place : Cursor) (depth : Nat)
    (parent : Option String) : EntersBelow place (readBindings ctx place depth parent) := by
  simp only [readBindings]
  split <;> simp

theorem strategy_entersBelow (ctx : Context) : strategy.EntersBelow ctx := by
  intro construct reading chosen place depth parent
  simp only [strategy] at chosen
  split at chosen <;> try obtain rfl := Option.some.inj chosen
  · simp [readFunction, entersBelow_childByField?]
  · simp [readMethod, entersBelow_childByField?]
  · simp [readTypes]
  · exact entersBelow_readBindings ctx place depth parent
  · contradiction

end Go

namespace CSharp

theorem entersBelow_namespaceSteps (extent : List Cursor) (ctx : Context) (place : Cursor)
    (depth : Nat) (parent : Option String) :
    EntersBelow place (namespaceSteps extent ctx place depth parent) := by
  have inBody (body : Cursor) (inside : place.Within body) (keep : Cursor → Bool) (depth : Nat)
      (parent : Option String) : EntersBelow place
        ((body.children.filter keep).map fun child => Step.enter child depth parent) :=
    entersBelow_map_enter inside List.filter_sublist.subset
  cases found : place.childByField? "body" with
  | some body =>
      simp only [namespaceSteps, found, entersBelow_scope_cons]
      exact inBody body (Cursor.within_of_childByField? found) _ _ _
  | none =>
      simp only [namespaceSteps, found, entersBelow_scope_cons]
      cases fileScoped : place.kind == "file_scoped_namespace_declaration" with
      | true => exact inBody place (Cursor.Within.refl place) _ _ _
      | false => exact entersBelow_nil

theorem entersBelow_unitSteps (ctx : Context) (depth : Nat) (parent : Option String)
    {place : Cursor} {nodes : List Cursor} (areChildren : nodes ⊆ place.children) :
    EntersBelow place (unitSteps ctx depth parent nodes) := by
  induction nodes with
  | nil => exact entersBelow_nil
  | cons child rest ih =>
      obtain ⟨isChild, restChildren⟩ := List.cons_subset.mp areChildren
      rw [unitSteps]
      split
      · rw [entersBelow_append]
        refine ⟨(entersBelow_namespaceSteps _ ctx child depth parent).widen
          (Cursor.within_of_mem_children isChild), ?_⟩
        exact entersBelow_map_enter (Cursor.Within.refl place)
          (List.Subset.trans List.filter_sublist.subset restChildren)
      · have entered : EntersBelow place ([child].map fun child => .enter child depth parent) :=
          entersBelow_map_enter (Cursor.Within.refl place) (by simpa using isChild)
        rw [← List.singleton_append, entersBelow_append]
        exact ⟨entered, ih restChildren⟩

theorem entersBelow_readType (ctx : Context) (place : Cursor) (depth : Nat)
    (parent : Option String) :
    EntersBelow place (stepsOf (readType ctx place depth parent)) := by
  rw [readType]
  split <;> simp [typeSteps, entersBelow_childByField?]

theorem strategy_entersBelow (ctx : Context) : strategy.EntersBelow ctx := by
  intro construct reading chosen place depth parent
  simp only [strategy] at chosen
  split at chosen <;> try obtain rfl := Option.some.inj chosen
  · exact entersBelow_unitSteps ctx depth parent (List.Subset.refl _)
  · exact entersBelow_namespaceSteps [] ctx place depth parent
  · exact entersBelow_readType ctx place depth parent
  · exact entersBelow_readType ctx place depth parent
  · simp [readEnum]
  · simp [readMethod, entersBelow_childByField?]
  · simp [readLocalFunction, entersBelow_childByField?]
  · simp [readDelegate]
  · contradiction

end CSharp

namespace CFamily

variable {place scopePlace : Cursor}

theorem entersBelow_functionSteps (ctx : Context) (place scopePlace : Cursor)
    (generics : List GenericParameter) (depth : Nat) (parent : Option String) :
    EntersBelow place (functionSteps ctx place scopePlace generics depth parent) := by
  unfold functionSteps
  extract_lets declarator function name
  split
  · exact entersBelow_enterChildren (Cursor.Within.refl place) _ _
  · simp [entersBelow_childByField?]

theorem entersBelow_recordSteps (ctx : Context) (place scopePlace : Cursor) (given : GivenName)
    (generics : List GenericParameter) (depth : Nat) (parent : Option String) :
    EntersBelow place
      (stepsOf (recordSteps ctx place scopePlace given generics depth parent)) := by
  rw [recordSteps]
  split
  · exact entersBelow_nil
  · rename_i body found
    split
    · simpa [bodySteps] using entersBelow_enterChildren (Cursor.within_of_childByField? found) _ _
    · exact entersBelow_nil

theorem entersBelow_typeSteps (ctx : Context) (place scopePlace : Cursor) (given : GivenName)
    (depth : Nat) (parent : Option String) :
    EntersBelow place (stepsOf (typeSteps ctx place scopePlace given depth parent)) := by
  rw [typeSteps]
  split
  · rw [stepsOf_ok, enumSteps]
    split <;> simp
  · exact entersBelow_recordSteps ctx place scopePlace given [] depth parent

theorem entersBelow_readTypeDefinition (ctx : Context) (place : Cursor) (depth : Nat)
    (parent : Option String) :
    EntersBelow place (stepsOf (readTypeDefinition ctx place depth parent)) := by
  simp only [readTypeDefinition]
  split
  · rename_i specifier chosen
    obtain ⟨found, _⟩ := Option.filter_eq_some_iff.mp chosen
    have inside := Cursor.within_of_childByField? found
    split
    · exact (entersBelow_typeSteps ctx specifier place _ depth parent).widen inside
    · refine of_stepsOf_map_append (EntersBelow place) entersBelow_nil
        ((entersBelow_append _ _).mpr ⟨?_, ?_⟩)
      · exact (entersBelow_typeSteps ctx specifier specifier none depth parent).widen inside
      · split <;> simp
  · repeat' split
    all_goals simp

theorem entersBelow_readDeclaration (ctx : Context) (place : Cursor) (depth : Nat)
    (parent : Option String) :
    EntersBelow place (stepsOf (readDeclaration ctx place depth parent)) := by
  unfold readDeclaration
  extract_lets type defined declarators qualifiers named
  have definedBelow : EntersBelow place (stepsOf defined) := by
    simp only [defined]
    split
    · rename_i specifier chosen
      obtain ⟨found, _⟩ := Option.filter_eq_some_iff.mp chosen
      exact (entersBelow_typeSteps ctx specifier specifier none depth parent).widen
        (Cursor.within_of_childByField? found)
    · exact entersBelow_nil
  split
  · exact definedBelow
  · refine of_stepsOf_map_append (EntersBelow place) entersBelow_nil ?_
    simpa using definedBelow

theorem entersBelow_readTemplate (ctx : Context) (place : Cursor) (depth : Nat)
    (parent : Option String) :
    EntersBelow place (stepsOf (readTemplate ctx place depth parent)) := by
  simp only [readTemplate]
  split
  · exact entersBelow_nil
  · rename_i templated found
    have isNamed := List.mem_reverse.mp (List.mem_of_find?_eq_some found)
    have isChild := Cursor.mem_children_of_mem_namedChildren isNamed
    have inside := Cursor.within_of_mem_children isChild
    split
    · exact (entersBelow_functionSteps ctx templated place _ depth parent).widen inside
    · split
      · exact (entersBelow_recordSteps ctx templated place none _ depth parent).widen inside
      · split
        · simp [usingSteps]
        · split
          · split
            · rename_i type chosen
              obtain ⟨isType, _⟩ := Option.filter_eq_some_iff.mp chosen
              exact (entersBelow_recordSteps ctx type place none _ depth parent).widen
                (inside.trans (Cursor.within_of_childByField? isType))
            · exact entersBelow_nil
          · have entered : EntersBelow place
                ([templated].map fun child => .enter child depth parent) :=
              entersBelow_map_enter (Cursor.Within.refl place) (by simpa using isChild)
            exact entered

theorem cStrategy_entersBelow (ctx : Context) : cStrategy.EntersBelow ctx := by
  intro construct reading chosen place depth parent
  simp only [cStrategy, commonReading?] at chosen
  split at chosen <;> try obtain rfl := Option.some.inj chosen
  · exact entersBelow_functionSteps ctx place place [] depth parent
  · exact entersBelow_typeSteps ctx place place none depth parent
  · exact entersBelow_typeSteps ctx place place none depth parent
  · rw [readAlias]
    split
    · simp [usingSteps]
    · exact entersBelow_readTypeDefinition ctx place depth parent
  · exact entersBelow_readDeclaration ctx place depth parent
  · simp [readMacro]
  · contradiction

theorem cppStrategy_entersBelow (ctx : Context) : cppStrategy.EntersBelow ctx := by
  intro construct reading chosen place depth parent
  simp only [cppStrategy] at chosen
  split at chosen
  · obtain rfl := Option.some.inj chosen
    simp [readNamespace, entersBelow_childByField?]
  · obtain rfl := Option.some.inj chosen
    exact entersBelow_readTemplate ctx place depth parent
  · exact cStrategy_entersBelow ctx _ reading chosen place depth parent

end CFamily

/-- In every language a reading enters only what lies below its construct. -/
theorem strategyOf_entersBelow (family : Family) (ctx : Context) :
    (strategyOf family).EntersBelow ctx := by
  cases family with
  | typescript => exact EcmaScript.strategy_entersBelow ctx
  | python => exact Python.strategy_entersBelow ctx
  | rust => exact Rust.strategy_entersBelow ctx
  | go => exact Go.strategy_entersBelow ctx
  | c => exact CFamily.cStrategy_entersBelow ctx
  | cpp => exact CFamily.cppStrategy_entersBelow ctx
  | csharp => exact CSharp.strategy_entersBelow ctx

/-! ## Every language -/

/-- Every built-in language has a grammar that can be loaded, knows error nodes by one name, and has
the keywords of its kinds. -/
theorem standard_profile_of_mem_languages {language : String}
    (known : language ∈ Registry.standard.languages) :
    ∃ profile loaded, Registry.standard.profile language = .ok profile ∧
      Registry.standard.load language = .ok loaded ∧ profile.nodes.errors = ["ERROR"] ∧
      KeywordsKnown profile := by
  have all : ∀ language ∈ Registry.standard.profiles.map (·.1),
      ((Registry.standard.profile language).toOption.any fun profile =>
          profile.nodes.errors == ["ERROR"] &&
            profile.nodes.scopes.all fun entry => hasKeyword profile.family entry.1 entry.2) &&
        (Registry.standard.load language).toOption.isSome := by
    decide +kernel
  have checked := all language (List.mem_mergeSort.mp known)
  cases found : Registry.standard.profile language with
  | error fault => simp [found, Except.toOption] at checked
  | ok profile =>
      cases loads : Registry.standard.load language with
      | error fault => simp [loads, Except.toOption] at checked
      | ok loaded =>
          rw [found, loads] at checked
          obtain ⟨tables, _⟩ := Bool.and_eq_true_iff.mp checked
          obtain ⟨errors, keywords⟩ := Bool.and_eq_true_iff.mp tables
          exact ⟨profile, loaded, rfl, rfl, beq_iff_eq.mp errors, List.all_eq_true.mp keywords⟩

/-- The nodes that a parse counts as errors are the error nodes and the missing nodes. -/
theorem errorCount_eq_zero_iff {registry : Registry} {language : String} {tree : Node}
    {summary : ParseSummary} (parsed : summarizeParse registry language tree = .ok summary) :
    summary.errorCount = 0 ↔
      ∀ place ∈ (Cursor.root tree).preorder, place.kind ≠ "ERROR" ∧ place.isMissing = false := by
  rw [summarizeParse] at parsed
  cases found : registry.profile language with
  | error fault =>
      rw [found] at parsed
      contradiction
  | ok profile =>
      cases loads : registry.load language with
      | error fault =>
          rw [found, loads] at parsed
          contradiction
      | ok loaded =>
          rw [found, loads] at parsed
          obtain rfl := Except.ok.inj parsed
          simp

/-- In every language a tree for which the call stack has room is analysed, whatever it consists of:
no construct in it fails to be read, and the analysis is valid exactly if the parse counts no errors.
The issues of the file are one for each outermost error node and for each missing node outside of
them, in the order of the text, and those of a scope are the ones that lie within its span.

The path of the file is a text here.  A file name of the system that is no text cannot be digested,
and with it no scope can be identified. -/
theorem issues_exact_within_stack {language : String}
    (known : language ∈ Registry.standard.languages) (stack : StackLimit)
    (includeModuleScopes : Bool) (path : String) (bytes : ByteArray) {tree : Node}
    (room : ∀ place ∈ (Cursor.root tree).preorder, stack place = none) :
    ∃ profile summary file, Registry.standard.profile language = .ok profile ∧
      summarizeParse .standard language tree = .ok summary ∧
      extractTree .standard stack includeModuleScopes path language bytes tree = .ok file ∧
      (strategyOf profile.family).NeverFails
        (prepare profile (strategyOf profile.family) stack path bytes (.root tree)) ∧
      (file.syntaxValid = true ↔ summary.errorCount = 0) ∧
      ReportsProblems (Source.ofBytes bytes) (.root tree) file := by
  obtain ⟨profile, loaded, found, loads, errors, keywords⟩ := standard_profile_of_mem_languages known
  let strategy := strategyOf profile.family
  let ctx := prepare profile strategy stack path bytes (.root tree)
  have reads : strategy.NeverFails ctx := strategyOf_neverFails ctx keywords
  have lies : ∀ draft ∈ fileDrafts strategy ctx includeModuleScopes (.root tree),
      draft.LiesWithin (.root tree) := fun draft member =>
    (placed_fileDrafts (strategyOf_isNested profile.family ctx) includeModuleScopes draft
      member).lies
  have reports := reportsProblems_analyze strategy stack path bytes tree errors includeModuleScopes
    language (strategyOf_entersBelow profile.family ctx) reads lies room
  have parsed : ∃ summary, summarizeParse .standard language tree = .ok summary := by
    simp [summarizeParse, found, loads, bind, Except.bind, pure, Except.pure]
  obtain ⟨summary, parsed⟩ := parsed
  refine ⟨profile, summary, _, found, parsed, ?_, reads, ?_, reports⟩
  · simp only [extractTree, found, loads, bind, Except.bind, pure, Except.pure]
    rfl
  · rw [reports.valid, errorCount_eq_zero_iff parsed]

/-- The text of a file with an error inside a function and without a bracket after it. -/
def faultyText : ByteArray := "def f():\n    x = )\ny = (1\n".toUTF8

/-- The tree of the file.  What is missing inside the error is no issue of its own. -/
def faultyTree : Node :=
  let node (index : Nat) (kind : String) (field : Option String) (start stop : Nat)
      (children : List Node) : Node :=
    .mk { index, kind, field, isNamed := true, isMissing := start == stop, startByte := start,
          endByte := stop } children
  let function := node 1 "function_definition" none 0 18
    [node 2 "identifier" "name" 4 5 [], node 3 "parameters" "parameters" 5 7 [],
      node 4 "block" "body" 13 18
        [node 5 "identifier" none 13 14 [],
          node 6 "ERROR" none 15 18 [node 7 "identifier" none 17 17 []]]]
  let assignment := node 9 "assignment" none 19 25
    [node 10 "identifier" "left" 19 20 [],
      node 11 "parenthesized_expression" "right" 23 25
        [node 12 "integer" none 24 25 [], node 13 ")" none 25 25 []]]
  node 0 "module" none 0 26 [function, node 8 "expression_statement" none 19 25 [assignment]]

/-- The error and the bracket are issues of the file; what is missing inside the error is none. -/
theorem faulty_file_reported :
    "python" ∈ Registry.standard.languages ∧
      (∀ place ∈ (Cursor.root faultyTree).preorder, StackLimit.ofCalls 1000 place = none) ∧
      ∃ profile summary file, Registry.standard.profile "python" = .ok profile ∧
        summarizeParse .standard "python" faultyTree = .ok summary ∧
        extractTree .standard (.ofCalls 1000) true "f.py" "python" faultyText faultyTree =
          .ok file ∧
        (strategyOf profile.family).NeverFails (prepare profile (strategyOf profile.family)
          (.ofCalls 1000) "f.py" faultyText (.root faultyTree)) ∧
        (file.syntaxValid = true ↔ summary.errorCount = 0) ∧
        ReportsProblems (Source.ofBytes faultyText) (.root faultyTree) file ∧
        file.syntaxIssues = ["Syntax error at line 2:7", "Missing ) at line 3:7"] := by
  have known : "python" ∈ Registry.standard.languages := List.mem_mergeSort.mpr (by decide)
  have room : ∀ place ∈ (Cursor.root faultyTree).preorder,
      StackLimit.ofCalls 1000 place = none := by
    decide +kernel
  have messages : (problemPlaces (.root faultyTree)).map
      (problemMessage (Source.ofBytes faultyText)) =
        ["Syntax error at line 2:7", "Missing ) at line 3:7"] := by
    decide +kernel
  obtain ⟨profile, summary, file, found, parsed, extracted, reads, valid, reports⟩ :=
    issues_exact_within_stack known (.ofCalls 1000) true "f.py" faultyText room
  exact ⟨known, room, profile, summary, file, found, parsed, extracted, reads, valid, reports,
    reports.issues.trans messages⟩

end ScopeAtlas.Reading
