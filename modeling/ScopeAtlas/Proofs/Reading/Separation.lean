import ScopeAtlas.Extraction.Extractor
import ScopeAtlas.Proofs.Extraction.Separation

/-!
# The places of the constructs of each language

Every reading drafts at the node of its construct or at nodes of their own below it, and enters only
nodes at which it does not draft.  The one exception is a Go specification that declares several
names: all of them are drafted at the specification.
-/

namespace ScopeAtlas.Reading

open ScopeAtlas.Extraction ScopeAtlas.Language ScopeAtlas.Syntax

variable {exempt : Draft → Draft → Prop}

/-- The body that a field of a node holds lies within the node. -/
theorem within_of_mem_childByField? (outer : Cursor) (field : String) :
    ∀ place ∈ outer.childByField? field, outer.Within place :=
  fun _ found => Cursor.within_of_childByField? found

/-- Drafts at the declaring nodes of a declaration, or at the declaration itself if it has only one
of them. -/
theorem tidy_map_declared {place : Cursor} {declared listed : List Cursor}
    (draft : Cursor → Cursor → Draft) (home : ∀ place node, (draft place node).place = place)
    (isDeclared : declared.Sublist place.children) (isListed : listed.Sublist declared) :
    Tidy exempt place (listed.map fun node =>
      .scope (draft (if declared.length == 1 then place else node) node)) := by
  suffices Tidy exempt place ((listed.map fun node =>
      draft (if declared.length == 1 then place else node) node).map .scope) by
    simpa only [List.map_map, Function.comp_def] using this
  refine tidy_map_scope ?_ (List.pairwise_map.mpr ?_)
  · intro made member
    obtain ⟨node, nodeMem, rfl⟩ := List.mem_map.mp member
    rw [home]
    split
    · exact Cursor.Within.refl place
    · exact Cursor.within_of_mem_children (isDeclared.subset (isListed.subset nodeMem))
  · simp only [home]
    by_cases single : declared.length = 1
    · have atMostOne : listed.length ≤ 1 := single ▸ isListed.length_le
      match listed, atMostOne with
      | [], _ => exact .nil
      | [node], _ => exact List.pairwise_singleton _ _
    · refine ((isListed.trans isDeclared).nodup (Cursor.nodup_children place)).imp ?_
      intro a b differ
      left
      simpa [single] using differ

namespace EcmaScript

theorem tidy_functionSteps (ctx : Context) {place function : Cursor} (name : String)
    (nameNode : Option Cursor) (depth : Nat) (parent keyword : Option String)
    (inside : place.Within function) :
    Tidy exempt place (functionSteps ctx place function name nameNode depth parent keyword) :=
  tidy_scope_enterBody rfl fun _ found => inside.trans (Cursor.within_of_childByField? found)

/-- A declarator drafts at itself or, if it stands alone, at its declaration, and enters its value
or the body of its function. -/
theorem tidy_declaratorSteps (ctx : Context) {declaration declarator : Cursor} (count : Nat)
    (keyword : String) (depth : Nat) (parent : Option String)
    (member : declarator ∈ declaration.children) :
    Tidy exempt (if count == 1 then declaration else declarator)
      (declaratorSteps ctx declaration count keyword depth parent declarator) := by
  generalize home : (if count == 1 then declaration else declarator) = place
  have inside : place.Within declarator := by
    rw [← home]
    split
    · exact Cursor.within_of_mem_children member
    · exact Cursor.Within.refl declarator
  have entered : ∀ depth parent, Tidy exempt place
      ((declarator.childByField? "value").map fun value =>
        Step.enter value depth parent).toList := by
    intro depth parent
    cases found : declarator.childByField? "value" with
    | none => exact tidy_nil
    | some value => exact tidy_enter (inside.trans (Cursor.within_of_childByField? found))
  simp only [declaratorSteps]
  split
  · exact tidy_nil
  · split
    · rename_i function chosen
      obtain ⟨found, _⟩ := Option.filter_eq_some_iff.mp chosen
      exact (tidy_functionSteps ctx _ _ _ _ _ (Cursor.within_of_childByField? found)).mono inside
    · split
      · refine tidy_scope_cons ?_ (entered _ _) ?_
        · simp only [variableDraft, home]
          exact Cursor.Within.refl place
        · -- The value is a child of the declarator, below the place of the draft.
          intro step stepMem owns
          simp only [variableDraft, home] at owns
          obtain ⟨value, found, rfl⟩ := Option.map_eq_some_iff.mp (Option.mem_toList.mp stepMem)
          have below := Cursor.Within.level_le owns
          have above := inside.level_le
          have level := Cursor.level_of_mem_children (Cursor.mem_children_of_childByField? found)
          omega
      · exact entered depth parent

theorem tidy_readVariables (ctx : Context) (place : Cursor) (depth : Nat)
    (parent : Option String) : Tidy exempt place (readVariables ctx place depth parent) := by
  simp only [readVariables]
  generalize declared : place.namedChildren.filter (·.kind == "variable_declarator") = declarators
  have sublist : declarators.Sublist place.children := by
    rw [← declared]
    exact List.filter_sublist.trans List.filter_sublist
  match declarators with
  | [] => exact tidy_nil
  | [declarator] =>
      rw [List.flatMap_singleton]
      exact tidy_declaratorSteps ctx 1 _ depth parent (sublist.subset List.mem_cons_self)
  | first :: second :: rest =>
      refine tidy_flatMap id ?_ (Cursor.pairwise_apart_of_sublist_children sublist) ?_
      · intro declarator member
        exact Cursor.within_of_mem_children (sublist.subset member)
      · intro declarator member
        exact tidy_declaratorSteps ctx (first :: second :: rest).length _ depth parent
          (sublist.subset member)

theorem strategy_isTidy (ctx : Context) : strategy.IsTidy ctx exempt := by
  intro construct reading chosen place depth parent
  simp only [strategy] at chosen
  split at chosen <;> try obtain rfl := Option.some.inj chosen
  · exact tidy_scope_enterBody rfl (within_of_mem_childByField? place "body")
  · exact tidy_scope (Cursor.Within.refl place)
  · exact tidy_functionSteps ctx _ _ _ _ _ (Cursor.Within.refl place)
  · exact tidy_functionSteps ctx _ _ _ _ _ (Cursor.Within.refl place)
  · exact tidy_scope (Cursor.Within.refl place)
  · exact tidy_scope (Cursor.Within.refl place)
  · exact tidy_scope_enterBody rfl (within_of_mem_childByField? place "body")
  · exact tidy_readVariables ctx place depth parent
  · contradiction

end EcmaScript

namespace Python

theorem tidy_functionSteps (decorators : List Decorator) (ctx : Context) (place : Cursor)
    (depth : Nat) (parent : Option String) :
    Tidy exempt place (functionSteps decorators ctx place depth parent) :=
  tidy_scope_enterBody rfl (within_of_mem_childByField? place "body")

theorem tidy_classSteps (decorators : List Decorator) (ctx : Context) (place : Cursor)
    (depth : Nat) (parent : Option String) :
    Tidy exempt place (classSteps decorators ctx place depth parent) :=
  tidy_scope_enterBody rfl (within_of_mem_childByField? place "body")

theorem tidy_readStatement (ctx : Context) (place : Cursor) (depth : Nat)
    (parent : Option String) : Tidy exempt place (readStatement ctx place depth parent) := by
  rw [readStatement]
  split
  · exact tidy_nil
  · split
    · exact tidy_nil
    · split
      · exact tidy_nil
      · split
        · exact tidy_scope (Cursor.Within.refl place)
        · split
          · exact tidy_scope (Cursor.Within.refl place)
          · exact tidy_nil

theorem strategy_isTidy (ctx : Context) : strategy.IsTidy ctx exempt := by
  intro construct reading chosen place depth parent
  simp only [strategy] at chosen
  split at chosen <;> try obtain rfl := Option.some.inj chosen
  · exact tidy_classSteps _ ctx place depth parent
  · exact tidy_functionSteps _ ctx place depth parent
  · rw [stepsOf_always, readDecorated]
    split
    · exact tidy_enterChildren (Cursor.Within.refl place)
    · rename_i definition found
      have inside := Cursor.within_of_childByField? found
      split
      · exact (tidy_classSteps _ ctx definition depth parent).mono inside
      · exact (tidy_functionSteps _ ctx definition depth parent).mono inside
  · exact tidy_readStatement ctx place depth parent
  · contradiction

end Python

namespace Rust

theorem strategy_isTidy (ctx : Context) : strategy.IsTidy ctx exempt := by
  intro construct reading chosen place depth parent
  simp only [strategy] at chosen
  split at chosen <;> try obtain rfl := Option.some.inj chosen
  · exact tidy_scope (Cursor.Within.refl place)
  · exact tidy_scope_enterBody rfl (within_of_mem_childByField? place "body")
  · exact tidy_scope_enterBody rfl (within_of_mem_childByField? place "body")
  · exact tidy_scope_enterBody rfl (within_of_mem_childByField? place "body")
  · exact tidy_scope (Cursor.Within.refl place)
  · exact tidy_scope (Cursor.Within.refl place)
  · exact tidy_scope_enterBody rfl (within_of_mem_childByField? place "body")
  · rw [stepsOf_always, readConstant]
    split
    · exact tidy_nil
    · exact tidy_scope (Cursor.Within.refl place)
  · contradiction

end Rust

namespace Go

theorem tidy_readTypes (ctx : Context) (place : Cursor) (depth : Nat) (parent : Option String) :
    Tidy exempt place (readTypes ctx place depth parent) :=
  tidy_map_declared (fun home spec => typeDraft ctx home spec depth parent)
    (fun _ _ => rfl) (List.filter_sublist.trans List.filter_sublist) (List.Sublist.refl _)

/-- The kinds of the nodes that specify constants and variables. -/
def specificationKinds : List String := ["const_spec", "var_spec"]

/-- The drafts have the node of one specification and are named by two of its names. -/
def Namesakes (a b : Draft) : Prop :=
  ∃ spec first second, spec.kind ∈ specificationKinds ∧
    [first, second].Sublist (spec.childrenByField "name") ∧
    a.places = [spec] ∧ b.places = [spec] ∧ a.nameNode = some first ∧ b.nameNode = some second

theorem length_ne_one_of_pair_sublist {places : List Cursor} {first second : Cursor}
    (both : [first, second].Sublist places) : places.length ≠ 1 := by
  have atLeastTwo := both.length_le
  rw [List.length_cons, List.length_singleton] at atLeastTwo
  omega

theorem tidy_readBindings (ctx : Context) (place : Cursor) (depth : Nat)
    (parent : Option String) : Tidy Namesakes place (readBindings ctx place depth parent) := by
  simp only [readBindings]
  split
  · exact tidy_nil
  · generalize specified : place.preorderOfKind ["const_spec", "var_spec"] = specs
    generalize (if place.kind == "const_declaration" then "const" else "var") = keyword
    have sublist : specs.Sublist place.preorder := specified ▸ List.filter_sublist
    suffices Tidy Namesakes place ((specs.flatMap fun spec =>
        (spec.childrenByField "name").map fun name => bindingDraft ctx
          (if specs.length == 1 && (spec.childrenByField "name").length == 1 then place else spec)
          spec name keyword depth parent).map .scope) by
      simpa only [List.map_flatMap, List.map_map, Function.comp_def] using this
    refine tidy_map_scope ?_ (List.pairwise_flatMap.mpr ⟨?_, ?_⟩)
    · intro draft member
      obtain ⟨spec, specMem, member⟩ := List.mem_flatMap.mp member
      obtain ⟨name, _, rfl⟩ := List.mem_map.mp member
      simp only [bindingDraft]
      split
      · exact Cursor.Within.refl place
      · exact Cursor.mem_preorder_iff.mp (sublist.subset specMem)
    · -- Two names of one specification are drafted at it.
      intro spec specMem
      refine List.pairwise_map.mpr (List.pairwise_iff_forall_sublist.mpr ?_)
      intro first second both
      have kind : spec.kind ∈ specificationKinds := by
        rw [← specified] at specMem
        exact List.contains_iff_mem.mp (List.mem_filter.mp specMem).2
      have several := length_ne_one_of_pair_sublist both
      exact Or.inr
        ⟨spec, first, second, kind, both, by simp [Draft.places, bindingDraft, several]⟩
    · -- Of several specifications, each is drafted at itself.
      refine List.pairwise_iff_forall_sublist.mpr ?_
      intro first second both a aMem b bMem
      left
      have several := length_ne_one_of_pair_sublist both
      have differ : first ≠ second :=
        List.pairwise_iff_forall_sublist.mp (sublist.nodup place.nodup_preorder) both
      obtain ⟨_, _, rfl⟩ := List.mem_map.mp aMem
      obtain ⟨_, _, rfl⟩ := List.mem_map.mp bMem
      simpa [bindingDraft, several] using differ

theorem strategy_isTidy (ctx : Context) : strategy.IsTidy ctx Namesakes := by
  intro construct reading chosen place depth parent
  simp only [strategy] at chosen
  split at chosen <;> try obtain rfl := Option.some.inj chosen
  · exact tidy_scope_enterBody rfl (within_of_mem_childByField? place "body")
  · exact tidy_scope_enterBody rfl (within_of_mem_childByField? place "body")
  · exact tidy_readTypes ctx place depth parent
  · exact tidy_readBindings ctx place depth parent
  · contradiction

end Go

namespace CSharp

theorem tidy_namespaceSteps (extent : List Cursor) (ctx : Context) (place : Cursor) (depth : Nat)
    (parent : Option String) :
    Tidy exempt place (namespaceSteps extent ctx place depth parent) := by
  cases found : place.childByField? "body" with
  | some body =>
      simp only [namespaceSteps, found]
      exact tidy_scope_map_enter rfl (Cursor.within_of_childByField? found) List.filter_sublist
  | none =>
      simp only [namespaceSteps, found]
      split
      · rename_i body chosen
        split at chosen
        · obtain rfl := Option.some.inj chosen
          exact tidy_scope_map_enter rfl (Cursor.Within.refl place) List.filter_sublist
        · contradiction
      · exact tidy_scope (Cursor.Within.refl place)

/-- The steps of a unit own only what lies within its nodes. -/
theorem exists_within_of_owns_unitSteps {ctx : Context} {depth : Nat} {parent : Option String}
    {nodes : List Cursor} {step : Step} (member : step ∈ unitSteps ctx depth parent nodes)
    {place : Cursor} (owns : step.Owns place) : ∃ node ∈ nodes, node.Within place := by
  induction nodes with
  | nil => contradiction
  | cons child rest ih =>
      simp only [unitSteps] at member
      split at member
      · rcases List.mem_append.mp member with inside | following
        · have tidy : Tidy (fun _ _ => False) child _ :=
            tidy_namespaceSteps (rest.filter (·.isNamed)) ctx child depth parent
          exact ⟨child, List.mem_cons_self, tidy.within step inside place owns⟩
        · obtain ⟨sibling, isSibling, rfl⟩ := List.mem_map.mp following
          exact ⟨sibling, List.mem_cons_of_mem _ (List.mem_of_mem_filter isSibling), owns⟩
      · rcases List.mem_cons.mp member with rfl | later
        · exact ⟨child, List.mem_cons_self, owns⟩
        · obtain ⟨node, nodeMem, within⟩ := ih later
          exact ⟨node, List.mem_cons_of_mem _ nodeMem, within⟩

theorem tidy_unitSteps (ctx : Context) (depth : Nat) (parent : Option String) {place : Cursor}
    {nodes : List Cursor} (sublist : nodes.Sublist place.children) :
    Tidy exempt place (unitSteps ctx depth parent nodes) := by
  induction nodes with
  | nil => exact tidy_nil
  | cons child rest ih =>
      have inside : ∀ node ∈ child :: rest, place.Within node := fun node member =>
        Cursor.within_of_mem_children (sublist.subset member)
      obtain ⟨apart, restApart⟩ :=
        List.pairwise_cons.mp (Cursor.pairwise_apart_of_sublist_children sublist)
      simp only [unitSteps]
      split
      · have tidy : Tidy exempt child _ :=
          tidy_namespaceSteps (rest.filter (·.isNamed)) ctx child depth parent
        refine tidy_append (tidy.mono (inside child List.mem_cons_self)) (tidy_map_enter ?_ ?_) ?_
        · intro sibling isSibling
          exact inside sibling (List.mem_cons_of_mem _ (List.mem_of_mem_filter isSibling))
        · exact restApart.sublist List.filter_sublist
        · intro a aMem b bMem
          obtain ⟨sibling, isSibling, rfl⟩ := List.mem_map.mp bMem
          left
          intro inner owns
          exact apart sibling (List.mem_of_mem_filter isSibling) inner
            (tidy.within a aMem inner owns)
      · refine tidy_append (tidy_enter (inside child List.mem_cons_self))
          (ih ((List.sublist_cons_self _ _).trans sublist)) ?_
        intro a aMem b bMem
        obtain rfl := List.mem_singleton.mp aMem
        left
        intro inner owns ownsLater
        obtain ⟨node, nodeMem, within⟩ := exists_within_of_owns_unitSteps bMem ownsLater
        exact apart node nodeMem inner owns within

theorem tidy_readType (ctx : Context) (place : Cursor) (depth : Nat) (parent : Option String) :
    Tidy exempt place (stepsOf (readType ctx place depth parent)) := by
  rw [readType]
  split
  · exact tidy_scope_enterBody rfl (within_of_mem_childByField? place "body")
  · exact tidy_nil

theorem strategy_isTidy (ctx : Context) : strategy.IsTidy ctx exempt := by
  intro construct reading chosen place depth parent
  simp only [strategy] at chosen
  split at chosen <;> try obtain rfl := Option.some.inj chosen
  · exact tidy_unitSteps ctx depth parent (List.Sublist.refl _)
  · exact tidy_namespaceSteps [] ctx place depth parent
  · exact tidy_readType ctx place depth parent
  · exact tidy_readType ctx place depth parent
  · exact tidy_scope (Cursor.Within.refl place)
  · exact tidy_scope_enterBody rfl (within_of_mem_childByField? place "body")
  · exact tidy_scope_enterBody rfl (within_of_mem_childByField? place "body")
  · exact tidy_scope (Cursor.Within.refl place)
  · contradiction

end CSharp

namespace CFamily

variable {place scopePlace : Cursor}

theorem tidy_functionSteps (ctx : Context) (generics : List GenericParameter) (depth : Nat)
    (parent : Option String) (inside : scopePlace.Within place) :
    Tidy exempt scopePlace (functionSteps ctx place scopePlace generics depth parent) := by
  unfold functionSteps
  extract_lets declarator function name
  split
  · exact tidy_enterChildren inside
  · refine tidy_scope_enterBody rfl ?_
    intro body found
    exact inside.trans (Cursor.within_of_childByField? found)

theorem tidy_recordSteps (ctx : Context) (given : GivenName) (generics : List GenericParameter)
    (depth : Nat) (parent : Option String) (inside : scopePlace.Within place) :
    Tidy exempt scopePlace
      (stepsOf (recordSteps ctx place scopePlace given generics depth parent)) := by
  rw [recordSteps]
  split
  · exact tidy_nil
  · rename_i body found
    split
    · exact tidy_scope_map_enter rfl (inside.trans (Cursor.within_of_childByField? found))
        (List.Sublist.refl _)
    · exact tidy_nil

theorem tidy_typeSteps (ctx : Context) (given : GivenName) (depth : Nat) (parent : Option String)
    (inside : scopePlace.Within place) :
    Tidy exempt scopePlace (stepsOf (typeSteps ctx place scopePlace given depth parent)) := by
  rw [typeSteps]
  split
  · rw [stepsOf_ok, enumSteps]
    split
    · exact tidy_nil
    · exact tidy_scope (Cursor.Within.refl scopePlace)
  · exact tidy_recordSteps ctx given [] depth parent inside

/-- The type that a declaration defines, and drafts outside of it. -/
theorem tidy_typeSteps_append (ctx : Context) (depth : Nat) (parent : Option String)
    {specifier : Cursor} {drafts : List Step} (found : place.childByField? "type" = some specifier)
    (tidy : Tidy exempt place drafts)
    (outside : ∀ step ∈ drafts, ∀ inner, specifier.Within inner → ¬step.Owns inner) :
    Tidy exempt place (stepsOf ((typeSteps ctx specifier specifier none depth parent).map
      fun steps => steps ++ drafts)) := by
  have defined : Tidy exempt specifier
      (stepsOf (typeSteps ctx specifier specifier none depth parent)) :=
    tidy_typeSteps ctx none depth parent (Cursor.Within.refl specifier)
  refine of_stepsOf_map_append (Tidy exempt place) tidy_nil
    (tidy_append (defined.mono (Cursor.within_of_childByField? found)) tidy ?_)
  intro first firstMem second secondMem
  left
  intro inner owns
  exact outside second secondMem inner (defined.within first firstMem inner owns)

theorem tidy_readTypeDefinition (ctx : Context) (place : Cursor) (depth : Nat)
    (parent : Option String) :
    Tidy exempt place (stepsOf (readTypeDefinition ctx place depth parent)) := by
  simp only [readTypeDefinition]
  split
  · rename_i specifier chosen
    obtain ⟨found, _⟩ := Option.filter_eq_some_iff.mp chosen
    split
    · exact tidy_typeSteps ctx _ depth parent (Cursor.within_of_childByField? found)
    · refine tidy_typeSteps_append ctx depth parent found ?_ ?_
      · split
        · exact tidy_nil
        · exact tidy_scope (Cursor.Within.refl place)
      · -- The alias is drafted at the definition, which does not lie within its type.
        intro step member inner within owns
        split at member
        · contradiction
        · obtain rfl := List.mem_singleton.mp member
          rw [show inner = place from owns] at within
          exact Cursor.not_within_of_mem_children (Cursor.mem_children_of_childByField? found) within
  · split
    · exact tidy_nil
    · split
      · exact tidy_scope (Cursor.Within.refl place)
      · exact tidy_nil

/-- Nodes in different fields of a node share no place. -/
theorem apart_of_field_ne {first second : Cursor} (firstMem : first ∈ place.children)
    (secondMem : second ∈ place.children) (differ : first.field ≠ second.field) :
    first.Apart second :=
  Cursor.apart_of_mem_children firstMem secondMem fun same => differ (same ▸ rfl)

theorem tidy_readDeclaration (ctx : Context) (place : Cursor) (depth : Nat)
    (parent : Option String) :
    Tidy exempt place (stepsOf (readDeclaration ctx place depth parent)) := by
  unfold readDeclaration
  extract_lets type defined declarators qualifiers named
  have inField : declarators.Sublist (place.childrenByField "declarator") := List.filter_sublist
  have isNamed : named.Sublist declarators := List.filter_sublist
  have variablesTidy : Tidy exempt place (named.map fun declarator =>
      .scope (variableDraft ctx (if declarators.length == 1 then place else declarator) place
        declarator type qualifiers depth parent)) :=
    tidy_map_declared
      (fun home declarator => variableDraft ctx home place declarator type qualifiers depth parent)
      (fun _ _ => rfl) (inField.trans List.filter_sublist) isNamed
  simp only [defined]
  cases chosen : type.filter hasBody with
  | none =>
      split
      · exact tidy_nil
      · exact variablesTidy
  | some specifier =>
      obtain ⟨found, _⟩ := Option.filter_eq_some_iff.mp chosen
      have isChild := Cursor.mem_children_of_childByField? found
      split
      · exact (tidy_typeSteps ctx none depth parent (Cursor.Within.refl specifier)).mono
          (Cursor.within_of_childByField? found)
      · refine tidy_typeSteps_append ctx depth parent found variablesTidy ?_
        -- A variable is drafted at the declaration or at a declarator, and neither lies within
        -- the type.
        intro step member inner within owns
        obtain ⟨declarator, isListed, rfl⟩ := List.mem_map.mp member
        obtain ⟨declaratorMem, field⟩ :=
          List.mem_filter.mp (inField.subset (isNamed.subset isListed))
        simp only [Step.Owns, variableDraft] at owns
        split at owns
        · exact Cursor.not_within_of_mem_children isChild (owns ▸ within)
        · refine apart_of_field_ne isChild declaratorMem ?_ inner within
            (owns ▸ Cursor.Within.refl declarator)
          have typeField := List.find?_some found
          rw [beq_iff_eq] at field typeField
          rw [field, typeField]
          decide

theorem tidy_readTemplate (ctx : Context) (place : Cursor) (depth : Nat)
    (parent : Option String) :
    Tidy exempt place (stepsOf (readTemplate ctx place depth parent)) := by
  simp only [readTemplate]
  split
  · exact tidy_nil
  · rename_i templated found
    have isNamed := List.mem_reverse.mp (List.mem_of_find?_eq_some found)
    have inside := Cursor.within_of_mem_children (Cursor.mem_children_of_mem_namedChildren isNamed)
    split
    · exact tidy_functionSteps ctx _ depth parent inside
    · split
      · exact tidy_recordSteps ctx none _ depth parent inside
      · split
        · exact tidy_scope (Cursor.Within.refl place)
        · split
          · split
            · rename_i type chosen
              obtain ⟨isType, _⟩ := Option.filter_eq_some_iff.mp chosen
              exact tidy_recordSteps ctx none _ depth parent
                (inside.trans (Cursor.within_of_childByField? isType))
            · exact tidy_nil
          · exact tidy_enter inside

theorem cStrategy_isTidy (ctx : Context) : cStrategy.IsTidy ctx exempt := by
  intro construct reading chosen place depth parent
  simp only [cStrategy, commonReading?] at chosen
  split at chosen <;> try obtain rfl := Option.some.inj chosen
  · exact tidy_functionSteps ctx [] depth parent (Cursor.Within.refl place)
  · exact tidy_typeSteps ctx none depth parent (Cursor.Within.refl place)
  · exact tidy_typeSteps ctx none depth parent (Cursor.Within.refl place)
  · rw [readAlias]
    split
    · exact tidy_scope (Cursor.Within.refl place)
    · exact tidy_readTypeDefinition ctx place depth parent
  · exact tidy_readDeclaration ctx place depth parent
  · exact tidy_scope (Cursor.Within.refl place)
  · contradiction

theorem cppStrategy_isTidy (ctx : Context) : cppStrategy.IsTidy ctx exempt := by
  intro construct reading chosen place depth parent
  simp only [cppStrategy] at chosen
  split at chosen
  · obtain rfl := Option.some.inj chosen
    exact tidy_scope_enterBody rfl (within_of_mem_childByField? place "body")
  · obtain rfl := Option.some.inj chosen
    exact tidy_readTemplate ctx place depth parent
  · exact cStrategy_isTidy ctx _ reading chosen place depth parent

end CFamily

/-- Only the names of one Go specification share a place. -/
theorem strategyOf_isTidy (family : Family) (ctx : Context) :
    (strategyOf family).IsTidy ctx fun a b => family = .go ∧ Go.Namesakes a b := by
  cases family with
  | typescript => exact EcmaScript.strategy_isTidy ctx
  | python => exact Python.strategy_isTidy ctx
  | rust => exact Rust.strategy_isTidy ctx
  | go => simpa only [strategyOf, true_and] using Go.strategy_isTidy ctx
  | c => exact CFamily.cStrategy_isTidy ctx
  | cpp => exact CFamily.cppStrategy_isTidy ctx
  | csharp => exact CSharp.strategy_isTidy ctx

end ScopeAtlas.Reading
