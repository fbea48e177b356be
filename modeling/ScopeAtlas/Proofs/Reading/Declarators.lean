import ScopeAtlas.Proofs.Extraction.Uses
import ScopeAtlas.Proofs.Reading.OwnNames

/-!
# Declared names of C and C++

A declaration introduces the name at the bottom of a chain of declarators.  The readings go down the
chain, and the search for references climbs it from the name, with tables of its own.  Both come to
the same result link by link, except where the tables lack a link or miss the field of one.  A name
that both find is bound in every scope around its declaration, so that only members of that name are
referred to there.
-/

namespace ScopeAtlas.Reading.Declarator

open ScopeAtlas.Extraction ScopeAtlas.Language ScopeAtlas.Syntax

/-! ## Chains -/

/-- The declarators around a target, from the outside. -/
inductive Chain : Cursor → List Cursor → Cursor → Prop where
  | bottom {target : Cursor} (bare : target.kind ∉ wrappers) : Chain target [] target
  | around {outer inner target : Cursor} {links : List Cursor} (isWrapper : outer.kind ∈ wrappers)
      (holds : inner? outer = some inner) (below : Chain inner links target) :
      Chain outer (outer :: links) target

theorem innermost?_of_inner? {outer inner : Cursor} (isWrapper : outer.kind ∈ wrappers)
    (holds : inner? outer = some inner) : innermost? outer = innermost? inner := by
  rw [innermost?, if_pos (List.contains_iff_mem.mpr isWrapper)]
  split
  · rename_i found
    obtain rfl := Option.some.inj (holds.symm.trans found)
    rfl
  · rename_i absent
    rw [holds] at absent
    contradiction

/-- The node at the bottom is found by going down the chain. -/
theorem innermost?_eq_some_iff {place target : Cursor} :
    innermost? place = some target ↔ ∃ links, Chain place links target := by
  constructor
  · intro found
    fun_induction innermost? place with
    | case1 place isWrapper inner holds ih =>
        obtain ⟨links, chain⟩ := ih found
        exact ⟨place :: links, .around (List.contains_iff_mem.mp isWrapper) holds chain⟩
    | case2 => contradiction
    | case3 place bare =>
        obtain rfl := Option.some.inj found
        exact ⟨[], .bottom (mt List.contains_iff_mem.mpr bare)⟩
  · rintro ⟨links, chain⟩
    induction chain with
    | bottom bare => rw [innermost?, if_neg (mt List.contains_iff_mem.mp bare)]
    | around isWrapper holds _ ih => exact (innermost?_of_inner? isWrapper holds).trans ih

theorem mem_children_of_inner? {outer inner : Cursor} (holds : inner? outer = some inner) :
    inner ∈ outer.children := by
  rw [inner?] at holds
  split at holds
  · rename_i child found
    obtain rfl := Option.some.inj holds
    exact Cursor.mem_children_of_childByField? found
  · exact Cursor.mem_children_of_mem_namedChildren (List.mem_of_find?_eq_some holds)

theorem Chain.within {declarator target : Cursor} {links : List Cursor}
    (chain : Chain declarator links target) : declarator.Within target := by
  induction chain with
  | bottom => exact Cursor.Within.refl _
  | around _ holds _ ih => exact .head (mem_children_of_inner? holds) ih

/-- A name that is found stands at the bottom of a chain. -/
theorem exists_chain_of_name {source : Syntax.Source} {declarator target : Cursor}
    (found : (name source (some declarator)).node = some target) :
    ∃ links, Chain declarator links target := by
  rw [name, Option.bind_some] at found
  split at found
  · contradiction
  · rename_i bottom isBottom
    have same : bottom = target := by
      split at found
      · exact Option.some.inj found
      · split at found
        · exact Option.some.inj found
        · contradiction
    rw [← same]
    exact innermost?_eq_some_iff.mp isBottom

/-! ## Climbing from the name -/

/-- Declarators that hold the next one in a field. -/
def markedWrappers : List String :=
  ["pointer_declarator", "array_declarator", "function_declarator", "init_declarator"]

/-- Declarations whose declarators introduce names. -/
def declaringKinds : List String :=
  ["declaration", "parameter_declaration", "optional_parameter_declaration",
   "variadic_parameter_declaration", "field_declaration", "type_definition", "function_definition"]

/-- The tables of defining positions know the link. -/
structure Listed (link : Cursor) : Prop where
  known : link.kind ≠ "attributed_declarator"
  marked : link.kind ∈ markedWrappers → link.childByField? "declarator" ≠ none

/-- Why the name at the bottom of a chain is in no defining position. -/
inductive Unlisted (declaration : Cursor) (links : List Cursor) : Prop where
  /-- The tables have no entry for a parameter pack. -/
  | variadic (isPack : declaration.kind = "variadic_parameter_declaration")
  /-- The tables have no entry for a declarator with attributes. -/
  | attributed (link : Cursor) (onChain : link ∈ links) (kind : link.kind = "attributed_declarator")
  /-- A declarator that lacks the field is unwrapped all the same, but binds nothing. -/
  | unmarked (link : Cursor) (onChain : link ∈ links) (marked : link.kind ∈ markedWrappers)
      (absent : link.childByField? "declarator" = none)

theorem not_unlisted_iff {declaration : Cursor} {links : List Cursor} :
    ¬Unlisted declaration links ↔
      declaration.kind ≠ "variadic_parameter_declaration" ∧ ∀ link ∈ links, Listed link := by
  constructor
  · intro listed
    refine ⟨fun isPack => listed (.variadic isPack), fun link onChain => ⟨?_, ?_⟩⟩
    · exact fun kind => listed (.attributed link onChain kind)
    · exact fun marked absent => listed (.unmarked link onChain marked absent)
  · rintro ⟨noPack, listed⟩ (isPack | ⟨link, onChain, kind⟩ | ⟨link, onChain, marked, absent⟩)
    · exact noPack isPack
    · exact (listed link onChain).known kind
    · exact (listed link onChain).marked marked absent

/-- The inner declarator stands in the field exactly if the outer one has the field. -/
theorem field_of_inner?_iff {outer inner : Cursor} (holds : inner? outer = some inner) :
    inner.field = some "declarator" ↔ outer.childByField? "declarator" ≠ none := by
  have isChild := mem_children_of_inner? holds
  rw [inner?] at holds
  split at holds
  · rename_i child found
    obtain rfl := Option.some.inj holds
    have inField : child.field = some "declarator" := by simpa using List.find?_some found
    simp [inField, found]
  · rename_i absent
    have outside : inner.field ≠ some "declarator" := by
      simpa using List.find?_eq_none.mp absent inner isChild
    simp [outside, absent]

section Tables

variable {table : NodeTable}

theorem isDefinition_child (parent : Cursor) (before : List Node) (node : Node) :
    isDefinition table (.child parent before node) =
      ((Surroundings.ofPlace table parent).inside table parent.kind node.field).binds :=
  congrArg Surroundings.binds (Surroundings.ofPlace_child table parent before node)

/-- What the tables of both languages say of the declarators. -/
theorem roles_of_wrapper (known : table = cNodes ∨ table = cppNodes) :
    ∀ kind ∈ wrappers, table.definitionContainers.contains kind = false ∧
      table.patternTypes.contains kind = (kind != "attributed_declarator") ∧
      table.definitionFields.lookup kind =
        if kind ∈ markedWrappers then some ["declarator"] else none := by
  rcases known with rfl | rfl
  · decide
  · decide

/-- What the tables of both languages say of the declarations. -/
theorem roles_of_declaration (known : table = cNodes ∨ table = cppNodes) :
    ∀ kind ∈ declaringKinds, table.definitionContainers.contains kind = false ∧
      table.patternTypes.contains kind = false ∧
      table.definitionFields.lookup kind =
        if kind = "variadic_parameter_declaration" then none else some ["declarator"] := by
  rcases known with rfl | rfl
  · decide
  · decide

/-- One link down, a place is in a defining position if the link is listed and is in one itself. -/
theorem isDefinition_inner_iff (known : table = cNodes ∨ table = cppNodes) {outer inner : Cursor}
    (isWrapper : outer.kind ∈ wrappers) (holds : inner? outer = some inner) :
    isDefinition table inner = true ↔ Listed outer ∧ isDefinition table outer = true := by
  obtain ⟨noContainer, isPattern, fields⟩ := roles_of_wrapper known outer.kind isWrapper
  have inField := field_of_inner?_iff holds
  obtain ⟨_, node, _, _, rfl⟩ := Cursor.mem_children_iff.mp (mem_children_of_inner? holds)
  change node.field = some "declarator" ↔ _ at inField
  have binds : (Surroundings.ofPlace table outer).binds = isDefinition table outer := rfl
  have listed : Listed outer ↔ outer.kind ≠ "attributed_declarator" ∧
      (outer.kind ∈ markedWrappers → node.field = some "declarator") := by
    rw [inField]
    exact ⟨fun listed => ⟨listed.known, listed.marked⟩, fun both => ⟨both.1, both.2⟩⟩
  rw [isDefinition_child, Surroundings.inside, listed]
  simp only [noContainer, isPattern, fields, binds]
  by_cases marked : outer.kind ∈ markedWrappers
  · have notAttributed : outer.kind ≠ "attributed_declarator" := by
      intro kind
      rw [kind] at marked
      exact absurd marked (by decide)
    simp [marked, notAttributed]
  · simp [marked]

/-- A declarator of a declaration is in a defining position, unless the declaration is not listed. -/
theorem isDefinition_declarator_iff (known : table = cNodes ∨ table = cppNodes)
    {declaration declarator : Cursor} (declares : declaration.kind ∈ declaringKinds)
    (isDeclarator : declarator ∈ declaration.childrenByField "declarator") :
    isDefinition table declarator = true ↔
      declaration.kind ≠ "variadic_parameter_declaration" := by
  obtain ⟨noContainer, noPattern, fields⟩ := roles_of_declaration known declaration.kind declares
  obtain ⟨isChild, inField⟩ := List.mem_filter.mp isDeclarator
  obtain ⟨_, node, _, _, rfl⟩ := Cursor.mem_children_iff.mp isChild
  change (node.field == some "declarator") = true at inField
  rw [isDefinition_child, Surroundings.inside]
  simp only [noContainer, noPattern, fields]
  by_cases isPack : declaration.kind = "variadic_parameter_declaration"
  · simp [isPack]
  · simp [isPack, beq_iff_eq.mp inField]

/-- The name at the bottom of a chain is in a defining position if all links are listed and the
outermost one is in a defining position. -/
theorem Chain.isDefinition_iff (known : table = cNodes ∨ table = cppNodes)
    {declarator target : Cursor} {links : List Cursor} (chain : Chain declarator links target) :
    isDefinition table target = true ↔
      (∀ link ∈ links, Listed link) ∧ isDefinition table declarator = true := by
  induction chain with
  | bottom => simp
  | around isWrapper holds _ ih =>
      rw [ih, isDefinition_inner_iff known isWrapper holds, List.forall_mem_cons]
      tauto

/-- The two tables agree on the names of a declaration exactly where no link is unlisted. -/
theorem isDefinition_iff_not_unlisted (known : table = cNodes ∨ table = cppNodes)
    {declaration declarator target : Cursor} {links : List Cursor}
    (declares : declaration.kind ∈ declaringKinds)
    (isDeclarator : declarator ∈ declaration.childrenByField "declarator")
    (chain : Chain declarator links target) :
    isDefinition table target = true ↔ ¬Unlisted declaration links := by
  rw [chain.isDefinition_iff known, isDefinition_declarator_iff known declares isDeclarator,
    not_unlisted_iff, and_comm]

end Tables

end ScopeAtlas.Reading.Declarator

namespace ScopeAtlas.Reading

open ScopeAtlas.Extraction ScopeAtlas.Language ScopeAtlas.Syntax

/-- No reading of the two languages adds a reference that stands for no identifier of the text. -/
theorem synthetic_eq_nil_of_mem_fileDrafts {profile : Profile}
    (isC : profile = Language.c ∨ profile = Language.cpp) {ctx : Context}
    {includeModuleScopes : Bool} {root : Cursor} {draft : Draft}
    (member : draft ∈ fileDrafts (strategyOf profile.family) ctx includeModuleScopes root) :
    draft.synthetic = [] := by
  rcases isC with rfl | rfl
  · exact of_mem_fileDrafts (CFamily.cStrategy_drafts ctx) (fun _ _ _ => rfl) member
  · exact of_mem_fileDrafts (CFamily.cppStrategy_drafts ctx) (fun _ _ _ => rfl) member

/-- The name that a declaration introduces by a chain of declarators is in a defining position
exactly if no link of the chain is unlisted.  Then it is a local symbol of every scope around the
declaration, and the scope refers to the name exactly if it uses a member of that name. -/
theorem declared_names_bound_unless_unlisted (profile : Profile)
    (isC : profile = Language.c ∨ profile = Language.cpp) (stack : StackLimit)
    (includeModuleScopes : Bool) (filePath language : String) (bytes : ByteArray) (tree : Node) :
    let strategy := strategyOf profile.family
    let ctx := prepare profile strategy stack filePath bytes (Cursor.root tree)
    let drafts := fileDrafts strategy ctx includeModuleScopes (Cursor.root tree)
    (analyze profile strategy stack includeModuleScopes filePath language bytes tree).scopes =
        sortScopes (drafts.map fun draft => draft.complete ctx strategy.packageName) ∧
      ∀ declaration : Cursor, declaration.kind ∈ Declarator.declaringKinds →
        ∀ declarator ∈ declaration.childrenByField "declarator", ∀ target,
          (Declarator.name ctx.source (some declarator)).node = some target →
          target.kind = "identifier" ∨ target.kind = "type_identifier" →
          ∃ links, Declarator.Chain declarator links target ∧
            (isDefinition ctx.nodes target = true ↔ ¬Declarator.Unlisted declaration links) ∧
            (¬Declarator.Unlisted declaration links →
              ∀ draft ∈ drafts, ∀ root ∈ draft.places, root.Within declaration →
                ctx.text target ∈ ctx.localSymbols root ∧
                ((∃ reference ∈ (draft.complete ctx strategy.packageName).references,
                    reference.identifier = ctx.text target) ↔
                  ∃ place ∈ draft.places, ctx.UsesMember (draft.skip ++ draft.nameNode.toList)
                    place (ctx.text target))) := by
  intro strategy ctx drafts
  refine ⟨scopes_analyze profile strategy stack includeModuleScopes filePath language bytes tree, ?_⟩
  intro declaration declares declarator isDeclarator target named kind
  have table : ctx.nodes = cNodes ∨ ctx.nodes = cppNodes := by
    rcases isC with rfl | rfl
    · exact Or.inl rfl
    · exact Or.inr rfl
  have isName : ctx.nodes.isIdentifier target.kind = true := by
    rcases table with same | same <;> rcases kind with kind | kind <;> rw [same, kind] <;> rfl
  obtain ⟨links, chain⟩ := Declarator.exists_chain_of_name named
  have agree := Declarator.isDefinition_iff_not_unlisted table declares isDeclarator chain
  refine ⟨links, chain, agree, fun listed draft drafted root isRoot around => ?_⟩
  have below : root.Within target :=
    (around.tail (List.mem_filter.mp isDeclarator).1).trans chain.within
  have bound : ctx.text target ∈ ctx.localSymbols root :=
    Context.mem_localSymbols_iff.mpr ⟨target, below, isName, agree.mpr listed, rfl⟩
  have excluded : ctx.text target ∈ draft.exclusions ctx :=
    Draft.mem_exclusions_iff.mpr (Or.inr (Or.inr ⟨root, isRoot, bound⟩))
  exact ⟨bound, Draft.refers_iff_usesMember (synthetic_eq_nil_of_mem_fileDrafts isC drafted) excluded⟩

/-- The text of a function with two variables, the first with an attribute. -/
def attributedText : ByteArray :=
  "int f(void) \x7b\n  int x [[a]] = 1, y = 2;\n  return x + y;\n\x7d\n".toUTF8

/-- The tree of the function. -/
def attributedTree : Node :=
  let node (index : Nat) (kind : String) (field : Option String) (start stop : Nat)
      (children : List Node) : Node :=
    .mk { index, kind, field, isNamed := true, isMissing := false, startByte := start,
          endByte := stop } children
  let head := node 3 "function_declarator" "declarator" 4 11
    [node 4 "identifier" "declarator" 4 5 [],
      node 5 "parameter_list" "parameters" 5 11
        [node 6 "parameter_declaration" none 6 10 [node 7 "primitive_type" "type" 6 10 []]]]
  let first := node 11 "init_declarator" "declarator" 20 31
    [node 12 "attributed_declarator" "declarator" 20 27
      [node 13 "identifier" none 20 21 [],
        node 14 "attribute_declaration" none 22 27
          [node 15 "attribute" none 24 25 [node 16 "identifier" "name" 24 25 []]]],
      node 17 "number_literal" "value" 30 31 []]
  let second := node 18 "init_declarator" "declarator" 33 38
    [node 19 "identifier" "declarator" 33 34 [], node 20 "number_literal" "value" 37 38 []]
  let sum := node 22 "binary_expression" none 49 54
    [node 23 "identifier" "left" 49 50 [], node 24 "identifier" "right" 53 54 []]
  let body := node 8 "compound_statement" "body" 12 57
    [node 9 "declaration" none 16 39
      [node 10 "primitive_type" "type" 16 19 [], first, second],
      node 21 "return_statement" none 42 55 [sum]]
  node 0 "translation_unit" none 0 58
    [node 1 "function_definition" none 0 57
      [node 2 "primitive_type" "type" 0 3 [], head, body]]

/-- The file of the function before its scopes are collected. -/
def attributedContext : Context :=
  prepare Language.c CFamily.cStrategy .unlimited "f.c" attributedText (Cursor.root attributedTree)

/-- A scope of the file around the declaration of a name, as the readings find it. -/
structure Declares (name : String) (draft : Draft) (root declaration declarator target : Cursor) :
    Prop where
  drafted : draft ∈ fileDrafts CFamily.cStrategy attributedContext true (Cursor.root attributedTree)
  isRoot : root ∈ draft.places
  around : root.Within declaration
  declares : declaration.kind ∈ Declarator.declaringKinds
  isDeclarator : declarator ∈ declaration.childrenByField "declarator"
  found : (Declarator.name attributedContext.source (some declarator)).node = some target
  isName : target.kind = "identifier"
  spelled : attributedContext.text target = name

/-- All declarations of the name in scopes of the file, with the names they introduce. -/
def declarationsOf (name : String) : List (Draft × Cursor × Cursor × Cursor × Cursor) :=
  (fileDrafts CFamily.cStrategy attributedContext true (Cursor.root attributedTree)).flatMap
    fun draft => draft.places.flatMap fun root => root.preorder.flatMap fun declaration =>
      if declaration.kind ∈ Declarator.declaringKinds then
        (declaration.childrenByField "declarator").flatMap fun declarator =>
          ((Declarator.name attributedContext.source (some declarator)).node.filter fun target =>
            target.kind == "identifier" && attributedContext.text target == name).toList.map
              fun target => (draft, root, declaration, declarator, target)
      else []

theorem declares_of_mem_declarationsOf {name : String} {draft : Draft}
    {root declaration declarator target : Cursor}
    (member : (draft, root, declaration, declarator, target) ∈ declarationsOf name) :
    Declares name draft root declaration declarator target := by
  simp only [declarationsOf, List.mem_flatMap, List.mem_ite_nil_right, List.mem_map,
    Option.mem_toList, Option.filter_eq_some_iff, Bool.and_eq_true, beq_iff_eq,
    Prod.mk.injEq] at member
  obtain ⟨_, drafted, _, isRoot, _, below, declares, _, isDeclarator, _, ⟨found, isName, spelled⟩,
    rfl, rfl, rfl, rfl, rfl⟩ := member
  exact ⟨drafted, isRoot, Cursor.mem_preorder_iff.mp below, declares, isDeclarator, found, isName,
    spelled⟩

/-- The function refers to its variable with an attribute where it declares it. -/
theorem attributed_variable_referenced :
    ∃ draft root declaration declarator target,
      Declares "x" draft root declaration declarator target ∧
        isDefinition attributedContext.nodes target = false ∧
        "x" ∉ attributedContext.localSymbols root ∧
        ReportedAt "x" (attributedContext.line target) (attributedContext.column target)
          (draft.complete attributedContext CFamily.cStrategy.packageName).references := by
  have found : ∃ declared ∈ declarationsOf "x",
      isDefinition attributedContext.nodes declared.2.2.2.2 = false ∧
        "x" ∉ attributedContext.localSymbols declared.2.1 ∧
        ∃ reference ∈ Cursor.explore (attributedContext.visitForReferences
            (declared.1.exclusions attributedContext)
            (declared.1.skip ++ declared.1.nameNode.toList)) declared.1.places,
          reference.identifier = "x" ∧
            reference.line = attributedContext.line declared.2.2.2.2 ∧
            reference.column = attributedContext.column declared.2.2.2.2 := by
    decide +kernel
  obtain ⟨⟨draft, root, declaration, declarator, target⟩, member, unbound, missing, reported⟩ :=
    found
  exact ⟨draft, root, declaration, declarator, target, declares_of_mem_declarationsOf member,
    unbound, missing, Draft.reportedAt_references reported⟩

/-- The function binds its other variable, and does not refer to it. -/
theorem plain_variable_bound :
    (Language.c = Language.c ∨ Language.c = Language.cpp) ∧
      ∃ draft root declaration declarator target,
        Declares "y" draft root declaration declarator target ∧
          isDefinition attributedContext.nodes target = true ∧
          "y" ∈ attributedContext.localSymbols root ∧
          ((∃ reference ∈ (draft.complete attributedContext CFamily.cStrategy.packageName).references,
              reference.identifier = "y") ↔
            ∃ place ∈ draft.places, attributedContext.UsesMember
              (draft.skip ++ draft.nameNode.toList) place "y") := by
  refine ⟨Or.inl rfl, ?_⟩
  have found : ∃ declared ∈ declarationsOf "y",
      isDefinition attributedContext.nodes declared.2.2.2.2 = true := by
    decide +kernel
  obtain ⟨⟨draft, root, declaration, declarator, target⟩, member, binds⟩ := found
  have declared := declares_of_mem_declarationsOf member
  obtain ⟨links, _, agree, bound⟩ :=
    (declared_names_bound_unless_unlisted Language.c (Or.inl rfl) .unlimited true "f.c" "c"
      attributedText attributedTree).2 declaration declared.declares declarator
        declared.isDeclarator target declared.found (Or.inl declared.isName)
  obtain ⟨isLocal, reported⟩ :=
    bound (agree.mp binds) draft declared.drafted root declared.isRoot declared.around
  have spelled : (prepare Language.c (strategyOf Language.c.family) .unlimited "f.c" attributedText
      (Cursor.root attributedTree)).text target = "y" := declared.spelled
  rw [spelled] at isLocal reported
  exact ⟨draft, root, declaration, declarator, target, declared, binds, isLocal, reported⟩

end ScopeAtlas.Reading
