import ScopeAtlas.Proofs.Extraction.Containment
import ScopeAtlas.Proofs.Reading.Separation

/-!
# The containers of the scopes of each language

Every reading gives its scopes the depth and the container it was called with, and reads what is
inside a scope one level deeper and under its name.  Two kinds of scopes are detached from where they
stand: a Go method names the type of its receiver, and a function that is defined under a qualified
name names the class or the namespace that qualifies it.  All others that name a container are
listed after a scope of that name which has them on its lines.
-/

namespace ScopeAtlas.Reading

open ScopeAtlas.Extraction ScopeAtlas.Language ScopeAtlas.Syntax ScopeAtlas.Text

variable {detached : Draft → Prop} {made : List Draft}

/-- Drafts at the declaring nodes of a declaration, or at the declaration itself. -/
theorem fits_declared {place node : Cursor} {draft : Draft} {depth : Nat} {parent : Option String}
    {alone : Bool} (inside : place.Within node) (single : draft.extent = [])
    (home : draft.place = if alone then place else node) (level : draft.depth = depth)
    (owner : draft.parent = parent) : Fits detached place depth parent draft := by
  refine .single single ?_ level owner
  rw [home]
  split
  · exact Cursor.Within.refl place
  · exact inside

namespace EcmaScript

theorem nested_functionSteps (ctx : Context) {place function : Cursor} (name : String)
    (nameNode : Option Cursor) (depth : Nat) (parent keyword : Option String)
    (inside : place.Within function) :
    Nested detached place depth parent made
      (functionSteps ctx place function name nameNode depth parent keyword) :=
  nested_scope_enterBody (.single rfl (Cursor.Within.refl place) rfl rfl)
    fun _ found => inside.trans (Cursor.within_of_childByField? found)

/-- The value of a variable lies within the scope of the variable, or is read alongside. -/
theorem nested_declaratorSteps (ctx : Context) {declaration declarator : Cursor} (count : Nat)
    (keyword : String) (depth : Nat) (parent : Option String)
    (member : declarator ∈ declaration.children) :
    Nested detached declaration depth parent made
      (declaratorSteps ctx declaration count keyword depth parent declarator) := by
  have inside := Cursor.within_of_mem_children member
  have valueInside : ∀ value ∈ (declarator.childByField? "value").toList,
      declarator.Within value := fun value found =>
    Cursor.within_of_childByField? (Option.mem_toList.mp found)
  simp only [declaratorSteps, Option.toList_map]
  split
  · trivial
  · split
    · rename_i function chosen
      obtain ⟨found, _⟩ := Option.filter_eq_some_iff.mp chosen
      have functionInside := Cursor.within_of_childByField? found
      exact (nested_functionSteps ctx _ _ _ _ _ functionInside).widen inside
    · split
      · refine nested_scope_map_enter (fits_declared inside rfl rfl rfl rfl) ?_
        intro value found
        refine ⟨_, List.mem_cons_self, Cursor.Within.trans ?_ (valueInside value found)⟩
        simp only [variableDraft]
        split
        · exact inside
        · exact Cursor.Within.refl declarator
      · apply nested_map_enter
        intro value found
        exact ⟨inside.trans (valueInside value found), .alongside⟩

theorem strategy_isNested (ctx : Context) : strategy.IsNested ctx detached := by
  intro construct reading chosen place depth parent
  have here := Cursor.Within.refl place
  have body := within_of_mem_childByField? place "body"
  simp only [strategy] at chosen
  split at chosen <;> try obtain rfl := Option.some.inj chosen
  · exact nested_scope_enterBody (.single rfl here rfl rfl) body
  · exact nested_scope (.single rfl here rfl rfl)
  · exact nested_functionSteps ctx _ _ _ _ _ here
  · exact nested_functionSteps ctx _ _ _ _ _ here
  · exact nested_scope (.single rfl here rfl rfl)
  · exact nested_scope (.single rfl here rfl rfl)
  · exact nested_scope_enterBody (.single rfl here rfl rfl) body
  · apply nested_flatMap
    intro declarator member
    have isChild := List.mem_of_mem_filter (List.mem_of_mem_filter member)
    exact nested_declaratorSteps ctx _ _ depth parent isChild
  · contradiction

end EcmaScript

namespace Python

theorem nested_functionSteps (decorators : List Decorator) (ctx : Context) (place : Cursor)
    (depth : Nat) (parent : Option String) :
    Nested detached place depth parent made (functionSteps decorators ctx place depth parent) :=
  nested_scope_enterBody (.single rfl (Cursor.Within.refl place) rfl rfl)
    (within_of_mem_childByField? place "body")

theorem nested_classSteps (decorators : List Decorator) (ctx : Context) (place : Cursor)
    (depth : Nat) (parent : Option String) :
    Nested detached place depth parent made (classSteps decorators ctx place depth parent) :=
  nested_scope_enterBody (.single rfl (Cursor.Within.refl place) rfl rfl)
    (within_of_mem_childByField? place "body")

theorem nested_readStatement (ctx : Context) (place : Cursor) (depth : Nat)
    (parent : Option String) :
    Nested detached place depth parent made (readStatement ctx place depth parent) := by
  have here := Cursor.Within.refl place
  rw [readStatement]
  split
  · trivial
  · split
    · trivial
    · split
      · trivial
      · split
        · exact nested_scope (.single rfl here rfl rfl)
        · split
          · exact nested_scope (.single rfl here rfl rfl)
          · trivial

theorem strategy_isNested (ctx : Context) : strategy.IsNested ctx detached := by
  intro construct reading chosen place depth parent
  simp only [strategy] at chosen
  split at chosen <;> try obtain rfl := Option.some.inj chosen
  · exact nested_classSteps _ ctx place depth parent
  · exact nested_functionSteps _ ctx place depth parent
  · rw [stepsOf_always, readDecorated]
    split
    · exact nested_enterChildren (Cursor.Within.refl place)
    · rename_i definition found
      have inside := Cursor.within_of_childByField? found
      split
      · exact (nested_classSteps _ ctx definition depth parent).widen inside
      · exact (nested_functionSteps _ ctx definition depth parent).widen inside
  · exact nested_readStatement ctx place depth parent
  · contradiction

end Python

namespace Rust

theorem nested_readImplementation (ctx : Context) (place : Cursor) (depth : Nat)
    (parent : Option String) :
    Nested detached place depth parent made (readImplementation ctx place depth parent) := by
  unfold readImplementation
  extract_lets typeNode trait typeText name body head
  -- How the name is computed does not matter, and comparing it with itself would compute it.
  clear_value name
  exact nested_scope_enterBody (.single rfl (Cursor.Within.refl place) rfl rfl)
    (within_of_mem_childByField? place "body")

theorem strategy_isNested (ctx : Context) : strategy.IsNested ctx detached := by
  intro construct reading chosen place depth parent
  have here := Cursor.Within.refl place
  have body := within_of_mem_childByField? place "body"
  simp only [strategy] at chosen
  split at chosen <;> try obtain rfl := Option.some.inj chosen
  · exact nested_scope (.single rfl here rfl rfl)
  · exact nested_scope_enterBody (.single rfl here rfl rfl) body
  · exact nested_readImplementation ctx place depth parent
  · exact nested_scope_enterBody (.single rfl here rfl rfl) body
  · exact nested_scope (.single rfl here rfl rfl)
  · exact nested_scope (.single rfl here rfl rfl)
  · exact nested_scope_enterBody (.single rfl here rfl rfl) body
  · rw [stepsOf_always, readConstant]
    split
    · trivial
    · exact nested_scope (.single rfl here rfl rfl)
  · contradiction

end Rust

namespace Go

/-- The name of the type on which a method is declared, empty if there is none. -/
def receiverType (ctx : Context) (place : Cursor) : String :=
  baseTypeName (((parameters ctx (place.childByField? "receiver")).head?.bind (·.type)).getD "")

/-- A method with a receiver. -/
def HasReceiver (ctx : Context) (draft : Draft) : Prop :=
  draft.kind = .method ∧ receiverType ctx draft.place ≠ ""

theorem nested_readMethod (ctx : Context) (place : Cursor) (depth : Nat)
    (parent : Option String) :
    Nested (HasReceiver ctx) place depth parent made (readMethod ctx place depth parent) := by
  unfold readMethod
  extract_lets nameNode name receiver receivers receiverText type list result level
  have attached : receiverType ctx place ≠ "" ∨
      level = depth ∧ (if type.isEmpty then parent else some type) = parent := by
    by_cases received : type = ""
    · right
      simp [level, received]
    · exact Or.inl received
  clear_value level
  generalize (if type.isEmpty then parent else some type) = owner at attached ⊢
  exact nested_scope_enterBody
    ⟨.single rfl (Cursor.Within.refl place), attached.imp_left (⟨rfl, ·⟩)⟩
    (within_of_mem_childByField? place "body")

theorem nested_readBindings (ctx : Context) (place : Cursor) (depth : Nat)
    (parent : Option String) :
    Nested detached place depth parent made (readBindings ctx place depth parent) := by
  simp only [readBindings]
  split
  · trivial
  · apply nested_flatMap
    intro spec specMem
    have inside := Cursor.mem_preorder_iff.mp (List.mem_of_mem_filter specMem)
    apply nested_map_scope
    intro name _
    exact fits_declared inside rfl rfl rfl rfl

theorem strategy_isNested (ctx : Context) : strategy.IsNested ctx (HasReceiver ctx) := by
  intro construct reading chosen place depth parent
  simp only [strategy] at chosen
  split at chosen <;> try obtain rfl := Option.some.inj chosen
  · exact nested_scope_enterBody (.single rfl (Cursor.Within.refl place) rfl rfl)
      (within_of_mem_childByField? place "body")
  · exact nested_readMethod ctx place depth parent
  · apply nested_map_scope
    intro spec member
    have isChild := List.mem_of_mem_filter (List.mem_of_mem_filter member)
    exact fits_declared (Cursor.within_of_mem_children isChild) rfl rfl rfl rfl
  · exact nested_readBindings ctx place depth parent
  · contradiction

end Go

namespace CSharp

theorem fieldText?_eq_none_or_textOf (ctx : Context) (place : Cursor) (field : String) :
    ctx.fieldText? place field = none ∨
      ctx.fieldText? place field = some (ctx.textOf (place.childByField? field)) := by
  rw [Context.fieldText?, Source.fieldText?, Context.textOf]
  cases place.childByField? field with
  | none => exact Or.inl rfl
  | some child => exact Or.inr rfl

/-- A namespace with the siblings that belong to it, and these siblings inside it.  If the namespace
has no name, they have no container. -/
theorem nested_namespaceSteps (extent : List Cursor) (ctx : Context) {outer place : Cursor}
    (depth : Nat) (parent : Option String)
    (lies : ∀ draft : Draft, draft.places = place :: extent → draft.LiesWithin outer) :
    Nested detached outer depth parent made
      (namespaceSteps extent ctx place depth parent ++
        extent.map fun sibling => .enter sibling (depth + 1) (ctx.fieldText? place "name")) := by
  unfold namespaceSteps
  extract_lets nameNode name body inside
  have inBody : ∀ child ∈ inside, place.Within child := by
    intro child member
    simp only [inside, body] at member
    cases found : place.childByField? "body" with
    | some body =>
        simp only [found] at member
        have isChild := Cursor.within_of_mem_children (List.mem_of_mem_filter member)
        exact (Cursor.within_of_childByField? found).trans isChild
    | none =>
        simp only [found] at member
        split at member
        · rename_i body chosen
          split at chosen
          · obtain rfl := Option.some.inj chosen
            exact Cursor.within_of_mem_children (List.mem_of_mem_filter member)
          · contradiction
        · contradiction
  -- First what stands in the node of the namespace, then the siblings that belong to it.
  refine ⟨⟨lies _ rfl, Or.inr ⟨rfl, rfl⟩⟩, nested_append ?_ ?_⟩
  · apply nested_map_enter_inside List.mem_cons_self (lies _ rfl)
    intro child member
    exact ⟨place, List.mem_cons_self, inBody child member⟩
  · rcases fieldText?_eq_none_or_textOf ctx place "name" with noName | named
    · have placesInside :=
        (lies { place, extent, name, kind := .namespaceLike, depth, parent } rfl).within
      rw [noName]
      apply nested_map_enter
      intro sibling member
      exact ⟨placesInside sibling (List.mem_cons_of_mem _ member), .outermost _⟩
    · rw [named]
      apply nested_map_enter_inside List.mem_cons_self (lies _ rfl)
      intro sibling member
      exact ⟨sibling, List.mem_cons_of_mem _ member, Cursor.Within.refl sibling⟩

theorem nested_unitSteps (ctx : Context) (depth : Nat) (parent : Option String) {place : Cursor}
    {nodes : List Cursor} (sublist : nodes.Sublist place.children) :
    Nested detached place depth parent made (unitSteps ctx depth parent nodes) := by
  induction nodes with
  | nil => trivial
  | cons child rest ih =>
      have isChild := sublist.subset List.mem_cons_self
      simp only [unitSteps]
      split
      · apply nested_namespaceSteps (rest.filter (·.isNamed)) ctx depth parent
        intro draft places
        apply Draft.LiesWithin.siblings place (Cursor.Within.refl place)
        rw [places]
        exact (List.filter_sublist.cons_cons child).trans sublist
      · exact ⟨⟨Cursor.within_of_mem_children isChild, .alongside⟩,
          ih ((List.sublist_cons_self _ _).trans sublist)⟩

theorem nested_readType (ctx : Context) (place : Cursor) (depth : Nat) (parent : Option String) :
    Nested detached place depth parent made (stepsOf (readType ctx place depth parent)) := by
  rw [readType]
  split
  · exact nested_scope_enterBody (.single rfl (Cursor.Within.refl place) rfl rfl)
      (within_of_mem_childByField? place "body")
  · trivial

theorem strategy_isNested (ctx : Context) : strategy.IsNested ctx detached := by
  intro construct reading chosen place depth parent
  have here := Cursor.Within.refl place
  have body := within_of_mem_childByField? place "body"
  simp only [strategy] at chosen
  split at chosen <;> try obtain rfl := Option.some.inj chosen
  · exact nested_unitSteps ctx depth parent (List.Sublist.refl _)
  · have alone : ∀ draft : Draft, draft.places = [place] → draft.LiesWithin place := by
      intro draft places
      obtain ⟨home, single⟩ := List.cons.inj places
      exact .single single (home ▸ here)
    simpa only [List.map_nil, List.append_nil, stepsOf_always, readNamespace] using
      nested_namespaceSteps [] ctx depth parent alone
  · exact nested_readType ctx place depth parent
  · exact nested_readType ctx place depth parent
  · exact nested_scope (.single rfl here rfl rfl)
  · exact nested_scope_enterBody (.single rfl here rfl rfl) body
  · exact nested_scope_enterBody (.single rfl here rfl rfl) body
  · exact nested_scope (.single rfl here rfl rfl)
  · contradiction

end CSharp

/-- A qualified name is read from its own node. -/
theorem Declarator.exists_node_of_qualifier {source : Source} {declarator : Option Cursor}
    (qualified : (Declarator.name source declarator).qualifier.isSome) :
    ∃ node, (Declarator.name source declarator).node = some node ∧
      node.kind = "qualified_identifier" ∧
      Declarator.name source (some node) = Declarator.name source declarator := by
  cases found : declarator.bind innermost? with
  | none => simp [Declarator.name, found] at qualified
  | some target =>
      by_cases kind : target.kind = "qualified_identifier"
      · have innermost : innermost? target = some target := by
          rw [innermost?, if_neg (by rw [kind]; decide)]
        exact ⟨target, by simp [Declarator.name, found, kind], kind,
          by simp [Declarator.name, found, innermost]⟩
      · simp only [Declarator.name, found, beq_iff_eq, if_neg kind] at qualified
        split at qualified <;> contradiction

namespace CFamily

variable {place scopePlace : Cursor}

/-- A function that is defined under a name which a class or a namespace qualifies. -/
def OutOfLine (ctx : Context) (draft : Draft) : Prop :=
  draft.kind = .method ∧ ∃ node ∈ draft.nameNode, node.kind = "qualified_identifier" ∧
    ((Declarator.name ctx.source (some node)).qualifier.bind nonEmpty?).isSome

theorem nested_functionSteps (ctx : Context) (generics : List GenericParameter) (depth : Nat)
    (parent : Option String) (inside : scopePlace.Within place) :
    Nested (OutOfLine ctx) scopePlace depth parent made
      (functionSteps ctx place scopePlace generics depth parent) := by
  unfold functionSteps
  extract_lets declarator function name owner isMember level specifiers trailing headEnd
  split
  · exact nested_enterChildren inside
  · have bodyInside : ∀ body ∈ place.childByField? "body", scopePlace.Within body :=
      fun _ found => inside.trans (Cursor.within_of_childByField? found)
    have outOfLine : owner.isSome → ∃ node ∈ name.node, node.kind = "qualified_identifier" ∧
        ((Declarator.name ctx.source (some node)).qualifier.bind nonEmpty?).isSome := by
      intro isOwned
      have qualified := Option.isSome_of_isSome_bind isOwned
      obtain ⟨node, found, kind, same⟩ := Declarator.exists_node_of_qualifier qualified
      exact ⟨node, found, kind, same ▸ isOwned⟩
    clear_value name
    cases owned : owner with
    | none =>
        simp only [level, owned, Option.isSome_none, Bool.false_or]
        exact nested_scope_enterBody (.single rfl (Cursor.Within.refl scopePlace) rfl rfl) bodyInside
    | some qualifier =>
        rw [owned] at outOfLine
        simp only [level, owned, Option.isSome_some, Bool.true_or]
        exact nested_scope_enterBody
          ⟨.single rfl (Cursor.Within.refl scopePlace), Or.inl ⟨rfl, outOfLine rfl⟩⟩ bodyInside

theorem nested_bodySteps (ctx : Context) (keyword : String) {body : Cursor} (given : GivenName)
    (generics : List GenericParameter) (depth : Nat) (parent : Option String)
    (inside : scopePlace.Within place) (found : place.childByField? "body" = some body) :
    Nested detached scopePlace depth parent made
      (bodySteps ctx place scopePlace keyword body given generics depth parent) := by
  refine nested_scope_map_enter (.single rfl (Cursor.Within.refl scopePlace) rfl rfl) ?_
  intro child isChild
  have below := (Cursor.within_of_childByField? found).trans (Cursor.within_of_mem_children isChild)
  exact ⟨scopePlace, List.mem_cons_self, inside.trans below⟩

theorem nested_recordSteps (ctx : Context) (given : GivenName) (generics : List GenericParameter)
    (depth : Nat) (parent : Option String) (inside : scopePlace.Within place) :
    Nested detached scopePlace depth parent made
      (stepsOf (recordSteps ctx place scopePlace given generics depth parent)) := by
  rw [recordSteps]
  split
  · trivial
  · rename_i body found
    split
    · exact nested_bodySteps ctx _ given generics depth parent inside found
    · trivial

theorem nested_typeSteps (ctx : Context) (given : GivenName) (depth : Nat) (parent : Option String)
    (inside : scopePlace.Within place) :
    Nested detached scopePlace depth parent made
      (stepsOf (typeSteps ctx place scopePlace given depth parent)) := by
  rw [typeSteps]
  split
  · rw [stepsOf_ok, enumSteps]
    split
    · trivial
    · exact nested_scope (.single rfl (Cursor.Within.refl scopePlace) rfl rfl)
  · exact nested_recordSteps ctx given [] depth parent inside

theorem nested_readTypeDefinition (ctx : Context) (place : Cursor) (depth : Nat)
    (parent : Option String) :
    Nested detached place depth parent made
      (stepsOf (readTypeDefinition ctx place depth parent)) := by
  have here := Cursor.Within.refl place
  simp only [readTypeDefinition]
  split
  · rename_i specifier chosen
    obtain ⟨found, _⟩ := Option.filter_eq_some_iff.mp chosen
    have inside := Cursor.within_of_childByField? found
    split
    · exact nested_typeSteps ctx _ depth parent inside
    · refine of_stepsOf_map_append (Nested detached place depth parent made) trivial
        (nested_append ?_ ?_)
      · exact (nested_typeSteps ctx none depth parent (Cursor.Within.refl specifier)).widen inside
      · split
        · trivial
        · exact nested_scope (.single rfl here rfl rfl)
  · split
    · trivial
    · split
      · exact nested_scope (.single rfl here rfl rfl)
      · trivial

theorem nested_readDeclaration (ctx : Context) (place : Cursor) (depth : Nat)
    (parent : Option String) :
    Nested detached place depth parent made
      (stepsOf (readDeclaration ctx place depth parent)) := by
  unfold readDeclaration
  extract_lets type defined declarators qualifiers named
  have definedNested : ∀ made, Nested detached place depth parent made (stepsOf defined) := by
    intro made
    simp only [defined]
    split
    · rename_i specifier chosen
      obtain ⟨found, _⟩ := Option.filter_eq_some_iff.mp chosen
      exact (nested_typeSteps ctx none depth parent (Cursor.Within.refl specifier)).widen
        (Cursor.within_of_childByField? found)
    · trivial
  split
  · exact definedNested made
  · refine of_stepsOf_map_append (Nested detached place depth parent made) trivial
      (nested_append (definedNested made) (nested_map_scope ?_))
    intro declarator member
    have isChild := List.mem_of_mem_filter (List.mem_of_mem_filter (List.mem_of_mem_filter member))
    exact fits_declared (Cursor.within_of_mem_children isChild) rfl rfl rfl rfl

theorem nested_readTemplate (ctx : Context) (place : Cursor) (depth : Nat)
    (parent : Option String) :
    Nested (OutOfLine ctx) place depth parent made
      (stepsOf (readTemplate ctx place depth parent)) := by
  simp only [readTemplate]
  split
  · trivial
  · rename_i templated found
    have isNamed := List.mem_reverse.mp (List.mem_of_find?_eq_some found)
    have inside := Cursor.within_of_mem_children (Cursor.mem_children_of_mem_namedChildren isNamed)
    split
    · exact nested_functionSteps ctx _ depth parent inside
    · split
      · exact nested_recordSteps ctx none _ depth parent inside
      · split
        · exact nested_scope (.single rfl (Cursor.Within.refl place) rfl rfl)
        · split
          · split
            · rename_i type chosen
              obtain ⟨isType, _⟩ := Option.filter_eq_some_iff.mp chosen
              exact nested_recordSteps ctx none _ depth parent
                (inside.trans (Cursor.within_of_childByField? isType))
            · trivial
          · exact ⟨⟨inside, .alongside⟩, trivial⟩

theorem cStrategy_isNested (ctx : Context) : cStrategy.IsNested ctx (OutOfLine ctx) := by
  intro construct reading chosen place depth parent
  have here := Cursor.Within.refl place
  simp only [cStrategy, commonReading?] at chosen
  split at chosen <;> try obtain rfl := Option.some.inj chosen
  · exact nested_functionSteps ctx [] depth parent here
  · exact nested_typeSteps ctx none depth parent here
  · exact nested_typeSteps ctx none depth parent here
  · rw [readAlias]
    split
    · exact nested_scope (.single rfl here rfl rfl)
    · exact nested_readTypeDefinition ctx place depth parent
  · exact nested_readDeclaration ctx place depth parent
  · exact nested_scope (.single rfl here rfl rfl)
  · contradiction

theorem cppStrategy_isNested (ctx : Context) : cppStrategy.IsNested ctx (OutOfLine ctx) := by
  intro construct reading chosen place depth parent
  simp only [cppStrategy] at chosen
  split at chosen
  · obtain rfl := Option.some.inj chosen
    exact nested_scope_enterBody (.single rfl (Cursor.Within.refl place) rfl rfl)
      (within_of_mem_childByField? place "body")
  · obtain rfl := Option.some.inj chosen
    exact nested_readTemplate ctx place depth parent
  · exact cStrategy_isNested ctx _ reading chosen place depth parent

end CFamily

/-- The scopes that name a container without standing in it: Go methods with a receiver, and functions
under qualified names, which C reads as C++ does. -/
def Detached (family : Family) (ctx : Context) (draft : Draft) : Prop :=
  match family with
  | .go => Go.HasReceiver ctx draft
  | .c | .cpp => CFamily.OutOfLine ctx draft
  | .typescript | .python | .rust | .csharp => False

theorem strategyOf_isNested (family : Family) (ctx : Context) :
    (strategyOf family).IsNested ctx (Detached family ctx) := by
  cases family with
  | typescript => exact EcmaScript.strategy_isNested ctx
  | python => exact Python.strategy_isNested ctx
  | rust => exact Rust.strategy_isNested ctx
  | go => exact Go.strategy_isNested ctx
  | c => exact CFamily.cStrategy_isNested ctx
  | cpp => exact CFamily.cppStrategy_isNested ctx
  | csharp => exact CSharp.strategy_isNested ctx

/-- Let the nodes of a tree be in order, none end before it begins, and none at which a scope is
drafted be empty.  Then every scope has lines and a depth, and each scope that names a container and
is not detached is listed after one that surrounds it. -/
theorem container_listed_before_and_around (profile : Profile) (stack : StackLimit)
    (includeModuleScopes : Bool) (filePath language : String) (bytes : ByteArray) (tree : Node) :
    let strategy := strategyOf profile.family
    let root := Cursor.root tree
    let ctx := prepare profile strategy stack filePath bytes root
    let drafts := fileDrafts strategy ctx includeModuleScopes root
    let complete := fun draft : Draft => draft.complete ctx strategy.packageName
    let scopes :=
      (analyze profile strategy stack includeModuleScopes filePath language bytes tree).scopes
    root.InOrder → (∀ place ∈ root.preorder, place.startByte ≤ place.endByte) →
      (∀ draft ∈ drafts, draft.place.startByte < draft.place.endByte) →
        scopes = sortScopes (drafts.map complete) ∧
          (∀ scope ∈ scopes,
            1 ≤ scope.startLine ∧ scope.startLine ≤ scope.endLine ∧ 0 ≤ scope.depth) ∧
          ∀ draft ∈ drafts, draft.parent ≠ none → ¬Detached profile.family ctx draft →
            ∀ before after, scopes = before ++ complete draft :: after →
              ∃ container ∈ before, Surrounds container (complete draft) := by
  intro strategy root ctx drafts complete scopes ordered forward occupied
  have completed : scopes = sortScopes (drafts.map complete) :=
    scopes_analyze profile strategy stack includeModuleScopes filePath language bytes tree
  have placed : ∀ draft ∈ drafts,
      Placed (Detached profile.family ctx) root 0 none drafts draft :=
    placed_fileDrafts (strategyOf_isNested profile.family ctx) includeModuleScopes
  refine ⟨completed, ?_, ?_⟩
  · intro scope member
    obtain ⟨draft, draftMem, rfl⟩ := mem_scopes_analyze_iff.mp member
    refine ⟨?_, (placed draft draftMem).lies.startLine_le_endLine ordered forward ctx _, ?_⟩
    · exact Int.le_add_of_nonneg_left (Int.natCast_nonneg _)
    · exact Int.natCast_nonneg draft.depth
  · intro draft draftMem named attached before after split
    obtain ⟨lies, apart | outermost | ⟨_, outermost⟩ | ⟨container, containerMem, encloses⟩⟩ :=
      placed draft draftMem
    · exact absurd apart attached
    · exact absurd outermost named
    · exact absurd outermost named
    · have surrounds : Surrounds (complete container) (complete draft) :=
        encloses.surrounds ordered forward (placed container containerMem).lies lies
          (occupied draft draftMem) ctx _
      refine ⟨complete container, ?_, surrounds⟩
      exact surrounds.mem_before (List.mem_map_of_mem containerMem) (completed ▸ split)

/-- The text of a file with a namespace without braces, a class in it and a method in the class. -/
def fileNamespaceText : ByteArray := "namespace N;\nclass A { void F() { } }\n".toUTF8

/-- The tree of the file; the class follows the namespace. -/
def fileNamespaceTree : Node :=
  let node (index : Nat) (kind : String) (field : Option String) (start stop : Nat)
      (children : List Node) : Node :=
    .mk { index, kind, field, isNamed := true, isMissing := false, startByte := start,
          endByte := stop } children
  let method := node 6 "method_declaration" none 23 35
    [node 7 "predefined_type" "returns" 23 27 [], node 8 "identifier" "name" 28 29 [],
      node 9 "parameter_list" "parameters" 29 31 [], node 10 "block" "body" 32 35 []]
  node 0 "compilation_unit" none 0 38
    [node 1 "file_scoped_namespace_declaration" none 0 12 [node 2 "identifier" "name" 10 11 []],
      node 3 "class_declaration" none 13 37
        [node 4 "identifier" "name" 19 20 [], node 5 "declaration_list" "body" 21 37 [method]]]

/-- The file before its scopes are collected. -/
def fileNamespaceContext : Context :=
  prepare csharp CSharp.strategy .unlimited "n.cs" fileNamespaceText (Cursor.root fileNamespaceTree)

/-- The drafts of the file. -/
def fileNamespaceDrafts : List Draft :=
  fileDrafts CSharp.strategy fileNamespaceContext true (Cursor.root fileNamespaceTree)

/-- The class is no part of the node of its namespace, and still inside it. -/
theorem file_namespace_listed_before_and_around :
    (Cursor.root fileNamespaceTree).InOrder ∧
      (∀ place ∈ (Cursor.root fileNamespaceTree).preorder, place.startByte ≤ place.endByte) ∧
      (∀ draft ∈ fileNamespaceDrafts, draft.place.startByte < draft.place.endByte) ∧
      ∃ draft ∈ fileNamespaceDrafts, draft.name = "A" ∧ draft.parent = some "N" ∧
        ∃ before after,
          (analyze csharp CSharp.strategy .unlimited true "n.cs" "csharp" fileNamespaceText
              fileNamespaceTree).scopes =
            before ++ draft.complete fileNamespaceContext CSharp.packageName :: after ∧
          ∃ container ∈ before,
            Surrounds container (draft.complete fileNamespaceContext CSharp.packageName) := by
  have ordered : (Cursor.root fileNamespaceTree).InOrder := by decide +kernel
  have forward : ∀ place ∈ (Cursor.root fileNamespaceTree).preorder,
      place.startByte ≤ place.endByte := by
    decide +kernel
  have occupied : ∀ draft ∈ fileNamespaceDrafts, draft.place.startByte < draft.place.endByte := by
    decide +kernel
  have drafted : ∃ draft ∈ fileNamespaceDrafts, draft.name = "A" ∧ draft.parent = some "N" := by
    decide +kernel
  obtain ⟨draft, member, isClass, parent⟩ := drafted
  obtain ⟨before, after, split⟩ := List.append_of_mem (mem_scopes_analyze_iff.mpr ⟨draft, member, rfl⟩)
  have named : draft.parent ≠ none := by rw [parent]; decide
  obtain ⟨_, _, contained⟩ := container_listed_before_and_around csharp .unlimited true
    "n.cs" "csharp" fileNamespaceText fileNamespaceTree ordered forward occupied
  exact ⟨ordered, forward, occupied, draft, member, isClass, parent, before, after, split,
    contained draft member named id before after split⟩

end ScopeAtlas.Reading
