import ScopeAtlas.Proofs.Extraction.Bodies
import ScopeAtlas.Proofs.Reading.Prototypes
import ScopeAtlas.Proofs.Reading.Totality

/-!
# Scopes of functions and variables in C and C++

A scope of a variable belongs to a declarator of a declaration, and one of a function to the
declarator of a definition; macros apart, there are no others.  So the scopes of a name are known
from the chain of declarators around it: a declared function gives none, and a defined one takes its
parameters from the chain, as far as the chain is read for what it is.
-/

namespace ScopeAtlas.Reading.CFamily

open ScopeAtlas.Data ScopeAtlas.Extraction ScopeAtlas.Language ScopeAtlas.Syntax

/-! ## Where the scopes of variables and functions come from -/

/-- The scope of a variable or a constant. -/
def IsVariable (draft : Draft) : Prop := draft.kind = .variableLike ∨ draft.kind = .constantLike
deriving Decidable

/-- The scope of a function or a method. -/
def IsFunction (draft : Draft) : Prop := draft.kind = .function ∨ draft.kind = .method
deriving Decidable

theorem IsFunction.not_isVariable {draft : Draft} (isFunction : IsFunction draft) :
    ¬IsVariable draft := by
  rintro (isVariable | isVariable) <;> rcases isFunction with isFunction | isFunction <;>
    exact absurd (isFunction.symm.trans isVariable) (by decide)

/-- The function declarator of a definition. -/
def functionOf? (definition : Cursor) : Option Cursor :=
  (definition.childByField? "declarator").bind Declarator.function?

/-- The declarator that names a function. -/
def namingDeclarator? (definition : Cursor) : Option Cursor :=
  match functionOf? definition with
  | some function => function.childByField? "declarator"
  | none => definition.childByField? "declarator"

/-- What names a function definition is held by the definition. -/
theorem holder?_of_namingDeclarator? {source : Syntax.Source} {definition target : Cursor}
    (bare : definition.kind ∉ Declarator.wrappers)
    (found : (Declarator.name source (namingDeclarator? definition)).node = some target) :
    Declarator.holder? target = some definition := by
  have held : ∀ declarator, definition.childByField? "declarator" = some declarator →
      Declarator.holder? declarator = some definition := by
    intro declarator isDeclarator
    rw [Declarator.holder?_of_mem_children (Cursor.mem_children_of_childByField? isDeclarator),
      if_neg bare]
  rw [namingDeclarator?] at found
  split at found
  · rename_i function isFunction
    obtain ⟨declarator, isDeclarator, below⟩ := Option.bind_eq_some_iff.mp isFunction
    obtain ⟨isWrapper, same⟩ := Declarator.holder?_of_function? below
    cases named : function.childByField? "declarator" with
    | none => rw [named] at found; contradiction
    | some inner =>
        rw [named] at found
        rw [Declarator.holder?_of_name found,
          Declarator.holder?_of_mem_children (Cursor.mem_children_of_childByField? named),
          if_pos isWrapper, same, held declarator isDeclarator]
  · cases isDeclarator : definition.childByField? "declarator" with
    | none => rw [isDeclarator] at found; contradiction
    | some declarator =>
        rw [isDeclarator] at found
        rw [Declarator.holder?_of_name found, held declarator isDeclarator]

/-- The kinds of the nodes that define macros. -/
def macroKinds : List String := ["preproc_def", "preproc_function_def"]

/-- The name of a macro is held by the macro. -/
theorem holder?_of_macro {place target : Cursor} (kind : place.kind ∈ macroKinds)
    (found : place.childByField? "name" = some target) :
    Declarator.holder? target = some place := by
  have bare : ∀ kind ∈ macroKinds, kind ∉ Declarator.wrappers := by decide
  rw [Declarator.holder?_of_mem_children (Cursor.mem_children_of_childByField? found),
    if_neg (bare place.kind kind)]

/-- Where a scope comes from. -/
inductive Origin (ctx : Context) (draft : Draft) : Prop where
  | ofDeclaration (declaration declarator : Cursor) (kind : declaration.kind = "declaration")
      (isDeclarator : declarator ∈ declaration.childrenByField "declarator")
      (plain : Declarator.isPrototype declarator = false) (isVariable : IsVariable draft)
      (named : draft.nameNode = (Declarator.name ctx.source (some declarator)).node)
  | ofDefinition (definition : Cursor) (kind : definition.kind = "function_definition")
      (isFunction : IsFunction draft)
      (named : draft.nameNode = (Declarator.name ctx.source (namingDeclarator? definition)).node)
      (taken : draft.parameters =
        parameters ctx ((functionOf? definition).bind (·.childByField? "parameters")))
  | ofMacro (place : Cursor) (kind : place.kind ∈ macroKinds)
      (named : draft.nameNode = place.childByField? "name")
  | other (noVariable : ¬IsVariable draft) (noFunction : ¬IsFunction draft)

theorem Origin.of_kind {ctx : Context} {draft : Draft}
    (kind : draft.kind ∈ [.classLike, .enumeration, .typeAlias, .namespaceLike, .moduleCode]) :
    Origin ctx draft := by
  refine .other ?_ ?_ <;>
    · rintro (same | same) <;> rw [same] at kind <;> exact absurd kind (by decide)

theorem everyDraft_functionSteps_origin (ctx : Context) {place : Cursor} (scopePlace : Cursor)
    (generics : List GenericParameter) (depth : Nat) (parent : Option String)
    (kind : place.kind = "function_definition") :
    EveryDraft (Origin ctx) (functionSteps ctx place scopePlace generics depth parent) := by
  unfold functionSteps
  extract_lets declarator function name
  split
  · exact everyDraft_enterChildren place depth parent
  · rw [everyDraft_scope_cons]
    refine ⟨.ofDefinition place kind ?_ rfl rfl, everyDraft_enterBody _ _ _⟩
    rw [IsFunction]
    split
    · exact Or.inr rfl
    · exact Or.inl rfl

/-- A definition that has a name gives a function. -/
theorem exists_function_of_named {ctx : Context} {place : Cursor} (scopePlace : Cursor)
    (generics : List GenericParameter) (depth : Nat) (parent : Option String)
    (named : (Declarator.name ctx.source (namingDeclarator? place)).text ≠ "") :
    ∃ draft, Step.scope draft ∈ functionSteps ctx place scopePlace generics depth parent ∧
      draft.nameNode = (Declarator.name ctx.source (namingDeclarator? place)).node ∧
      IsFunction draft := by
  unfold functionSteps
  extract_lets declarator function name
  have notEmpty : ¬name.text.isEmpty = true := by
    rw [String.isEmpty_iff]
    exact named
  rw [if_neg notEmpty]
  refine ⟨_, List.mem_cons_self, rfl, ?_⟩
  rw [IsFunction]
  split
  · exact Or.inr rfl
  · exact Or.inl rfl

theorem everyDraft_recordSteps_origin (ctx : Context) (place scopePlace : Cursor)
    (given : GivenName) (generics : List GenericParameter) (depth : Nat) (parent : Option String) :
    EveryDraft (Origin ctx)
      (stepsOf (recordSteps ctx place scopePlace given generics depth parent)) := by
  rw [recordSteps]
  split
  · exact everyDraft_nil
  · split
    · rw [stepsOf_ok, bodySteps, everyDraft_scope_cons]
      exact ⟨.of_kind List.mem_cons_self, everyDraft_enterChildren _ _ _⟩
    · exact everyDraft_nil

theorem everyDraft_typeSteps_origin (ctx : Context) (place scopePlace : Cursor) (given : GivenName)
    (depth : Nat) (parent : Option String) :
    EveryDraft (Origin ctx) (stepsOf (typeSteps ctx place scopePlace given depth parent)) := by
  rw [typeSteps]
  split
  · rw [stepsOf_ok, enumSteps]
    split
    · exact everyDraft_nil
    · rw [everyDraft_scope_cons]
      exact ⟨.of_kind (by simp), everyDraft_nil⟩
  · exact everyDraft_recordSteps_origin ctx place scopePlace given [] depth parent

theorem everyDraft_usingSteps_origin (ctx : Context) (place scopePlace : Cursor)
    (generics : List GenericParameter) (depth : Nat) (parent : Option String) :
    EveryDraft (Origin ctx) (usingSteps ctx place scopePlace generics depth parent) := by
  simp only [usingSteps, everyDraft_scope_cons, everyDraft_nil, and_true]
  exact .of_kind (by simp)

theorem everyDraft_readTypeDefinition_origin (ctx : Context) (place : Cursor) (depth : Nat)
    (parent : Option String) :
    EveryDraft (Origin ctx) (stepsOf (readTypeDefinition ctx place depth parent)) := by
  simp only [readTypeDefinition]
  split
  · split
    · exact everyDraft_typeSteps_origin ctx _ place _ depth parent
    · refine of_stepsOf_map_append (EveryDraft (Origin ctx)) everyDraft_nil
        ((everyDraft_append _ _).mpr ⟨everyDraft_typeSteps_origin ctx _ _ _ depth parent, ?_⟩)
      split
      · exact everyDraft_nil
      · rw [everyDraft_scope_cons]
        exact ⟨.of_kind (by simp), everyDraft_nil⟩
  · split
    · exact everyDraft_nil
    · split
      · rw [stepsOf_ok, everyDraft_scope_cons]
        exact ⟨.of_kind (by simp), everyDraft_nil⟩
      · exact everyDraft_nil

theorem isVariable_variableDraft (ctx : Context) (place declaration declarator : Cursor)
    (type : Option Cursor) (qualifiers : List String) (depth : Nat) (parent : Option String) :
    IsVariable (variableDraft ctx place declaration declarator type qualifiers depth parent) := by
  rw [IsVariable, variableDraft]
  dsimp only
  split
  · exact Or.inr rfl
  · exact Or.inl rfl

theorem everyDraft_readDeclaration_origin (ctx : Context) {place : Cursor} (depth : Nat)
    (parent : Option String) (kind : place.kind = "declaration") :
    EveryDraft (Origin ctx) (stepsOf (readDeclaration ctx place depth parent)) := by
  unfold readDeclaration
  extract_lets type defined declarators qualifiers named
  have types : EveryDraft (Origin ctx) (stepsOf defined) := by
    simp only [defined]
    split
    · exact everyDraft_typeSteps_origin ctx _ _ _ depth parent
    · exact everyDraft_nil
  split
  · exact types
  · refine of_stepsOf_map_append (EveryDraft (Origin ctx)) everyDraft_nil ?_
    rw [everyDraft_append, everyDraft_map]
    refine ⟨types, fun declarator member => ?_⟩
    rw [everyDraft_scope_cons]
    refine ⟨?_, everyDraft_nil⟩
    obtain ⟨isDeclarator, plain⟩ := List.mem_filter.mp (List.mem_filter.mp member).1
    refine .ofDeclaration place declarator kind isDeclarator (by simpa using plain) ?_ rfl
    exact isVariable_variableDraft _ _ _ _ _ _ _ _

/-- Outside functions and records, each named declarator that is no prototype gives a variable. -/
theorem exists_variable_of_not_isPrototype {ctx : Context} {place declarator : Cursor} (depth : Nat)
    (parent : Option String) (outsideFunctions : isInFunction place = false)
    (outsideRecords : place.parentKind? ≠ some "field_declaration_list")
    (isDeclarator : declarator ∈ place.childrenByField "declarator")
    (plain : Declarator.isPrototype declarator = false)
    (named : (Declarator.name ctx.source (some declarator)).text ≠ "") :
    ∃ draft, Step.scope draft ∈ stepsOf (readDeclaration ctx place depth parent) ∧
      draft.nameNode = (Declarator.name ctx.source (some declarator)).node ∧ IsVariable draft := by
  have succeeds := succeeds_readDeclaration ctx place depth parent
  unfold readDeclaration at succeeds ⊢
  extract_lets type defined declarators qualifiers nameds
  have outside : ¬(isInFunction place || place.parentKind? == some "field_declaration_list") =
      true := by
    simp [outsideFunctions, outsideRecords]
  have listed : declarator ∈ nameds := by
    refine List.mem_filter.mpr ⟨List.mem_filter.mpr ⟨isDeclarator, by simp [plain]⟩, ?_⟩
    simpa [String.isEmpty_iff] using named
  rw [if_neg outside] at succeeds ⊢
  obtain ⟨steps, same⟩ : Succeeds defined := (succeeds_map_iff _).mp succeeds
  rw [same]
  exact ⟨_, List.mem_append_right _ (List.mem_map_of_mem listed), rfl,
    isVariable_variableDraft _ _ _ _ _ _ _ _⟩

theorem everyDraft_readTemplate_origin (ctx : Context) (place : Cursor) (depth : Nat)
    (parent : Option String) :
    EveryDraft (Origin ctx) (stepsOf (readTemplate ctx place depth parent)) := by
  simp only [readTemplate]
  split
  · exact everyDraft_nil
  · split
    · rename_i isFunction
      exact everyDraft_functionSteps_origin ctx place _ depth parent (by simpa using isFunction)
    · split
      · exact everyDraft_recordSteps_origin ctx _ place _ _ depth parent
      · split
        · exact everyDraft_usingSteps_origin ctx _ place _ depth parent
        · split
          · split
            · exact everyDraft_recordSteps_origin ctx _ place _ _ depth parent
            · exact everyDraft_nil
          · rw [stepsOf_ok, everyDraft_enter_cons]
            exact everyDraft_nil

/-- The kinds of the nodes that declare variables, define functions and define macros. -/
theorem kind_of_construct? {table : NodeTable} (known : table = cNodes ∨ table = cppNodes)
    {kind : String} {construct : Construct} (opens : table.construct? kind = some construct) :
    (construct = .binding → kind = "declaration") ∧
      (construct = .functionLike → kind = "function_definition") ∧
      (construct = .textMacro → kind ∈ macroKinds) := by
  have listed : ∀ pair ∈ table.scopes, (pair.2 = .binding → pair.1 = "declaration") ∧
      (pair.2 = .functionLike → pair.1 = "function_definition") ∧
      (pair.2 = .textMacro → pair.1 ∈ macroKinds) := by
    rcases known with rfl | rfl <;> decide
  exact listed (kind, construct) (mem_of_lookup opens)

/-- The readings that both languages have make drafts of known origin at the nodes they read. -/
theorem everyDraft_commonReading {ctx : Context}
    (known : ctx.nodes = cNodes ∨ ctx.nodes = cppNodes) {place : Cursor} (depth : Nat)
    (parent : Option String) {construct : Construct} {reading : Reading}
    (opens : ctx.nodes.construct? place.kind = some construct)
    (chosen : commonReading? construct = some reading) :
    EveryDraft (Origin ctx) (stepsOf (reading ctx place depth parent)) := by
  obtain ⟨binds, defines, isMacro⟩ := kind_of_construct? known opens
  rw [commonReading?.eq_def] at chosen
  split at chosen <;> try obtain rfl := Option.some.inj chosen
  · exact everyDraft_functionSteps_origin ctx place [] depth parent (defines rfl)
  · exact everyDraft_typeSteps_origin ctx place place none depth parent
  · exact everyDraft_typeSteps_origin ctx place place none depth parent
  · rw [readAlias]
    split
    · exact everyDraft_usingSteps_origin ctx place place [] depth parent
    · exact everyDraft_readTypeDefinition_origin ctx place depth parent
  · exact everyDraft_readDeclaration_origin ctx depth parent (binds rfl)
  · simp only [stepsOf_always, readMacro, everyDraft_scope_cons, everyDraft_nil, and_true]
    exact .ofMacro place (isMacro rfl) rfl
  · contradiction

/-- All scopes that are made at a place of a C file. -/
theorem everyDraft_stepsAt_cStrategy {ctx : Context}
    (known : ctx.nodes = cNodes ∨ ctx.nodes = cppNodes) (place : Cursor) (depth : Nat)
    (parent : Option String) : EveryDraft (Origin ctx) (stepsAt cStrategy ctx place depth parent) := by
  refine everyDraft_stepsAt_of_construct fun construct reading opens chosen => ?_
  exact everyDraft_commonReading known depth parent opens chosen

/-- All scopes that are made at a place of a C++ file. -/
theorem everyDraft_stepsAt_cppStrategy {ctx : Context}
    (known : ctx.nodes = cNodes ∨ ctx.nodes = cppNodes) (place : Cursor) (depth : Nat)
    (parent : Option String) :
    EveryDraft (Origin ctx) (stepsAt cppStrategy ctx place depth parent) := by
  refine everyDraft_stepsAt_of_construct fun construct reading opens chosen => ?_
  simp only [cppStrategy] at chosen
  split at chosen
  · obtain rfl := Option.some.inj chosen
    simp only [stepsOf_always, readNamespace, everyDraft_scope_cons, everyDraft_enterBody, and_true]
    exact .of_kind (by simp)
  · obtain rfl := Option.some.inj chosen
    exact everyDraft_readTemplate_origin ctx place depth parent
  · exact everyDraft_commonReading known depth parent opens chosen

end ScopeAtlas.Reading.CFamily

namespace ScopeAtlas.Reading

open ScopeAtlas.Extraction ScopeAtlas.Language ScopeAtlas.Syntax

/-! ## Functions and variables of a file -/

/-- A holder has a declarator of which a target is the name, with the links in between. -/
structure Declared (ctx : Context) (holder declarator : Cursor) (links : List Cursor)
    (target : Cursor) : Prop where
  isDeclarator : declarator ∈ holder.childrenByField "declarator"
  chain : Declarator.Chain declarator links target
  built : ∀ link ∈ links, link.kind ∈ Declarator.typeDeclarators
  named : (Declarator.name ctx.source (some declarator)).text ≠ ""

namespace Declared

open Declarator

variable {ctx : Context} {holder declarator target : Cursor} {links : List Cursor}
  {draft : Draft}

theorem isChild (declared : Declared ctx holder declarator links target) :
    declarator ∈ holder.children :=
  (List.mem_filter.mp declared.isDeclarator).1

theorem node_eq (declared : Declared ctx holder declarator links target) :
    (Declarator.name ctx.source (some declarator)).node = some target :=
  declared.chain.name_node declared.named

theorem holder?_eq (declared : Declared ctx holder declarator links target)
    (bare : holder.kind ∉ wrappers) : holder? target = some holder := by
  rw [declared.chain.holder?_eq, holder?_of_mem_children declared.isChild, if_neg bare]

/-- No macro has the same name. -/
theorem not_ofMacro (declared : Declared ctx holder declarator links target)
    (bare : holder.kind ∉ wrappers) (noMacro : holder.kind ∉ CFamily.macroKinds) {place : Cursor}
    (found : place.childByField? "name" = some target) : place.kind ∉ CFamily.macroKinds := by
  intro isMacro
  have held := declared.holder?_eq bare
  rw [CFamily.holder?_of_macro isMacro found, Option.some.injEq] at held
  exact noMacro (held ▸ isMacro)

/-- A variable of that name is a scope of the declaration itself, whose declarator is then read as
no prototype. -/
theorem not_isPrototype_of_origin (declared : Declared ctx holder declarator links target)
    (kind : holder.kind = "declaration") (origin : CFamily.Origin ctx draft)
    (named : draft.nameNode = some target) (isVariable : CFamily.IsVariable draft) :
    isPrototype declarator = false := by
  have bare : holder.kind ∉ wrappers := kind ▸ by decide
  have held := declared.holder?_eq bare
  cases origin with
  | ofDeclaration declaration other otherKind isDeclarator plain _ otherNamed =>
      have isOtherChild := (List.mem_filter.mp isDeclarator).1
      have ends := otherNamed.symm.trans named
      rw [holder?_of_name ends, holder?_of_mem_children isOtherChild,
        if_neg (otherKind ▸ by decide), Option.some.injEq] at held
      subst held
      -- Both declarators are children of the declaration around the same name.
      obtain ⟨_, chain⟩ := exists_chain_of_name ends
      have level := (Cursor.level_of_mem_children isOtherChild).trans
        (Cursor.level_of_mem_children declared.isChild).symm
      rwa [chain.within.eq_of_level_eq declared.chain.within level] at plain
  | ofDefinition definition _ isFunction _ _ => exact absurd isVariable isFunction.not_isVariable
  | ofMacro place placeKind otherNamed =>
      exact absurd placeKind (declared.not_ofMacro bare (kind ▸ by decide)
        (otherNamed.symm.trans named))
  | other noVariable _ => exact absurd isVariable noVariable

/-- A function of that name is the scope of the definition, with the parameters of the outermost
function declarator. -/
theorem parameters_of_origin (declared : Declared ctx holder declarator links target)
    (kind : holder.kind = "function_definition")
    (first : holder.childByField? "declarator" = some declarator) (origin : CFamily.Origin ctx draft)
    (named : draft.nameNode = some target) (isFunction : CFamily.IsFunction draft) :
    draft.parameters =
      CFamily.parameters ctx ((outermost? links).bind (·.childByField? "parameters")) := by
  have bare : holder.kind ∉ wrappers := kind ▸ by decide
  have held := declared.holder?_eq bare
  cases origin with
  | ofDeclaration declaration other _ _ _ isVariable _ =>
      exact absurd isVariable isFunction.not_isVariable
  | ofDefinition definition definitionKind _ otherNamed taken =>
      rw [CFamily.holder?_of_namingDeclarator? (definitionKind ▸ by decide)
        (otherNamed.symm.trans named), Option.some.injEq] at held
      subst held
      rw [taken, CFamily.functionOf?, first, Option.bind_some, declared.chain.function?_eq]
  | ofMacro place placeKind otherNamed =>
      exact absurd placeKind (declared.not_ofMacro bare (kind ▸ by decide)
        (otherNamed.symm.trans named))
  | other _ noFunction => exact absurd isFunction noFunction

end Declared

/-- The walk of the tree comes to the place and is not given up. -/
structure Walked (strategy : Strategy) (ctx : Context) (root place : Cursor) : Prop where
  finished : (harvest strategy ctx root).truncated = false
  visited : ∃ depth parent, strategy.Visits ctx root place depth parent

/-- The declaration stands outside functions and records, where the walk comes to. -/
structure FileLevel (strategy : Strategy) (ctx : Context) (root declaration : Cursor) : Prop
    extends Walked strategy ctx root declaration where
  outsideFunctions : CFamily.isInFunction declaration = false
  outsideRecords : declaration.parentKind? ≠ some "field_declaration_list"

section Files

variable {profile : Profile} (isC : profile = Language.c ∨ profile = Language.cpp) {ctx : Context}
  (known : ctx.profile = profile)

include isC known

theorem origin_of_mem_fileDrafts {includeModuleScopes : Bool} {root : Cursor} {draft : Draft}
    (member : draft ∈ fileDrafts (strategyOf profile.family) ctx includeModuleScopes root) :
    CFamily.Origin ctx draft := by
  have stretches : ∀ number first later,
      CFamily.Origin ctx (stretchDraft number first later) :=
    fun number first later => .of_kind (by simp [stretchDraft])
  rcases isC with rfl | rfl
  · exact of_mem_fileDrafts_of_stepsAt
      (CFamily.everyDraft_stepsAt_cStrategy (Or.inl (congrArg Profile.nodes known)))
      stretches member
  · exact of_mem_fileDrafts_of_stepsAt
      (CFamily.everyDraft_stepsAt_cppStrategy (Or.inr (congrArg Profile.nodes known)))
      stretches member

theorem stepsAt_declaration {place : Cursor} (kind : place.kind = "declaration") (depth : Nat)
    (parent : Option String) :
    stepsAt (strategyOf profile.family) ctx place depth parent =
      stepsOf (CFamily.readDeclaration ctx place depth parent) := by
  obtain ⟨steps, read⟩ := CFamily.succeeds_readDeclaration ctx place depth parent
  have chosen : (ctx.nodes.construct? place.kind).bind (strategyOf profile.family).reading? =
      some CFamily.readDeclaration := by
    rw [kind, Context.nodes, known]
    rcases isC with rfl | rfl <;> rfl
  simp only [stepsAt, chosen, read, stepsOf_ok]

theorem stepsAt_function {place : Cursor} (kind : place.kind = "function_definition") (depth : Nat)
    (parent : Option String) :
    stepsAt (strategyOf profile.family) ctx place depth parent =
      CFamily.readFunction ctx place depth parent := by
  rw [stepsAt, kind, Context.nodes, known]
  rcases isC with rfl | rfl <;> rfl

/-- A file level declaration gives a variable exactly if it is not read as a function. -/
theorem exists_variable_iff {includeModuleScopes : Bool} {root holder declarator target : Cursor}
    {links : List Cursor} (declared : Declared ctx holder declarator links target)
    (kind : holder.kind = "declaration")
    (outside : FileLevel (strategyOf profile.family) ctx root holder) :
    (∃ draft ∈ fileDrafts (strategyOf profile.family) ctx includeModuleScopes root,
        draft.nameNode = some target ∧ CFamily.IsVariable draft) ↔
      ¬Declarator.ReadsAsFunction links := by
  rw [← declared.chain.isPrototype_iff declared.built, Bool.not_eq_true]
  constructor
  · rintro ⟨draft, member, named, isVariable⟩
    exact declared.not_isPrototype_of_origin kind (origin_of_mem_fileDrafts isC known member) named
      isVariable
  · intro plain
    obtain ⟨depth, parent, visited⟩ := outside.visited
    obtain ⟨draft, made, same, isVariable⟩ := CFamily.exists_variable_of_not_isPrototype depth parent
      outside.outsideFunctions outside.outsideRecords declared.isDeclarator plain declared.named
    rw [← stepsAt_declaration isC known kind depth parent] at made
    exact ⟨draft, List.mem_append_left _ (mem_constructDrafts_of_visits visited made outside.finished),
      same.trans declared.node_eq, isVariable⟩

/-- A definition gives a function if a function declarator with a declarator names it. -/
theorem exists_function {includeModuleScopes : Bool} {root holder declarator target : Cursor}
    {links : List Cursor} (declared : Declared ctx holder declarator links target)
    (kind : holder.kind = "function_definition")
    (first : holder.childByField? "declarator" = some declarator)
    (walked : Walked (strategyOf profile.family) ctx root holder) {function : Cursor}
    (outermost : Declarator.outermost? links = some function)
    (holds : function.childByField? "declarator" ≠ none) :
    ∃ draft ∈ fileDrafts (strategyOf profile.family) ctx includeModuleScopes root,
      draft.nameNode = some target ∧ CFamily.IsFunction draft := by
  obtain ⟨inner, isInner⟩ := Option.ne_none_iff_exists'.mp holds
  have next : Declarator.inner? function = some inner := by rw [Declarator.inner?, isInner]
  have sameName : Declarator.name ctx.source (CFamily.namingDeclarator? holder) =
      Declarator.name ctx.source (some declarator) := by
    rw [CFamily.namingDeclarator?, CFamily.functionOf?, first, Option.bind_some,
      declared.chain.function?_eq, outermost]
    dsimp only
    rw [isInner, declared.chain.name_below (List.mem_of_find?_eq_some outermost) next]
  obtain ⟨depth, parent, visited⟩ := walked.visited
  obtain ⟨draft, made, same, isFunction⟩ :=
    CFamily.exists_function_of_named holder [] depth parent (sameName ▸ declared.named)
  have produced : Step.scope draft ∈ stepsAt (strategyOf profile.family) ctx holder depth parent := by
    rw [stepsAt_function isC known kind depth parent]
    exact made
  have drafted := mem_constructDrafts_of_visits visited produced walked.finished
  exact ⟨draft, List.mem_append_left _ drafted, by rw [same, sameName, declared.node_eq], isFunction⟩

end Files

/-- A file level declaration gives no variable exactly if it declares a function, unless it is
misread.  The scope of a function definition has the parameters of the outermost function
declarator, which is the one nearest to the name exactly if it is the only one. -/
theorem functions_told_from_variables_unless_misread (profile : Profile)
    (isC : profile = Language.c ∨ profile = Language.cpp) (stack : StackLimit)
    (includeModuleScopes : Bool) (filePath language : String) (bytes : ByteArray) (tree : Node) :
    let strategy := strategyOf profile.family
    let root := Cursor.root tree
    let ctx := prepare profile strategy stack filePath bytes root
    let drafts := fileDrafts strategy ctx includeModuleScopes root
    (analyze profile strategy stack includeModuleScopes filePath language bytes tree).scopes =
        sortScopes (drafts.map fun draft => draft.complete ctx strategy.packageName) ∧
      ∀ holder declarator links target, Declared ctx holder declarator links target →
        (holder.kind = "declaration" → FileLevel strategy ctx root holder →
          (((¬∃ draft ∈ drafts, draft.nameNode = some target ∧ CFamily.IsVariable draft) ↔
              Declarator.DeclaresFunction links) ↔
            ¬Declarator.Misread links)) ∧
        (holder.kind = "function_definition" →
          holder.childByField? "declarator" = some declarator →
          (∀ draft ∈ drafts, draft.nameNode = some target → CFamily.IsFunction draft →
            draft.parameters = CFamily.parameters ctx
              ((Declarator.outermost? links).bind (·.childByField? "parameters"))) ∧
          (∀ function, Declarator.outermost? links = some function →
            function.childByField? "declarator" ≠ none → Walked strategy ctx root holder →
            ∃ draft ∈ drafts, draft.nameNode = some target ∧ CFamily.IsFunction draft) ∧
          (Declarator.DeclaresFunction links →
            (Declarator.outermost? links = Declarator.nearest? links ↔
              ∀ link ∈ links, link.kind = "function_declarator" →
                Declarator.nearest? links = some link))) := by
  intro strategy root ctx drafts
  refine ⟨scopes_analyze profile strategy stack includeModuleScopes filePath language bytes tree, ?_⟩
  intro holder declarator links target declared
  have known : ctx.profile = profile := rfl
  constructor
  · intro kind outside
    rw [exists_variable_iff isC known declared kind outside, not_not]
    exact Declarator.readsAsFunction_iff_declaresFunction_iff
  · intro kind first
    refine ⟨fun draft member named isFunction => ?_, fun function outermost holds walked => ?_,
      Declarator.outermost?_eq_nearest?_iff declared.chain.nodup⟩
    · exact declared.parameters_of_origin kind first (origin_of_mem_fileDrafts isC known member)
        named isFunction
    · exact exists_function isC known declared kind first walked outermost holds

/-- The text of a prototype, of two more whose names stand in parentheses, and of a function that
returns a pointer to a function. -/
def prototypesText : ByteArray :=
  ("int g(int y);\nint (f)(int x);\nvoid (*signal(int sig))(int);\n" ++
    "int (*pick(int n))(int) \x7b return 0; \x7d\n").toUTF8

/-- The tree of the four. -/
def prototypesTree : Node :=
  let node (index : Nat) (kind : String) (field : Option String) (start stop : Nat)
      (children : List Node) : Node :=
    .mk { index, kind, field, isNamed := true, isMissing := false, startByte := start,
          endByte := stop } children
  -- A parameter list with one parameter, whose name has a length.
  let list (index start : Nat) (length : Option Nat) : Node :=
    let stop := start + 4 + (length.map (· + 1)).getD 0
    node index "parameter_list" "parameters" start (stop + 1)
      [node (index + 1) "parameter_declaration" none (start + 1) stop
        (node (index + 2) "primitive_type" "type" (start + 1) (start + 4) [] ::
          (length.map fun _ => node (index + 3) "identifier" "declarator" (start + 5) stop []).toList)]
  -- A function that returns a pointer to a function, from the lengths of its name and its parameter.
  let returning (index start length parameter : Nat) : Node :=
    let stop := start + 8 + length + parameter
    let own := node (index + 3) "function_declarator" "declarator" (start + 2) stop
      [node (index + 4) "identifier" "declarator" (start + 2) (start + 2 + length) [],
        list (index + 5) (start + 2 + length) (some parameter)]
    node index "function_declarator" "declarator" start (stop + 6)
      [node (index + 1) "parenthesized_declarator" "declarator" start (stop + 1)
        [node (index + 2) "pointer_declarator" none (start + 1) stop [own]],
        list (index + 9) (stop + 1) none]
  let plain := node 3 "function_declarator" "declarator" 4 12
    [node 4 "identifier" "declarator" 4 5 [], list 5 5 (some 1)]
  let covered := node 11 "function_declarator" "declarator" 18 28
    [node 12 "parenthesized_declarator" "declarator" 18 21 [node 13 "identifier" none 19 20 []],
      list 14 21 (some 1)]
  let body := node 46 "compound_statement" "body" 84 97
    [node 47 "return_statement" none 86 95 [node 48 "number_literal" none 93 94 []]]
  node 0 "translation_unit" none 0 98
    [node 1 "declaration" none 0 13 [node 2 "primitive_type" "type" 0 3 [], plain],
      node 9 "declaration" none 14 29 [node 10 "primitive_type" "type" 14 17 [], covered],
      node 18 "declaration" none 30 59
        [node 19 "primitive_type" "type" 30 34 [], returning 20 35 6 3],
      node 32 "function_definition" none 60 97
        [node 33 "primitive_type" "type" 60 63 [], returning 34 64 4 1, body]]

/-- The file of the four before its scopes are collected. -/
def prototypesContext : Context :=
  prepare Language.c CFamily.cStrategy .unlimited "p.c" prototypesText (Cursor.root prototypesTree)

/-- The scopes of the four. -/
def prototypesDrafts : List Draft :=
  fileDrafts CFamily.cStrategy prototypesContext true (Cursor.root prototypesTree)

/-- All declarators of the four with a name, by what holds them. -/
def prototypesNames : List (Cursor × Cursor × Cursor) :=
  (Cursor.root prototypesTree).preorder.flatMap fun holder =>
    (holder.childrenByField "declarator").flatMap fun declarator =>
      (Declarator.name prototypesContext.source (some declarator)).node.toList.map fun target =>
        (holder, declarator, target)

theorem declared_of_mem_prototypesNames {holder declarator target : Cursor}
    (member : (holder, declarator, target) ∈ prototypesNames)
    (bare : holder.kind ∉ Declarator.wrappers)
    (built : ∀ link ∈ Declarator.linksAround target, link.kind ∈ Declarator.typeDeclarators)
    (named : (Declarator.name prototypesContext.source (some declarator)).text ≠ "") :
    Declared prototypesContext holder declarator (Declarator.linksAround target) target := by
  simp only [prototypesNames, List.mem_flatMap, List.mem_map, Option.mem_toList,
    Prod.mk.injEq] at member
  obtain ⟨_, _, _, isDeclarator, _, found, rfl, rfl, rfl⟩ := member
  obtain ⟨links, chain⟩ := Declarator.exists_chain_of_name found
  obtain rfl := chain.eq_linksAround (List.mem_filter.mp isDeclarator).1 bare
  exact ⟨isDeclarator, chain, built, named⟩

/-- The two functions in parentheses are variables, and the function that returns a pointer takes the
parameters of what it points to. -/
theorem parenthesized_functions_misread :
    (∀ name ∈ ["f", "signal"], ∃ holder declarator links target,
      Declared prototypesContext holder declarator links target ∧ holder.kind = "declaration" ∧
        prototypesContext.text target = name ∧ Declarator.DeclaresFunction links ∧
        ∃ draft ∈ prototypesDrafts, draft.nameNode = some target ∧ CFamily.IsVariable draft) ∧
      ∃ holder declarator links target,
        Declared prototypesContext holder declarator links target ∧
          holder.kind = "function_definition" ∧
          holder.childByField? "declarator" = some declarator ∧
          ∃ nearest ∈ Declarator.nearest? links, nearest.kind = "function_declarator" ∧
            ∃ draft ∈ prototypesDrafts, draft.nameNode = some target ∧ CFamily.IsFunction draft ∧
              (CFamily.parameters prototypesContext (nearest.childByField? "parameters")).map
                (·.name) = ["n"] ∧ draft.parameters.map (·.name) = ["arg0"] := by
  have declarations : ∀ name ∈ ["f", "signal"], ∃ declared ∈ prototypesNames,
      declared.1.kind = "declaration" ∧ prototypesContext.text declared.2.2 = name ∧
        (∀ link ∈ Declarator.linksAround declared.2.2, link.kind ∈ Declarator.typeDeclarators) ∧
        (Declarator.name prototypesContext.source (some declared.2.1)).text ≠ "" ∧
        Declarator.DeclaresFunction (Declarator.linksAround declared.2.2) ∧
        ∃ draft ∈ prototypesDrafts, draft.nameNode = some declared.2.2 ∧
          CFamily.IsVariable draft := by
    decide +kernel
  have definitions : ∃ declared ∈ prototypesNames, declared.1.kind = "function_definition" ∧
      declared.1.childByField? "declarator" = some declared.2.1 ∧
        (∀ link ∈ Declarator.linksAround declared.2.2, link.kind ∈ Declarator.typeDeclarators) ∧
        (Declarator.name prototypesContext.source (some declared.2.1)).text ≠ "" ∧
        ∃ nearest ∈ Declarator.nearest? (Declarator.linksAround declared.2.2),
          nearest.kind = "function_declarator" ∧
          ∃ draft ∈ prototypesDrafts, draft.nameNode = some declared.2.2 ∧
            CFamily.IsFunction draft ∧
            (CFamily.parameters prototypesContext (nearest.childByField? "parameters")).map
              (·.name) = ["n"] ∧ draft.parameters.map (·.name) = ["arg0"] := by
    decide +kernel
  constructor
  · intro name listed
    obtain ⟨⟨holder, declarator, target⟩, member, kind, spelled, built, named, misread⟩ :=
      declarations name listed
    have declared := declared_of_mem_prototypesNames member (kind ▸ by decide) built named
    exact ⟨holder, declarator, _, target, declared, kind, spelled, misread⟩
  · obtain ⟨⟨holder, declarator, target⟩, member, kind, first, built, named, misread⟩ := definitions
    have declared := declared_of_mem_prototypesNames member (kind ▸ by decide) built named
    exact ⟨holder, declarator, _, target, declared, kind, first, misread⟩

theorem walked_of_mem_prototypes {place : Cursor}
    (member : place ∈ (Cursor.root prototypesTree).children) :
    Walked CFamily.cStrategy prototypesContext (Cursor.root prototypesTree) place where
  finished := by decide +kernel
  visited := by
    -- The root opens no construct, so that all its children are entered.
    have steps : stepsAt CFamily.cStrategy prototypesContext (Cursor.root prototypesTree) 0 none =
        enterChildren (Cursor.root prototypesTree) 0 none := rfl
    refine ⟨0, none, .single ?_⟩
    rw [Strategy.Enters, steps]
    exact List.mem_map_of_mem member

/-- The plain prototype gives no variable, and the definition gives a function with the parameters of
its outermost function declarator. -/
theorem plain_prototype_gives_no_variable :
    (Language.c = Language.c ∨ Language.c = Language.cpp) ∧
      (∃ holder declarator links target,
        Declared prototypesContext holder declarator links target ∧ holder.kind = "declaration" ∧
          FileLevel CFamily.cStrategy prototypesContext (Cursor.root prototypesTree) holder ∧
          Declarator.DeclaresFunction links ∧ ¬Declarator.Misread links ∧
          ¬∃ draft ∈ prototypesDrafts, draft.nameNode = some target ∧ CFamily.IsVariable draft) ∧
      ∃ holder declarator links target function,
        Declared prototypesContext holder declarator links target ∧
          holder.kind = "function_definition" ∧
          holder.childByField? "declarator" = some declarator ∧
          Declarator.outermost? links = some function ∧
          function.childByField? "declarator" ≠ none ∧
          Walked CFamily.cStrategy prototypesContext (Cursor.root prototypesTree) holder ∧
          ∃ draft ∈ prototypesDrafts, draft.nameNode = some target ∧ CFamily.IsFunction draft ∧
            draft.parameters =
              CFamily.parameters prototypesContext (function.childByField? "parameters") := by
  have told := (functions_told_from_variables_unless_misread Language.c (Or.inl rfl) .unlimited true
    "p.c" "c" prototypesText prototypesTree).2
  have prototype : ∃ declared ∈ prototypesNames,
      declared.1 ∈ (Cursor.root prototypesTree).children ∧ declared.1.kind = "declaration" ∧
        (∀ link ∈ Declarator.linksAround declared.2.2, link.kind ∈ Declarator.typeDeclarators) ∧
        (Declarator.name prototypesContext.source (some declared.2.1)).text ≠ "" ∧
        CFamily.isInFunction declared.1 = false ∧
        declared.1.parentKind? ≠ some "field_declaration_list" ∧
        Declarator.DeclaresFunction (Declarator.linksAround declared.2.2) ∧
        Declarator.ReadsAsFunction (Declarator.linksAround declared.2.2) := by
    decide +kernel
  have definition : ∃ declared ∈ prototypesNames,
      declared.1 ∈ (Cursor.root prototypesTree).children ∧
        declared.1.kind = "function_definition" ∧
        declared.1.childByField? "declarator" = some declared.2.1 ∧
        (∀ link ∈ Declarator.linksAround declared.2.2, link.kind ∈ Declarator.typeDeclarators) ∧
        (Declarator.name prototypesContext.source (some declared.2.1)).text ≠ "" ∧
        ∃ function ∈ Declarator.outermost? (Declarator.linksAround declared.2.2),
          function.childByField? "declarator" ≠ none := by
    decide +kernel
  refine ⟨Or.inl rfl, ?_, ?_⟩
  · obtain ⟨⟨holder, declarator, target⟩, member, isChild, kind, built, named, outsideFunctions,
      outsideRecords, declares, reads⟩ := prototype
    have declared := declared_of_mem_prototypesNames member (kind ▸ by decide) built named
    have outside : FileLevel CFamily.cStrategy prototypesContext (Cursor.root prototypesTree)
        holder := ⟨walked_of_mem_prototypes isChild, outsideFunctions, outsideRecords⟩
    have fine := Declarator.readsAsFunction_iff_declaresFunction_iff.mp
      ⟨fun _ => declares, fun _ => reads⟩
    have told := ((told holder declarator _ target declared).1 kind outside).mpr fine
    exact ⟨holder, declarator, _, target, declared, kind, outside, declares, fine, told.mpr declares⟩
  · obtain ⟨⟨holder, declarator, target⟩, member, isChild, kind, first, built, named, function,
      outermost, holds⟩ := definition
    have declared := declared_of_mem_prototypesNames member (kind ▸ by decide) built named
    have walked := walked_of_mem_prototypes isChild
    obtain ⟨parameters, exists_function, _⟩ :=
      (told holder declarator _ target declared).2 kind first
    obtain ⟨draft, drafted, same, isFunction⟩ := exists_function function outermost holds walked
    have taken := parameters draft drafted same isFunction
    rw [Option.mem_def.mp outermost, Option.bind_some] at taken
    exact ⟨holder, declarator, _, target, function, declared, kind, first, outermost, holds, walked,
      draft, drafted, same, isFunction, taken⟩

end ScopeAtlas.Reading
