import ScopeAtlas.Proofs.Graph.Emission
import ScopeAtlas.Proofs.Graph.NameIndex

/-!
# Which edges a project has

The edges of a project are described here by rules and not by loops: a scope contributes an edge
from its container, one for each decorator and one for each reference that leads somewhere.  Where
a reference leads is said by first occurrences, in the index, among the files that an import may
mean, or among all scopes.  The main statement is that the edges found in the source have exactly
the keys of the contributions that are admitted.
-/

namespace ScopeAtlas.Graph

open ScopeAtlas.Data ScopeAtlas.Files

/-! ## Where names lead -/

/-- Some scope of the list bears the name. -/
def Borne (scopes : List Scope) (name : String) : Prop := ∃ scope ∈ scopes, scope.name = name

/-- The scope that a name denotes in one file: the first of that name without a container, or the
first of that name when each of them has one. -/
def Denotes (scopes : List Scope) (name : String) (target : Scope) : Prop :=
  FirstWith (fun scope => scope.name = name ∧ scope.parent = none) scopes target ∨
    (∀ scope ∈ scopes, scope.name = name → scope.parent ≠ none) ∧
      FirstWith (fun scope => scope.name = name) scopes target

/-- The look-up of a name in a file as two searches, one after the other. -/
theorem scopeNamed?_eq_or (scopes : List Scope) (name : String) :
    scopeNamed? scopes name =
      (scopes.find? fun scope => scope.name == name && scope.parent.isNone).or
        (scopes.find? fun scope => scope.name == name) := by
  simp only [scopeNamed?, List.find?_filter, List.head?_filter, Bool.decide_and,
    Bool.decide_eq_true]
  cases scopes.find? fun scope => scope.name == name && scope.parent.isNone <;> rfl

theorem scopeNamed?_eq_some_iff (scopes : List Scope) (name : String) (target : Scope) :
    scopeNamed? scopes name = some target ↔ Denotes scopes name target := by
  rw [scopeNamed?_eq_or, Option.or_eq_some_iff, Denotes]
  apply or_congr
  · rw [find?_eq_some_iff_firstWith]
    simp
  · apply and_congr
    · simp
    · rw [find?_eq_some_iff_firstWith]
      simp

/-- A name denotes some scope of a file exactly when one bears it. -/
theorem isSome_scopeNamed?_iff (scopes : List Scope) (name : String) :
    (scopeNamed? scopes name).isSome = true ↔ Borne scopes name := by
  rw [scopeNamed?_eq_or, Option.isSome_or, Bool.or_eq_true, List.find?_isSome, List.find?_isSome]
  simp only [Bool.and_eq_true, beq_iff_eq, Borne]
  constructor
  · rintro (⟨scope, member, same, _⟩ | borne)
    · exact ⟨scope, member, same⟩
    · exact borne
  · intro borne
    exact Or.inr borne

/-- The scope to which candidate files lead: in the first of them that was analysed and bears one
of the names, the scope that the first such name denotes. -/
def Located (setting : Setting) (paths : List Path) (names : List String) (target : Scope) : Prop :=
  ∃ path found name,
    FirstWith (fun path => ∃ found,
        setting.analysisAt? (Path.resolved setting.root path) = some found ∧
          ∃ name ∈ names, Borne found.scopes name) paths path ∧
      setting.analysisAt? (Path.resolved setting.root path) = some found ∧
      FirstWith (Borne found.scopes) names name ∧
      Denotes found.scopes name target

/-- The first of some names that a file bears, and what it denotes there. -/
theorem findSome?_scopeNamed?_eq_some_iff (scopes : List Scope) (names : List String)
    (target : Scope) :
    names.findSome? (scopeNamed? scopes) = some target ↔
      ∃ name, FirstWith (Borne scopes) names name ∧ Denotes scopes name target := by
  rw [findSome?_eq_some_iff_firstWith]
  simp only [isSome_scopeNamed?_iff, scopeNamed?_eq_some_iff]

theorem isSome_findSome?_scopeNamed?_iff (scopes : List Scope) (names : List String) :
    (names.findSome? (scopeNamed? scopes)).isSome = true ↔ ∃ name ∈ names, Borne scopes name := by
  rw [List.findSome?_isSome_iff]
  simp only [isSome_scopeNamed?_iff]

/-- The candidate files that a locator has for an import of a file lead to the scope. -/
def LocatedFrom (setting : Setting) (file : FileAnalysis) (binding : Import)
    (reference : Reference) (target : Scope) : Prop :=
  ∃ locator, setting.locators file.language = some locator ∧
    Located setting (locator.files binding.source (setting.absolute file.filePath))
      (importNames binding reference) target

theorem locatedTarget?_eq_some_iff (setting : Setting) (file : FileAnalysis) (binding : Import)
    (reference : Reference) (target : Scope) :
    locatedTarget? setting file binding reference = some target ↔
      LocatedFrom setting file binding reference target := by
  unfold locatedTarget? LocatedFrom
  cases setting.locators file.language with
  | none => simp
  | some locator =>
      simp only [Option.some.injEq, exists_eq_left']
      rw [findSome?_eq_some_iff_firstWith]
      simp only [Option.bind_eq_some_iff, findSome?_scopeNamed?_eq_some_iff,
        Option.isSome_bind, Option.any_eq_true, isSome_findSome?_scopeNamed?_iff]
      constructor
      · rintro ⟨path, first, found, analysed, name, borne, denotes⟩
        exact ⟨path, found, name, first, analysed, borne, denotes⟩
      · rintro ⟨path, found, name, first, analysed, borne, denotes⟩
        exact ⟨path, first, found, analysed, name, borne, denotes⟩

/-- The scope to which names alone lead: the first scope, in the order of the files, that bears the
first of the names that is borne at all.  A scope without a name bears none. -/
def FoundByName (analyses : List FileAnalysis) (names : List String) (target : Scope) : Prop :=
  ∃ name, FirstWith (Borne (namedScopes analyses)) names name ∧
    FirstWith (fun scope => scope.name = name) (namedScopes analyses) target

theorem firstOfNames?_settingOf_eq_some_iff (root : Path) (locators : Locators)
    (analyses : List FileAnalysis) (names : List String) (target : Scope) :
    (settingOf root locators analyses).firstOfNames? names = some target ↔
      FoundByName analyses names target := by
  unfold Setting.firstOfNames? FoundByName
  rw [findSome?_eq_some_iff_firstWith]
  simp only [firstNamed?_settingOf, bearers, List.head?_filter, List.find?_isSome,
    find?_eq_some_iff_firstWith, beq_iff_eq]
  rfl

/-! ## Where references lead -/

theorem pointer_ne_empty (scope : Scope) : scope.pointer ≠ "" := by
  intro empty
  have length := congrArg String.length empty
  simp [Scope.pointer, String.length_append] at length

/-- The scope that a classified reference leads to, and what an edge to it rests on. -/
inductive LeadsTo (setting : Setting) (analyses : List FileAnalysis) (file : FileAnalysis)
    (reference : Reference) : Scope → Evidence → Prop where
  /-- A scope of the project is named: its pointer leads to the first scope of the index that
  has it. -/
  | byPointer {pointer : String} {target : Scope} (kind : reference.kind = .localScope)
      (pointed : reference.targetScope = some pointer)
      (first : FirstWith (fun scope => scope.pointer = pointer) (indexedScopes analyses) target) :
      LeadsTo setting analyses file reference target
        (.use reference.line reference.identifier reference.context)
  /-- An import of the project is used, and it can be followed. -/
  | byImport {binding : Import} {target : Scope} (kind : reference.kind = .imported)
      (bound : boundImport? (bindingTable file.imports) reference = some binding)
      (isLocal : reference.isLocalImport = some true)
      (located : LocatedFrom setting file binding reference target) :
      LeadsTo setting analyses file reference target
        (.importedUse reference.line reference.identifier reference.context binding.source false)
  /-- An import is used that is not of the project, or that cannot be followed.  This is the only
  way to an edge that rests on a name alone. -/
  | byName {binding : Import} {target : Scope} (kind : reference.kind = .imported)
      (bound : boundImport? (bindingTable file.imports) reference = some binding)
      (unlocated : reference.isLocalImport = some true →
        ∀ other, ¬LocatedFrom setting file binding reference other)
      (named : FoundByName analyses (importNames binding reference) target) :
      LeadsTo setting analyses file reference target
        (.importedUse reference.line reference.identifier reference.context binding.source true)

/-- An import is followed to a file where that is possible, and else by name. -/
theorem importTarget?_settingOf_eq_some_iff (root : Path) (locators : Locators)
    (analyses : List FileAnalysis) (file : FileAnalysis) (binding : Import)
    (reference : Reference) (target : Scope) (byNameOnly : Bool) :
    importTarget? (settingOf root locators analyses) file binding reference =
        some (target, byNameOnly) ↔
      (byNameOnly = false ∧ reference.isLocalImport = some true ∧
        LocatedFrom (settingOf root locators analyses) file binding reference target) ∨
      (byNameOnly = true ∧
        (reference.isLocalImport = some true → ∀ other,
          ¬LocatedFrom (settingOf root locators analyses) file binding reference other) ∧
        FoundByName analyses (importNames binding reference) target) := by
  simp only [← locatedTarget?_eq_some_iff, ← firstOfNames?_settingOf_eq_some_iff root locators]
  unfold importTarget?
  have named : ∀ found : Option Scope, (found.map fun scope => (scope, true)) =
      some (target, byNameOnly) ↔ byNameOnly = true ∧ found = some target := by
    intro found
    cases found <;> simp [and_comm, eq_comm]
  by_cases isLocal : reference.isLocalImport = some true
  · cases located :
        locatedTarget? (settingOf root locators analyses) file binding reference with
    | some scope => simp [isLocal, and_comm, eq_comm]
    | none => simp [isLocal, named]
  · simp [isLocal, named]

theorem referenceTarget?_settingOf_eq_some_iff (root : Path) (locators : Locators)
    (analyses : List FileAnalysis) (file : FileAnalysis) (reference : Reference) (target : Scope)
    (evidence : Evidence) :
    referenceTarget? (settingOf root locators analyses) file reference = some (target, evidence) ↔
      LeadsTo (settingOf root locators analyses) analyses file reference target evidence := by
  constructor
  · intro found
    unfold referenceTarget? at found
    split at found
    · rename_i kind
      obtain ⟨binding, bound, located⟩ := Option.bind_eq_some_iff.mp found
      obtain ⟨⟨scope, byNameOnly⟩, reached, same⟩ := Option.map_eq_some_iff.mp located
      obtain ⟨rfl, rfl⟩ := Prod.mk.inj same
      rw [importTarget?_settingOf_eq_some_iff] at reached
      rcases reached with ⟨rfl, isLocal, reached⟩ | ⟨rfl, unlocated, named⟩
      · exact .byImport kind bound isLocal reached
      · exact .byName kind bound unlocated named
    · rename_i kind
      obtain ⟨scope, denoted, same⟩ := Option.map_eq_some_iff.mp found
      obtain ⟨rfl, rfl⟩ := Prod.mk.inj same
      rw [atPointer?_settingOf_eq_some_iff] at denoted
      cases pointed : reference.targetScope with
      | some pointer =>
          rw [pointed] at denoted
          exact .byPointer kind pointed denoted
      | none =>
          rw [pointed] at denoted
          obtain ⟨_, _, _, empty, _⟩ := denoted
          exact absurd empty (pointer_ne_empty scope)
    · contradiction
  · intro leads
    unfold referenceTarget?
    cases leads with
    | byPointer kind pointed first =>
        have denoted := (atPointer?_settingOf_eq_some_iff root locators analyses _ _).mpr first
        simp [kind, pointed, denoted]
    | byImport kind bound isLocal located =>
        have reached := (importTarget?_settingOf_eq_some_iff root locators analyses file _ reference
          _ false).mpr (Or.inl ⟨rfl, isLocal, located⟩)
        simp [kind, bound, reached]
    | byName kind bound unlocated named =>
        have reached := (importTarget?_settingOf_eq_some_iff root locators analyses file _ reference
          _ true).mpr (Or.inr ⟨rfl, unlocated, named⟩)
        simp [kind, bound, reached]

/-! ## Contributions -/

theorem enclosing?_eq_none_of_parent_eq_none {inner : Scope} (noParent : inner.parent = none)
    (scopes : List Scope) : enclosing? inner scopes = none := by
  simp [enclosing?, mayContain, noParent, innermost?]

/-- A scope without a container is given none, so the test for one is no further condition. -/
theorem nestingEdge?_eq_some_iff (file : FileAnalysis) (scope : Scope) (edge : Edge) :
    nestingEdge? file scope = some edge ↔
      ∃ outer, enclosing? scope file.scopes = some outer ∧
        edge = edgeBetween .contains outer scope .nesting := by
  unfold nestingEdge?
  cases parent : scope.parent with
  | none => simp [enclosing?_eq_none_of_parent_eq_none parent]
  | some name =>
      rw [if_neg (by simp), Option.map_eq_some_iff]
      simp only [eq_comm]

/-- The edges that a project suggests: from a source to a target, in a relation and with
evidence. -/
inductive Contributes (options : Options) (setting : Setting) (analyses : List FileAnalysis) :
    Scope → Scope → Relation → Evidence → Prop where
  | nesting {file : FileAnalysis} {outer inner : Scope} (wanted : options.includeContains = true)
      (fileMem : file ∈ setting.analyses) (innerMem : inner ∈ file.scopes)
      (encloses : enclosing? inner file.scopes = some outer) :
      Contributes options setting analyses outer inner .contains .nesting
  | decoration {file : FileAnalysis} {scope target : Scope} {decorator : Decorator}
      (wanted : options.includeDecorators = true) (fileMem : file ∈ setting.analyses)
      (scopeMem : scope ∈ file.scopes) (decoratorMem : decorator ∈ scope.decorators)
      (selected : decoratorTarget? setting file scope decorator = some target) :
      Contributes options setting analyses scope target .decoratedBy
        (.decoration decorator.arguments)
  | use {file : FileAnalysis} {scope target : Scope} {reference : Reference}
      {relation : Relation} {evidence : Evidence} (fileMem : file ∈ setting.analyses)
      (scopeMem : scope ∈ file.scopes) (referenceMem : reference ∈ scope.references)
      (leads : LeadsTo setting analyses file reference target evidence)
      (stands : relationOf? scope reference = some relation) :
      Contributes options setting analyses scope target relation evidence

/-- What the scopes emit is what the project suggests. -/
theorem exists_mem_scopeEdges_iff (options : Options) (root : Path) (locators : Locators)
    (analyses : List FileAnalysis) (edge : Edge) :
    (∃ file ∈ (settingOf root locators analyses).analyses, ∃ scope ∈ file.scopes,
        edge ∈ scopeEdges options (settingOf root locators analyses) file scope) ↔
      ∃ source target relation evidence, edge = edgeBetween relation source target evidence ∧
        Contributes options (settingOf root locators analyses) analyses source target relation
          evidence := by
  constructor
  · rintro ⟨file, fileMem, scope, scopeMem, emitted⟩
    rw [mem_scopeEdges_iff] at emitted
    rcases emitted with ⟨wanted, nested⟩ | ⟨reference, referenceMem, uses⟩ |
      ⟨wanted, decorator, decoratorMem, decorates⟩
    · obtain ⟨outer, encloses, rfl⟩ := (nestingEdge?_eq_some_iff file scope edge).mp nested
      exact ⟨outer, scope, _, _, rfl, .nesting wanted fileMem scopeMem encloses⟩
    · obtain ⟨target, evidence, relation, found, stands, rfl⟩ :=
        (referenceEdge?_eq_some_iff _ file scope reference edge).mp uses
      rw [referenceTarget?_settingOf_eq_some_iff] at found
      exact ⟨scope, target, _, _, rfl, .use fileMem scopeMem referenceMem found stands⟩
    · obtain ⟨target, selected, rfl⟩ := Option.map_eq_some_iff.mp decorates
      exact ⟨scope, target, _, _, rfl, .decoration wanted fileMem scopeMem decoratorMem selected⟩
  · rintro ⟨source, target, relation, evidence, rfl, contributes⟩
    cases contributes with
    | nesting wanted fileMem innerMem encloses =>
        refine ⟨_, fileMem, target, innerMem, ?_⟩
        rw [mem_scopeEdges_iff, nestingEdge?_eq_some_iff]
        exact Or.inl ⟨wanted, source, encloses, rfl⟩
    | decoration wanted fileMem scopeMem decoratorMem selected =>
        refine ⟨_, fileMem, source, scopeMem, ?_⟩
        rw [mem_scopeEdges_iff]
        exact Or.inr (Or.inr ⟨wanted, _, decoratorMem,
          Option.map_eq_some_iff.mpr ⟨target, selected, rfl⟩⟩)
    | use fileMem scopeMem referenceMem leads stands =>
        refine ⟨_, fileMem, source, scopeMem, ?_⟩
        rw [mem_scopeEdges_iff]
        refine Or.inr (Or.inl ⟨_, referenceMem, ?_⟩)
        rw [referenceEdge?_eq_some_iff]
        rw [← referenceTarget?_settingOf_eq_some_iff] at leads
        exact ⟨target, evidence, relation, leads, stands, rfl⟩

end ScopeAtlas.Graph
