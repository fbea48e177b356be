import ScopeAtlas.Graph.Resolution
import ScopeAtlas.Proofs.FirstOccurrence

/-!
# The name index

Both passes over a project look names up in one index: the first asks whether a name has any
scope, the second takes the first scope of a name or of a pointer.  The index holds every scope
that has a name, under that name, and nothing else; the statements here are the only place where
its construction matters.
-/

namespace ScopeAtlas.Graph

open ScopeAtlas.Data

theorem mem_bearers_iff (analyses : List FileAnalysis) (name : String) (scope : Scope) :
    scope ∈ bearers analyses name ↔ scope ∈ namedScopes analyses ∧ scope.name = name := by
  simp [bearers]

/-- The index has the names that some scope bears, each with all its scopes. -/
theorem lookup_nameIndex (analyses : List FileAnalysis) (name : String) :
    (nameIndex analyses).lookup name =
      if bearers analyses name = [] then none else some (bearers analyses name) := by
  rw [nameIndex, lookup_map_key]
  simp only [mem_distinct]
  by_cases empty : bearers analyses name = []
  · rw [if_pos empty, if_neg]
    intro listed
    obtain ⟨scope, member, rfl⟩ := List.mem_map.mp listed
    have bearer := (mem_bearers_iff analyses scope.name scope).mpr ⟨member, rfl⟩
    rw [empty] at bearer
    exact List.not_mem_nil bearer
  · rw [if_neg empty, if_pos]
    obtain ⟨scope, member⟩ := List.exists_mem_of_ne_nil _ empty
    obtain ⟨named, rfl⟩ := (mem_bearers_iff analyses name scope).mp member
    exact List.mem_map_of_mem named

/-- The scopes of a project in the order of its index: by name, in the order in which the names
first occur, and within a name in the order of the files. -/
def indexedScopes (analyses : List FileAnalysis) : List Scope :=
  (nameIndex analyses).flatMap (·.2)

theorem mem_indexedScopes_iff (analyses : List FileAnalysis) (scope : Scope) :
    scope ∈ indexedScopes analyses ↔ scope ∈ namedScopes analyses := by
  unfold indexedScopes nameIndex
  rw [List.mem_flatMap]
  constructor
  · rintro ⟨entry, listed, member⟩
    obtain ⟨name, _, rfl⟩ := List.mem_map.mp listed
    exact ((mem_bearers_iff analyses name scope).mp member).1
  · intro named
    refine ⟨(scope.name, bearers analyses scope.name), ?_, ?_⟩
    · apply List.mem_map_of_mem (f := fun name => (name, bearers analyses name))
      rw [mem_distinct]
      exact List.mem_map_of_mem named
    · exact (mem_bearers_iff analyses scope.name scope).mpr ⟨named, rfl⟩

theorem firstNamed?_settingOf (root : Files.Path) (locators : Locators)
    (analyses : List FileAnalysis) (name : String) :
    (settingOf root locators analyses).firstNamed? name = (bearers analyses name).head? := by
  unfold Setting.firstNamed? settingOf
  rw [lookup_nameIndex]
  by_cases empty : bearers analyses name = []
  · simp [empty]
  · simp [empty]

/-- A pointer denotes the first scope of the index that has it. -/
theorem atPointer?_settingOf_eq_some_iff (root : Files.Path) (locators : Locators)
    (analyses : List FileAnalysis) (pointer : String) (target : Scope) :
    (settingOf root locators analyses).atPointer? pointer = some target ↔
      FirstWith (fun scope => scope.pointer = pointer) (indexedScopes analyses) target := by
  unfold Setting.atPointer?
  rw [find?_eq_some_iff_firstWith]
  simp [settingOf, indexedScopes]

/-- The pointer of a scope that has a name always denotes some scope. -/
theorem exists_atPointer?_eq_some (root : Files.Path) (locators : Locators)
    {analyses : List FileAnalysis} {scope : Scope} (named : scope ∈ namedScopes analyses) :
    ∃ target, (settingOf root locators analyses).atPointer? scope.pointer = some target := by
  simp only [atPointer?_settingOf_eq_some_iff]
  rw [exists_firstWith_iff]
  exact ⟨scope, (mem_indexedScopes_iff analyses scope).mpr named, rfl⟩

end ScopeAtlas.Graph
