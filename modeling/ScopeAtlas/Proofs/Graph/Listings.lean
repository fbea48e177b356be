import Mathlib.Data.List.Induction
import ScopeAtlas.Proofs.Graph.Contributions
import ScopeAtlas.Proofs.Graph.Symmetry

/-!
# Scopes by their ids

The edges of a project join scopes of its files, and a reader of the graph looks their ends up by
id.  The table of ids is made from the name index, in which a later scope of the same id replaces an
earlier one and a scope without a name does not stand.  So an end of an edge is found, as the scope
it is, exactly when neither happened to it, and the readers of the graph that go from edges to scopes
lose or mistake those ends and no others.
-/

namespace ScopeAtlas.Data

theorem lookup_putEntry {α : Type} (key : String) (value : α) (table : List (String × α))
    (name : String) :
    (putEntry key value table).lookup name =
      if name = key then some value else table.lookup name := by
  induction table with
  | nil =>
      rw [putEntry, List.lookup_cons]
      by_cases same : name = key
      · simp [same]
      · have differs : (name == key) = false := by simpa using same
        simp [same, differs]
  | cons entry rest ih =>
      rw [putEntry]
      by_cases there : entry.1 = key
      · rw [if_pos (by simpa using there), List.lookup_cons, List.lookup_cons, there]
        by_cases same : name = key
        · simp [same]
        · have differs : (name == key) = false := by simpa using same
          simp [same, differs]
      · rw [if_neg (by simpa using there), List.lookup_cons, List.lookup_cons, ih]
        by_cases here : name = entry.1
        · subst name
          simp [there]
        · have differs : (name == entry.1) = false := by simpa using here
          simp [differs]

theorem FirstWith.mem {α : Type} {property : α → Prop} {items : List α} {item : α}
    (first : FirstWith property items item) : item ∈ items := by
  obtain ⟨before, after, rfl, _⟩ := first
  simp

end ScopeAtlas.Data

namespace ScopeAtlas.Graph

open ScopeAtlas.Data ScopeAtlas.Files

/-! ## The table of ids -/

/-- Of the listings of an id the last one counts. -/
theorem lookup_listingsById (byName : List (String × List Listing)) (id : String) :
    (listingsById byName).lookup id =
      (byName.flatMap (·.2)).reverse.find? fun listing => listing.id == id := by
  rw [listingsById]
  induction byName.flatMap (·.2) using List.reverseRecOn with
  | nil => rfl
  | append_singleton rest last ih =>
      rw [List.foldl_append, List.foldl_cons, List.foldl_nil, lookup_putEntry, ih,
        List.reverse_append, List.reverse_singleton, List.singleton_append, List.find?_cons]
      by_cases same : id = last.id
      · simp [same]
      · have differs : (last.id == id) = false := by simpa using fun equal => same equal.symm
        simp [same, differs]

/-- The scope that is listed for an id: the last scope of the index that has it. -/
theorem scope?_resolve (options : Options) (root : Path) (locators : Locators)
    (analyses : List FileAnalysis) (id : String) :
    (resolve options root locators analyses).scope? id =
      ((indexedScopes analyses).reverse.find? fun scope => scope.id == id).map
        Listing.ofScope := by
  have listed : ((settingOf root locators analyses).index.map fun entry =>
      (entry.1, entry.2.map Listing.ofScope)).flatMap (·.2) =
        (indexedScopes analyses).map Listing.ofScope := by
    rw [indexedScopes, List.map_flatMap, List.flatMap_map]
    rfl
  rw [Resolution.scope?, resolve, lookup_listingsById, listed, ← List.map_reverse,
    List.find?_map]
  rfl

/-! ## The ends of edges -/

/-- Both ends of an edge. -/
def Edge.ends (edge : Edge) : List Endpoint := [edge.source, edge.target]

/-- The scopes of a project as ends of edges. -/
def projectEndpoints (analyses : List FileAnalysis) : List Endpoint :=
  (analyses.flatMap (·.scopes)).map Endpoint.ofScope

/-- Classification changes nothing by which an end is identified. -/
theorem projectEndpoints_classify (locators : Locators) (analyses : List FileAnalysis) :
    projectEndpoints (classify locators analyses) = projectEndpoints analyses := by
  simp only [projectEndpoints, classify, List.map_flatMap, List.flatMap_map, classifyFile,
    List.map_map]
  rfl

theorem mem_projectEndpoints_of_mem_scopes {analyses : List FileAnalysis} {file : FileAnalysis}
    {scope : Scope} (fileMem : file ∈ analyses) (scopeMem : scope ∈ file.scopes) :
    Endpoint.ofScope scope ∈ projectEndpoints analyses :=
  List.mem_map_of_mem (List.mem_flatMap.mpr ⟨file, fileMem, scopeMem⟩)

theorem mem_projectEndpoints_of_mem_namedScopes {analyses : List FileAnalysis} {scope : Scope}
    (named : scope ∈ namedScopes analyses) :
    Endpoint.ofScope scope ∈ projectEndpoints analyses :=
  List.mem_map_of_mem (List.mem_of_mem_filter named)

theorem mem_of_innermost? {best : Option Scope} {scopes : List Scope} {scope : Scope}
    (found : innermost? best scopes = some scope) : best = some scope ∨ scope ∈ scopes := by
  induction scopes generalizing best with
  | nil => exact Or.inl found
  | cons candidate rest ih =>
      cases best with
      | none =>
          rcases ih found with same | later
          · exact Or.inr (Option.some.inj same ▸ List.mem_cons_self)
          · exact Or.inr (List.mem_cons_of_mem _ later)
      | some held =>
          rcases ih found with same | later
          · split at same
            · exact Or.inr (Option.some.inj same ▸ List.mem_cons_self)
            · exact Or.inl same
          · exact Or.inr (List.mem_cons_of_mem _ later)

theorem mem_of_enclosing? {inner outer : Scope} {scopes : List Scope}
    (found : enclosing? inner scopes = some outer) : outer ∈ scopes := by
  rw [enclosing?] at found
  split at found
  · rename_i scope chosen
    obtain rfl := Option.some.inj found
    rcases mem_of_innermost? chosen with none | member
    · contradiction
    · exact List.mem_of_mem_filter member
  · exact List.mem_of_find?_eq_some found

theorem Denotes.mem {scopes : List Scope} {name : String} {target : Scope}
    (denotes : Denotes scopes name target) : target ∈ scopes := by
  rcases denotes with first | ⟨_, first⟩
  · exact first.mem
  · exact first.mem

/-- A decorator refers to where its import leads, or to a scope of the index. -/
theorem locatedTarget?_or_mem_of_decoratorTarget? {setting : Setting} {file : FileAnalysis}
    {scope target : Scope} {decorator : Decorator}
    (selected : decoratorTarget? setting file scope decorator = some target) :
    (∃ binding reference, locatedTarget? setting file binding reference = some target) ∨
      ∃ name, target ∈ (setting.index.lookup name).getD [] := by
  unfold decoratorTarget? at selected
  generalize decoratorReference decorator = reference at selected
  dsimp only at selected
  split at selected
  · rename_i located
    obtain rfl := Option.some.inj selected
    obtain ⟨binding, _, found⟩ := Option.bind_eq_some_iff.mp located
    exact Or.inl ⟨binding, reference, found⟩
  · refine Or.inr ⟨reference.identifier, ?_⟩
    split at selected
    · rename_i found
      obtain rfl := Option.some.inj selected
      exact List.mem_of_find?_eq_some found
    · exact List.mem_of_head? selected

section Targets

variable {root : Path} {locators : Locators} {analyses : List FileAnalysis} {file : FileAnalysis}
  {target : Scope}

theorem LocatedFrom.mem_projectEndpoints {binding : Import} {reference : Reference}
    (located : LocatedFrom (settingOf root locators analyses) file binding reference target) :
    Endpoint.ofScope target ∈ projectEndpoints analyses := by
  obtain ⟨_, _, _, found, _, _, analysed, _, denotes⟩ := located
  rw [← projectEndpoints_classify locators]
  have fileMem : found ∈ classify locators analyses :=
    List.mem_reverse.mp (List.mem_of_find?_eq_some analysed)
  exact mem_projectEndpoints_of_mem_scopes fileMem denotes.mem

theorem LeadsTo.mem_projectEndpoints {reference : Reference} {evidence : Evidence}
    (leads : LeadsTo (settingOf root locators analyses) analyses file reference target evidence) :
    Endpoint.ofScope target ∈ projectEndpoints analyses := by
  cases leads with
  | byPointer _ _ first =>
      exact mem_projectEndpoints_of_mem_namedScopes ((mem_indexedScopes_iff _ _).mp first.mem)
  | byImport _ _ _ located => exact located.mem_projectEndpoints
  | byName _ _ _ named =>
      obtain ⟨_, _, first⟩ := named
      exact mem_projectEndpoints_of_mem_namedScopes first.mem

theorem mem_projectEndpoints_of_mem_lookup {name : String}
    (member : target ∈ ((settingOf root locators analyses).index.lookup name).getD []) :
    Endpoint.ofScope target ∈ projectEndpoints analyses := by
  change target ∈ ((nameIndex analyses).lookup name).getD [] at member
  rw [lookup_nameIndex] at member
  by_cases empty : bearers analyses name = []
  · simp [empty] at member
  · rw [if_neg empty] at member
    exact mem_projectEndpoints_of_mem_namedScopes ((mem_bearers_iff _ _ _).mp member).1

theorem mem_projectEndpoints_of_decoratorTarget? {scope : Scope} {decorator : Decorator}
    (selected : decoratorTarget? (settingOf root locators analyses) file scope decorator =
      some target) : Endpoint.ofScope target ∈ projectEndpoints analyses := by
  rcases locatedTarget?_or_mem_of_decoratorTarget? selected with ⟨_, _, located⟩ | ⟨_, named⟩
  · exact ((locatedTarget?_eq_some_iff _ _ _ _ _).mp located).mem_projectEndpoints
  · exact mem_projectEndpoints_of_mem_lookup named

theorem Contributes.mem_projectEndpoints {options : Options} {source : Scope} {relation : Relation}
    {evidence : Evidence}
    (contributes : Contributes options (settingOf root locators analyses) analyses source target
      relation evidence) :
    Endpoint.ofScope source ∈ projectEndpoints analyses ∧
      Endpoint.ofScope target ∈ projectEndpoints analyses := by
  have inFile : ∀ file ∈ (settingOf root locators analyses).analyses, ∀ scope ∈ file.scopes,
      Endpoint.ofScope scope ∈ projectEndpoints analyses := by
    intro file fileMem scope scopeMem
    rw [← projectEndpoints_classify locators]
    exact mem_projectEndpoints_of_mem_scopes fileMem scopeMem
  cases contributes with
  | nesting _ fileMem innerMem encloses =>
      exact ⟨inFile _ fileMem _ (mem_of_enclosing? encloses), inFile _ fileMem _ innerMem⟩
  | decoration _ fileMem scopeMem _ selected =>
      exact ⟨inFile _ fileMem _ scopeMem, mem_projectEndpoints_of_decoratorTarget? selected⟩
  | use fileMem scopeMem _ leads _ =>
      exact ⟨inFile _ fileMem _ scopeMem, leads.mem_projectEndpoints⟩

end Targets

/-- Edges join scopes of the project. -/
theorem ends_mem_projectEndpoints {options : Options} {root : Path} {locators : Locators}
    {analyses : List FileAnalysis} {edge : Edge}
    (member : edge ∈ (resolve options root locators analyses).edges) :
    ∀ endpoint ∈ edge.ends, endpoint ∈ projectEndpoints analyses := by
  have forward : ∀ edge ∈ forwardEdges options (settingOf root locators analyses),
      edge.source ∈ projectEndpoints analyses ∧ edge.target ∈ projectEndpoints analyses := by
    intro edge found
    have contributed := mem_contributions_of_mem_forwardEdges found
    rw [mem_contributions_iff, exists_mem_scopeEdges_iff] at contributed
    obtain ⟨⟨source, target, relation, evidence, rfl, contributes⟩, _⟩ := contributed
    exact contributes.mem_projectEndpoints
  have both : edge.source ∈ projectEndpoints analyses ∧
      edge.target ∈ projectEndpoints analyses := by
    change edge ∈ allEdges options (settingOf root locators analyses) at member
    rw [allEdges_eq_append] at member
    rcases List.mem_append.mp member with direct | mirrored
    · exact forward edge direct
    · split at mirrored
      · obtain ⟨origin, originMem, rfl⟩ := List.mem_map.mp mirrored
        exact (forward origin originMem).symm
      · contradiction
  simpa [Edge.ends] using both

/-! ## What a reader finds -/

/-- A listing as the end of an edge. -/
def Listing.endpoint (listing : Listing) : Endpoint :=
  { id := listing.id, name := listing.name, file := listing.file, kind := listing.kind }

/-- The end is listed under its id, with its own name, file and kind. -/
def Resolution.Lists (resolution : Resolution) (endpoint : Endpoint) : Prop :=
  (resolution.scope? endpoint.id).map Listing.endpoint = some endpoint
deriving Decidable

/-- Why an end of an edge is not found, or not as the scope it is. -/
inductive Overlooked (analyses : List FileAnalysis) (endpoint : Endpoint) : Prop where
  /-- It has no name, and no scope that has one has its id. -/
  | nameless (unnamed : endpoint.name = "")
      (alone : ∀ scope ∈ namedScopes analyses, scope.id ≠ endpoint.id)
  /-- The last scope of the index that has its id is another. -/
  | displaced (scope : Scope)
      (last : FirstWith (fun other => other.id = endpoint.id) (indexedScopes analyses).reverse scope)
      (differs : Endpoint.ofScope scope ≠ endpoint)

theorem lists_iff_not_overlooked (options : Options) (root : Path) (locators : Locators)
    {analyses : List FileAnalysis} {endpoint : Endpoint}
    (known : endpoint ∈ projectEndpoints analyses) :
    (resolve options root locators analyses).Lists endpoint ↔ ¬Overlooked analyses endpoint := by
  rw [Resolution.Lists, scope?_resolve]
  cases found : (indexedScopes analyses).reverse.find? fun scope => scope.id == endpoint.id with
  | none =>
      have absent : ∀ scope ∈ namedScopes analyses, scope.id ≠ endpoint.id := by
        intro scope named
        have listed := List.mem_reverse.mpr ((mem_indexedScopes_iff analyses scope).mpr named)
        simpa using List.find?_eq_none.mp found scope listed
      have unnamed : endpoint.name = "" := by
        obtain ⟨scope, member, rfl⟩ := List.mem_map.mp known
        by_contra named
        refine absent scope (List.mem_filter.mpr ⟨member, ?_⟩) rfl
        simpa [String.isEmpty_iff, Endpoint.ofScope] using named
      simpa using Overlooked.nameless unnamed absent
  | some scope =>
      have first := (find?_eq_some_iff_firstWith _ _ _).mp found
      simp only [beq_iff_eq] at first
      simp only [Option.map_some, Option.some.injEq]
      constructor
      · intro same overlooked
        cases overlooked with
        | nameless _ alone =>
            obtain ⟨_, _, _, sameId, _⟩ := id first
            have named := (mem_indexedScopes_iff analyses scope).mp (List.mem_reverse.mp first.mem)
            exact alone scope named sameId
        | displaced other last differs =>
            have again := (find?_eq_some_iff_firstWith
              (fun scope : Scope => scope.id == endpoint.id) _ _).mpr (by simpa using last)
            obtain rfl := Option.some.inj (found.symm.trans again)
            exact differs same
      · intro kept
        by_contra differs
        exact kept (.displaced scope first differs)

/-- A search keeps every item, as what it stands for, exactly when it finds each of them so. -/
theorem map_filterMap_eq_map_iff {α β γ : Type} (find : α → Option β) (view : β → γ) (want : α → γ)
    (items : List α) :
    (items.filterMap find).map view = items.map want ↔
      ∀ item ∈ items, (find item).map view = some (want item) := by
  induction items with
  | nil => simp
  | cons item rest ih =>
      rw [List.forall_mem_cons, ← ih, List.map_cons]
      cases found : find item with
      | none =>
          rw [List.filterMap_cons_none found]
          simp only [Option.map_none, reduceCtorEq, false_and, iff_false]
          intro same
          have lengths := congrArg List.length same
          have fewer := List.length_filterMap_le find rest
          simp only [List.length_map, List.length_cons] at lengths
          omega
      | some value =>
          rw [List.filterMap_cons_some found, List.map_cons]
          simp

/-- The uses of the scope of an id. -/
def usesInto (edges : List Edge) (id : String) : List Edge :=
  edges.filter fun edge => edge.target.id == id && edge.relation == .consumes

/-- The uses that the scope of an id makes. -/
def usesFrom (edges : List Edge) (id : String) : List Edge :=
  edges.filter fun edge => edge.source.id == id && edge.relation == .consumes

/-- For every project and every choice of options, an end of an edge is listed under its id, with its
own name, file and kind, unless it is overlooked.  The consumers and the dependencies of a scope are
the other ends of its uses, one for one, exactly when none of these is overlooked. -/
theorem endpoints_listed_unless_overlooked (options : Options) (root : Path) (locators : Locators)
    (analyses : List FileAnalysis) :
    let resolution := resolve options root locators analyses
    (∀ edge ∈ resolution.edges, ∀ endpoint ∈ edge.ends,
      (resolution.Lists endpoint ↔ ¬Overlooked analyses endpoint)) ∧
    ∀ id,
      ((resolution.consumers id).map Listing.endpoint =
          (usesInto resolution.forward id).map (·.source) ↔
        ∀ edge ∈ usesInto resolution.forward id, ¬Overlooked analyses edge.source) ∧
      ((resolution.dependencies id).map Listing.endpoint =
          (usesFrom resolution.forward id).map (·.target) ↔
        ∀ edge ∈ usesFrom resolution.forward id, ¬Overlooked analyses edge.target) := by
  intro resolution
  have listed : ∀ edge ∈ resolution.edges, ∀ endpoint ∈ edge.ends,
      (resolution.Lists endpoint ↔ ¬Overlooked analyses endpoint) := by
    intro edge member endpoint isEnd
    exact lists_iff_not_overlooked options root locators
      (ends_mem_projectEndpoints member endpoint isEnd)
  refine ⟨listed, ?_⟩
  intro id
  constructor
  · rw [Resolution.consumers, ← usesInto, map_filterMap_eq_map_iff]
    refine forall₂_congr ?_
    intro edge member
    have edgeMem := List.mem_of_mem_filter (List.mem_of_mem_filter member)
    exact listed edge edgeMem edge.source (by simp [Edge.ends])
  · rw [Resolution.dependencies, ← usesFrom, map_filterMap_eq_map_iff]
    refine forall₂_congr ?_
    intro edge member
    have edgeMem := List.mem_of_mem_filter (List.mem_of_mem_filter member)
    exact listed edge edgeMem edge.target (by simp [Edge.ends])

/-- A function that uses the first of two variables of one id, and an unnamed namespace around an
interface. -/
def overlookedFile : FileAnalysis :=
  { filePath := "x.ts"
    language := "typescript"
    scopes :=
      [{ id := "pair", name := "a", kind := .variableLike, filePath := "x.ts", startLine := 1,
         endLine := 1 },
       { id := "pair", name := "b", kind := .variableLike, filePath := "x.ts", startLine := 1,
         endLine := 1 },
       { id := "reader", name := "f", kind := .function, filePath := "x.ts", startLine := 2,
         endLine := 2,
         references := [{ identifier := "a", line := 2, column := 17, context := "return a;" }] },
       { id := "outer", name := "", kind := .namespaceLike, filePath := "x.ts", startLine := 3,
         endLine := 5 },
       { id := "inner", name := "Shape", kind := .interfaceLike, filePath := "x.ts",
         startLine := 4, endLine := 4, parent := some "", depth := 1 }] }

/-- The function is joined to the variable it uses, and the other one is reported as its dependency;
the namespace is joined to the interface and is not listed at all. -/
theorem edge_ends_overlooked :
    let resolution := resolve {} (Path.ofString "/x") (fun _ => none) [overlookedFile]
    (∃ edge ∈ resolution.edges, edge.source.name = "f" ∧ edge.target.name = "a" ∧
      edge.relation = .consumes ∧ ¬resolution.Lists edge.target ∧
      (resolution.dependencies "reader").map (·.name) = ["b"]) ∧
    ∃ edge ∈ resolution.edges, edge.source.id = "outer" ∧ edge.target.name = "Shape" ∧
      edge.relation = .contains ∧ resolution.scope? edge.source.id = none := by
  decide +kernel

end ScopeAtlas.Graph
