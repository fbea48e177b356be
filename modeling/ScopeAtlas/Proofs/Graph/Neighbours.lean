import ScopeAtlas.Proofs.Graph.Forest

/-!
# Neighbours of scopes

A reader of the graph asks a scope for its neighbours: whom it uses and who uses it, what it inherits
from and what inherits from it, what lies in it and where it lies.  Each of these lists is read off
the edges separately.  They fit together because they are read off the same edges: the two lists of a
relation are converse to each other, an edge that is found in the source stands there once, and a
scope has one container.  Mirror images are never read, so it makes no difference whether they were
asked for.
-/

namespace ScopeAtlas.Data

/-- In a list of at most one member, a member is the first one. -/
theorem head?_eq_some_iff_mem {α : Type} {items : List α} (short : items.length ≤ 1) (item : α) :
    items.head? = some item ↔ item ∈ items := by
  match items with
  | [] => simp
  | [only] => simp [eq_comm]
  | _ :: _ :: _ => simp at short

end ScopeAtlas.Data

namespace ScopeAtlas.Graph

open ScopeAtlas.Data ScopeAtlas.Files

/-- All scopes of a project with their neighbours. -/
def Resolution.enriched (graph : Resolution) : List Enriched := (enrich graph).flatMap (·.2)

/-- Every end of an edge is listed under its id. -/
def Resolution.ListsEnds (graph : Resolution) : Prop :=
  ∀ edge ∈ graph.edges, ∀ endpoint ∈ edge.ends, (graph.scope? endpoint.id).isSome = true

/-- The neighbours of the scopes of a graph fit together. -/
structure Resolution.FitsTogether (graph : Resolution) : Prop where
  uses : ∀ s ∈ graph.enriched, ∀ t ∈ graph.enriched,
    t.scope.id ∈ s.consumes ↔ s.scope.id ∈ t.consumedBy
  inheritance : ∀ s ∈ graph.enriched, ∀ t ∈ graph.enriched,
    t.scope.id ∈ s.inheritsFrom ↔ s.scope.id ∈ t.inheritedBy
  nesting : (graph.enriched.map (·.scope.id)).Nodup →
    ∀ s ∈ graph.enriched, ∀ t ∈ graph.enriched,
      t.containedBy = some s.scope.id ↔ t.scope.id ∈ s.contains
  nodup : ∀ s ∈ graph.enriched,
    s.consumes.Nodup ∧ s.consumedBy.Nodup ∧ s.contains.Nodup ∧ s.decoratedBy.Nodup
  readers : graph.ListsEnds → ∀ s ∈ graph.enriched,
    (graph.dependencies s.scope.id).map (·.id) = s.consumes ∧
      (graph.consumers s.scope.id).map (·.id) = s.consumedBy

theorem mem_enriched_iff (graph : Resolution) (s : Enriched) :
    s ∈ graph.enriched ↔
      ∃ scope ∈ graph.analyses.flatMap (·.scopes), enrichScope graph.forward scope = s := by
  simp only [Resolution.enriched, enrich, List.flatMap_map, List.mem_flatMap, List.mem_map]
  constructor
  · rintro ⟨file, fileMem, scope, scopeMem, same⟩
    exact ⟨scope, ⟨file, fileMem, scopeMem⟩, same⟩
  · rintro ⟨scope, ⟨file, fileMem, scopeMem⟩, same⟩
    exact ⟨file, fileMem, scope, scopeMem, same⟩

/-! ## Both ends of an edge -/

section Ends

variable {edges : List Edge} {id : String} {wanted : Relation → Bool}

theorem mem_targetsOf_iff {target : String} :
    target ∈ targetsOf edges id wanted ↔
      ∃ edge ∈ edges, wanted edge.relation = true ∧ edge.source.id = id ∧
        edge.target.id = target := by
  simp only [targetsOf, List.mem_map, List.mem_filter, Bool.and_eq_true, beq_iff_eq]
  constructor
  · rintro ⟨edge, ⟨member, source, wants⟩, target⟩
    exact ⟨edge, member, wants, source, target⟩
  · rintro ⟨edge, member, wants, source, target⟩
    exact ⟨edge, ⟨member, source, wants⟩, target⟩

theorem mem_sourcesOf_iff {source : String} :
    source ∈ sourcesOf edges id wanted ↔
      ∃ edge ∈ edges, wanted edge.relation = true ∧ edge.source.id = source ∧
        edge.target.id = id := by
  simp only [sourcesOf, List.mem_map, List.mem_filter, Bool.and_eq_true, beq_iff_eq]
  constructor
  · rintro ⟨edge, ⟨member, target, wants⟩, source⟩
    exact ⟨edge, member, wants, source, target⟩
  · rintro ⟨edge, member, wants, source, target⟩
    exact ⟨edge, ⟨member, target, wants⟩, source⟩

/-- What leads to a scope as seen from the other end leads there as seen from this one. -/
theorem mem_targetsOf_iff_mem_sourcesOf (edges : List Edge) (wanted : Relation → Bool)
    (source target : String) :
    target ∈ targetsOf edges source wanted ↔ source ∈ sourcesOf edges target wanted := by
  rw [mem_targetsOf_iff, mem_sourcesOf_iff]

/-- Neighbours that determine the key of the edge to them occur once. -/
theorem nodup_neighbours (keys : (edges.map Edge.key).Nodup) {keep : Edge → Bool}
    {neighbour : Edge → String}
    (determines : ∀ a b, keep a = true → keep b = true → neighbour a = neighbour b →
      a.key = b.key) : ((edges.filter keep).map neighbour).Nodup := by
  apply List.Nodup.map_on _ (keys.of_map.filter keep)
  intro a aMem b bMem same
  obtain ⟨aMem, aKept⟩ := List.mem_filter.mp aMem
  obtain ⟨bMem, bKept⟩ := List.mem_filter.mp bMem
  exact eq_of_key_eq keys aMem bMem (determines a b aKept bKept same)

theorem nodup_targetsOf (keys : (edges.map Edge.key).Nodup) (id : String) (relation : Relation) :
    (targetsOf edges id (· == relation)).Nodup := by
  apply nodup_neighbours keys
  intro a b aKept bKept targets
  rw [Bool.and_eq_true, beq_iff_eq, beq_iff_eq] at aKept bKept
  rw [Edge.key, Edge.key, aKept.1, aKept.2, bKept.1, bKept.2, targets]

theorem nodup_sourcesOf (keys : (edges.map Edge.key).Nodup) (id : String) (relation : Relation) :
    (sourcesOf edges id (· == relation)).Nodup := by
  apply nodup_neighbours keys
  intro a b aKept bKept sources
  rw [Bool.and_eq_true, beq_iff_eq, beq_iff_eq] at aKept bKept
  rw [Edge.key, Edge.key, aKept.1, aKept.2, bKept.1, bKept.2, sources]

end Ends

/-! ## Readers -/

section Graph

variable {options : Options} {root : Path} {locators : Locators} {analyses : List FileAnalysis}

/-- What is listed under an id has that id. -/
theorem id_of_scope?_resolve {id : String} {listing : Listing}
    (listed : (resolve options root locators analyses).scope? id = some listing) :
    listing.id = id := by
  rw [scope?_resolve] at listed
  obtain ⟨scope, found, rfl⟩ := Option.map_eq_some_iff.mp listed
  have sameId := List.find?_some found
  exact eq_of_beq sameId

/-- A search of the listings for ends of edges loses none exactly when all of them are listed. -/
theorem ids_filterMap_scope?_iff (edges : List Edge) (endpoint : Edge → Endpoint) :
    (edges.filterMap fun edge =>
        (resolve options root locators analyses).scope? (endpoint edge).id).map (·.id) =
        edges.map (fun edge => (endpoint edge).id) ↔
      ∀ edge ∈ edges,
        ((resolve options root locators analyses).scope? (endpoint edge).id).isSome = true := by
  rw [map_filterMap_eq_map_iff]
  refine forall₂_congr ?_
  intro edge _
  cases listed : (resolve options root locators analyses).scope? (endpoint edge).id with
  | none => simp
  | some listing => simp [id_of_scope?_resolve listed]

/-- The container that is read off is the only one. -/
theorem head?_sourcesOf_iff (ids : ((analyses.flatMap (·.scopes)).map (·.id)).Nodup)
    (outer inner : String) :
    (sourcesOf (resolve options root locators analyses).forward inner (· == .contains)).head? =
        some outer ↔
      outer ∈ sourcesOf (resolve options root locators analyses).forward inner (· == .contains) := by
  apply head?_eq_some_iff_mem
  have few : (nestingInto (resolve options root locators analyses).edges inner).length ≤ 1 :=
    length_nestingInto_le_one ids inner
  have fewer : (nestingInto (resolve options root locators analyses).forward inner).Sublist
      (nestingInto (resolve options root locators analyses).edges inner) :=
    List.filter_sublist.filter _
  have same : sourcesOf (resolve options root locators analyses).forward inner (· == .contains) =
      (nestingInto (resolve options root locators analyses).forward inner).map (·.source.id) := by
    rw [sourcesOf, nestingInto]
    congr 2
    funext edge
    exact Bool.and_comm _ _
  rw [same, List.length_map]
  exact fewer.length_le.trans few

theorem ids_enriched :
    (resolve options root locators analyses).enriched.map (·.scope.id) =
      (analyses.flatMap (·.scopes)).map (·.id) := by
  rw [← ids_classify locators, Resolution.enriched, enrich, List.flatMap_map, List.map_flatMap,
    List.map_flatMap]
  congr 1
  funext file
  rw [List.map_map]
  rfl

theorem fitsTogether_resolve (options : Options) (root : Path) (locators : Locators)
    (analyses : List FileAnalysis) :
    (resolve options root locators analyses).FitsTogether := by
  have keys : ((resolve options root locators analyses).forward.map Edge.key).Nodup := by
    rw [forward_resolve]
    exact Edge.nodup_keys_keepFirst _ _
  constructor
  case uses =>
    intro s sMem t tMem
    obtain ⟨scope, _, rfl⟩ := (mem_enriched_iff _ s).mp sMem
    obtain ⟨other, _, rfl⟩ := (mem_enriched_iff _ t).mp tMem
    exact mem_targetsOf_iff_mem_sourcesOf _ (· == .consumes) scope.id other.id
  case inheritance =>
    intro s sMem t tMem
    obtain ⟨scope, _, rfl⟩ := (mem_enriched_iff _ s).mp sMem
    obtain ⟨other, _, rfl⟩ := (mem_enriched_iff _ t).mp tMem
    exact mem_targetsOf_iff_mem_sourcesOf _ Relation.isInheritance scope.id other.id
  case nesting =>
    intro ids s sMem t tMem
    rw [ids_enriched] at ids
    obtain ⟨scope, _, rfl⟩ := (mem_enriched_iff _ s).mp sMem
    obtain ⟨other, _, rfl⟩ := (mem_enriched_iff _ t).mp tMem
    exact (head?_sourcesOf_iff ids scope.id other.id).trans
      (mem_targetsOf_iff_mem_sourcesOf _ _ scope.id other.id).symm
  case nodup =>
    intro s sMem
    obtain ⟨scope, _, rfl⟩ := (mem_enriched_iff _ s).mp sMem
    exact ⟨nodup_targetsOf keys _ _, nodup_sourcesOf keys _ _, nodup_targetsOf keys _ _,
      nodup_targetsOf keys _ _⟩
  case readers =>
    intro listed s sMem
    obtain ⟨scope, _, rfl⟩ := (mem_enriched_iff _ s).mp sMem
    have ends : ∀ edge ∈ (resolve options root locators analyses).forward,
        ∀ endpoint ∈ edge.ends,
          ((resolve options root locators analyses).scope? endpoint.id).isSome = true :=
      fun edge member => listed edge (List.mem_of_mem_filter member)
    constructor
    · refine (ids_filterMap_scope?_iff _ (·.target)).mpr ?_
      intro edge member
      exact ends edge (List.mem_of_mem_filter member) edge.target (by simp [Edge.ends])
    · refine (ids_filterMap_scope?_iff _ (·.source)).mpr ?_
      intro edge member
      exact ends edge (List.mem_of_mem_filter member) edge.source (by simp [Edge.ends])

/-- Neighbours are read off the edges found in the source, which are the same with mirror images and
without. -/
theorem enrich_resolve_mirrored (options : Options) (mirrored : Bool) (root : Path)
    (locators : Locators) (analyses : List FileAnalysis) :
    enrich (resolve { options with includeInverse := mirrored } root locators analyses) =
      enrich (resolve options root locators analyses) := by
  have forward : (resolve { options with includeInverse := mirrored } root locators
      analyses).forward = (resolve options root locators analyses).forward := by
    rw [forward_resolve, forward_resolve]
    rfl
  rw [enrich, enrich, forward]
  rfl

end Graph

end ScopeAtlas.Graph

namespace ScopeAtlas.Workspace

open ScopeAtlas.Data ScopeAtlas.Files ScopeAtlas.Graph

/-- Whether a project is linked does not depend on mirror images, nor do the neighbours found. -/
theorem map_enrich_link_mirrored (options : Options) (mirrored : Bool) (files : FileTree)
    (root : Path) (analyses : List FileAnalysis) :
    (link { options with includeInverse := mirrored } files root analyses).map enrich =
      (link options files root analyses).map enrich := by
  have uses : ∀ homes setting, useFault? { options with includeInverse := mirrored } homes setting =
      useFault? options homes setting := fun _ _ => rfl
  unfold link
  cases loadHomes files root (sortedSet (analyses.map (·.language))) with
  | error fault => rfl
  | ok homes =>
      simp only [Except.mapError, bind, Except.bind, uses]
      split
      · rfl
      · exact congrArg Except.ok (enrich_resolve_mirrored options mirrored root _ analyses)

/-- For every project and every choice of options, the scopes with their neighbours are the same
whether mirror images are wanted or not, and the neighbours fit together: uses and users, bases and
heirs are converse to each other, and so are content and container when ids tell the scopes apart;
no neighbour is named twice in one way; and the readers of the graph that list dependencies and
consumers list the same, in the same order, when every end of an edge is listed under its id. -/
theorem neighbours_converse_with_or_without_mirrors (options : Options) (root : Path)
    (analyses : List FileAnalysis) :
    (∀ locators mirrored,
      enrich (resolve { options with includeInverse := mirrored } root locators analyses) =
        enrich (resolve options root locators analyses)) ∧
    (∀ files mirrored,
      (link { options with includeInverse := mirrored } files root analyses).map enrich =
        (link options files root analyses).map enrich) ∧
    (∀ locators, (resolve options root locators analyses).FitsTogether) ∧
    ∀ files graph, link options files root analyses = .ok graph → graph.FitsTogether := by
  refine ⟨?_, ?_, ?_, ?_⟩
  · intro locators mirrored
    exact enrich_resolve_mirrored options mirrored root locators analyses
  · intro files mirrored
    exact map_enrich_link_mirrored options mirrored files root analyses
  · intro locators
    exact fitsTogether_resolve options root locators analyses
  · intro files graph linked
    obtain ⟨homes, _, _, _, _, rfl⟩ := (link_eq_ok_iff _ _ _ _ _).mp linked
    exact fitsTogether_resolve options root (locatorsOf homes) analyses

end ScopeAtlas.Workspace
