import Mathlib.Algebra.BigOperators.Group.List.Lemmas
import Mathlib.Algebra.GroupWithZero.Nat
import Mathlib.Data.List.Dedup
import ScopeAtlas.Proofs.FirstOccurrence
import ScopeAtlas.Proofs.Graph.Emission

/-!
# Mirror images and tallies

The edges of a graph are those found in the source, followed by their mirror images where these
are wanted.  The two parts never meet, because an inverse relation is not found in the source;
so the whole list inherits from its first part that no key occurs twice, and every edge has one
counterpart.  The statistics count the same list.
-/

namespace ScopeAtlas.Graph

open ScopeAtlas.Data

/-! ## Mirrored keys -/

/-- The key of the mirror image of an edge, made from the key of the edge. -/
def mirrorKey (key : String × String × Relation) : String × String × Relation :=
  (key.2.1, key.1, key.2.2.inverse)

@[simp]
theorem mirrorKey_mirrorKey (key : String × String × Relation) :
    mirrorKey (mirrorKey key) = key := by
  simp [mirrorKey]

theorem mirrorKey_injective : Function.Injective mirrorKey := by
  intro first second same
  rw [← mirrorKey_mirrorKey first, same, mirrorKey_mirrorKey]

theorem Edge.key_inverted_eq_mirrorKey (edge : Edge) : edge.inverted.key = mirrorKey edge.key :=
  rfl

theorem map_key_inverted (edges : List Edge) :
    (edges.map Edge.inverted).map Edge.key = (edges.map Edge.key).map mirrorKey := by
  rw [List.map_map, List.map_map]
  rfl

/-- A list of edges is closed under mirror images: those found in the source come first and, where
mirror images are wanted, the image of each follows in the same order.  No edge leads back to the
scope it comes from, no two edges say the same, and so each edge has one counterpart. -/
structure Symmetric (mirrored : Bool) (edges : List Edge) : Prop where
  parts : ∃ forward : List Edge,
    (∀ edge ∈ forward, edge.relation ∈ Relation.found) ∧
      edges = forward ++ (if mirrored then forward.map Edge.inverted else [])
  irreflexive : ∀ edge ∈ edges, edge.source.id ≠ edge.target.id
  nodup_keys : (edges.map Edge.key).Nodup
  counterpart : mirrored = true → ∀ edge ∈ edges,
    ∃ mirror ∈ edges, mirror.source = edge.target ∧ mirror.target = edge.source ∧
      mirror.relation = edge.relation.inverse ∧
      ∀ other ∈ edges, other.key = mirrorKey edge.key → other = mirror

/-- Keys of edges found in the source and keys of mirror images differ in their relation. -/
theorem disjoint_mirrorKey {forward : List Edge}
    (found : ∀ edge ∈ forward, edge.relation ∈ Relation.found) {key : String × String × Relation}
    (direct : key ∈ forward.map Edge.key) : key ∉ (forward.map Edge.key).map mirrorKey := by
  intro mirrored
  obtain ⟨edge, edgeMem, rfl⟩ := List.mem_map.mp direct
  obtain ⟨image, imageMem, same⟩ := List.mem_map.mp mirrored
  obtain ⟨origin, originMem, rfl⟩ := List.mem_map.mp imageMem
  have relations : origin.relation.inverse = edge.relation := congrArg (·.2.2) same
  have isForward := (Relation.mem_found_iff _).mp (found edge edgeMem)
  have isInverse := (Relation.mem_found_iff _).mp (found origin originMem)
  rw [← relations, Relation.isInverse_inverse, isInverse] at isForward
  contradiction

theorem nodup_keys_append_inverted {forward : List Edge}
    (found : ∀ edge ∈ forward, edge.relation ∈ Relation.found)
    (nodup : (forward.map Edge.key).Nodup) :
    ((forward ++ forward.map Edge.inverted).map Edge.key).Nodup := by
  rw [List.map_append, map_key_inverted, List.nodup_append]
  refine ⟨nodup, nodup.map mirrorKey_injective, ?_⟩
  rintro direct directMem image imageMem rfl
  exact disjoint_mirrorKey found directMem imageMem

/-- Edges with distinct keys are determined by their keys. -/
theorem eq_of_key_eq {edges : List Edge} (nodup : (edges.map Edge.key).Nodup) {first second : Edge}
    (firstMem : first ∈ edges) (secondMem : second ∈ edges) (same : first.key = second.key) :
    first = second :=
  List.inj_on_of_nodup_map nodup firstMem secondMem same

/-- Appending the mirror images to edges that are found in the source, lead away from their scope
and have distinct keys makes a symmetric list. -/
theorem symmetric_append_inverted {forward : List Edge} (mirrored : Bool)
    (found : ∀ edge ∈ forward, edge.relation ∈ Relation.found)
    (irreflexive : ∀ edge ∈ forward, edge.source.id ≠ edge.target.id)
    (nodup : (forward.map Edge.key).Nodup) :
    Symmetric mirrored (forward ++ (if mirrored then forward.map Edge.inverted else [])) := by
  cases mirrored with
  | false =>
      refine ⟨⟨forward, found, rfl⟩, ?_, ?_, by simp⟩
      · simpa using irreflexive
      · simpa using nodup
  | true =>
      have allNodup := nodup_keys_append_inverted found nodup
      refine ⟨⟨forward, found, rfl⟩, ?_, allNodup, ?_⟩
      · intro edge member
        rcases List.mem_append.mp member with direct | image
        · exact irreflexive edge direct
        · obtain ⟨origin, originMem, rfl⟩ := List.mem_map.mp image
          exact (irreflexive origin originMem).symm
      · intro _ edge member
        rcases List.mem_append.mp member with direct | image
        · have mirrorMem : edge.inverted ∈ forward ++ forward.map Edge.inverted :=
            List.mem_append_right _ (List.mem_map_of_mem direct)
          exact ⟨edge.inverted, mirrorMem, rfl, rfl, rfl,
            fun other otherMem same => eq_of_key_eq allNodup otherMem mirrorMem same⟩
        · obtain ⟨origin, originMem, rfl⟩ := List.mem_map.mp image
          have mirrorMem : origin ∈ forward ++ forward.map Edge.inverted :=
            List.mem_append_left _ originMem
          refine ⟨origin, mirrorMem, rfl, rfl, (Relation.inverse_inverse _).symm, ?_⟩
          intro other otherMem same
          rw [Edge.key_inverted_eq_mirrorKey, mirrorKey_mirrorKey] at same
          exact eq_of_key_eq allNodup otherMem mirrorMem same

/-! ## Tallies -/

theorem Relation.ofLabel?_label (relation : Relation) : ofLabel? relation.label = some relation := by
  cases relation <;> rfl

theorem Relation.label_injective : Function.Injective Relation.label := by
  intro first second same
  apply Option.some.inj
  rw [← ofLabel?_label first, same, ofLabel?_label]

/-- The edges of one relation. -/
def edgesOf (edges : List Edge) (relation : Relation) : List Edge :=
  edges.filter fun edge => edge.relation == relation

/-- The numbers of a graph agree with a list of edges: the total, the number for each relation
that occurs, under its label and under no other, and their sum. -/
structure Statistics.Tallies (statistics : Statistics) (edges : List Edge) : Prop where
  total : statistics.edges = edges.length
  entries : ∀ label count, (label, count) ∈ statistics.byRelation ↔
    0 < count ∧ ∃ relation : Relation, relation.label = label ∧ count = (edgesOf edges relation).length
  nodup_labels : (statistics.byRelation.map Prod.fst).Nodup
  sum : (statistics.byRelation.map Prod.snd).sum = statistics.edges

theorem filter_label_eq_edgesOf (edges : List Edge) (relation : Relation) :
    (edges.filter fun edge => edge.relation.label == relation.label) = edgesOf edges relation := by
  apply List.filter_congr
  intro edge _
  rw [Bool.eq_iff_iff, beq_iff_eq, beq_iff_eq]
  exact Relation.label_injective.eq_iff

/-- Exactly the relations that occur are counted. -/
theorem mem_countByRelation_iff (edges : List Edge) (label : String) (count : Nat) :
    (label, count) ∈ countByRelation edges ↔
      0 < count ∧
        ∃ relation : Relation, relation.label = label ∧ count = (edgesOf edges relation).length := by
  simp only [countByRelation, List.mem_map, mem_sortedSet, Prod.mk.injEq]
  constructor
  · rintro ⟨_, ⟨edge, member, rfl⟩, rfl, rfl⟩
    rw [filter_label_eq_edgesOf]
    refine ⟨List.length_pos_of_mem (a := edge) ?_, edge.relation, rfl, rfl⟩
    simpa [edgesOf] using member
  · rintro ⟨positive, relation, rfl, rfl⟩
    obtain ⟨edge, member⟩ := List.exists_mem_of_length_pos positive
    obtain ⟨edgeMem, same⟩ := List.mem_filter.mp member
    have relation_eq : edge.relation = relation := by simpa using same
    exact ⟨relation.label, ⟨edge, edgeMem, by rw [relation_eq]⟩, rfl,
      by rw [filter_label_eq_edgesOf]⟩

theorem nodup_labels_countByRelation (edges : List Edge) :
    ((countByRelation edges).map Prod.fst).Nodup := by
  have labels : (countByRelation edges).map Prod.fst =
      sortedSet (edges.map (·.relation.label)) := by
    rw [countByRelation, List.map_map]
    exact List.map_id _
  rw [labels]
  exact nodup_sortedSet _

/-- Every edge is counted once. -/
theorem sum_countByRelation (edges : List Edge) :
    ((countByRelation edges).map Prod.snd).sum = edges.length := by
  have counts : (countByRelation edges).map Prod.snd =
      (sortedSet (edges.map (·.relation.label))).map fun label =>
        (edges.map (·.relation.label)).count label := by
    rw [countByRelation, List.map_map]
    apply List.map_congr_left
    intro label _
    rw [List.count_eq_countP, List.countP_map, List.countP_eq_length_filter]
    rfl
  -- The labels that occur, sorted or not, are the same, and addition does not mind the order.
  have sameLabels : (sortedSet (edges.map (·.relation.label))).Perm
      (edges.map (·.relation.label)).dedup := by
    rw [List.perm_ext_iff_of_nodup (nodup_sortedSet _) (List.nodup_dedup _)]
    intro label
    rw [mem_sortedSet, List.mem_dedup]
  calc
    ((countByRelation edges).map Prod.snd).sum
        = ((sortedSet (edges.map (·.relation.label))).map fun label =>
            (edges.map (·.relation.label)).count label).sum := by rw [counts]
    _ = ((edges.map (·.relation.label)).dedup.map fun label =>
            (edges.map (·.relation.label)).count label).sum := (sameLabels.map _).sum_eq
    _ = edges.length := by rw [List.sum_map_count_dedup_eq_length, List.length_map]

/-! ## The graph of a project -/

theorem allEdges_eq_append (options : Options) (setting : Setting) :
    allEdges options setting =
      forwardEdges options setting ++
        (if options.includeInverse then (forwardEdges options setting).map Edge.inverted
          else []) := by
  unfold allEdges
  cases options.includeInverse <;> simp

theorem symmetric_allEdges (options : Options) (setting : Setting) :
    Symmetric options.includeInverse (allEdges options setting) := by
  rw [allEdges_eq_append]
  apply symmetric_append_inverted
  · intro edge found
    exact relation_mem_found_of_mem_forwardEdges found
  · intro edge found
    have contributed := mem_contributions_of_mem_forwardEdges found
    rw [mem_contributions_iff, Options.admits_iff] at contributed
    exact contributed.2.1
  · exact Edge.nodup_keys_keepFirst [] (contributions options setting)

/-- For every project and every choice of options the edges of the graph are symmetric, as far as
mirror images are wanted, and the statistics tally with them. -/
theorem resolve_symmetric_and_tallied (options : Options) (root : Files.Path) (locators : Locators)
    (analyses : List FileAnalysis) :
    Symmetric options.includeInverse (resolve options root locators analyses).edges ∧
      (resolve options root locators analyses).statistics.Tallies
        (resolve options root locators analyses).edges := by
  refine ⟨symmetric_allEdges options (settingOf root locators analyses), ?_⟩
  exact
    { total := rfl
      entries := mem_countByRelation_iff _
      nodup_labels := nodup_labels_countByRelation _
      sum := sum_countByRelation _ }

end ScopeAtlas.Graph
