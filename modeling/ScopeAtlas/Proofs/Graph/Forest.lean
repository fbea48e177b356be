import Mathlib.Logic.Relation
import ScopeAtlas.Proofs.Graph.Containers

/-!
# Nesting as a forest

Containers are looked for by name, level and lines, and nothing is asked of these: names may occur
again, lines may overlap, and the container of a method that stands away from its type is taken by
its name alone.  Still the edges of nesting form a forest as soon as ids tell the scopes of a project
apart.  A scope emits at most one such edge, the one into itself; and every search for a container
looks in the same file and one level up, so that along a chain of edges the level rises.
-/

namespace ScopeAtlas.Data

/-- A list without repetitions whose members are all the same has at most one. -/
theorem length_le_one_of_nodup {α : Type} {items : List α} (nodup : items.Nodup)
    (same : ∀ a ∈ items, ∀ b ∈ items, a = b) : items.length ≤ 1 := by
  match items with
  | [] => simp
  | [_] => simp
  | a :: b :: rest =>
      obtain rfl := same a (by simp) b (by simp)
      simp at nodup

end ScopeAtlas.Data

namespace ScopeAtlas.Graph

open ScopeAtlas.Data ScopeAtlas.Files

/-- An edge leads from the container of one id to the scope of another. -/
def Nests (edges : List Edge) (outer inner : String) : Prop :=
  ∃ edge ∈ edges, edge.relation = .contains ∧ edge.source.id = outer ∧ edge.target.id = inner

/-- The edges of nesting form a forest over the scopes of a project. -/
structure NestingForest (analyses : List FileAnalysis) (edges : List Edge) : Prop where
  /-- No scope has two containers. -/
  oneContainer : ∀ id, (nestingInto edges id).length ≤ 1
  /-- A scope and its container are of one file, and the container is one level up. -/
  oneLevel : ∀ edge ∈ edges, edge.relation = .contains →
    ∃ file ∈ analyses, ∃ outer ∈ file.scopes, ∃ inner ∈ file.scopes,
      edge.source = .ofScope outer ∧ edge.target = .ofScope inner ∧ outer.depth = inner.depth - 1
  /-- No chain of containers returns to its start. -/
  noReturn : ∀ id, ¬Relation.TransGen (Nests edges) id id

/-! ## Where an edge of nesting comes from -/

section Origin

variable {options : Options} {root : Path} {locators : Locators} {analyses : List FileAnalysis}

/-- An edge of nesting is the one that a scope of some file emits. -/
theorem exists_nestingEdge?_of_mem_edges {edge : Edge}
    (member : edge ∈ (resolve options root locators analyses).edges)
    (nesting : edge.relation = .contains) :
    ∃ file ∈ analyses, ∃ inner ∈ file.scopes, nestingEdge? file inner = some edge := by
  have forward : edge ∈ (resolve options root locators analyses).forward :=
    List.mem_filter.mpr ⟨member, by rw [nesting]; rfl⟩
  rw [forward_resolve] at forward
  have contributed := mem_contributions_of_mem_forwardEdges forward
  rw [mem_contributions_iff] at contributed
  obtain ⟨⟨classified, classifiedMem, scope, scopeMem, emitted⟩, _⟩ := contributed
  obtain ⟨file, fileMem, rfl⟩ := List.mem_map.mp classifiedMem
  obtain ⟨inner, innerMem, rfl⟩ := List.mem_map.mp scopeMem
  rw [mem_scopeEdges_iff] at emitted
  rcases emitted with ⟨_, nested⟩ | ⟨reference, _, uses⟩ | ⟨_, decorator, _, decorates⟩
  · rw [nestingEdge?_classifyFile] at nested
    exact ⟨file, fileMem, inner, innerMem, nested⟩
  · exact absurd nesting (relation_of_referenceEdge? uses).1
  · rw [relation_of_decoratorEdge? decorates] at nesting
    contradiction

/-- The edge into a scope comes from a scope of the same file, one level up. -/
theorem exists_outer_of_nestingEdge? {file : FileAnalysis} {inner : Scope} {edge : Edge}
    (nested : nestingEdge? file inner = some edge) :
    ∃ outer ∈ file.scopes, edge = edgeBetween .contains outer inner .nesting ∧
      outer.depth = inner.depth - 1 := by
  obtain ⟨outer, encloses, rfl⟩ := (nestingEdge?_eq_some_iff file inner edge).mp nested
  have level := mayContain_of_enclosing? encloses
  rw [mayContain, Bool.and_eq_true, beq_iff_eq, beq_iff_eq] at level
  exact ⟨outer, mem_of_enclosing? encloses, rfl, by omega⟩

end Origin

/-! ## Scopes by their ids -/

section Distinct

variable {options : Options} {root : Path} {locators : Locators} {analyses : List FileAnalysis}
  (ids : ((analyses.flatMap (·.scopes)).map (·.id)).Nodup)

include ids

/-- Two edges of nesting into one scope are the same. -/
theorem nesting_edge_unique {first second : Edge}
    (firstMem : first ∈ (resolve options root locators analyses).edges)
    (secondMem : second ∈ (resolve options root locators analyses).edges)
    (firstNests : first.relation = .contains) (secondNests : second.relation = .contains)
    (same : first.target.id = second.target.id) : first = second := by
  obtain ⟨a, aMem, inner, innerMem, nested⟩ := exists_nestingEdge?_of_mem_edges firstMem firstNests
  obtain ⟨b, bMem, inner', innerMem', nested'⟩ :=
    exists_nestingEdge?_of_mem_edges secondMem secondNests
  have sameId : inner.id = inner'.id := by
    obtain ⟨outer, _, rfl, _⟩ := exists_outer_of_nestingEdge? nested
    obtain ⟨outer', _, rfl, _⟩ := exists_outer_of_nestingEdge? nested'
    exact same
  obtain rfl := file_eq_of_id_eq ids aMem bMem innerMem innerMem' sameId
  obtain rfl := List.inj_on_of_nodup_map ids (List.mem_flatMap.mpr ⟨a, aMem, innerMem⟩)
    (List.mem_flatMap.mpr ⟨a, aMem, innerMem'⟩) sameId
  exact Option.some.inj (nested.symm.trans nested')

/-- No two edges of nesting lead into one scope. -/
theorem length_nestingInto_le_one (id : String) :
    (nestingInto (resolve options root locators analyses).edges id).length ≤ 1 := by
  have keys := (symmetric_allEdges options (settingOf root locators analyses)).nodup_keys
  apply length_le_one_of_nodup (keys.of_map.filter _)
  intro first firstMem second secondMem
  obtain ⟨firstMem, firstNests⟩ := List.mem_filter.mp firstMem
  obtain ⟨secondMem, secondNests⟩ := List.mem_filter.mp secondMem
  rw [Bool.and_eq_true, beq_iff_eq, beq_iff_eq] at firstNests secondNests
  exact nesting_edge_unique ids firstMem secondMem firstNests.1 secondNests.1
    (firstNests.2.trans secondNests.2.symm)

/-- The level of a scope is higher than that of every scope it is nested in, however deep. -/
theorem depth_lt_of_nests {outerId innerId : String}
    (chain : Relation.TransGen (Nests (resolve options root locators analyses).edges) outerId
      innerId) :
    ∃ outer ∈ analyses.flatMap (·.scopes), ∃ inner ∈ analyses.flatMap (·.scopes),
      outer.id = outerId ∧ inner.id = innerId ∧ outer.depth < inner.depth := by
  have step : ∀ {a b}, Nests (resolve options root locators analyses).edges a b →
      ∃ outer ∈ analyses.flatMap (·.scopes), ∃ inner ∈ analyses.flatMap (·.scopes),
        outer.id = a ∧ inner.id = b ∧ outer.depth < inner.depth := by
    rintro a b ⟨edge, member, nesting, rfl, rfl⟩
    obtain ⟨file, fileMem, inner, innerMem, nested⟩ :=
      exists_nestingEdge?_of_mem_edges member nesting
    obtain ⟨outer, outerMem, rfl, level⟩ := exists_outer_of_nestingEdge? nested
    exact ⟨outer, List.mem_flatMap.mpr ⟨file, fileMem, outerMem⟩, inner,
      List.mem_flatMap.mpr ⟨file, fileMem, innerMem⟩, rfl, rfl, by omega⟩
  induction chain with
  | single nests => exact step nests
  | tail _ last ih =>
      obtain ⟨outer, outerMem, middle, middleMem, outerId, middleId, higher⟩ := ih
      obtain ⟨middle', middleMem', inner, innerMem, middleId', innerId, higherYet⟩ := step last
      -- Both ends of the chain and of its last edge mean the same scope, because they have its id.
      obtain rfl := List.inj_on_of_nodup_map ids middleMem middleMem'
        (middleId.trans middleId'.symm)
      exact ⟨outer, outerMem, inner, innerMem, outerId, innerId, by omega⟩

/-- If ids tell the scopes of a project apart, its edges of nesting form a forest, whatever names,
lines and levels the scopes have and whichever edges are wanted besides. -/
theorem nesting_edges_form_forest (options : Options) (root : Path) (locators : Locators) :
    NestingForest analyses (resolve options root locators analyses).edges where
  oneContainer := length_nestingInto_le_one ids
  oneLevel := by
    intro edge member nesting
    obtain ⟨file, fileMem, inner, innerMem, nested⟩ :=
      exists_nestingEdge?_of_mem_edges member nesting
    obtain ⟨outer, outerMem, rfl, level⟩ := exists_outer_of_nestingEdge? nested
    exact ⟨file, fileMem, outer, outerMem, inner, innerMem, rfl, rfl, level⟩
  noReturn := by
    intro id chain
    obtain ⟨outer, outerMem, inner, innerMem, outerId, innerId, higher⟩ :=
      depth_lt_of_nests ids chain
    obtain rfl := List.inj_on_of_nodup_map ids outerMem innerMem (outerId.trans innerId.symm)
    omega

end Distinct

/-- A file in which names, lines and levels are of little help: a class around a class of its own
name and a method of both, on overlapping lines, and a method that stands away from its type. -/
def tangledFile : FileAnalysis :=
  { filePath := "t.go"
    language := "go"
    scopes :=
      [{ id := "outer", name := "Tree", kind := .classLike, filePath := "t.go", startLine := 1,
         endLine := 9 },
       { id := "inner", name := "Tree", kind := .classLike, filePath := "t.go", startLine := 2,
         endLine := 12, parent := some "Tree", depth := 1 },
       { id := "leaf", name := "Tree", kind := .method, filePath := "t.go", startLine := 2,
         endLine := 5, parent := some "Tree", depth := 2 },
       { id := "away", name := "walk", kind := .method, filePath := "t.go", startLine := 20,
         endLine := 25, parent := some "Tree", depth := 1 }] }

/-- Its edges of nesting are three, and they form a forest. -/
theorem tangled_file_nests_as_forest :
    let graph := resolve {} (Path.ofString "/p") (fun _ => none) [tangledFile]
    (([tangledFile].flatMap (·.scopes)).map (·.id)).Nodup ∧
      (graph.forward.map fun edge => (edge.source.id, edge.target.id)) =
        [("outer", "inner"), ("inner", "leaf"), ("outer", "away")] ∧
      NestingForest [tangledFile] graph.edges := by
  have ids : (([tangledFile].flatMap (·.scopes)).map (·.id)).Nodup := by decide +kernel
  exact ⟨ids, by decide +kernel,
    nesting_edges_form_forest ids {} (Path.ofString "/p") (fun _ => none)⟩

end ScopeAtlas.Graph
