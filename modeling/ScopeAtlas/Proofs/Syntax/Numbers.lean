import ScopeAtlas.Proofs.Syntax.Places

/-!
# Numbers of nodes

A tree that is read from its rows has every number once: the nodes are numbered in the order of the
rows.  So among the children of any node, a place is known by its number.
-/

namespace ScopeAtlas.Syntax

namespace Node

mutual

/-- The numbers of a node and of all nodes below it, parents first. -/
def indices : Node → List Nat
  | .mk info children => info.index :: indicesOfAll children

def indicesOfAll : List Node → List Nat
  | [] => []
  | node :: rest => indices node ++ indicesOfAll rest

end

theorem indices_eq_cons (node : Node) :
    node.indices = node.info.index :: indicesOfAll node.children := by
  cases node
  rfl

theorem indicesOfAll_append (first second : List Node) :
    indicesOfAll (first ++ second) = indicesOfAll first ++ indicesOfAll second := by
  induction first with
  | nil => rfl
  | cons node rest ih => simp only [List.cons_append, indicesOfAll, ih, List.append_assoc]

theorem sublist_indicesOfAll (nodes : List Node) :
    (nodes.map (·.info.index)).Sublist (indicesOfAll nodes) := by
  induction nodes with
  | nil => exact List.Sublist.slnil
  | cons node rest ih =>
      rw [List.map_cons, indicesOfAll, indices_eq_cons, List.cons_append]
      exact (ih.trans (List.sublist_append_right _ _)).cons_cons _

/-- One row more takes its children from the trees behind it, and its number comes first. -/
def addRow (row : Row × Nat) (built : List Node) : List Node :=
  let info : NodeInfo :=
    { index := row.2, kind := row.1.kind, field := row.1.field, isNamed := row.1.isNamed,
      isMissing := row.1.isMissing, startByte := row.1.startByte, endByte := row.1.endByte }
  Node.mk info (built.take row.1.childCount) :: built.drop row.1.childCount

theorem ofRows_eq (rows : List Row) : ofRows rows = (rows.zipIdx.foldr addRow []).head? := rfl

/-- The trees that are built from rows have the numbers of the rows, in their order. -/
theorem indicesOfAll_foldr_addRow (rows : List Row) (first : Nat) :
    indicesOfAll ((rows.zipIdx first).foldr addRow []) = List.range' first rows.length := by
  induction rows generalizing first with
  | nil => rfl
  | cons row rest ih =>
      rw [List.zipIdx_cons, List.foldr_cons, addRow, indicesOfAll, indices, List.cons_append,
        ← indicesOfAll_append, List.take_append_drop, ih, List.length_cons, List.range'_succ]

/-- The nodes of a tree that is read from its rows have different numbers. -/
theorem nodup_indices_of_ofRows {rows : List Row} {tree : Node} (read : ofRows rows = some tree) :
    tree.indices.Nodup := by
  rw [ofRows_eq] at read
  obtain ⟨rest, built⟩ := List.head?_eq_some_iff.mp read
  have numbers := indicesOfAll_foldr_addRow rows 0
  rw [built, indicesOfAll] at numbers
  have distinct : (List.range' 0 rows.length).Nodup := List.nodup_range'
  rw [← numbers] at distinct
  exact (List.sublist_append_left _ _).nodup distinct

end Node

namespace Cursor

theorem sublist_indices_of_mem_children {parent child : Cursor} (member : child ∈ parent.children) :
    child.node.indices.Sublist parent.node.indices := by
  obtain ⟨passed, node, rest, split, rfl⟩ := mem_children_iff.mp member
  rw [Node.indices_eq_cons parent.node, split, Node.indicesOfAll_append, Node.indicesOfAll]
  exact ((List.sublist_append_left _ _).trans (List.sublist_append_right _ _)).cons _

/-- Where all nodes below a place have different numbers, so have those below any place within. -/
theorem Within.nodup_indices {outer inner : Cursor} (within : outer.Within inner)
    (distinct : outer.node.indices.Nodup) : inner.node.indices.Nodup := by
  induction within with
  | refl => exact distinct
  | tail _ member ih => exact (sublist_indices_of_mem_children member).nodup ih

theorem map_node_siblings (parent : Cursor) (before nodes : List Node) :
    (siblings parent before nodes).map Cursor.node = nodes := by
  induction nodes generalizing before with
  | nil => rfl
  | cons node rest ih => rw [siblings, List.map_cons, ih, Cursor.node]

theorem map_node_children (place : Cursor) : place.children.map Cursor.node = place.node.children :=
  map_node_siblings place [] place.node.children

/-- A child is the only one at its place. -/
theorem filter_same_children {parent child : Cursor} (distinct : parent.node.indices.Nodup)
    (member : child ∈ parent.children) :
    parent.children.filter (·.same child) = [child] := by
  have numbers : (parent.children.map (·.node.info.index)).Nodup := by
    have forms : parent.children.map (·.node.info.index) =
        parent.node.children.map (·.info.index) := by
      rw [← map_node_children, List.map_map]
      rfl
    rw [forms]
    rw [Node.indices_eq_cons] at distinct
    exact (Node.sublist_indicesOfAll _).nodup (List.nodup_cons.mp distinct).2
  obtain ⟨before, after, split⟩ := List.append_of_mem member
  rw [split, List.map_append, List.map_cons, List.nodup_append, List.nodup_cons] at numbers
  obtain ⟨_, ⟨notAfter, _⟩, apart⟩ := numbers
  have none_before : before.filter (·.same child) = [] := by
    rw [List.filter_eq_nil_iff]
    intro other otherMem
    simpa [same] using apart _ (List.mem_map_of_mem otherMem) _ List.mem_cons_self
  have none_after : after.filter (·.same child) = [] := by
    rw [List.filter_eq_nil_iff]
    intro other otherMem isSame
    exact notAfter (List.mem_map.mpr ⟨other, otherMem, eq_of_beq isSame⟩)
  rw [split, List.filter_append, none_before, List.filter_cons_of_pos (by simp [same]), none_after,
    List.nil_append]

end Cursor

end ScopeAtlas.Syntax
