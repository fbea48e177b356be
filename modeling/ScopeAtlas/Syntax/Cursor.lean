import ScopeAtlas.Syntax.Node

/-!
# Places in a syntax tree

A cursor is a node together with the way to it from the root.  It gives access to
the parent and to earlier siblings, which the node alone does not know.  Two
cursors into one tree are at the same place exactly when their nodes have the
same index.

`preorder` lists all places below a cursor by structural recursion.  `explore`
visits them with a worklist and lets the visitor choose the children to enter;
the number of nodes on the worklist decreases with each step.
-/

namespace ScopeAtlas.Syntax

/-- A node with its parent's cursor and its earlier siblings, nearest first. -/
inductive Cursor where
  | root (node : Node)
  | child (parent : Cursor) (before : List Node) (node : Node)
deriving Repr, Inhabited

namespace Cursor

def node : Cursor → Node
  | .root node => node
  | .child _ _ node => node

def parent? : Cursor → Option Cursor
  | .root _ => none
  | .child parent _ _ => some parent

abbrev kind (cursor : Cursor) : String := cursor.node.kind
abbrev field (cursor : Cursor) : Option String := cursor.node.field
abbrev isNamed (cursor : Cursor) : Bool := cursor.node.isNamed
abbrev isMissing (cursor : Cursor) : Bool := cursor.node.isMissing
abbrev startByte (cursor : Cursor) : Nat := cursor.node.startByte
abbrev endByte (cursor : Cursor) : Nat := cursor.node.endByte

/-- Number of proper ancestors. -/
def level : Cursor → Nat
  | .root _ => 0
  | .child parent _ _ => parent.level + 1

/-- The same place of the tree. -/
def same (a b : Cursor) : Bool := a.node.info.index == b.node.info.index

/-- Cursors at a list of siblings, of which `before` have been passed. -/
def siblings (parent : Cursor) (before : List Node) : List Node → List Cursor
  | [] => []
  | node :: rest => .child parent before node :: siblings parent (node :: before) rest

/-- Cursors at the children. -/
def children (cursor : Cursor) : List Cursor := siblings cursor [] cursor.node.children

/-- Cursors at the children that are named nodes. -/
def namedChildren (cursor : Cursor) : List Cursor := cursor.children.filter (·.isNamed)

/-- Cursors at the children in a field. -/
def childrenByField (cursor : Cursor) (name : String) : List Cursor :=
  cursor.children.filter fun child => child.field == some name

/-- The first child in a field. -/
def childByField? (cursor : Cursor) (name : String) : Option Cursor :=
  cursor.children.find? fun child => child.field == some name

/-- The first child of a kind. -/
def childOfKind? (cursor : Cursor) (kind : String) : Option Cursor :=
  cursor.children.find? (·.kind == kind)

/-- The first named child of a kind. -/
def namedChildOfKind? (cursor : Cursor) (kind : String) : Option Cursor :=
  cursor.namedChildren.find? (·.kind == kind)

/-- Some child is of the kind. -/
def hasChildOfKind (cursor : Cursor) (kind : String) : Bool :=
  cursor.children.any (·.kind == kind)

/-- The kind of the parent, absent at the root. -/
def parentKind? (cursor : Cursor) : Option String := cursor.parent?.map (·.kind)

/-- Earlier siblings, nearest first, below a parent. -/
def earlier (parent : Cursor) : List Node → List Cursor
  | [] => []
  | node :: rest => .child parent rest node :: earlier parent rest

/-- Earlier siblings, nearest first. -/
def earlierSiblings : Cursor → List Cursor
  | .root _ => []
  | .child parent before _ => earlier parent before

/-- Earlier named siblings, nearest first. -/
def earlierNamedSiblings (cursor : Cursor) : List Cursor :=
  cursor.earlierSiblings.filter (·.isNamed)

/-- The chain of proper ancestors, nearest first. -/
def ancestors : Cursor → List Cursor
  | .root _ => []
  | .child parent _ _ => parent :: parent.ancestors

mutual
/-- A node, placed by `place`, and all places below it. -/
def preorderAt (place : Node → Cursor) : Node → List Cursor
  | .mk info children =>
      let here := place (.mk info children)
      here :: preorderAll here [] children

/-- All places at and below a list of siblings. -/
def preorderAll (parent : Cursor) (before : List Node) : List Node → List Cursor
  | [] => []
  | node :: rest =>
      preorderAt (.child parent before) node ++ preorderAll parent (node :: before) rest
end

/-- All places at and below a cursor, parents before children, in source order. -/
def preorder : Cursor → List Cursor
  | .root node => preorderAt .root node
  | .child parent before node => preorderAt (.child parent before) node

/-- All places at and below a cursor whose kind is listed. -/
def preorderOfKind (cursor : Cursor) (kinds : List String) : List Cursor :=
  cursor.preorder.filter fun place => kinds.contains place.kind

/-- Number of nodes at and below a list of cursors. -/
def workSize : List Cursor → Nat
  | [] => 0
  | cursor :: rest => cursor.node.size + workSize rest

@[simp] theorem workSize_nil : workSize [] = 0 := rfl

@[simp] theorem workSize_cons (cursor : Cursor) (rest : List Cursor) :
    workSize (cursor :: rest) = cursor.node.size + workSize rest := rfl

@[simp] theorem workSize_append (first second : List Cursor) :
    workSize (first ++ second) = workSize first + workSize second := by
  induction first with
  | nil => simp
  | cons cursor rest ih => simp [ih, Nat.add_assoc]

theorem workSize_filter_le (keep : Cursor → Bool) (cursors : List Cursor) :
    workSize (cursors.filter keep) ≤ workSize cursors := by
  induction cursors with
  | nil => simp
  | cons cursor rest ih =>
      by_cases kept : keep cursor
      · simpa [kept] using ih
      · simp only [List.filter_cons, kept, Bool.false_eq_true, if_false, workSize_cons]
        omega

theorem workSize_siblings (parent : Cursor) (before nodes : List Node) :
    workSize (siblings parent before nodes) = Node.forestSize nodes := by
  induction nodes generalizing before with
  | nil => simp [siblings]
  | cons node rest ih => simp [siblings, ih, Cursor.node]

theorem workSize_children_lt (cursor : Cursor) :
    workSize cursor.children < cursor.node.size := by
  rw [children, workSize_siblings, Node.size_eq]
  omega

theorem size_le_of_mem_siblings {parent child : Cursor} {before nodes : List Node}
    (member : child ∈ siblings parent before nodes) :
    child.node.size ≤ Node.forestSize nodes := by
  induction nodes generalizing before with
  | nil => simp [siblings] at member
  | cons node rest ih =>
      simp only [siblings, List.mem_cons] at member
      rw [Node.forestSize_cons]
      rcases member with rfl | member
      · simp [Cursor.node]
      · have := ih member
        omega

/-- A child is smaller than its parent. -/
theorem size_lt_of_mem_children {parent child : Cursor} (member : child ∈ parent.children) :
    child.node.size < parent.node.size := by
  have bound := size_le_of_mem_siblings member
  rw [Node.size_eq parent.node]
  omega

theorem mem_children_of_childByField? {parent child : Cursor} {field : String}
    (found : parent.childByField? field = some child) : child ∈ parent.children :=
  List.mem_of_find?_eq_some found

theorem mem_children_of_mem_namedChildren {parent child : Cursor}
    (member : child ∈ parent.namedChildren) : child ∈ parent.children :=
  (List.mem_filter.mp member).1

/-- Visits the cursors of a worklist.  The visitor returns what it found and which children to
put in front of the worklist, in source order. -/
def explore {α : Type} (visit : Cursor → List α × (Cursor → Bool)) : List Cursor → List α
  | [] => []
  | cursor :: rest =>
      let found := visit cursor
      found.1 ++ explore visit (cursor.children.filter found.2 ++ rest)
termination_by work => workSize work
decreasing_by
  have kept := workSize_filter_le (visit cursor).2 cursor.children
  have fewer := workSize_children_lt cursor
  simp only [workSize_append, workSize_cons]
  omega

end Cursor

end ScopeAtlas.Syntax
