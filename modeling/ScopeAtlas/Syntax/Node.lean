/-!
# Syntax trees

A syntax tree is a finitely branching tree whose nodes carry the name of their
grammar symbol, the field under which they hang in their parent, and the byte
range they cover.  Nodes are numbered in the order in which they begin, parents
before children, and the number is a node's identity.

Trees are exchanged as a list of rows in that same order; `Node.ofRows` rebuilds
the tree from the number of children each row announces.
-/

namespace ScopeAtlas.Syntax

/-- What a node says about itself, without its children. -/
structure NodeInfo where
  /-- Position in the list of all nodes of the tree. -/
  index : Nat
  /-- Grammar symbol; for an anonymous token, its text. -/
  kind : String
  /-- Field of the parent under which the node hangs. -/
  field : Option String
  isNamed : Bool
  /-- Inserted by error recovery, without text of its own. -/
  isMissing : Bool
  startByte : Nat
  endByte : Nat
deriving Repr, DecidableEq, Inhabited

/-- A node with its children in source order. -/
inductive Node where
  | mk (info : NodeInfo) (children : List Node)
deriving Repr, Inhabited

namespace Node

def info : Node → NodeInfo
  | .mk info _ => info

def children : Node → List Node
  | .mk _ children => children

abbrev kind (node : Node) : String := node.info.kind
abbrev field (node : Node) : Option String := node.info.field
abbrev isNamed (node : Node) : Bool := node.info.isNamed
abbrev isMissing (node : Node) : Bool := node.info.isMissing
abbrev startByte (node : Node) : Nat := node.info.startByte
abbrev endByte (node : Node) : Nat := node.info.endByte

mutual
/-- Number of nodes of a tree. -/
def size : Node → Nat
  | .mk _ children => 1 + forestSize children

/-- Number of nodes of a list of trees. -/
def forestSize : List Node → Nat
  | [] => 0
  | node :: rest => node.size + forestSize rest
end

/-- One row of an exchanged tree: a node and how many of the following subtrees are its
children. -/
structure Row where
  kind : String
  field : Option String
  isNamed : Bool
  isMissing : Bool
  startByte : Nat
  endByte : Nat
  childCount : Nat
deriving Repr, DecidableEq

/-- The tree whose rows are listed parents first.  Rows are taken from the last to the first, and
each takes its children from the subtrees already built behind it. -/
def ofRows (rows : List Row) : Option Node :=
  let forest := rows.zipIdx.foldr (fun (row, index) built =>
    let info : NodeInfo :=
      { index := index, kind := row.kind, field := row.field, isNamed := row.isNamed,
        isMissing := row.isMissing, startByte := row.startByte, endByte := row.endByte }
    Node.mk info (built.take row.childCount) :: built.drop row.childCount) []
  forest.head?

@[simp] theorem forestSize_nil : forestSize [] = 0 := by simp [forestSize]

@[simp] theorem forestSize_cons (node : Node) (rest : List Node) :
    forestSize (node :: rest) = node.size + forestSize rest := by simp [forestSize]

theorem size_eq (node : Node) : node.size = 1 + forestSize node.children := by
  cases node; simp [size, children]

end Node

end ScopeAtlas.Syntax
