import ScopeAtlas.Data.Key
import ScopeAtlas.Data.Yaml.Node

/-!
# YAML

The value of a document.  Tables may merge others: their own entries win over merged
ones, and of several merged tables the first wins.  Faults of single scalars are
reported only when the document as a whole is well formed, the least nested one first.
-/

namespace ScopeAtlas.Data.Yaml

/-! ## Merging tables -/

/-- The kind of a node. -/
def Node.kind : Node → Kind
  | .scalar kind _ => kind
  | .list kind _ => kind
  | .table kind _ => kind
  | .around asTable => if asTable then .table else .list

/-- The node as a text. -/
def Node.asText : Node → Node
  | .scalar _ points => .scalar .text points
  | node => node

mutual
/-- The entries of a table with those of merged tables in front; nothing when something else than
tables is merged. -/
def mergedEntries (entries : List (Node × Node)) : Option (List (Node × Node)) :=
  (splitMerged entries).map fun parts => parts.1 ++ parts.2

/-- The entries that are merged into a table, and its own ones. -/
def splitMerged : List (Node × Node) → Option (List (Node × Node) × List (Node × Node))
  | [] => some ([], [])
  | (key, value) :: rest => do
      if key.kind == .merge then
        let merged ← mergeSource value
        let (others, own) ← splitMerged rest
        return (merged ++ others, own)
      else
        let (others, own) ← splitMerged rest
        return (others, (if key.kind == .default then key.asText else key, value) :: own)

/-- The entries of what is merged: a table, or a list of tables. -/
def mergeSource : Node → Option (List (Node × Node))
  | .table _ entries => (splitMerged entries).map fun parts => parts.1 ++ parts.2
  | .list _ items => (mergeItems items).map fun tables => tables.reverse.flatten
  | .around _ => some []
  | .scalar _ _ => none

/-- The entries of each table of a list. -/
def mergeItems : List Node → Option (List (List (Node × Node)))
  | [] => some []
  | .table _ entries :: rest => do
      let (others, own) ← splitMerged entries
      return (others ++ own) :: (← mergeItems rest)
  | .around true :: rest => do return [] :: (← mergeItems rest)
  | _ :: _ => none
end

/-! ## Values -/

/-- A value, and the least nested fault on the way to it with its depth. -/
structure Reading (α : Type) where
  value : α
  fault : Option (Nat × ReadFault) := none

/-- Of two faults the less nested one counts, or else the earlier one. -/
def earlierFault (first second : Option (Nat × ReadFault)) : Option (Nat × ReadFault) :=
  match first, second with
  | some a, some b => if b.1 < a.1 then some b else some a
  | some a, none => some a
  | none, fault => fault

namespace Reading

/-- A fault at a depth. -/
def refuse (depth : Nat) (fault : ReadFault) : Reading Value :=
  { value := .null, fault := some (depth, fault) }

/-- What was read at a depth. -/
def ofExcept (depth : Nat) : Except ReadFault Value → Reading Value
  | .ok value => { value := value }
  | .error fault => refuse depth fault

def map {α β : Type} (change : α → β) (reading : Reading α) : Reading β :=
  { value := change reading.value, fault := reading.fault }

/-- Two readings after each other. -/
def both {α β γ : Type} (join : α → β → γ) (first : Reading α) (second : Reading β) : Reading γ :=
  { value := join first.value second.value, fault := earlierFault first.fault second.fault }

end Reading

/-- Reads the items of a list. -/
def readAll (read : Node → Reading Value) : List Node → Reading (List Value)
  | [] => { value := [] }
  | item :: rest => .both (· :: ·) (read item) (readAll read rest)

/-- Reads a key, which must be of the kind of a scalar. -/
def readKeyAt (depth : Nat) (read : Node → Reading Value) (key : Node) : Reading Value :=
  if key.kind.isCollection then .refuse depth .malformed else read key

/-- Reads the entries of a table in front of which others were read. -/
def readTable (depth : Nat) (read : Node → Reading Value) (seen : List (Value × Value)) :
    List (Node × Node) → Reading (List (Value × Value))
  | [] => { value := seen }
  | (key, value) :: rest =>
      let keyRead := readKeyAt depth read key
      let valueRead := read value
      let later :=
        readTable depth read (Value.putKeyed keyRead.value valueRead.value seen) rest
      { value := later.value
        fault := earlierFault (earlierFault keyRead.fault valueRead.fault) later.fault }

/-- Reads the items of a list of pairs, each a table of one entry. -/
def readPairs (depth : Nat) (read : Node → Reading Value) : List Node → Reading (List Value)
  | [] => { value := [] }
  | .table _ [(key, value)] :: rest =>
      .both (· :: ·) (.both .pair (read key) (read value)) (readPairs depth read rest)
  | _ :: _ => { value := [], fault := some (depth, .malformed) }

/-- The scalar that stands for a table: the one under the default key. -/
def defaultNode? : (fuel : Nat) → Node → Option (List Nat)
  | 0, _ => none
  | _ + 1, .scalar _ points => some points
  | fuel + 1, .table _ entries =>
      ((entries.find? fun entry => entry.1.kind == .default).map Prod.snd).bind (defaultNode? fuel)
  | _ + 1, _ => none

/-- The value of a node at a depth.  `fuel` bounds the nesting. -/
def valueOf : (fuel depth : Nat) → Node → Reading Value
  | 0, depth, _ => .refuse depth .malformed
  | fuel + 1, depth, node =>
      let inner := depth + 1
      let read := valueOf fuel inner
      match node with
      | .around asTable => { value := .around asTable }
      | .scalar kind points =>
          if kind.isCollection then .refuse inner .malformed else .ofExcept depth (kind.read points)
      | .list kind items =>
          match kind with
          | .list => (readAll read items).map .list
          | .pairs => (readPairs inner read items).map .list
          | .table | .set => .refuse inner .malformed
          | _ => .refuse depth .malformed
      | .table kind entries =>
          let merged := mergedEntries entries
          match kind, merged with
          | .table, some entries => (readTable inner read [] entries).map .ofKeyed
          | .set, some entries =>
              (readTable inner read [] entries).map fun entries =>
                .unordered (entries.map Prod.fst)
          | .table, none | .set, none => .refuse inner .malformed
          | .list, _ | .pairs, _ => .refuse inner .malformed
          | kind, _ =>
              match defaultNode? (fuel + 1) node with
              | some points =>
                  if kind == .moment then .refuse depth .momentNotScalar
                  else .ofExcept depth (kind.read points)
              | none => .refuse depth .malformed

/-- Reads a document; an empty one is null. -/
def read (text : String) : Except ReadFault Value := do
  let (tokens, fault) := tokens text
  match ← readDocument tokens fault with
  | none => return .null
  | some node =>
      let reading := valueOf (tokens.length + 2) 0 node
      match reading.fault with
      | some (_, fault) => throw fault
      | none => return reading.value

end ScopeAtlas.Data.Yaml
