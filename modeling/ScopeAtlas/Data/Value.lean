import ScopeAtlas.Data.Decimal
import ScopeAtlas.Data.Moment

/-!
# Structured data

The common form of manifests, settings files and reports: scalars, lists and
tables.  The entries of a table keep the order in which their keys were first
written, and a key occurs once.
-/

namespace ScopeAtlas.Data

/-- A scalar, a list or a table.  Most values are made of null, flags, numbers, texts, lists, and
tables with texts as keys; the others can be written in few formats only. -/
inductive Value where
  | null
  | bool (flag : Bool)
  | int (number : Int)
  | real (number : RealNumber)
  | text (content : String)
  | list (items : List Value)
  | table (entries : List (String × Value))
  | moment (moment : Moment)
  | bytes (content : List UInt8)
  /-- The code points of what is no text because it holds half of a surrogate pair. -/
  | halved (points : List Nat)
  | pair (first second : Value)
  /-- A collection without order, each item once. -/
  | unordered (items : List Value)
  /-- A table of which some key is no text. -/
  | keyed (entries : List (Value × Value))
  /-- A list, or a table, that lies around this value. -/
  | around (asTable : Bool)
deriving Repr, Inhabited

/-- Sets a key of a list of entries: a key that is there keeps its place, a new one goes last. -/
def putEntry {α : Type} (key : String) (value : α) : List (String × α) → List (String × α)
  | [] => [(key, value)]
  | entry :: rest =>
      if entry.1 == key then (key, value) :: rest else entry :: putEntry key value rest

/-- Adds an entry unless its key is there. -/
def putNewEntry {α : Type} (key : String) (value : α) (entries : List (String × α)) :
    List (String × α) :=
  if (entries.lookup key).isSome then entries else entries ++ [(key, value)]

/-- The distinct members of a list, in the order of their first occurrence. -/
def distinct (items : List String) : List String :=
  items.foldl (fun seen item => if seen.contains item then seen else seen ++ [item]) []

/-- The distinct members of a list, in ascending order. -/
def sortedSet (items : List String) : List String :=
  (distinct items).mergeSort fun a b => decide (a ≤ b)

namespace Value

/-- The entry of a table. -/
def get? (value : Value) (key : String) : Option Value :=
  match value with
  | .table entries => entries.lookup key
  | _ => none

def text? : Value → Option String
  | .text content => some content
  | _ => none

def list? : Value → Option (List Value)
  | .list items => some items
  | _ => none

def table? : Value → Option (List (String × Value))
  | .table entries => some entries
  | _ => none

/-- A text, or nothing. -/
def ofText? : Option String → Value
  | some content => .text content
  | none => .null

/-- A list of texts. -/
def ofTexts (items : List String) : Value := .list (items.map .text)

/-- A natural number. -/
def ofNat (number : Nat) : Value := .int number

/-- Zero, the empty text, the empty list and the empty table are the empty values, as are null and
false. -/
def isEmpty : Value → Bool
  | .null => true
  | .bool flag => !flag
  | .int number => number == 0
  | .real number => number.isZero
  | .text content => content.isEmpty
  | .bytes content => content.isEmpty
  | .halved points => points.isEmpty
  | .list items => items.isEmpty
  | .table entries => entries.isEmpty
  | .unordered items => items.isEmpty
  | .keyed entries => entries.isEmpty
  | .moment _ | .pair _ _ | .around _ => false

end Value

end ScopeAtlas.Data
