import ScopeAtlas.Data.Value

/-!
# Reading records

A record is a table with known keys, and a key that is not known is refused.  A field
may have a default, which holds when the key is absent; a field that may be missing
is null or absent then.
-/

namespace ScopeAtlas.Data.Record

/-- A reader of values. -/
abbrev Reader (α : Type) := Value → Option α

def flag? : Reader Bool
  | .bool flag => some flag
  | _ => none

def number? : Reader Int
  | .int number => some number
  | _ => none

/-- A natural number. -/
def count? : Reader Nat
  | .int (.ofNat number) => some number
  | _ => none

/-- A kind that is given by its label. -/
def labelled? {α : Type} (ofLabel : String → α) : Reader α := fun value =>
  value.text?.map ofLabel

/-- Null, or what the reader makes of the value. -/
def nullable? {α : Type} (read : Reader α) : Reader (Option α)
  | .null => some none
  | value => (read value).map some

/-- A list of values of one kind. -/
def items? {α : Type} (read : Reader α) : Reader (List α) := fun value =>
  value.list?.bind (·.mapM read)

/-- A field that must be there. -/
def required? {α : Type} (value : Value) (key : String) (read : Reader α) : Option α :=
  (value.get? key).bind read

/-- A field with a default. -/
def withDefault? {α : Type} (value : Value) (key : String) (default : α) (read : Reader α) :
    Option α :=
  match value.get? key with
  | some content => read content
  | none => some default

/-- A field that may be missing. -/
def optional? {α : Type} (value : Value) (key : String) (read : Reader α) : Option (Option α) :=
  withDefault? value key none (nullable? read)

/-- A list field that is empty when it is absent. -/
def many? {α : Type} (value : Value) (key : String) (read : Reader α) : Option (List α) :=
  withDefault? value key [] (items? read)

/-- The value is a table without other keys than the given ones. -/
def onlyKeys? (keys : List String) (value : Value) : Option Unit :=
  value.table?.bind fun entries => if entries.all (keys.contains ·.1) then some () else none

end ScopeAtlas.Data.Record
