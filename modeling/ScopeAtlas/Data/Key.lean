import ScopeAtlas.Data.Value

/-!
# Keys and their order

A scalar of any kind may be the key of a table.  Two keys are the same when they are
equal scalars, where a flag counts as one or zero, numbers are compared by their value
and instants of known distance from universal time by the instant.  Texts can be put in
order, and so can numbers, but not both together.
-/

namespace ScopeAtlas.Data

/-- The exact size of a number. -/
inductive Measure where
  | finite (numerator : Int) (denominator : Nat)
  | infinite (negative : Bool)
  | notANumber
deriving Repr, DecidableEq

namespace Measure

/-- The sizes are equal.  What is no number is equal to itself. -/
def same : Measure → Measure → Bool
  | .finite a b, .finite c d => a * d == c * b
  | .infinite a, .infinite b => a == b
  | .notANumber, .notANumber => true
  | _, _ => false

/-- The first size is at most the second. -/
def atMost : Measure → Measure → Bool
  | .finite a b, .finite c d => decide (a * d ≤ c * b)
  | .infinite negative, _ => negative
  | _, .infinite negative => !negative
  | _, _ => true

/-- The size of a whole number. -/
def ofInt (number : Int) : Measure := .finite number 1

/-- The size of a number in double precision. -/
def ofReal (number : RealNumber) : Measure :=
  let sized := fun (negative : Bool) =>
    if number.magnitude.isInf then Measure.infinite negative
    else
      let exact := Decimal.fraction number.magnitude
      .finite (if negative then -(exact.1 : Int) else exact.1) exact.2
  match number with
  | .finite negative _ _ => sized negative
  | .infinite negative => sized negative
  | .notANumber => .notANumber

end Measure

namespace Value

/-- The size of a number or a flag. -/
def measure? : Value → Option Measure
  | .bool flag => some (.ofInt (if flag then 1 else 0))
  | .int number => some (.ofInt number)
  | .real number => some (.ofReal number)
  | _ => none

/-- The value can be a key. -/
def isScalar : Value → Bool
  | .null | .bool _ | .int _ | .real _ | .text _ | .moment _ | .bytes _ | .halved _ => true
  | .list _ | .table _ | .pair _ _ | .unordered _ | .keyed _ | .around _ => false

/-- The two scalars are the same key. -/
def sameKey (first second : Value) : Bool :=
  match first, second with
  | .null, .null => true
  | .text a, .text b => a == b
  | .moment a, .moment b => a.same b
  | .bytes a, .bytes b => a == b
  | .halved a, .halved b => a == b
  | _, _ =>
      match first.measure?, second.measure? with
      | some a, some b => a.same b
      | _, _ => false

/-- Sets a key of a list of entries: a key that is there keeps its place and its spelling. -/
def putKeyed (key value : Value) : List (Value × Value) → List (Value × Value)
  | [] => [(key, value)]
  | entry :: rest =>
      if entry.1.sameKey key then (entry.1, value) :: rest else entry :: putKeyed key value rest

/-- The value under a key. -/
def lookupKeyed (key : Value) (entries : List (Value × Value)) : Option Value :=
  (entries.find? fun entry => entry.1.sameKey key).map Prod.snd

/-- The table of entries with any keys. -/
def ofKeyed (entries : List (Value × Value)) : Value :=
  match entries.mapM fun entry => entry.1.text?.map fun key => (key, entry.2) with
  | some entries => .table entries
  | none => .keyed entries

/-- The entries of a table with the keys as values. -/
def keyedEntries (entries : List (String × Value)) : List (Value × Value) :=
  entries.map fun entry => (.text entry.1, entry.2)

/-- The distinct members of a list, in the order of their first occurrence. -/
def distinct (items : List Value) : List Value :=
  items.foldl (fun seen item => if seen.any (·.sameKey item) then seen else seen ++ [item]) []

/-- The distinct members of a list in ascending order, if they can be put in order: texts, or
numbers, or a single scalar. -/
def sortedSet? (items : List Value) : Option (List Value) :=
  let members := distinct items
  match members.mapM Value.text?, members.mapM Value.measure? with
  | some texts, _ => some ((texts.mergeSort fun a b => decide (a ≤ b)).map .text)
  | none, some sizes =>
      some (((sizes.zip members).mergeSort fun a b => a.1.atMost b.1).map Prod.snd)
  | none, none => if members.length ≤ 1 then some members else none

end Value

end ScopeAtlas.Data
