/-!
# The text of a number

A number with a fraction is kept in double precision.  Its text has the fewest
digits that read back as the same number, nearest to it among those, and is
written positionally from one ten-thousandth up to ten to the sixteenth.
-/

namespace ScopeAtlas.Data

/-- A number written with a fraction or an exponent. -/
inductive RealNumber where
  /-- The number `digits * 10 ^ exponent`, with its sign. -/
  | finite (negative : Bool) (digits : Nat) (exponent : Int)
  | infinite (negative : Bool)
  | notANumber
deriving Repr, DecidableEq, Inhabited

namespace Decimal

/-- The number of decimal digits of a positive number. -/
def digitCount (n : Nat) : Nat := (Nat.toDigits 10 n).length

/-- A decimal in double precision.  Exponents far outside the range of double precision are decided
without computing the power. -/
def toFloat (digits : Nat) (exponent : Int) : Float :=
  let magnitude := exponent + digitCount digits
  if digits == 0 || magnitude < -400 then 0.0
  else if 400 < magnitude then 1.0 / 0.0
  else Float.ofScientific digits (decide (exponent < 0)) exponent.natAbs

/-- The exact value of a finite, non-negative number: a fraction of natural numbers. -/
def fraction (value : Float) : Nat × Nat :=
  let bits := value.toBits.toNat
  let exponent : Nat := bits / Nat.pow 2 52 % Nat.pow 2 11
  let rest : Nat := bits % Nat.pow 2 52
  let scaled : Nat × Int :=
    if exponent == 0 then (rest, -1074) else (Nat.pow 2 52 + rest, (exponent : Int) - 1075)
  (scaled.1 * Nat.pow 2 scaled.2.toNat, Nat.pow 2 (-scaled.2).toNat)

/-- The least power of ten above a positive fraction, at or below the given one. -/
def leastPower (numerator denominator : Nat) : (fuel : Nat) → Int → Int
  | 0, power => power
  | fuel + 1, power =>
      let lower := power - 1
      if numerator * Nat.pow 10 (-lower).toNat < denominator * Nat.pow 10 lower.toNat then
        leastPower numerator denominator fuel lower
      else power

/-- The two decimals of `count` digits around a fraction below `10 ^ power`, the nearer one
first. -/
def neighbours (numerator denominator : Nat) (power : Int) (count : Nat) : (Nat × Int) × (Nat × Int) :=
  let grid := power - count
  let top := numerator * Nat.pow 10 (-grid).toNat
  let bottom := denominator * Nat.pow 10 grid.toNat
  let below := top / bottom
  let doubled := 2 * (top % bottom)
  if doubled < bottom || (doubled == bottom && below % 2 == 0) then
    ((below, grid), (below + 1, grid))
  else ((below + 1, grid), (below, grid))

/-- The decimal reads back as the number. -/
def readsBack (value : Float) (decimal : Nat × Int) : Bool :=
  (toFloat decimal.1 decimal.2).toBits == value.toBits

/-- The shortest decimal that reads back, trying `count` digits and more.  Next to a power of two
only the farther neighbour may read back. -/
def search (value : Float) (numerator denominator : Nat) (power : Int) :
    (fuel count : Nat) → Nat × Int
  | 0, count => (neighbours numerator denominator power count).1
  | fuel + 1, count =>
      let around := neighbours numerator denominator power count
      if readsBack value around.1 then around.1
      else if readsBack value around.2 then around.2
      else search value numerator denominator power fuel (count + 1)

/-- Moves trailing zeros of the digits into the exponent. -/
def dropZeros : (fuel : Nat) → Nat × Int → Nat × Int
  | 0, decimal => decimal
  | fuel + 1, decimal =>
      if decimal.1 != 0 && decimal.1 % 10 == 0 then dropZeros fuel (decimal.1 / 10, decimal.2 + 1)
      else decimal

/-- The shortest decimal of a finite, positive number. -/
def shortest (value : Float) : Nat × Int :=
  let exact := fraction value
  let power := leastPower exact.1 exact.2 800 400
  dropZeros 20 (search value exact.1 exact.2 power 16 1)

/-- Digits with a point, and an exponent when the number is very large or very small. -/
def write (decimal : Nat × Int) : String :=
  let digits := Nat.toDigits 10 decimal.1
  let point : Int := decimal.2 + digits.length
  let zeros := fun (n : Int) => List.replicate n.toNat '0'
  if -4 < point && point ≤ 16 then
    if point ≤ 0 then String.ofList ('0' :: '.' :: zeros (-point) ++ digits)
    else
      let whole := digits.take point.toNat ++ zeros (point - digits.length)
      let rest := digits.drop point.toNat
      String.ofList (whole ++ '.' :: (if rest.isEmpty then ['0'] else rest))
  else
    let exponent := point - 1
    let power := Nat.toDigits 10 exponent.natAbs
    let mantissa :=
      match digits with
      | first :: second :: rest => first :: '.' :: second :: rest
      | digits => digits
    String.ofList (mantissa ++ 'e' :: (if exponent < 0 then '-' else '+') ::
      (if power.length < 2 then '0' :: power else power))

/-- The sign in front of a number. -/
def signText (negative : Bool) : String := if negative then "-" else ""

/-- The text of a number. -/
def text : RealNumber → String
  | .notANumber => "nan"
  | .infinite negative => signText negative ++ "inf"
  | .finite negative digits exponent =>
      let value := toFloat digits exponent
      if value == 0.0 then signText negative ++ "0.0"
      else if value == 1.0 / 0.0 then signText negative ++ "inf"
      else signText negative ++ write (shortest value)

end Decimal

namespace RealNumber

/-- The number that a double holds. -/
def ofFloat (value : Float) : RealNumber :=
  let negative := value < 0.0 || 1.0 / value < 0.0
  if value.isNaN then .notANumber
  else if value.isInf then .infinite negative
  else if value == 0.0 then .finite negative 0 0
  else
    let decimal := Decimal.shortest value.abs
    .finite negative decimal.1 decimal.2

/-- The number in double precision, without its sign. -/
def magnitude : RealNumber → Float
  | .finite _ digits exponent => Decimal.toFloat digits exponent
  | .infinite _ => 1.0 / 0.0
  | .notANumber => 0.0 / 0.0

/-- The number is zero in double precision. -/
def isZero (number : RealNumber) : Bool := number.magnitude == 0.0

end RealNumber

end ScopeAtlas.Data
