import ScopeAtlas.Data.Json
import ScopeAtlas.Data.Yaml.Scalar
import ScopeAtlas.Text.Blank
import ScopeAtlas.Text.Letter
import ScopeAtlas.Text.Split

/-!
# Kinds of nodes

The kind of a node is given by its tag.  The kind of a plain scalar without a tag is
read off its spelling, and what has no other spelling is a text.  A tag may ask for a
kind that the spelling does not have; the readers of kinds are therefore more tolerant
than the spellings.
-/

namespace ScopeAtlas.Data.Yaml

open ScopeAtlas.Data.Json (hexValue? isDigit numberOf)
open ScopeAtlas.Text

/-- What a node stands for. -/
inductive Kind where
  | null
  | bool
  | int
  | real
  | text
  | moment
  | bytes
  | list
  | table
  | set
  /-- A list of pairs, each written as a table of one entry. -/
  | pairs
  /-- The key under which other tables are merged. -/
  | merge
  /-- The key of the value that a table stands for. -/
  | default
  | unknown
deriving Repr, DecidableEq, Inhabited

/-- Nodes of the kind hold other nodes. -/
def Kind.isCollection : Kind → Bool
  | .list | .table | .set | .pairs => true
  | _ => false

/-- The kind that a tag names. -/
def Kind.ofTag (tag : String) : Kind :=
  let start := "tag:yaml.org,2002:"
  let known : List (String × Kind) :=
    [("null", .null), ("bool", .bool), ("int", .int), ("float", .real), ("str", .text),
      ("timestamp", .moment), ("binary", .bytes), ("seq", .list), ("map", .table), ("set", .set),
      ("omap", .pairs), ("pairs", .pairs), ("merge", .merge), ("value", .default)]
  if startsWith start tag then (known.lookup (dropChars start.length tag)).getD .unknown
  else .unknown

/-! ## Spellings -/

/-- Digits and underscores, at least one of them. -/
def isGroup (digit : Char → Bool) (text : List Char) : Bool :=
  !text.isEmpty && text.all fun c => digit c || c == '_'

/-- Digits and underscores, the first a digit. -/
def isNumeral (text : List Char) : Bool := text.head?.any isDigit && isGroup isDigit text

/-- A number without its sign. -/
def unsigned (text : List Char) : List Char :=
  match text with
  | '-' :: rest => rest
  | '+' :: rest => rest
  | text => text

/-- A part of a number in base sixty after the first. -/
def isSixtieth (part : List Char) : Bool :=
  match part with
  | [a] => isDigit a
  | [a, b] => '0' ≤ a && a ≤ '5' && isDigit b
  | _ => false

/-- Parts between colons, at least two of them. -/
def sixtieths? (text : List Char) : Option (List Char × List (List Char)) :=
  match splitChars [':'] text with
  | first :: second :: rest => some (first, second :: rest)
  | _ => none

/-- The spelling of a whole number. -/
def spellsInt (text : List Char) : Bool :=
  match unsigned text with
  | '0' :: 'b' :: rest => isGroup (fun c => c == '0' || c == '1') rest
  | '0' :: 'x' :: rest => isGroup (fun c => (hexValue? c).isSome) rest
  | ['0'] => true
  | '0' :: rest => isGroup (fun c => '0' ≤ c && c ≤ '7') rest
  | text =>
      isNumeral text ||
        match sixtieths? text with
        | some (first, later) => isNumeral first && later.all isSixtieth
        | none => false

/-- Nothing, or an exponent with its sign. -/
def isExponent (text : List Char) : Bool :=
  match text with
  | [] => true
  | mark :: sign :: digits =>
      (mark == 'e' || mark == 'E') && (sign == '-' || sign == '+') && !digits.isEmpty &&
        digits.all isDigit
  | _ => false

/-- Digits and underscores, or nothing. -/
def isTail (text : List Char) : Bool := text.all fun c => isDigit c || c == '_'

/-- A fraction and the exponent after it. -/
def isFraction (text : List Char) : Bool :=
  isExponent (text.dropWhile fun c => isDigit c || c == '_')

/-- The last part of a number in base sixty, which has a fraction. -/
def isLastSixtieth (part : List Char) : Bool :=
  match cutFirstChars ['.'] part with
  | some (whole, tail) => isSixtieth whole && isTail tail
  | none => false

/-- The spelling of a number with a fraction.  Without digits before the point it has no sign. -/
def spellsReal (text : List Char) : Bool :=
  let body := unsigned text
  let word := String.ofList body
  [".inf", ".Inf", ".INF"].contains word ||
    [".nan", ".NaN", ".NAN"].contains (String.ofList text) ||
    (match cutFirstChars ['.'] body with
      | some (whole, rest) =>
          if whole.isEmpty then body.length == text.length && rest.head?.any isDigit && isFraction rest
          else isNumeral whole && isFraction rest
      | none => false) ||
    match sixtieths? body with
    | some (first, later) =>
        isNumeral first && later.dropLast.all isSixtieth && isLastSixtieth (later.getLastD [])
    | none => false

/-! ## Moments -/

/-- Takes `least` to `most` digits. -/
def takeDigits (least most : Nat) (input : List Char) : Option (List Char × List Char) :=
  let digits := (input.takeWhile isDigit).take most
  if digits.length < least then none else some (digits, input.drop digits.length)

/-- Drops one given character. -/
def dropMark? (mark : Char) : List Char → Option (List Char)
  | c :: rest => if c == mark then some rest else none
  | [] => none

/-- A distance from universal time, in minutes, and nothing after it. -/
def zone? (input : List Char) : Option (Option Int) :=
  match input.dropWhile isSpace with
  | [] => if input.isEmpty then some none else none
  | ['Z'] => some (some 0)
  | sign :: rest =>
      if sign == '-' || sign == '+' then do
        let (hours, rest) ← takeDigits 1 2 rest
        let minutes ←
          match rest with
          | [] => some []
          | ':' :: rest => do
              let (minutes, rest) ← takeDigits 2 2 rest
              if rest.isEmpty then some minutes else none
          | _ => none
        let distance : Int := numberOf hours * 60 + numberOf minutes
        return some (if sign == '-' then -distance else distance)
      else none

/-- The microseconds that the digits of a fraction write; further digits are passed over. -/
def microseconds (digits : List Char) : Nat :=
  let kept := digits.take 6
  numberOf (kept ++ List.replicate (6 - kept.length) '0')

/-- The time of day that follows a date, with its distance from universal time. -/
def clock? (input : List Char) : Option (Clock × Option Int) := do
  let (hour, rest) ← takeDigits 1 2 input
  let (minute, rest) ← takeDigits 2 2 (← dropMark? ':' rest)
  let (second, rest) ← takeDigits 2 2 (← dropMark? ':' rest)
  let fraction : List Char × List Char :=
    match rest with
    | '.' :: rest => (rest.takeWhile isDigit, rest.dropWhile isDigit)
    | rest => ([], rest)
  let zone ← zone? fraction.2
  return ({ hour := numberOf hour, minute := numberOf minute, second := numberOf second
            microsecond := microseconds fraction.1 }, zone)

/-- A written moment, which need not exist, and whether the day is written in full. -/
def moment? (text : List Char) : Option (Moment × Bool) := do
  let (year, rest) ← takeDigits 4 4 text
  let (month, rest) ← takeDigits 1 2 (← dropMark? '-' rest)
  let (number, rest) ← takeDigits 1 2 (← dropMark? '-' rest)
  let day : Day := { year := numberOf year, month := numberOf month, day := numberOf number }
  match rest with
  | [] => return (.date day, month.length == 2 && number.length == 2)
  | c :: after =>
      let (clock, zone) ←
        if c == 'T' || c == 't' then clock? after
        else if isSpace c then clock? (after.dropWhile isSpace)
        else none
      return (.instant day clock zone, true)

/-- The spelling of a moment: a date alone is written in full. -/
def spellsMoment (text : List Char) : Bool := ((moment? text).map Prod.snd).getD false

/-- The moment exists. -/
def isReal : Moment → Bool
  | .date day => day.isValid
  | .time clock => clock.isValid
  | .instant day clock offset =>
      day.isValid && clock.isValid && offset.all fun minutes => minutes.natAbs < 1440

/-- The spellings of the flags. -/
def flagWords : List (String × Bool) :=
  [("yes", true), ("no", false), ("true", true), ("false", false), ("on", true), ("off", false)]

/-- The word in small letters, in capitals, or with a capital first letter. -/
def isCasing (word text : String) : Bool :=
  text == word || text == String.ofList (word.toList.map Char.toUpper) ||
    text == String.ofList ((word.toList.take 1).map Char.toUpper ++ word.toList.drop 1)

/-- A text without the line end after it. -/
def dropLineEnd (text : List Char) : List Char :=
  if text.getLast? == some '\n' then text.dropLast else text

/-- The kind of a spelling, which may have a line end after it; a line end alone is a text. -/
def Kind.ofSpelling (spelling : String) : Kind :=
  let chars := dropLineEnd spelling.toList
  let text := String.ofList chars
  if spelling == "\n" then .text
  else if text == "" || text == "~" || isCasing "null" text then .null
  else if flagWords.any fun word => isCasing word.1 text then .bool
  else if spellsReal chars then .real
  else if spellsInt chars then .int
  else if text == "<<" then .merge
  else if spellsMoment chars then .moment
  else if text == "=" then .default
  else .text

/-! ## Readers -/

/-- A sign in front of a number: whether it is a minus, and the rest. -/
def cutSign (text : List Char) : Bool × List Char := (text.head? == some '-', unsigned text)

/-- A whole number in a base, with white space around it; the mark of the base may stand in front. -/
def wholeNumber? (base : Nat) (marks : List Char) (text : List Char) : Option Int :=
  let signed := cutSign (trim (String.ofList text)).toList
  let digits :=
    match signed.2 with
    | '0' :: mark :: rest => if marks.contains mark then rest else signed.2
    | digits => digits
  let number := digits.foldl (fun number digit => do
    let value ← hexValue? digit
    if value < base then return (← number) * base + value else none) (some 0)
  if digits.isEmpty then none
  else number.map fun number => if signed.1 then -(number : Int) else number

/-- A whole decimal number, which must not be too long. -/
def decimalNumber? (text : List Char) : Option Int :=
  if mostDigits < (text.filter isDigit).length then none else wholeNumber? 10 [] text

/-- The number that parts in base sixty write. -/
def sexagesimal? (text : List Char) : Option Int :=
  (splitChars [':'] text).foldlM (fun number part =>
    (decimalNumber? part).map fun digit => number * 60 + digit) 0

/-- The magnitude of a whole number. -/
def readMagnitude (text : List Char) : Except ReadFault Int :=
  let given : Option Int → Except ReadFault Int
    | some number => .ok number
    | none => .error .valueRefused
  match text with
  | [] => .error .numberMissing
  | ['0'] => .ok 0
  | '0' :: 'b' :: rest => given (wholeNumber? 2 ['b', 'B'] rest)
  | '0' :: 'x' :: rest => given (wholeNumber? 16 ['x', 'X'] rest)
  | '0' :: _ => given (wholeNumber? 8 ['o', 'O'] text)
  | _ => given (if text.contains ':' then sexagesimal? text else decimalNumber? text)

/-- Reads a whole number. -/
def readInt (text : String) : Except ReadFault Value :=
  let signed := cutSign (text.toList.filter (· != '_'))
  (readMagnitude signed.2).map fun number => .int (if signed.1 then -number else number)

/-- The number with the other sign. -/
def flipSign : RealNumber → RealNumber
  | .finite negative digits exponent => .finite (!negative) digits exponent
  | .infinite negative => .infinite (!negative)
  | .notANumber => .notANumber

/-- The digits of a decimal number and its exponent, without a sign. -/
def decimal? (text : List Char) : Option RealNumber :=
  let whole := text.takeWhile isDigit
  let fraction : List Char × List Char :=
    match text.dropWhile isDigit with
    | '.' :: rest => (rest.takeWhile isDigit, rest.dropWhile isDigit)
    | rest => ([], rest)
  let exponent : Option Int :=
    match fraction.2 with
    | [] => some 0
    | 'e' :: rest =>
        let signed := cutSign rest
        if signed.2.isEmpty || !signed.2.all isDigit then none
        else
          let size : Int := numberOf signed.2
          some (if signed.1 then -size else size)
    | _ => none
  if whole.isEmpty && fraction.1.isEmpty then none
  else exponent.map fun exponent =>
    .finite false (numberOf (whole ++ fraction.1)) (exponent - fraction.1.length)

/-- A number with a fraction in small letters, with white space around it. -/
def realNumber? (text : List Char) : Option RealNumber :=
  let signed := cutSign (trim (String.ofList text)).toList
  let word := String.ofList signed.2
  let number :=
    if word == "inf" || word == "infinity" then some (.infinite false)
    else if word == "nan" then some .notANumber
    else decimal? signed.2
  if signed.1 then number.map flipSign else number

/-- The number in double precision. -/
def toDouble (number : RealNumber) : Float :=
  match number with
  | .finite true _ _ | .infinite true => -number.magnitude
  | _ => number.magnitude

/-- The number that parts in base sixty write, added up in double precision from the last part. -/
def sexagesimalReal? (text : List Char) : Option RealNumber :=
  ((splitChars [':'] text).mapM realNumber?).map fun parts =>
    let sum := parts.reverse.foldl (fun (sum, base) part =>
      (sum + toDouble part * Float.ofNat base, base * 60)) ((0.0 : Float), 1)
    .ofFloat sum.1

/-- Reads a number with a fraction. -/
def readReal (text : String) : Except ReadFault Value :=
  let chars := (text.toList.filter (· != '_')).map Char.toLower
  let signed := cutSign chars
  let word := String.ofList signed.2
  let number :=
    if word == ".inf" then some (.infinite false)
    else if word == ".nan" then some .notANumber
    else if signed.2.contains ':' then sexagesimalReal? signed.2
    else realNumber? signed.2
  if chars.isEmpty then .error .numberMissing
  else
    match number with
    | some number => .ok (.real (if signed.1 then flipSign number else number))
    | none => .error .valueRefused

/-- Reads a flag. -/
def readFlag (text : String) : Except ReadFault Value :=
  match flagWords.lookup (lower text) with
  | some flag => .ok (.bool flag)
  | none => .error .flagUnknown

/-- Reads a moment. -/
def readMoment (text : String) : Except ReadFault Value :=
  match moment? (dropLineEnd text.toList) with
  | some (moment, _) => if isReal moment then .ok (.moment moment) else .error .valueRefused
  | none => .error .momentUnknown

/-- The six bits that a character of base sixty-four stands for. -/
def sixBits? (c : Char) : Option Nat :=
  if 'A' ≤ c && c ≤ 'Z' then some (c.toNat - 'A'.toNat)
  else if 'a' ≤ c && c ≤ 'z' then some (c.toNat - 'a'.toNat + 26)
  else if isDigit c then some (c.toNat - '0'.toNat + 52)
  else if c == '+' then some 62
  else if c == '/' then some 63
  else none

/-- The bytes of a text in base sixty-four.  `count` is the number of characters read of a group of
four, `left` the bits that are no byte yet, and `pads` the number of signs of filling just before.
Other characters are passed over. -/
def base64? (count left pads : Nat) : List Char → Option (List UInt8)
  | [] => if count == 0 then some [] else none
  | c :: rest =>
      if c == '=' then
        if 2 ≤ count && 4 ≤ count + pads + 1 then some []
        else base64? count left (if 2 ≤ count then pads + 1 else pads) rest
      else
        match sixBits? c with
        | none => base64? count left pads rest
        | some bits =>
            if count == 0 then base64? 1 bits 0 rest
            else if count == 1 then
              (base64? 2 (bits % 16) 0 rest).map ((left * 4 + bits / 16).toUInt8 :: ·)
            else if count == 2 then
              (base64? 3 (bits % 4) 0 rest).map ((left * 16 + bits / 4).toUInt8 :: ·)
            else (base64? 0 0 0 rest).map ((left * 64 + bits).toUInt8 :: ·)

/-- Reads bytes. -/
def readBytes (text : String) : Except ReadFault Value :=
  if text.toList.all fun c => c.toNat < 0x80 then
    (orMalformed (base64? 0 0 0 text.toList)).map .bytes
  else .error .malformed

/-- A text from code points; halves of surrogate pairs are no text. -/
def textValue (points : List Nat) : Value :=
  if points.all Nat.isValidChar then .text (String.ofList (points.map Char.ofNat))
  else .halved points

/-- The text of code points, in which halves of surrogate pairs are replaced. -/
def pointsText (points : List Nat) : String := String.ofList (points.map Json.pointChar)

/-- Reads a scalar as a kind. -/
def Kind.read (kind : Kind) (points : List Nat) : Except ReadFault Value :=
  match kind with
  | .null => .ok .null
  | .bool => readFlag (pointsText points)
  | .int => readInt (pointsText points)
  | .real => readReal (pointsText points)
  | .text => .ok (textValue points)
  | .moment => readMoment (pointsText points)
  | .bytes => readBytes (pointsText points)
  | .list | .table | .set | .pairs | .merge | .default | .unknown => .error .malformed

end ScopeAtlas.Data.Yaml
