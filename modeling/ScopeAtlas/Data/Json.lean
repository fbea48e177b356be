import ScopeAtlas.Data.ReadFault
import ScopeAtlas.Data.Value

/-!
# JSON

Reading is a recursive descent over the characters of the text.  The reader also
accepts the three spellings of numbers that have no decimal form, and the last
of several entries with one key wins.  The first fault decides.  Writing is on one
line or indented by two spaces a level, with every character outside printable
ASCII escaped.
-/

namespace ScopeAtlas.Data.Json

/-- White space between tokens. -/
def isSpace (c : Char) : Bool := c == ' ' || c == '\t' || c == '\n' || c == '\r'

/-- Drops white space. -/
def skipSpace (input : List Char) : List Char := input.dropWhile isSpace

/-- The value of a hexadecimal digit. -/
def hexValue? (c : Char) : Option Nat :=
  if '0' ≤ c ∧ c ≤ '9' then some (c.toNat - '0'.toNat)
  else if 'a' ≤ c ∧ c ≤ 'f' then some (c.toNat - 'a'.toNat + 10)
  else if 'A' ≤ c ∧ c ≤ 'F' then some (c.toNat - 'A'.toNat + 10)
  else none

/-- Four hexadecimal digits as a number. -/
def hexUnit? (a b c d : Char) : Option Nat := do
  return ((← hexValue? a) * 16 + (← hexValue? b)) * 256 + (← hexValue? c) * 16 + (← hexValue? d)

/-- The character that a one-letter escape stands for. -/
def simpleEscape? (c : Char) : Option Char :=
  if c == '"' then some '"'
  else if c == '\\' then some '\\'
  else if c == '/' then some '/'
  else if c == 'b' then some '\x08'
  else if c == 'f' then some '\x0c'
  else if c == 'n' then some '\n'
  else if c == 'r' then some '\r'
  else if c == 't' then some '\t'
  else none

/-- A character from a code point; half of a surrogate pair on its own gives the replacement
character. -/
def pointChar (point : Nat) : Char :=
  if 0xD800 ≤ point ∧ point ≤ 0xDFFF then Char.ofNat 0xFFFD else Char.ofNat point

/-- Adds an escaped unit to the code points read so far, latest first, and joins it with the first
half of a pair. -/
def pushUnit (unit : Nat) : List Nat → List Nat
  | high :: rest =>
      if 0xD800 ≤ high ∧ high ≤ 0xDBFF ∧ 0xDC00 ≤ unit ∧ unit ≤ 0xDFFF then
        (0x10000 + (high - 0xD800) * 0x400 + (unit - 0xDC00)) :: rest
      else unit :: high :: rest
  | [] => [unit]

/-- Reads the rest of a string after its opening quote; `seen` holds the code points read so far,
latest first. -/
def readString (seen : List Nat) : List Char → Option (String × List Char)
  | [] => none
  | '"' :: rest => some (String.ofList (seen.reverse.map pointChar), rest)
  | '\\' :: 'u' :: a :: b :: c :: d :: rest =>
      match hexUnit? a b c d with
      | some unit => readString (pushUnit unit seen) rest
      | none => none
  | '\\' :: c :: rest =>
      match simpleEscape? c with
      | some escaped => readString (escaped.toNat :: seen) rest
      | none => none
  | c :: rest =>
      if c.toNat < 0x20 || c == '\\' then none else readString (c.toNat :: seen) rest

/-- An ASCII digit. -/
def isDigit (c : Char) : Bool := '0' ≤ c && c ≤ '9'

/-- Digits as a number. -/
def numberOf (digits : List Char) : Nat :=
  digits.foldl (fun number c => number * 10 + (c.toNat - '0'.toNat)) 0

/-- The fraction that follows an integer: its digits and the rest. -/
def readFraction : List Char → List Char × List Char
  | '.' :: rest =>
      let digits := rest.takeWhile isDigit
      if digits.isEmpty then ([], '.' :: rest) else (digits, rest.dropWhile isDigit)
  | input => ([], input)

/-- The exponent that follows a number, if any, and the rest. -/
def readExponent (input : List Char) : Option Int × List Char :=
  match input with
  | e :: rest =>
      if e == 'e' || e == 'E' then
        let signed : Bool × List Char :=
          match rest with
          | '-' :: after => (true, after)
          | '+' :: after => (false, after)
          | _ => (false, rest)
        let digits := signed.2.takeWhile isDigit
        if digits.isEmpty then (none, input)
        else
          let size : Int := numberOf digits
          (some (if signed.1 then -size else size), signed.2.dropWhile isDigit)
      else (none, input)
  | [] => (none, [])

/-- Reads a number. -/
def readNumber (input : List Char) : Except ReadFault (Value × List Char) :=
  let signed : Bool × List Char :=
    match input with
    | '-' :: rest => (true, rest)
    | _ => (false, input)
  let whole : List Char × List Char :=
    match signed.2 with
    | '0' :: rest => (['0'], rest)
    | rest => (rest.takeWhile isDigit, rest.dropWhile isDigit)
  if whole.1.isEmpty then .error .malformed
  else
    let fraction := readFraction whole.2
    let exponent := readExponent fraction.2
    if fraction.1.isEmpty && exponent.1.isNone then
      if mostDigits < whole.1.length then .error .valueRefused
      else
        let number : Int := numberOf whole.1
        .ok (.int (if signed.1 then -number else number), whole.2)
    else
      .ok (.real (.finite signed.1 (numberOf (whole.1 ++ fraction.1))
        (exponent.1.getD 0 - fraction.1.length)), exponent.2)

/-- Drops a given word from the front. -/
def dropWord? (word : String) (input : List Char) : Option (List Char) :=
  if word.toList.isPrefixOf input then some (input.drop word.length) else none

/-- Reads a word that stands for a value. -/
def readWord (input : List Char) : Option (Value × List Char) :=
  [("null", Value.null), ("true", .bool true), ("false", .bool false),
    ("NaN", .real .notANumber), ("Infinity", .real (.infinite false)),
    ("-Infinity", .real (.infinite true))].findSome? fun entry =>
      (dropWord? entry.1 input).map fun rest => (entry.2, rest)

mutual
/-- Reads a value that begins at the first character.  `fuel` bounds the nesting and the number of
items, and the length of the input is enough. -/
def readValue : (fuel : Nat) → List Char → Except ReadFault (Value × List Char)
  | 0, _ => .error .malformed
  | fuel + 1, input =>
      match input with
      | [] => .error .malformed
      | '"' :: rest => (orMalformed (readString [] rest)).map fun read => (.text read.1, read.2)
      | '\x7b' :: rest =>
          match skipSpace rest with
          | '\x7d' :: after => .ok (.table [], after)
          | rest => readEntries fuel [] rest
      | '[' :: rest =>
          match skipSpace rest with
          | ']' :: after => .ok (.list [], after)
          | rest => readItems fuel [] rest
      | _ =>
          match readWord input with
          | some read => .ok read
          | none => readNumber input

/-- Reads the entries of a table, of which `seen` have been read. -/
def readEntries : (fuel : Nat) → List (String × Value) → List Char →
    Except ReadFault (Value × List Char)
  | 0, _, _ => .error .malformed
  | fuel + 1, seen, input =>
      match input with
      | '"' :: rest =>
          match readString [] rest with
          | none => .error .malformed
          | some (key, rest) =>
              match skipSpace rest with
              | ':' :: rest =>
                  match readValue fuel (skipSpace rest) with
                  | .error fault => .error fault
                  | .ok (value, rest) =>
                      let seen := putEntry key value seen
                      match skipSpace rest with
                      | '\x7d' :: after => .ok (.table seen, after)
                      | ',' :: rest => readEntries fuel seen (skipSpace rest)
                      | _ => .error .malformed
              | _ => .error .malformed
      | _ => .error .malformed

/-- Reads the items of a list, of which `seen` have been read, latest first. -/
def readItems : (fuel : Nat) → List Value → List Char → Except ReadFault (Value × List Char)
  | 0, _, _ => .error .malformed
  | fuel + 1, seen, input =>
      match readValue fuel input with
      | .error fault => .error fault
      | .ok (value, rest) =>
          match skipSpace rest with
          | ']' :: after => .ok (.list (value :: seen).reverse, after)
          | ',' :: rest => readItems fuel (value :: seen) (skipSpace rest)
          | _ => .error .malformed
end

/-- Reads a text that holds one value and white space. -/
def read (text : String) : Except ReadFault Value :=
  let input := text.toList
  match readValue (input.length + 1) (skipSpace input) with
  | .ok (value, rest) => if (skipSpace rest).isEmpty then .ok value else .error .malformed
  | .error fault => .error fault

/-- Reads a text that holds one value, where a malformed text holds none.  Other faults remain. -/
def parse? (text : String) : Except ReadFault (Option Value) :=
  match read text with
  | .ok value => .ok (some value)
  | .error .malformed => .ok none
  | .error fault => .error fault

/-- Four hexadecimal digits of a number. -/
def hexUnit (n : Nat) : String :=
  let digit := fun k => "0123456789abcdef".toList.getD (n / Nat.pow 16 k % 16) '0'
  String.ofList ['\\', 'u', digit 3, digit 2, digit 1, digit 0]

/-- A character inside a string. -/
def escapeChar (c : Char) : String :=
  let n := c.toNat
  if c == '"' then "\\\""
  else if c == '\\' then "\\\\"
  else if c == '\n' then "\\n"
  else if c == '\r' then "\\r"
  else if c == '\t' then "\\t"
  else if c == '\x08' then "\\b"
  else if c == '\x0c' then "\\f"
  else if n < 0x20 || 0x7F ≤ n && n < 0x10000 then hexUnit n
  else if 0x10000 ≤ n then
    hexUnit (0xD800 + (n - 0x10000) / 0x400) ++ hexUnit (0xDC00 + (n - 0x10000) % 0x400)
  else String.singleton c

/-- A string with its quotes. -/
def quote (text : String) : String :=
  text.toList.foldl (fun out c => out ++ escapeChar c) "\"" ++ "\""

/-- The text of a number with a fraction. -/
def realText : RealNumber → String
  | .notANumber => "NaN"
  | .infinite negative => Decimal.signText negative ++ "Infinity"
  | .finite negative digits exponent =>
      if Decimal.toFloat digits exponent == 1.0 / 0.0 then Decimal.signText negative ++ "Infinity"
      else Decimal.text (.finite negative digits exponent)

/-- How a value is laid out: on one line without or with blanks, or with two spaces a level. -/
inductive Layout where
  | compact
  | spaced
  | indented
deriving Repr, DecidableEq

/-- What stands between brackets and items at a level. -/
def Layout.lineBreak (layout : Layout) (level : Nat) : String :=
  match layout with
  | .compact | .spaced => ""
  | .indented => "\n" ++ String.ofList (List.replicate (2 * level) ' ')

/-- What stands between a key and its value. -/
def Layout.colon : Layout → String
  | .compact => ":"
  | .spaced | .indented => ": "

/-- What stands between two items at a level. -/
def Layout.comma (layout : Layout) (level : Nat) : String :=
  match layout with
  | .compact => ","
  | .spaced => ", "
  | .indented => "," ++ layout.lineBreak level

mutual
/-- Writes a value after `out`.  What the format cannot hold is written as null. -/
def write (layout : Layout) (level : Nat) (out : String) : Value → String
  | .null => out ++ "null"
  | .bool flag => out ++ (if flag then "true" else "false")
  | .int number => out ++ toString number
  | .real number => out ++ realText number
  | .text content => out ++ quote content
  | .moment moment => out ++ quote moment.text
  | .list [] => out ++ "[]"
  | .list (item :: rest) =>
      let first := write layout (level + 1) (out ++ "[" ++ layout.lineBreak (level + 1)) item
      writeItems layout (level + 1) first rest ++ layout.lineBreak level ++ "]"
  | .table [] => out ++ "\x7b\x7d"
  | .table ((key, value) :: rest) =>
      let first := write layout (level + 1)
        (out ++ "\x7b" ++ layout.lineBreak (level + 1) ++ quote key ++ layout.colon) value
      writeEntries layout (level + 1) first rest ++ layout.lineBreak level ++ "\x7d"
  | .bytes _ | .halved _ | .pair _ _ | .unordered _ | .keyed _ | .around _ => out ++ "null"

/-- Writes the later items of a list. -/
def writeItems (layout : Layout) (level : Nat) (out : String) : List Value → String
  | [] => out
  | item :: rest =>
      writeItems layout level (write layout level (out ++ layout.comma level) item) rest

/-- Writes the later entries of a table. -/
def writeEntries (layout : Layout) (level : Nat) (out : String) :
    List (String × Value) → String
  | [] => out
  | (key, value) :: rest =>
      writeEntries layout level
        (write layout level
          (out ++ layout.comma level ++ quote key ++ layout.colon) value) rest
end

/-- The text of a value. -/
def render (layout : Layout) (value : Value) : String := write layout 0 "" value

end ScopeAtlas.Data.Json
