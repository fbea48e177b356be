import ScopeAtlas.Data.Json
import ScopeAtlas.Text.Shown

/-!
# Values in messages

How a value is shown to the user in a message.  A text is shown as it is, and
between quotes when it stands inside a list or a table.
-/

namespace ScopeAtlas.Data.Display

open ScopeAtlas.Text

/-- The hexadecimal digits of a number, at least `width` of them. -/
def hexDigits (width n : Nat) : List Char :=
  let digits := Nat.toDigits 16 n
  List.replicate (width - digits.length) '0' ++ digits

/-- A character between quotes of the given kind. -/
def quoteChar (mark c : Char) : List Char :=
  if c == mark || c == '\\' then ['\\', c]
  else if c == '\n' then ['\\', 'n']
  else if c == '\r' then ['\\', 'r']
  else if c == '\t' then ['\\', 't']
  else if isShown c then [c]
  else if c.toNat < 0x100 then '\\' :: 'x' :: hexDigits 2 c.toNat
  else if c.toNat < 0x10000 then '\\' :: 'u' :: hexDigits 4 c.toNat
  else '\\' :: 'U' :: hexDigits 8 c.toNat

/-- The kind of quotes around characters: single ones, unless they have single and no double
ones. -/
def markFor (chars : List Char) : Char :=
  if chars.contains '\'' && !chars.contains '"' then '"' else '\''

/-- A text between quotes. -/
def quoted (text : String) : String :=
  let mark := markFor text.toList
  String.ofList (mark :: text.toList.flatMap (quoteChar mark) ++ [mark])

/-- A code point between quotes. -/
def quotePoint (mark : Char) (point : Nat) : List Char :=
  if point.isValidChar then quoteChar mark (Char.ofNat point)
  else '\\' :: 'u' :: hexDigits 4 point

/-- Code points between quotes. -/
def quotedPoints (points : List Nat) : String :=
  let mark := markFor (points.map Char.ofNat)
  String.ofList (mark :: points.flatMap (quotePoint mark) ++ [mark])

/-- A byte between quotes: a character of its own only if it is printable ASCII. -/
def quoteByte (mark : Char) (byte : UInt8) : List Char :=
  if 0x20 ≤ byte && byte < 0x7F || [9, 10, 13].contains byte then
    quoteChar mark (Char.ofNat byte.toNat)
  else '\\' :: 'x' :: hexDigits 2 byte.toNat

/-- Bytes between quotes, with a mark in front. -/
def quotedBytes (bytes : List UInt8) : String :=
  let mark := markFor (bytes.map fun byte => Char.ofNat byte.toNat)
  String.ofList ('b' :: mark :: bytes.flatMap (quoteByte mark) ++ [mark])

/-- The text of code points, in which the halves of a pair that stand side by side are joined. -/
def joinedPoints (points : List Nat) : String :=
  String.ofList ((points.foldl (fun seen point => Json.pushUnit point seen) []).reverse.map
    Json.pointChar)

/-- Parts with commas between them. -/
def commas (parts : List String) : String := String.intercalate ", " parts

mutual
/-- A value inside another. -/
def inner : Value → String
  | .null => "None"
  | .bool flag => if flag then "True" else "False"
  | .int number => toString number
  | .real number => Decimal.text number
  | .text content => quoted content
  | .moment moment => moment.inner
  | .bytes content => quotedBytes content
  | .halved points => quotedPoints points
  | .list items => "[" ++ commas (innerItems items) ++ "]"
  | .pair first second => "(" ++ commas [inner first, inner second] ++ ")"
  | .unordered [] => "set()"
  | .unordered (item :: rest) => "\x7b" ++ commas (inner item :: innerItems rest) ++ "\x7d"
  | .table entries => "\x7b" ++ commas (innerEntries entries) ++ "\x7d"
  | .keyed entries => "\x7b" ++ commas (innerKeyed entries) ++ "\x7d"
  | .around true => "\x7b...\x7d"
  | .around false => "[...]"

/-- The items of a list. -/
def innerItems : List Value → List String
  | [] => []
  | item :: rest => inner item :: innerItems rest

/-- The entries of a table. -/
def innerEntries : List (String × Value) → List String
  | [] => []
  | (key, value) :: rest => (quoted key ++ ": " ++ inner value) :: innerEntries rest

/-- The entries of a table with keys of any kind. -/
def innerKeyed : List (Value × Value) → List String
  | [] => []
  | (key, value) :: rest => (inner key ++ ": " ++ inner value) :: innerKeyed rest
end

/-- A value in a message. -/
def text : Value → String
  | .text content => content
  | .moment moment => moment.text
  | .halved points => joinedPoints points
  | value => inner value

end ScopeAtlas.Data.Display
