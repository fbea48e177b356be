/-!
# Reading positions

A cursor is the rest of a text with its place: the number of characters before it,
its line and its column.  Lines also end at the next-line character and at the line
and paragraph separators.  A byte order mark takes no column.
-/

namespace ScopeAtlas.Data.Yaml

/-- The text has no other characters than these. -/
def isPrintable (c : Char) : Bool :=
  let n := c.toNat
  n == 0x09 || n == 0x0A || n == 0x0D || (0x20 ≤ n && n ≤ 0x7E) || n == 0x85 ||
    (0xA0 ≤ n && n ≤ 0xD7FF) || (0xE000 ≤ n && n ≤ 0xFFFD) || 0x10000 ≤ n

/-- The byte order mark. -/
def orderMark : Char := '\uFEFF'

/-- A line ends here. -/
def isBreak (c : Char) : Bool :=
  c == '\n' || c == '\r' || c == '\u0085' || c == '\u2028' || c == '\u2029'

/-- A space or a tab. -/
def isSpace (c : Char) : Bool := c == ' ' || c == '\t'

/-- White space within or between lines. -/
def isGap (c : Char) : Bool := isSpace c || isBreak c

/-- White space or the end of the text comes next. -/
def isGapOrEnd : Option Char → Bool
  | some c => isGap c
  | none => true

/-- A space, a line end or the end of the text comes next. -/
def isWordEnd : Option Char → Bool
  | some c => c == ' ' || isBreak c
  | none => true

/-- What a line end reads as: the separators stand for themselves, all others for a line feed. -/
def readBreak (c : Char) : Char := if c == '\u2028' || c == '\u2029' then c else '\n'

/-- A letter or digit of ASCII, a hyphen or an underscore. -/
def isNameChar (c : Char) : Bool :=
  ('0' ≤ c && c ≤ '9') || ('A' ≤ c && c ≤ 'Z') || ('a' ≤ c && c ≤ 'z') || c == '-' || c == '_'

/-- The rest of a text, with its place. -/
structure Cursor where
  rest : List Char
  index : Nat := 0
  line : Nat := 0
  column : Nat := 0
deriving Repr, DecidableEq

namespace Cursor

/-- The next character. -/
def next? (cursor : Cursor) : Option Char := cursor.rest.head?

/-- The character after the next one. -/
def second? (cursor : Cursor) : Option Char := cursor.rest[1]?

/-- The next character is the given one. -/
def isAt (cursor : Cursor) (c : Char) : Bool := cursor.next? == some c

/-- The next character passes a test. -/
def isOn (cursor : Cursor) (test : Char → Bool) : Bool := cursor.next?.any test

/-- Goes on by one character. -/
def step (cursor : Cursor) : Cursor :=
  match cursor.rest with
  | [] => cursor
  | c :: rest =>
      if isBreak c && !(c == '\r' && rest.head? == some '\n') then
        { rest := rest, index := cursor.index + 1, line := cursor.line + 1, column := 0 }
      else
        { cursor with
          rest := rest
          index := cursor.index + 1
          column := if c == orderMark then cursor.column else cursor.column + 1 }

/-- Goes on by some characters. -/
def skip (cursor : Cursor) : (count : Nat) → Cursor
  | 0 => cursor
  | count + 1 => cursor.step.skip count

/-- The characters from here that pass a test, and what follows them. -/
def span (cursor : Cursor) (test : Char → Bool) : List Char × Cursor :=
  let taken := cursor.rest.takeWhile test
  (taken, cursor.skip taken.length)

/-- Passes over the characters that pass a test. -/
def skipWhile (cursor : Cursor) (test : Char → Bool) : Cursor := (cursor.span test).2

/-- Passes over spaces. -/
def skipSpaces (cursor : Cursor) : Cursor := cursor.skipWhile (· == ' ')

/-- Passes over spaces as long as the column is less than the given one. -/
def skipIndent (cursor : Cursor) (column : Nat) : Cursor :=
  cursor.skip (min (cursor.rest.takeWhile (· == ' ')).length (column - cursor.column))

/-- Passes over a comment. -/
def skipComment (cursor : Cursor) : Cursor :=
  if cursor.isAt '#' then cursor.skipWhile (!isBreak ·) else cursor

/-- Reads a line end. -/
def lineBreak? (cursor : Cursor) : Option (Char × Cursor) :=
  match cursor.rest with
  | '\r' :: '\n' :: _ => some ('\n', cursor.skip 2)
  | c :: _ => if isBreak c then some (readBreak c, cursor.step) else none
  | [] => none

/-- Passes over a line end, if there is one. -/
def skipBreak (cursor : Cursor) : Cursor := (cursor.lineBreak?.map Prod.snd).getD cursor

/-- One of the two marks between documents comes next. -/
def isAtMark (cursor : Cursor) (c : Char) : Bool :=
  cursor.rest.take 3 == [c, c, c] && isGapOrEnd cursor.rest[3]?

/-- A mark between documents comes next. -/
def isAtAnyMark (cursor : Cursor) : Bool := cursor.isAtMark '-' || cursor.isAtMark '.'

end Cursor

end ScopeAtlas.Data.Yaml
