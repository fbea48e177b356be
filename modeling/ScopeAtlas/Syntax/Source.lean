import ScopeAtlas.Syntax.Cursor
import ScopeAtlas.Text.Lines
import ScopeAtlas.Text.Utf8

/-!
# Source files

A source file is a byte sequence.  Positions in it are byte offsets, and the row
of an offset counts line feeds only.  The line texts, in contrast, come from the
decoded text and follow every line boundary, so a row and the line of the same
number can drift apart in a file with unusual line ends.
-/

namespace ScopeAtlas.Syntax

open ScopeAtlas.Text

/-- A row and a column in bytes, both from zero. -/
structure Point where
  row : Nat
  column : Nat
deriving Repr, DecidableEq, Inhabited

/-- Bytes with their line texts and the offsets of their line feeds. -/
structure Source where
  bytes : ByteArray
  lines : Array String
  lineFeeds : List Nat

/-- Offsets of the line feeds of a byte sequence that begins at `offset`. -/
def lineFeedsFrom (offset : Nat) : List UInt8 → List Nat
  | [] => []
  | byte :: rest =>
      if byte == 10 then offset :: lineFeedsFrom (offset + 1) rest
      else lineFeedsFrom (offset + 1) rest

namespace Source

/-- Prepares a byte sequence for extraction. -/
def ofBytes (bytes : ByteArray) : Source :=
  { bytes := bytes
    lines := (Text.lines (Utf8.decode bytes)).toArray
    lineFeeds := lineFeedsFrom 0 bytes.data.toList }

/-- The text of a byte range. -/
def slice (source : Source) (startByte endByte : Nat) : String :=
  Utf8.decode (source.bytes.extract startByte endByte)

/-- The text of a node. -/
def text (source : Source) (cursor : Cursor) : String :=
  source.slice cursor.startByte cursor.endByte

/-- The text of a node, empty when there is none. -/
def textOf (source : Source) : Option Cursor → String
  | some cursor => source.text cursor
  | none => ""

/-- The text of the first child in a field. -/
def fieldText? (source : Source) (cursor : Cursor) (field : String) : Option String :=
  (cursor.childByField? field).map source.text

/-- The row and column of a byte offset. -/
def point (source : Source) (offset : Nat) : Point :=
  let passed := source.lineFeeds.takeWhile (· < offset)
  match passed.getLast? with
  | some lineFeed => ⟨passed.length, offset - (lineFeed + 1)⟩
  | none => ⟨0, offset⟩

/-- Where a node begins. -/
def startPoint (source : Source) (cursor : Cursor) : Point := source.point cursor.startByte

/-- Where a node ends. -/
def endPoint (source : Source) (cursor : Cursor) : Point := source.point cursor.endByte

/-- The line number, from one, on which a node begins. -/
def startLine (source : Source) (cursor : Cursor) : Nat := (source.startPoint cursor).row + 1

/-- The trimmed text of a row, empty past the last line. -/
def lineText (source : Source) (row : Nat) : String :=
  match source.lines[row]? with
  | some line => trim line
  | none => ""

end Source

end ScopeAtlas.Syntax
