import ScopeAtlas.Text.Blank

/-!
# Lines and indentation

A text is broken into lines at every line boundary of the Unicode standard and
at the three information separators that end records.  Removing indentation, in
contrast, looks at line feeds only: its input is already broken into lines.
-/

namespace ScopeAtlas.Text

/-- A character that ends a line. -/
def isLineBreak (c : Char) : Bool :=
  let n := c.toNat
  (0x0A ≤ n && n ≤ 0x0D) || (0x1C ≤ n && n ≤ 0x1E) || n == 0x85 || n == 0x2028 || n == 0x2029

/-- The lines of a text without their ends.  A carriage return and the line feed after it end one
line, and a text that ends with a line break has no empty last line.  `line` collects the current
line backwards. -/
def linesFrom (line : List Char) : List Char → List (List Char)
  | [] => if line.isEmpty then [] else [line.reverse]
  | '\r' :: '\n' :: rest => line.reverse :: linesFrom [] rest
  | c :: rest =>
      if isLineBreak c then line.reverse :: linesFrom [] rest
      else linesFrom (c :: line) rest

/-- The lines of a text. -/
def lines (text : String) : List String :=
  (linesFrom [] text.toList).map String.ofList

/-- Pieces between line feeds, one more than there are line feeds. -/
def rowsFrom (row : List Char) : List Char → List (List Char)
  | [] => [row.reverse]
  | c :: rest => if c == '\n' then row.reverse :: rowsFrom [] rest else rowsFrom (c :: row) rest

/-- Pieces between line feeds. -/
def rows (text : String) : List (List Char) := rowsFrom [] text.toList

/-- Rows joined by line feeds. -/
def unrows (rows : List (List Char)) : String :=
  String.ofList (List.intercalate ['\n'] rows)

/-- A space or a tab. -/
def isIndent (c : Char) : Bool := c == ' ' || c == '\t'

/-- The longest common beginning of two lists. -/
def commonStart : List Char → List Char → List Char
  | a :: as, b :: bs => if a == b then a :: commonStart as bs else []
  | _, _ => []

/-- The indentation shared by all rows that are not blank; none when every row is blank. -/
def sharedIndent (rows : List (List Char)) : Option (List Char) :=
  rows.foldl (fun shared row =>
    if row.all isIndent then shared
    else
      let indent := row.takeWhile isIndent
      match shared with
      | none => some indent
      | some margin => some (commonStart margin indent)) none

/-- Removes the shared indentation from every row and empties rows of spaces and tabs. -/
def dedent (text : String) : String :=
  let all := rows text
  let margin := (sharedIndent all).getD []
  unrows <| all.map fun row => if row.all isIndent then [] else row.drop margin.length

/-- Writes spaces for tabs, up to the next multiple of eight columns. -/
def expandTabsFrom (column : Nat) : List Char → List Char
  | [] => []
  | c :: rest =>
      if c == '\t' then
        let width := 8 - column % 8
        List.replicate width ' ' ++ expandTabsFrom (column + width) rest
      else if c == '\n' || c == '\r' then c :: expandTabsFrom 0 rest
      else c :: expandTabsFrom (column + 1) rest

/-- The least indentation of the rows that are not blank. -/
def leastIndent (rows : List (List Char)) : Option Nat :=
  rows.foldl (fun least row =>
    let content := row.dropWhile isBlank
    if content.isEmpty then least
    else
      let indent := row.length - content.length
      some (match least with | none => indent | some best => min best indent)) none

/-- The text of a documentation string: tabs expanded, the first row without its indentation, the
later rows without the least indentation among them, and empty rows dropped from both ends. -/
def cleanDocumentation (text : String) : String :=
  match rowsFrom [] (expandTabsFrom 0 text.toList) with
  | [] => ""
  | first :: later =>
      let margin := (leastIndent later).getD 0
      let all := first.dropWhile isBlank :: later.map (·.drop margin)
      unrows ((all.reverse.dropWhile List.isEmpty).reverse.dropWhile List.isEmpty)

end ScopeAtlas.Text
