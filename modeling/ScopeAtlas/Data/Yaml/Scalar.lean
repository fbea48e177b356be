import ScopeAtlas.Data.Json
import ScopeAtlas.Data.Yaml.Cursor

/-!
# Written scalars

A scalar is written plain, between quotes or as a block of lines.  In the first two
forms a line end between words reads as a space, and of several line ends the first
is dropped.  A block keeps its lines, or folds them unless they are indented.
-/

namespace ScopeAtlas.Data.Yaml

/-- Line ends inside a folded scalar: one reads as a space, and of several the first is dropped. -/
def foldBreaks (first : Char) (others : List Char) : List Char :=
  if first != '\n' then first :: others else if others.isEmpty then [' '] else others

/-! ## Between quotes -/

/-- The character that a one-letter escape stands for. -/
def simpleEscape? (c : Char) : Option Char :=
  [('0', '\x00'), ('a', '\x07'), ('b', '\x08'), ('t', '\t'), ('\t', '\t'), ('n', '\n'),
    ('v', '\x0b'), ('f', '\x0c'), ('r', '\r'), ('e', '\x1b'), (' ', ' '), ('"', '"'),
    ('\\', '\\'), ('/', '/'), ('N', '\u0085'), ('_', '\u00A0'), ('L', '\u2028'),
    ('P', '\u2029')].lookup c

/-- The number of digits of a coded character. -/
def codeSize? (c : Char) : Option Nat := [('x', 2), ('u', 4), ('U', 8)].lookup c

/-- The code of `size` hexadecimal digits. -/
def code? (size : Nat) (input : List Char) : Option Nat :=
  let digits := input.take size
  if digits.length < size then none
  else digits.foldl (fun number digit => do return (← number) * 16 + (← Json.hexValue? digit)) (some 0)

/-- The code is that of a code point. -/
def checkCode (code : Nat) : Except ReadFault Nat :=
  if code < 0x110000 then .ok code
  else if code < 0x80000000 then .error .valueRefused
  else .error .codeTooLarge

/-- The further line ends and all white space at the beginning of a line.  A mark between documents
may not stand there. -/
def laterBreaks : (fuel : Nat) → Cursor → Except ReadFault (List Char × Cursor)
  | 0, _ => .error .malformed
  | fuel + 1, cursor =>
      if cursor.isAtAnyMark then .error .malformed
      else
        let cursor := cursor.skipWhile isSpace
        match cursor.lineBreak? with
        | none => .ok ([], cursor)
        | some (c, cursor) => (laterBreaks fuel cursor).map fun read => (c :: read.1, read.2)

/-- The further line ends of a text of any length. -/
def breaksFrom (cursor : Cursor) : Except ReadFault (List Char × Cursor) :=
  laterBreaks (cursor.rest.length + 1) cursor

/-- Puts characters before what was read, latest first. -/
def pushChars (chars : List Char) (seen : List Nat) : List Nat :=
  (chars.map Char.toNat).reverse ++ seen

/-- Reads white space between quotes, of which line ends are folded. -/
def readGap (seen : List Nat) (cursor : Cursor) : Except ReadFault (List Nat × Cursor) :=
  let blank := cursor.span isSpace
  match blank.2.lineBreak? with
  | some (first, cursor) =>
      (breaksFrom cursor).map fun read => (pushChars (foldBreaks first read.1) seen, read.2)
  | none => .ok (pushChars blank.1 seen, blank.2)

/-- Reads what follows a backslash.  A line end after it is dropped. -/
def readEscape (seen : List Nat) (cursor : Cursor) : Except ReadFault (List Nat × Cursor) :=
  match cursor.next? with
  | none => .error .malformed
  | some c =>
      match simpleEscape? c with
      | some escaped => .ok (escaped.toNat :: seen, cursor.step)
      | none =>
          match codeSize? c with
          | some size =>
              match code? size cursor.step.rest with
              | some code => (checkCode code).map fun code => (code :: seen, cursor.skip (size + 1))
              | none => .error .malformed
          | none =>
              match cursor.lineBreak? with
              | some (_, cursor) =>
                  (breaksFrom cursor).map fun read => (pushChars read.1 seen, read.2)
              | none => .error .malformed

/-- Reads the rest of a text between quotes.  `seen` holds the code points read so far, latest
first, and the length of the text is enough `fuel`. -/
def readQuotedFrom (mark : Char) : (fuel : Nat) → List Nat → Cursor →
    Except ReadFault (List Nat × Cursor)
  | 0, _, _ => .error .malformed
  | fuel + 1, seen, cursor =>
      match cursor.next? with
      | none => .error .malformed
      | some c =>
          if c == mark then
            if mark == '\'' && cursor.second? == some '\'' then
              readQuotedFrom mark fuel (c.toNat :: seen) (cursor.skip 2)
            else .ok (seen.reverse, cursor.step)
          else if mark == '"' && c == '\\' then
            match readEscape seen cursor.step with
            | .ok (seen, cursor) => readQuotedFrom mark fuel seen cursor
            | .error fault => .error fault
          else if isGap c then
            match readGap seen cursor with
            | .ok (seen, cursor) => readQuotedFrom mark fuel seen cursor
            | .error fault => .error fault
          else readQuotedFrom mark fuel (c.toNat :: seen) cursor.step

/-- Reads a text between quotes, the first of which comes next. -/
def readQuoted (mark : Char) (cursor : Cursor) : Except ReadFault (List Nat × Cursor) :=
  readQuotedFrom mark (cursor.rest.length + 1) [] cursor.step

/-! ## Plain -/

/-- A comma, a bracket or a brace. -/
def isFlowMark (c : Char) : Bool :=
  c == ',' || c == '[' || c == ']' || c == '\x7b' || c == '\x7d'

/-- The colon before this ends a key. -/
def endsKey (flow : Bool) (next : Option Char) : Bool :=
  isGapOrEnd next || (flow && next.any isFlowMark)

/-- The characters of a word of a plain scalar. -/
def plainWord (flow : Bool) : List Char → List Char
  | [] => []
  | c :: rest =>
      if isGap c || (c == ':' && endsKey flow rest.head?) ||
          (flow && (isFlowMark c || c == '?')) then []
      else c :: plainWord flow rest

/-- The further line ends after a word of a plain scalar, with the spaces among them; nothing when a
mark between documents is met. -/
def plainBreaks : (fuel : Nat) → Cursor → Option (List Char) × Cursor
  | 0, cursor => (none, cursor)
  | fuel + 1, cursor =>
      if cursor.isAtAnyMark then (none, cursor)
      else
        let cursor := cursor.skipSpaces
        match cursor.lineBreak? with
        | none => (some [], cursor)
        | some (c, cursor) =>
            let read := plainBreaks fuel cursor
            (read.1.map (c :: ·), read.2)

/-- What stands between two words of a plain scalar, as it reads. -/
structure PlainGap where
  content : List Char
  /-- The gap has a line end. -/
  broken : Bool
  after : Cursor

/-- Reads the gap after a word. -/
def readPlainGap (cursor : Cursor) : PlainGap :=
  let blank := cursor.span (· == ' ')
  match blank.2.lineBreak? with
  | some (first, cursor) =>
      let read := plainBreaks (cursor.rest.length + 1) cursor
      { content := (read.1.map (foldBreaks first)).getD []
        broken := true
        after := read.2 }
  | none => { content := blank.1, broken := false, after := blank.2 }

/-- A plain scalar that has been read. -/
structure Plain where
  content : List Char
  /-- The scalar was followed by a line end. -/
  broken : Bool
  after : Cursor

/-- Reads the words of a plain scalar.  Outside brackets a line must have an indentation of at least
`least` to go on with it.  `seen` is what was read, and `gap` what stands before the next word. -/
def readPlainFrom (flow : Bool) (least : Nat) : (fuel : Nat) → List Char → PlainGap → Plain
  | 0, seen, gap => { content := seen, broken := gap.broken, after := gap.after }
  | fuel + 1, seen, gap =>
      let word := plainWord flow gap.after.rest
      if word.isEmpty || gap.after.isAt '#' then
        { content := seen, broken := gap.broken, after := gap.after }
      else
        let seen := seen ++ gap.content ++ word
        let gap := readPlainGap (gap.after.skip word.length)
        if gap.content.isEmpty || gap.after.isAt '#' || (!flow && gap.after.column < least) then
          { content := seen, broken := gap.broken, after := gap.after }
        else readPlainFrom flow least fuel seen gap

/-- Reads a plain scalar. -/
def readPlain (flow : Bool) (least : Nat) (cursor : Cursor) : Plain :=
  readPlainFrom flow least (cursor.rest.length + 1) []
    { content := [], broken := false, after := cursor }

/-! ## Blocks -/

/-- What becomes of the line ends at the end of a block. -/
inductive Chomping where
  | strip
  | clip
  | keep
deriving Repr, DecidableEq

/-- The chomping that a sign asks for. -/
def chompingOf? (c : Char) : Option Chomping :=
  if c == '+' then some .keep else if c == '-' then some .strip else none

/-- The number of further spaces that a digit asks for. -/
def incrementOf? (c : Char) : Option Nat := if Json.isDigit c then some (c.toNat - '0'.toNat) else none

/-- The two indicators of a block, in either order. -/
structure Header where
  chomping : Chomping
  increment : Option Nat
  after : Cursor

/-- Reads the indicators of a block. -/
def readHeader (cursor : Cursor) : Except ReadFault Header :=
  let header : Header :=
    match cursor.next?.bind chompingOf? with
    | some chomping =>
        match cursor.second?.bind incrementOf? with
        | some increment => ⟨chomping, some increment, cursor.skip 2⟩
        | none => ⟨chomping, none, cursor.step⟩
    | none =>
        match cursor.next?.bind incrementOf? with
        | some increment =>
            match cursor.second?.bind chompingOf? with
            | some chomping => ⟨chomping, some increment, cursor.skip 2⟩
            | none => ⟨.clip, some increment, cursor.step⟩
        | none => ⟨.clip, none, cursor⟩
  if header.increment == some 0 || !isWordEnd header.after.next? then .error .malformed
  else .ok header

/-- Passes over the rest of a line, which may hold a comment only. -/
def finishLine (cursor : Cursor) : Except ReadFault Cursor :=
  let cursor := cursor.skipSpaces.skipComment
  match cursor.lineBreak? with
  | some (_, cursor) => .ok cursor
  | none => if cursor.rest.isEmpty then .ok cursor else .error .malformed

/-- The empty lines at the beginning of a block, and the greatest column that their spaces or those
of the first line reach. -/
def leadingLines : (fuel : Nat) → Cursor → List Char × Nat × Cursor
  | 0, cursor => ([], 0, cursor)
  | fuel + 1, cursor =>
      let cursor := cursor.skipSpaces
      match cursor.lineBreak? with
      | none => ([], cursor.column, cursor)
      | some (c, after) =>
          let read := leadingLines fuel after
          (c :: read.1, max cursor.column read.2.1, read.2.2)

/-- The empty lines before the next line of a block with the given indentation. -/
def emptyLines (indent : Nat) : (fuel : Nat) → Cursor → List Char × Cursor
  | 0, cursor => ([], cursor)
  | fuel + 1, cursor =>
      let cursor := cursor.skipIndent indent
      match cursor.lineBreak? with
      | none => ([], cursor)
      | some (c, cursor) =>
          let read := emptyLines indent fuel cursor
          (c :: read.1, read.2)

/-- The next line belongs to the block. -/
def isInBlock (indent : Nat) (cursor : Cursor) : Bool :=
  cursor.column == indent && !cursor.rest.isEmpty

/-- What reads between two lines of a block. -/
def betweenLines (folded : Bool) (indented : Bool) (lineEnd : List Char) (breaks : List Char)
    (next : Cursor) : List Char :=
  if folded && lineEnd == ['\n'] && !indented && !next.isOn isSpace then
    if breaks.isEmpty then [' '] else []
  else lineEnd

/-- The lines of a block.  `seen` is what was read, and `breaks` the empty lines before the next
line; the result also has the line ends after the last one, that of the line itself apart. -/
def readLines (folded : Bool) (indent : Nat) : (fuel : Nat) → (seen breaks : List Char) → Cursor →
    List Char × List Char × List Char × Cursor
  | 0, seen, breaks, cursor => (seen, [], breaks, cursor)
  | fuel + 1, seen, breaks, cursor =>
      if !isInBlock indent cursor then (seen, [], breaks, cursor)
      else
        let indented := cursor.isOn isSpace
        let line := cursor.span (!isBreak ·)
        let seen := seen ++ breaks ++ line.1
        let ended : List Char × Cursor :=
          match line.2.lineBreak? with
          | some (c, cursor) => ([c], cursor)
          | none => ([], line.2)
        let later := emptyLines indent (ended.2.rest.length + 1) ended.2
        if isInBlock indent later.2 then
          readLines folded indent fuel
            (seen ++ betweenLines folded indented ended.1 later.1 later.2) later.1 later.2
        else (seen, ended.1, later.1, later.2)

/-- Reads a block after its mark.  `parent` is the indentation of what the block belongs to. -/
def readBlock (folded : Bool) (parent : Int) (cursor : Cursor) :
    Except ReadFault (List Char × Cursor) := do
  let header ← readHeader cursor
  let cursor ← finishLine header.after
  let least := max (parent + 1) 1 |>.toNat
  let fuel := cursor.rest.length + 1
  let start : List Char × Nat × Cursor :=
    match header.increment with
    | some increment =>
        let indent := least + increment - 1
        let read := emptyLines indent fuel cursor
        (read.1, indent, read.2)
    | none =>
        let read := leadingLines fuel cursor
        (read.1, max least read.2.1, read.2.2)
  let lines := readLines folded start.2.1 fuel [] start.1 start.2.2
  let ending :=
    match header.chomping with
    | .strip => []
    | .clip => lines.2.1
    | .keep => lines.2.1 ++ lines.2.2.1
  return (lines.1 ++ ending, lines.2.2.2)

end ScopeAtlas.Data.Yaml
