import ScopeAtlas.Data.Yaml.Scalar
import ScopeAtlas.Text.Utf8

/-!
# Tokens

A document is a sequence of tokens.  Indentation becomes tokens as well: a deeper
column opens a list or a table, and a lesser one closes it.  That a scalar is the key
of a table is seen only at the colon after it, so the place of every token that may
begin a key is remembered until its line has ended, and the tokens for the key are put
there afterwards.
-/

namespace ScopeAtlas.Data.Yaml

open ScopeAtlas.Text

/-- A part of a document. -/
inductive Token where
  /-- The version of the format that the document asks for. -/
  | version (major : Nat)
  /-- A short form for the beginning of tags. -/
  | tagHandle (handle start : String)
  /-- A directive that has no meaning. -/
  | directive
  | documentStart
  | documentEnd
  /-- A list opens by indentation. -/
  | listIndent
  /-- A table opens by indentation. -/
  | tableIndent
  /-- What was opened by indentation closes. -/
  | outdent
  | listStart
  | listEnd
  | tableStart
  | tableEnd
  /-- The hyphen of a list item. -/
  | item
  | comma
  | key
  | value
  | alias (name : String)
  | anchor (name : String)
  /-- A tag: the short form of its beginning, if there is one, and the rest. -/
  | tag (handle : Option String) (rest : String)
  /-- A scalar as code points. -/
  | scalar (points : List Nat) (plain : Bool)
  | finish
deriving Repr, DecidableEq

/-! ## Names and tags -/

/-- Reads the name of an anchor, of which the mark comes next. -/
def readName (cursor : Cursor) : Except ReadFault (String × Cursor) :=
  let name := cursor.step.span isNameChar
  let ends := isGapOrEnd name.2.next? ||
    name.2.isOn fun c => [ '?', ':', ',', ']', '\x7d', '%', '@', '\x60' ].contains c
  if name.1.isEmpty || !ends then .error .malformed else .ok (String.ofList name.1, name.2)

/-- A character of a tag. -/
def isTagChar (c : Char) : Bool :=
  isNameChar c || (";/?:@&=+$,.!~*'()[]%").toList.contains c

/-- Reads bytes that are written as hexadecimal digits after percent signs. -/
def readCodes : (fuel : Nat) → Cursor → Except ReadFault (List UInt8 × Cursor)
  | 0, cursor => .ok ([], cursor)
  | fuel + 1, cursor =>
      if cursor.isAt '%' then
        match code? 2 cursor.step.rest with
        | some code =>
            (readCodes fuel (cursor.skip 3)).map fun read => (code.toUInt8 :: read.1, read.2)
        | none => .error .malformed
      else .ok ([], cursor)

/-- Reads the characters of a tag. -/
def readTagChars : (fuel : Nat) → Cursor → Except ReadFault (List Char × Cursor)
  | 0, cursor => .ok ([], cursor)
  | fuel + 1, cursor =>
      match cursor.next? with
      | none => .ok ([], cursor)
      | some c =>
          if c == '%' then do
            let codes ← readCodes fuel cursor
            let decoded ← orMalformed (Utf8.decode? ⟨codes.1.toArray⟩)
            let read ← readTagChars fuel codes.2
            return (decoded.toList ++ read.1, read.2)
          else if isTagChar c then
            (readTagChars fuel cursor.step).map fun read => (c :: read.1, read.2)
          else .ok ([], cursor)

/-- Reads the rest of a tag, which is not empty. -/
def readTagRest (cursor : Cursor) : Except ReadFault (String × Cursor) := do
  if !cursor.isOn isTagChar then throw .malformed
  let read ← readTagChars (cursor.rest.length + 1) cursor
  return (String.ofList read.1, read.2)

/-- Reads the short form of the beginning of tags, with its marks. -/
def readHandle (cursor : Cursor) : Except ReadFault (String × Cursor) :=
  if !cursor.isAt '!' then .error .malformed
  else if cursor.second? == some ' ' then .ok ("!", cursor.step)
  else
    let name := cursor.step.span isNameChar
    if name.2.isAt '!' then .ok ("!" ++ String.ofList name.1 ++ "!", name.2.step)
    else .error .malformed

/-- Reads a tag without checking what follows it. -/
def readTagParts (cursor : Cursor) : Except ReadFault (Token × Cursor) := do
  if cursor.second? == some '<' then
    let (rest, cursor) ← readTagRest (cursor.skip 2)
    if cursor.isAt '>' then return (.tag none rest, cursor.step) else throw .malformed
  else if isGapOrEnd cursor.second? then return (.tag none "!", cursor.step)
  else
    let word := cursor.step.rest.takeWhile fun c => !isWordEnd (some c)
    let (handle, cursor) ←
      if word.contains '!' then readHandle cursor else pure ("!", cursor.step)
    let (rest, cursor) ← readTagRest cursor
    return (.tag (some handle) rest, cursor)

/-- Reads a tag. -/
def readTag (cursor : Cursor) : Except ReadFault (Token × Cursor) := do
  let (token, cursor) ← readTagParts cursor
  if isWordEnd cursor.next? then return (token, cursor) else throw .malformed

/-! ## Directives -/

/-- Reads a number of the version. -/
def readVersionNumber (cursor : Cursor) : Except ReadFault (Nat × Cursor) :=
  let digits := cursor.span Json.isDigit
  if digits.1.isEmpty then .error .malformed
  else if mostDigits < digits.1.length then .error .valueRefused
  else .ok (Json.numberOf digits.1, digits.2)

/-- Reads what a directive of a name says. -/
def readDirectiveValue (name : String) (cursor : Cursor) : Except ReadFault (Token × Cursor) := do
  if name == "YAML" then
    let (major, cursor) ← readVersionNumber cursor.skipSpaces
    if !cursor.isAt '.' then throw .malformed
    let (_, cursor) ← readVersionNumber cursor.step
    if isWordEnd cursor.next? then return (.version major, cursor) else throw .malformed
  else if name == "TAG" then
    let (handle, cursor) ← readHandle cursor.skipSpaces
    if !cursor.isAt ' ' then throw .malformed
    let (start, cursor) ← readTagRest cursor.skipSpaces
    if isWordEnd cursor.next? then return (.tagHandle handle start, cursor) else throw .malformed
  else return (.directive, cursor.skipWhile (!isBreak ·))

/-- Reads a directive. -/
def readDirective (cursor : Cursor) : Except ReadFault (Token × Cursor) := do
  let name := cursor.step.span isNameChar
  if name.1.isEmpty || !isWordEnd name.2.next? then throw .malformed
  let (token, cursor) ← readDirectiveValue (String.ofList name.1) name.2
  return (token, ← finishLine cursor)

/-! ## Reading tokens -/

/-- A token that may begin a key. -/
structure PossibleKey where
  /-- The number of tokens before it. -/
  place : Nat
  /-- Nothing but a key can stand there. -/
  required : Bool
  index : Nat
  line : Nat
  column : Nat
deriving Repr, DecidableEq

/-- A document of which a part has been read. -/
structure Scan where
  cursor : Cursor
  tokens : Array Token := #[]
  /-- The column of the innermost list or table that was opened by indentation. -/
  indent : Int := -1
  /-- The columns around it, innermost first. -/
  outer : List Int := []
  /-- A key may begin at the next token. -/
  allowsKey : Bool := true
  /-- What may be a key at each level of brackets, innermost first. -/
  keys : List (Option PossibleKey) := [none]
  finished : Bool := false

namespace Scan

/-- The next token stands between brackets. -/
def inFlow (scan : Scan) : Bool := 1 < scan.keys.length

def push (scan : Scan) (token : Token) : Scan := { scan with tokens := scan.tokens.push token }

/-- Puts a token before those from a place on. -/
def insert (scan : Scan) (place : Nat) (token : Token) : Scan :=
  { scan with
    tokens := (scan.tokens.extract 0 place).push token ++
      scan.tokens.extract place scan.tokens.size }

/-- Adds a token and goes on behind it. -/
def pushStep (scan : Scan) (count : Nat) (token : Token) : Scan :=
  { scan.push token with cursor := scan.cursor.skip count }

/-- The key is too far behind to be one: it stands on an earlier line, or begins too early. -/
def isStale (cursor : Cursor) (key : PossibleKey) : Bool :=
  key.line != cursor.line || 1024 < cursor.index - key.index

/-- Forgets the keys that are too far behind, which must not be required. -/
def dropStale (scan : Scan) : Except ReadFault Scan :=
  if scan.keys.any fun key => key.any fun key => isStale scan.cursor key && key.required then
    .error .malformed
  else .ok { scan with keys := scan.keys.map fun key => key.filter (!isStale scan.cursor ·) }

/-- Forgets the key at the present level, which must not be required. -/
def dropKey (scan : Scan) : Except ReadFault Scan :=
  match scan.keys with
  | some key :: rest =>
      if key.required then .error .malformed else .ok { scan with keys := none :: rest }
  | _ => .ok scan

/-- Remembers that the next token may begin a key. -/
def saveKey (scan : Scan) : Except ReadFault Scan :=
  if !scan.allowsKey then .ok scan
  else do
    let scan ← scan.dropKey
    let key : PossibleKey :=
      { place := scan.tokens.size
        required := !scan.inFlow && scan.indent == scan.cursor.column
        index := scan.cursor.index
        line := scan.cursor.line
        column := scan.cursor.column }
    return { scan with keys := some key :: scan.keys.drop 1 }

/-- Closes what was opened at greater columns.  Between brackets columns have no meaning. -/
def unwindFrom (column : Int) : List Int → Scan → Scan
  | outer, scan =>
      if scan.inFlow || scan.indent ≤ column then scan
      else
        match outer with
        | [] => scan
        | indent :: rest =>
            unwindFrom column rest
              { scan.push .outdent with indent := indent, outer := rest }

/-- Closes what was opened at columns greater than the given one. -/
def unwind (scan : Scan) (column : Int) : Scan := unwindFrom column scan.outer scan

/-- Opens a list or a table at a column, unless one is open there. -/
def openAt (scan : Scan) (column : Nat) (place : Nat) (token : Token) : Scan :=
  if scan.indent < column then
    { scan.insert place token with indent := column, outer := scan.indent :: scan.outer }
  else scan

/-- Passes over white space, comments and line ends.  After a line end a key may begin. -/
def skipGap : (fuel : Nat) → Scan → Scan
  | 0, scan => scan
  | fuel + 1, scan =>
      let cursor := scan.cursor.skipSpaces.skipComment
      match cursor.lineBreak? with
      | some (_, cursor) =>
          skipGap fuel { scan with cursor := cursor, allowsKey := scan.allowsKey || !scan.inFlow }
      | none => { scan with cursor := cursor }

/-- A mark between documents, or a directive: everything that is open closes. -/
def atTopLevel (scan : Scan) : Except ReadFault Scan := do
  let scan ← (scan.unwind (-1)).dropKey
  return { scan with allowsKey := false }

/-- Reads a bracket or brace that opens. -/
def openFlow (scan : Scan) (token : Token) : Except ReadFault Scan := do
  let scan ← scan.saveKey
  return { scan.pushStep 1 token with allowsKey := true, keys := none :: scan.keys }

/-- Reads a bracket or brace that closes; one must be open. -/
def closeFlow (scan : Scan) (token : Token) : Except ReadFault Scan := do
  let scan ← scan.dropKey
  if !scan.inFlow then throw .malformed
  return { scan.pushStep 1 token with allowsKey := false, keys := scan.keys.drop 1 }

/-- Reads the hyphen of a list item. -/
def readItem (scan : Scan) : Except ReadFault Scan := do
  if !scan.inFlow && !scan.allowsKey then throw .malformed
  let opened :=
    if scan.inFlow then scan else scan.openAt scan.cursor.column scan.tokens.size .listIndent
  let scan ← { opened with allowsKey := true }.dropKey
  return scan.pushStep 1 .item

/-- Opens a table for a key or a value that begins at the cursor. -/
def openTable (scan : Scan) : Except ReadFault Scan := do
  if !scan.inFlow && !scan.allowsKey then throw .malformed
  let opened :=
    if scan.inFlow then scan else scan.openAt scan.cursor.column scan.tokens.size .tableIndent
  { opened with allowsKey := !scan.inFlow }.dropKey

/-- Reads the question mark of a key. -/
def readKey (scan : Scan) : Except ReadFault Scan := do
  return (← scan.openTable).pushStep 1 .key

/-- Reads the colon of a value.  Where a key was possible there is one now. -/
def readValue (scan : Scan) : Except ReadFault Scan :=
  match scan.keys with
  | some key :: rest =>
      let keyed := { scan with keys := none :: rest, allowsKey := false }.insert key.place .key
      let opened := if scan.inFlow then keyed else keyed.openAt key.column key.place .tableIndent
      .ok (opened.pushStep 1 .value)
  | _ => do return (← scan.openTable).pushStep 1 .value

/-- Reads a token that may begin a key. -/
def readStart (scan : Scan) (read : Cursor → Except ReadFault (Token × Cursor)) :
    Except ReadFault Scan := do
  let scan ← scan.saveKey
  let (token, cursor) ← read scan.cursor
  return { scan.push token with cursor := cursor, allowsKey := false }

/-- Reads a block of lines. -/
def readBlockScalar (scan : Scan) (folded : Bool) : Except ReadFault Scan := do
  let scan ← { scan with allowsKey := true }.dropKey
  let (content, cursor) ← readBlock folded scan.indent scan.cursor.step
  return { scan.push (.scalar (content.map Char.toNat) false) with cursor := cursor }

/-- Reads a plain scalar. -/
def readPlainScalar (scan : Scan) : Except ReadFault Scan := do
  let scan ← scan.saveKey
  let plain := readPlain scan.inFlow (scan.indent + 1).toNat scan.cursor
  return { scan.push (.scalar (plain.content.map Char.toNat) true) with
    cursor := plain.after
    allowsKey := plain.broken }

/-- A character with which no plain scalar begins. -/
def isIndicator (c : Char) : Bool :=
  isGap c || isFlowMark c ||
    [ '-', '?', ':', '#', '&', '*', '!', '|', '>', '\'', '"', '%', '@', '\x60' ].contains c

/-- A plain scalar may begin at the cursor: some indicators may when no white space follows. -/
def beginsPlain (scan : Scan) (c : Char) : Bool :=
  !isIndicator c ||
    (!isGapOrEnd scan.cursor.second? &&
      (c == '-' || (!scan.inFlow && (c == '?' || c == ':'))))

/-- Reads the next token that begins with a character. -/
def readToken (scan : Scan) (c : Char) : Except ReadFault Scan :=
  let first := scan.cursor.column == 0
  let spaced := isGapOrEnd scan.cursor.second?
  let marked := spaced || scan.inFlow
  if c == '%' && first then do
    let scan ← scan.atTopLevel
    let (token, cursor) ← readDirective scan.cursor
    return { scan.push token with cursor := cursor }
  else if first && scan.cursor.isAtMark '-' then do
    return (← scan.atTopLevel).pushStep 3 .documentStart
  else if first && scan.cursor.isAtMark '.' then do
    return (← scan.atTopLevel).pushStep 3 .documentEnd
  else if c == '[' then scan.openFlow .listStart
  else if c == '\x7b' then scan.openFlow .tableStart
  else if c == ']' then scan.closeFlow .listEnd
  else if c == '\x7d' then scan.closeFlow .tableEnd
  else if c == ',' then do
    return (← { scan with allowsKey := true }.dropKey).pushStep 1 .comma
  else if c == '-' && spaced then scan.readItem
  else if c == '?' && marked then scan.readKey
  else if c == ':' && marked then scan.readValue
  else if c == '*' then
    scan.readStart fun cursor => (readName cursor).map fun read => (.alias read.1, read.2)
  else if c == '&' then
    scan.readStart fun cursor => (readName cursor).map fun read => (.anchor read.1, read.2)
  else if c == '!' then scan.readStart readTag
  else if c == '|' && !scan.inFlow then scan.readBlockScalar false
  else if c == '>' && !scan.inFlow then scan.readBlockScalar true
  else if c == '\'' || c == '"' then
    scan.readStart fun cursor => (readQuoted c cursor).map fun read => (.scalar read.1 false, read.2)
  else if scan.beginsPlain c then scan.readPlainScalar
  else .error .malformed

/-- Reads the next token, and those that indentation puts before it. -/
def next (scan : Scan) : Except ReadFault Scan := do
  let marked := scan.cursor.index == 0 && scan.cursor.isAt orderMark
  let start := if marked then { scan with cursor := scan.cursor.step } else scan
  let scan ← (skipGap (start.cursor.rest.length + 1) start).dropStale
  let scan := scan.unwind scan.cursor.column
  match scan.cursor.next? with
  | none => return { (← scan.atTopLevel).push .finish with finished := true }
  | some c => scan.readToken c

/-- The tokens that are settled: what may be a key may still get tokens before it. -/
def settled (scan : Scan) : List Token :=
  let places := scan.keys.filterMap fun key => key.map (·.place)
  scan.tokens.toList.take (places.foldl min scan.tokens.size)

/-- The tokens before a fault and the fault itself, which is another one when a key is missing. -/
def stop (scan : Scan) (fault : ReadFault) : List Token × Option ReadFault :=
  match scan.dropStale with
  | .ok scan => (scan.settled, some fault)
  | .error missing => (scan.settled, some missing)

/-- Reads all tokens, up to the first fault. -/
def run : (fuel : Nat) → Scan → List Token × Option ReadFault
  | 0, scan => (scan.settled, some .malformed)
  | fuel + 1, scan =>
      if scan.finished then (scan.tokens.toList, none)
      else
        match scan.next with
        | .ok scan => run fuel scan
        | .error fault => scan.stop fault

end Scan

/-- The tokens of a text, up to the first fault. -/
def tokens (text : String) : List Token × Option ReadFault :=
  let input := text.toList
  if input.all isPrintable then
    Scan.run (input.length + 2) { cursor := { rest := input } }
  else ([], some .malformed)

end ScopeAtlas.Data.Yaml
