import ScopeAtlas.Data.Json

/-!
# TOML

A document is a list of statements: table headers, headers of list items, and
entries.  A key that an inline value has filled is frozen with all that lies
below it, a table is opened by a header at most once, and the tables that dotted
keys run through count as opened from the next header on.  A document that breaks
a rule is refused as a whole.
-/

namespace ScopeAtlas.Data.Toml

open ScopeAtlas.Data.Json (hexValue? isDigit numberOf dropWord?)

/-- White space within a line. -/
def isSpace (c : Char) : Bool := c == ' ' || c == '\t'

/-- Drops white space. -/
def skipSpace (input : List Char) : List Char := input.dropWhile isSpace

/-- A control character other than the tab, not allowed in strings and comments. -/
def isControl (c : Char) : Bool := (c.toNat < 0x20 && c != '\t') || c.toNat == 0x7F

/-- A control character that is not allowed in strings of several lines. -/
def isControlInRows (c : Char) : Bool := isControl c && c != '\n'

/-- A character of a key that needs no quotes. -/
def isBareKeyChar (c : Char) : Bool :=
  ('a' ≤ c && c ≤ 'z') || ('A' ≤ c && c ≤ 'Z') || isDigit c || c == '-' || c == '_'

/-- Drops a comment up to the line feed that ends it. -/
def skipComment : List Char → Option (List Char)
  | '#' :: rest =>
      if (rest.takeWhile (· != '\n')).any isControl then none else some (rest.dropWhile (· != '\n'))
  | input => some input

/-! ## Strings -/

/-- The number that hexadecimal digits write. -/
def hexNumber? (digits : List Char) : Option Nat :=
  digits.foldl (fun number digit => do return (← number) * 16 + (← hexValue? digit)) (some 0)

/-- The character of a code point, if it has one. -/
def scalar? (point : Nat) : Option Char :=
  if point < 0xD800 || (0xE000 ≤ point && point < 0x110000) then some (Char.ofNat point) else none

/-- The character that a one-letter escape stands for. -/
def simpleEscape? (c : Char) : Option Char :=
  if c == 'b' then some '\x08'
  else if c == 't' then some '\t'
  else if c == 'n' then some '\n'
  else if c == 'f' then some '\x0c'
  else if c == 'r' then some '\r'
  else if c == '"' then some '"'
  else if c == '\\' then some '\\'
  else none

/-- Reads a coded character of `size` hexadecimal digits. -/
def readPoint (size : Nat) (input : List Char) : Option (Char × List Char) :=
  let digits := input.take size
  if digits.length < size then none
  else ((hexNumber? digits).bind scalar?).map fun c => (c, input.drop size)

/-- What follows an escape that joins lines: white space up to a line feed, and then all white
space of the lines below. -/
def joinLines (input : List Char) : Option (List Char) :=
  let skipRows := List.dropWhile fun c => isSpace c || c == '\n'
  match skipSpace input with
  | [] => some []
  | '\n' :: rest => some (skipRows rest)
  | _ => none

/-- Reads the rest of a string with escapes.  `seen` holds the characters read so far, latest
first, and the length of the input is enough `fuel`. -/
def readBasic (rows : Bool) : (fuel : Nat) → List Char → List Char →
    Option (List Char × List Char)
  | 0, _, _ => none
  | fuel + 1, seen, input =>
      match input with
      | [] => none
      | '"' :: rest =>
          if !rows then some (seen.reverse, rest)
          else match rest with
            | '"' :: '"' :: after => some (seen.reverse, after)
            | _ => readBasic rows fuel ('"' :: seen) rest
      | '\\' :: c :: rest =>
          if rows && (isSpace c || c == '\n') then
            match joinLines (c :: rest) with
            | some rest => readBasic rows fuel seen rest
            | none => none
          else if c == 'u' || c == 'U' then
            match readPoint (if c == 'u' then 4 else 8) rest with
            | some (point, rest) => readBasic rows fuel (point :: seen) rest
            | none => none
          else
            match simpleEscape? c with
            | some escaped => readBasic rows fuel (escaped :: seen) rest
            | none => none
      | c :: rest =>
          if c == '\\' || (if rows then isControlInRows c else isControl c) then none
          else readBasic rows fuel (c :: seen) rest

/-- Reads the rest of a one-line string with escapes. -/
def readQuoted (input : List Char) : Option (String × List Char) :=
  (readBasic false (input.length + 1) [] input).map fun read => (String.ofList read.1, read.2)

/-- Reads the rest of a one-line string without escapes. -/
def readLiteral (input : List Char) : Option (String × List Char) :=
  let content := input.takeWhile (· != '\'')
  match input.dropWhile (· != '\'') with
  | _ :: rest => if content.any isControl then none else some (String.ofList content, rest)
  | [] => none

/-- Reads the rest of a string of several lines without escapes. -/
def readLiteralRows : List Char → Option (List Char × List Char)
  | [] => none
  | '\'' :: '\'' :: '\'' :: rest => some ([], rest)
  | c :: rest =>
      if isControlInRows c then none
      else (readLiteralRows rest).map fun read => (c :: read.1, read.2)

/-- Up to two quotes may stand directly before the three that end a string of several lines. -/
def closeRows (mark : Char) (read : List Char × List Char) : String × List Char :=
  match read.2 with
  | a :: b :: rest =>
      if a == mark && b == mark then (String.ofList (read.1 ++ [mark, mark]), rest)
      else if a == mark then (String.ofList (read.1 ++ [mark]), b :: rest)
      else (String.ofList read.1, read.2)
  | [a] => if a == mark then (String.ofList (read.1 ++ [mark]), []) else (String.ofList read.1, [a])
  | [] => (String.ofList read.1, [])

/-- A line feed directly after the opening quotes is dropped. -/
def dropFirstLineFeed : List Char → List Char
  | '\n' :: rest => rest
  | input => input

/-- Reads a string that begins at the first character. -/
def readString : List Char → Option (String × List Char)
  | '"' :: '"' :: '"' :: rest =>
      let input := dropFirstLineFeed rest
      (readBasic true (input.length + 1) [] input).map (closeRows '"')
  | '"' :: rest => readQuoted rest
  | '\'' :: '\'' :: '\'' :: rest => (readLiteralRows (dropFirstLineFeed rest)).map (closeRows '\'')
  | '\'' :: rest => readLiteral rest
  | _ => none

/-! ## Keys -/

/-- Reads one part of a key. -/
def readKeyPart : List Char → Option (String × List Char)
  | '"' :: rest => readQuoted rest
  | '\'' :: rest => readLiteral rest
  | input =>
      let bare := input.takeWhile isBareKeyChar
      if bare.isEmpty then none else some (String.ofList bare, input.dropWhile isBareKeyChar)

/-- Reads a key, and the white space after it. -/
def readKey : (fuel : Nat) → List Char → Option (List String × List Char)
  | 0, _ => none
  | fuel + 1, input =>
      match readKeyPart input with
      | none => none
      | some (part, rest) =>
          match skipSpace rest with
          | '.' :: after =>
              (readKey fuel (skipSpace after)).map fun read => (part :: read.1, read.2)
          | rest => some ([part], rest)

/-! ## Scalars -/

/-- Reads digits, with single underscores between them. -/
def readDigits (digit : Char → Bool) : List Char → List Char × List Char
  | '_' :: c :: rest =>
      if digit c then
        let read := readDigits digit rest
        (c :: read.1, read.2)
      else ([], '_' :: c :: rest)
  | c :: rest =>
      if digit c then
        let read := readDigits digit rest
        (c :: read.1, read.2)
      else ([], c :: rest)
  | [] => ([], [])

/-- Reads at least one digit, the first without an underscore before it. -/
def readDigits? (digit : Char → Bool) : List Char → Option (List Char × List Char)
  | c :: rest =>
      if digit c then
        let read := readDigits digit rest
        some (c :: read.1, read.2)
      else none
  | [] => none

/-- The number that digits write in a base. -/
def numberInBase (base : Nat) (digits : List Char) : Nat :=
  digits.foldl (fun number digit => number * base + (hexValue? digit).getD 0) 0

/-- Reads an integer whose base is marked. -/
def readMarked : List Char → Option (Value × List Char)
  | '0' :: 'x' :: rest =>
      (readDigits? (fun c => (hexValue? c).isSome) rest).map fun read =>
        (.int (numberInBase 16 read.1), read.2)
  | '0' :: 'b' :: rest =>
      (readDigits? (fun c => c == '0' || c == '1') rest).map fun read =>
        (.int (numberInBase 2 read.1), read.2)
  | '0' :: 'o' :: rest =>
      (readDigits? (fun c => '0' ≤ c && c ≤ '7') rest).map fun read =>
        (.int (numberInBase 8 read.1), read.2)
  | _ => none

/-- Reads a sign: whether it is a minus, and the rest. -/
def readSign : List Char → Bool × List Char
  | '-' :: rest => (true, rest)
  | '+' :: rest => (false, rest)
  | input => (false, input)

/-- Reads a decimal number, if there is one. -/
def readDecimal? (input : List Char) : Option (Except ReadFault (Value × List Char)) :=
  let signed := readSign input
  let whole : Option (List Char × List Char) :=
    match signed.2 with
    | '0' :: rest => some (['0'], rest)
    | rest => readDigits? isDigit rest
  whole.map fun whole =>
    let fraction : List Char × List Char :=
      match whole.2 with
      | '.' :: rest => (readDigits? isDigit rest).getD ([], whole.2)
      | rest => ([], rest)
    let exponent : Option Int × List Char :=
      match fraction.2 with
      | e :: rest =>
          if e == 'e' || e == 'E' then
            let sign := readSign rest
            match readDigits? isDigit sign.2 with
            | some read =>
                let size : Int := numberOf read.1
                (some (if sign.1 then -size else size), read.2)
            | none => (none, fraction.2)
          else (none, fraction.2)
      | [] => (none, [])
    if fraction.1.isEmpty && exponent.1.isNone then
      if mostDigits < whole.1.length then .error .valueRefused
      else
        let number : Int := numberOf whole.1
        .ok (.int (if signed.1 then -number else number), whole.2)
    else
      .ok (.real (.finite signed.1 (numberOf (whole.1 ++ fraction.1))
        (exponent.1.getD 0 - fraction.1.length)), exponent.2)

/-- Reads `count` digits as a number in a range. -/
def readField (count low high : Nat) (input : List Char) : Option (Nat × List Char) :=
  let digits := input.take count
  let number := numberOf digits
  if digits.length == count && digits.all isDigit && low ≤ number && number ≤ high then
    some (number, input.drop count)
  else none

/-- Drops one given character. -/
def dropMark? (mark : Char) : List Char → Option (List Char)
  | c :: rest => if c == mark then some rest else none
  | [] => none

/-- The microseconds that the digits of a fraction write; further digits are passed over. -/
def microseconds (digits : List Char) : Nat :=
  let kept := digits.take 6
  numberOf (kept ++ List.replicate (6 - kept.length) '0')

/-- Reads a time of day. -/
def readTime (input : List Char) : Option (Clock × List Char) := do
  let (hour, rest) ← readField 2 0 23 input
  let (minute, rest) ← readField 2 0 59 (← dropMark? ':' rest)
  let (second, rest) ← readField 2 0 59 (← dropMark? ':' rest)
  let clock : Clock := { hour := hour, minute := minute, second := second }
  match rest with
  | '.' :: c :: after =>
      if isDigit c then
        let digits := c :: after.takeWhile isDigit
        return ({ clock with microsecond := microseconds digits }, after.dropWhile isDigit)
      else return (clock, rest)
  | _ => return (clock, rest)

/-- Reads a distance from universal time in minutes, if there is one. -/
def readZone (input : List Char) : Option Int × List Char :=
  match input with
  | 'Z' :: rest => (some 0, rest)
  | 'z' :: rest => (some 0, rest)
  | sign :: rest =>
      if sign == '+' || sign == '-' then
        let zone : Option (Option Int × List Char) := do
          let (hours, rest) ← readField 2 0 23 rest
          let (minutes, rest) ← readField 2 0 59 (← dropMark? ':' rest)
          let distance : Int := (hours * 60 + minutes : Nat)
          return (some (if sign == '-' then -distance else distance), rest)
        zone.getD (none, input)
      else (none, input)
  | [] => (none, [])

/-- Reads a date, with the time of day that may follow it. -/
def readDate (input : List Char) : Option (Moment × List Char) := do
  let (year, rest) ← readField 4 0 9999 input
  let (month, rest) ← readField 2 1 12 (← dropMark? '-' rest)
  let (number, rest) ← readField 2 1 31 (← dropMark? '-' rest)
  let day : Day := { year := year, month := month, day := number }
  match rest with
  | c :: after =>
      if c == 'T' || c == 't' || c == ' ' then
        match readTime after with
        | some (clock, rest) =>
            let zone := readZone rest
            return (.instant day clock zone.1, zone.2)
        | none => return (.date day, rest)
      else return (.date day, rest)
  | [] => return (.date day, [])

/-- The calendar has the day of a moment. -/
def hasDay : Moment → Bool
  | .date day => day.isValid
  | .instant day _ _ => day.isValid
  | .time _ => true

/-- Reads a word that stands for a value. -/
def readWord (words : List (String × Value)) (input : List Char) : Option (Value × List Char) :=
  words.findSome? fun entry => (dropWord? entry.1 input).map fun rest => (entry.2, rest)

/-- Reads a number, a date or a time. -/
def readScalar (input : List Char) : Except ReadFault (Value × List Char) :=
  match readDate input with
  | some (moment, rest) =>
      if hasDay moment then .ok (.moment moment, rest) else .error .malformed
  | none =>
      match readTime input with
      | some (clock, rest) => .ok (.moment (.time clock), rest)
      | none =>
          match readMarked input with
          | some read => .ok read
          | none =>
              match readDecimal? input with
              | some read => read
              | none => orMalformed (readWord
                  [("inf", .real (.infinite false)), ("nan", .real .notANumber),
                    ("-inf", .real (.infinite true)), ("+inf", .real (.infinite false)),
                    ("-nan", .real .notANumber), ("+nan", .real .notANumber)] input)

/-! ## Tables -/

/-- Changes the entries of the table under a key, creating the tables on the way.  With `lists`, a
list stands for its last item.  Nothing results when a value on the way is no table. -/
def change? (lists : Bool)
    (change : List (String × Value) → Option (List (String × Value))) :
    List String → List (String × Value) → Option (List (String × Value))
  | [], entries => change entries
  | part :: rest, entries =>
      match entries.lookup part with
      | none =>
          (change? lists change rest []).map fun inner => putEntry part (.table inner) entries
      | some (.table inner) =>
          (change? lists change rest inner).map fun inner => putEntry part (.table inner) entries
      | some (.list items) =>
          match lists, items.getLast? with
          | true, some (.table inner) =>
              (change? lists change rest inner).map fun inner =>
                putEntry part (.list (items.dropLast ++ [.table inner])) entries
          | _, _ => none
      | some _ => none

/-- Adds an entry whose key must be new. -/
def addNew (key : String) (value : Value) (entries : List (String × Value)) :
    Option (List (String × Value)) :=
  if (entries.lookup key).isSome then none else some (entries ++ [(key, value)])

/-- Adds an empty item to a list of tables, which may be new. -/
def addItem (key : String) (entries : List (String × Value)) : Option (List (String × Value)) :=
  match entries.lookup key with
  | none => some (entries ++ [(key, .list [.table []])])
  | some (.list items) => some (putEntry key (.list (items ++ [.table []])) entries)
  | some _ => none

/-- The value fills its key for good: it is a list or a table. -/
def isContainer : Value → Bool
  | .list _ | .table _ => true
  | _ => false

/-- The key or one that it lies below is among the frozen ones. -/
def isFrozen (frozen : List (List String)) (key : List String) : Bool :=
  frozen.any fun start => start.isPrefixOf key

/-- The entries of a table after a key, in parts, was given a value inside braces. -/
def addInline (frozen : List (List String)) (key : List String) (value : Value)
    (entries : List (String × Value)) : Option (List (String × Value)) :=
  match key.getLast? with
  | none => none
  | some last =>
      if isFrozen frozen key then none
      else change? false (addNew last value) key.dropLast entries

/-- Drops white space, line feeds and comments. -/
def skipRows : (fuel : Nat) → List Char → Option (List Char)
  | 0, _ => none
  | fuel + 1, input =>
      match input.dropWhile (fun c => isSpace c || c == '\n') with
      | '#' :: rest =>
          match skipComment ('#' :: rest) with
          | some rest => skipRows fuel rest
          | none => none
      | rest => some rest

mutual
/-- Reads a value.  `fuel` bounds the nesting and the number of items, and the length of the input
is enough. -/
def readValue : (fuel : Nat) → List Char → Except ReadFault (Value × List Char)
  | 0, _ => .error .malformed
  | fuel + 1, input =>
      match input with
      | '[' :: rest =>
          match skipRows (rest.length + 1) rest with
          | some (']' :: after) => .ok (.list [], after)
          | some rest => readItems fuel [] rest
          | none => .error .malformed
      | '\x7b' :: rest =>
          match skipSpace rest with
          | '\x7d' :: after => .ok (.table [], after)
          | rest => readInline fuel [] [] rest
      | '"' :: _ => (orMalformed (readString input)).map fun read => (.text read.1, read.2)
      | '\'' :: _ => (orMalformed (readString input)).map fun read => (.text read.1, read.2)
      | _ =>
          match readWord [("true", .bool true), ("false", .bool false)] input with
          | some read => .ok read
          | none => readScalar input

/-- Reads the items of a list, of which `seen` have been read, latest first. -/
def readItems : (fuel : Nat) → List Value → List Char → Except ReadFault (Value × List Char)
  | 0, _, _ => .error .malformed
  | fuel + 1, seen, input =>
      match readValue fuel input with
      | .error fault => .error fault
      | .ok (value, rest) =>
          match skipRows (rest.length + 1) rest with
          | some (']' :: after) => .ok (.list (value :: seen).reverse, after)
          | some (',' :: rest) =>
              match skipRows (rest.length + 1) rest with
              | some (']' :: after) => .ok (.list (value :: seen).reverse, after)
              | some rest => readItems fuel (value :: seen) rest
              | none => .error .malformed
          | _ => .error .malformed

/-- Reads the entries between braces, of which `seen` have been read. -/
def readInline : (fuel : Nat) → List (List String) → List (String × Value) → List Char →
    Except ReadFault (Value × List Char)
  | 0, _, _, _ => .error .malformed
  | fuel + 1, frozen, seen, input =>
      match readEntry fuel input with
      | .error fault => .error fault
      | .ok (key, value, rest) =>
          match addInline frozen key value seen with
          | none => .error .malformed
          | some seen =>
              match skipSpace rest with
              | '\x7d' :: after => .ok (.table seen, after)
              | ',' :: rest =>
                  readInline fuel (if isContainer value then key :: frozen else frozen) seen
                    (skipSpace rest)
              | _ => .error .malformed

/-- Reads a key and its value. -/
def readEntry : (fuel : Nat) → List Char → Except ReadFault (List String × Value × List Char)
  | 0, _ => .error .malformed
  | fuel + 1, input =>
      match readKey (input.length + 1) input with
      | some (key, '=' :: rest) =>
          (readValue fuel (skipSpace rest)).map fun read => (key, read.1, read.2)
      | _ => .error .malformed
end

/-! ## Documents -/

/-- A document that has been read in part. -/
structure Document where
  entries : List (String × Value) := []
  /-- The table to which entries belong. -/
  header : List String := []
  /-- Keys that an inline value has filled. -/
  frozen : List (List String) := []
  /-- Keys of the tables that cannot be opened again. -/
  opened : List (List String) := []
  /-- Keys that are to be opened at the next header. -/
  pending : List (List String) := []

namespace Document

/-- Opens a table under a header. -/
def openTable (document : Document) (key : List String) : Option Document :=
  let opened := document.pending ++ document.opened
  if opened.contains key || isFrozen document.frozen key then none
  else
    (change? true some key document.entries).map fun entries =>
      { document with entries := entries, header := key, opened := key :: opened, pending := [] }

/-- Opens a new item of a list of tables under a header.  What lies below the key is free again. -/
def openItem (document : Document) (key : List String) : Option Document :=
  match key.getLast? with
  | none => none
  | some last =>
      let opened := document.pending ++ document.opened
      if isFrozen document.frozen key then none
      else
        (change? true (addItem last) key.dropLast document.entries).map fun entries =>
          { entries := entries
            header := key
            frozen := document.frozen.filter fun other => !key.isPrefixOf other
            opened := key :: opened.filter fun other => !key.isPrefixOf other
            pending := [] }

/-- The tables that a key of several parts runs through, from the header on. -/
def passedTables (document : Document) (key : List String) : List (List String) :=
  (List.range key.length).filterMap fun count =>
    if count == 0 then none else some (document.header ++ key.take count)

/-- Adds an entry to the table of the last header. -/
def add (document : Document) (key : List String) (value : Value) : Option Document :=
  match key.getLast? with
  | none => none
  | some last =>
      let passed := document.passedTables key
      let parent := document.header ++ key.dropLast
      if passed.any document.opened.contains || isFrozen document.frozen parent then none
      else
        (change? true (addNew last value) parent document.entries).map fun entries =>
          { document with
            entries := entries
            pending := document.pending ++ passed
            frozen :=
              if isContainer value then (document.header ++ key) :: document.frozen
              else document.frozen }

end Document

/-- Reads one statement that begins at the first character. -/
def readStatement (document : Document) (input : List Char) :
    Except ReadFault (Document × List Char) :=
  match input with
  | '#' :: _ => .ok (document, input)
  | '[' :: '[' :: rest =>
      match readKey (rest.length + 1) (skipSpace rest) with
      | some (key, ']' :: ']' :: rest) =>
          (orMalformed (document.openItem key)).map fun document => (document, skipSpace rest)
      | _ => .error .malformed
  | '[' :: rest =>
      match readKey (rest.length + 1) (skipSpace rest) with
      | some (key, ']' :: rest) =>
          (orMalformed (document.openTable key)).map fun document => (document, skipSpace rest)
      | _ => .error .malformed
  | _ =>
      match readEntry (input.length + 1) input with
      | .ok (key, value, rest) =>
          (orMalformed (document.add key value)).map fun document => (document, skipSpace rest)
      | .error fault => .error fault

/-- Reads the statements of a document, each on a line of its own. -/
def readStatements : (fuel : Nat) → Document → List Char → Except ReadFault Document
  | 0, _, _ => .error .malformed
  | fuel + 1, document, input =>
      match skipSpace input with
      | [] => .ok document
      | '\n' :: rest => readStatements fuel document rest
      | input =>
          match readStatement document input with
          | .error fault => .error fault
          | .ok (document, rest) =>
              match skipComment rest with
              | some [] => .ok document
              | some ('\n' :: rest) => readStatements fuel document rest
              | _ => .error .malformed

/-- Reads a document, where a malformed text holds none.  Other faults remain. -/
def parse? (text : String) : Except ReadFault (Option (List (String × Value))) :=
  let input := text.toList
  match readStatements (input.length + 1) {} input with
  | .ok document => .ok (some document.entries)
  | .error .malformed => .ok none
  | .error fault => .error fault

end ScopeAtlas.Data.Toml
