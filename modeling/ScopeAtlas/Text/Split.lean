/-!
# Cutting texts at separators

All functions look for a fixed, non-empty separator.  The functions on character
lists are structural, so each has a short description by cases; the functions on
strings only convert.
-/

namespace ScopeAtlas.Text

/-- The parts before and after the first occurrence of a separator. -/
def cutFirstChars (separator : List Char) : List Char → Option (List Char × List Char)
  | [] => none
  | c :: rest =>
      if separator.isPrefixOf (c :: rest) then some ([], (c :: rest).drop separator.length)
      else (cutFirstChars separator rest).map fun parts => (c :: parts.1, parts.2)

/-- The parts before and after the last occurrence of a separator. -/
def cutLastChars (separator : List Char) : List Char → Option (List Char × List Char)
  | [] => none
  | c :: rest =>
      match cutLastChars separator rest with
      | some parts => some (c :: parts.1, parts.2)
      | none =>
          if separator.isPrefixOf (c :: rest) then some ([], (c :: rest).drop separator.length)
          else none

/-- Puts a character in front of the first piece. -/
def prependChar (c : Char) : List (List Char) → List (List Char)
  | [] => [[c]]
  | piece :: pieces => (c :: piece) :: pieces

/-- The pieces between the occurrences of a separator, found from the left without overlap.
`skip` counts the characters of the current occurrence that are still to be passed. -/
def splitFrom (separator : List Char) : (skip : Nat) → List Char → List (List Char)
  | _, [] => [[]]
  | skip + 1, _ :: rest => splitFrom separator skip rest
  | 0, c :: rest =>
      if separator.isPrefixOf (c :: rest) then
        [] :: splitFrom separator (separator.length - 1) rest
      else prependChar c (splitFrom separator 0 rest)

/-- The pieces of a text between the occurrences of a separator. -/
def splitChars (separator text : List Char) : List (List Char) := splitFrom separator 0 text

/-- The pieces of a text between the occurrences of a separator; never empty. -/
def split (separator text : String) : List String :=
  (splitChars separator.toList text.toList).map String.ofList

/-- The parts before and after the first occurrence of a separator. -/
def cutFirst? (separator text : String) : Option (String × String) :=
  (cutFirstChars separator.toList text.toList).map fun parts =>
    (String.ofList parts.1, String.ofList parts.2)

/-- The parts before and after the last occurrence of a separator. -/
def cutLast? (separator text : String) : Option (String × String) :=
  (cutLastChars separator.toList text.toList).map fun parts =>
    (String.ofList parts.1, String.ofList parts.2)

/-- What stands before the first occurrence of a separator, or the whole text. -/
def beforeFirst (separator text : String) : String :=
  match cutFirst? separator text with
  | some parts => parts.1
  | none => text

/-- What stands after the last occurrence of a separator, or the whole text. -/
def afterLast (separator text : String) : String :=
  match cutLast? separator text with
  | some parts => parts.2
  | none => text

/-- What stands before the last occurrence of a separator, or the whole text. -/
def beforeLast (separator text : String) : String :=
  match cutLast? separator text with
  | some parts => parts.1
  | none => text

/-- The separator occurs in the text. -/
def contains (separator text : String) : Bool := (cutFirst? separator text).isSome

/-- The text begins with `start`. -/
def startsWith (start text : String) : Bool := start.toList.isPrefixOf text.toList

/-- The text ends with `ending`. -/
def endsWith (ending text : String) : Bool := ending.toList.isSuffixOf text.toList

/-- The text begins with one of the given texts. -/
def startsWithAny (starts : List String) (text : String) : Bool := starts.any (startsWith · text)

/-- Drops the first `count` characters. -/
def dropChars (count : Nat) (text : String) : String := String.ofList (text.toList.drop count)

/-- Drops the last `count` characters. -/
def dropRightChars (count : Nat) (text : String) : String :=
  String.ofList (text.toList.take (text.toList.length - count))

/-- Drops `start` from the front when it is there. -/
def dropStart (start text : String) : String :=
  if startsWith start text then dropChars start.length text else text

/-- Drops `ending` from the back when it is there. -/
def dropEnd (ending text : String) : String :=
  if endsWith ending text then dropRightChars ending.length text else text

/-- Drops the first and the last character. -/
def dropEnds (text : String) : String := dropRightChars 1 (dropChars 1 text)

/-- Writes `new` for every occurrence of `old`. -/
def replaceAll (old new text : String) : String := String.intercalate new (split old text)

/-- Writes `new` for the first occurrence of `old`. -/
def replaceFirst (old new text : String) : String :=
  match cutFirst? old text with
  | some parts => parts.1 ++ new ++ parts.2
  | none => text

end ScopeAtlas.Text
