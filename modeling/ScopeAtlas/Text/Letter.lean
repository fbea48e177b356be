import ScopeAtlas.Text.CaseTable

/-!
# Letters, digits and case

Character classes and case mappings over the whole character set, and the
corresponding tests on texts.
-/

namespace ScopeAtlas.Text

/-- A capital letter. -/
def isUppercase (c : Char) : Bool := covered uppercaseRuns c.toNat

/-- A small letter. -/
def isLowercase (c : Char) : Bool := covered lowercaseRuns c.toNat

/-- A titlecase digraph. -/
def isTitlecase (c : Char) : Bool := covered titlecaseRuns c.toNat

/-- A character with case. -/
def isCased (c : Char) : Bool := isUppercase c || isLowercase c || isTitlecase c

/-- A character that stands for one digit. -/
def isDigitChar (c : Char) : Bool := covered digitRuns c.toNat

/-- A letter or a character with a numeric value. -/
def isAlphanumeric (c : Char) : Bool := covered alphanumericRuns c.toNat

/-- A character of a word: alphanumeric or the underscore. -/
def isWordChar (c : Char) : Bool := c == '_' || isAlphanumeric c

/-- Some character is a capital letter, and none is a small letter or a titlecase digraph. -/
def allCapitals (text : String) : Bool :=
  text.toList.any isUppercase &&
    text.toList.all fun c => !(isLowercase c || isTitlecase c)

/-- The text begins with a capital letter. -/
def startsCapital (text : String) : Bool :=
  match text.toList with
  | [] => false
  | c :: _ => isUppercase c

/-- The text is not empty and all its characters are alphanumeric. -/
def allAlphanumeric (text : String) : Bool :=
  !text.isEmpty && text.toList.all isAlphanumeric

/-- The text is not empty and all its characters are digits. -/
def allDigits (text : String) : Bool :=
  !text.isEmpty && text.toList.all isDigitChar

/-- The capital form of one character, a sequence for some. -/
def upperChar (c : Char) : List Char :=
  match upperSequences.lookup c.toNat with
  | some image => image.map Char.ofNat
  | none => [Char.ofNat (caseImage upperRuns c.toNat)]

/-- Capitals throughout. -/
def upper (text : String) : String := String.ofList (text.toList.flatMap upperChar)

/-- The small form of one character that is not a capital sigma. -/
def lowerChar (c : Char) : List Char :=
  match lowerSequences.lookup c.toNat with
  | some image => image.map Char.ofNat
  | none => [Char.ofNat (caseImage lowerRuns c.toNat)]

/-- The first character that is not ignored in case decisions has case. -/
def meetsCased : List Char → Bool
  | [] => false
  | c :: rest => if covered caseIgnorableRuns c.toNat then meetsCased rest else isCased c

/-- Small letters throughout.  A capital sigma that ends a word has a form of its own; `before`
holds the characters already passed, nearest first. -/
def lowerFrom (before : List Char) : List Char → List Char
  | [] => []
  | c :: rest =>
      let image :=
        if c.toNat == 0x3A3 then
          [Char.ofNat (if meetsCased before && !meetsCased rest then 0x3C2 else 0x3C3)]
        else lowerChar c
      image ++ lowerFrom (c :: before) rest

/-- Small letters throughout. -/
def lower (text : String) : String := String.ofList (lowerFrom [] text.toList)

end ScopeAtlas.Text
