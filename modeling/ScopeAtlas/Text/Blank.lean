/-!
# Blank characters

The blank characters are the white space of the Unicode standard together with
the four information separators.  Trimming and splitting into words use this
class unless a set of characters is given.
-/

namespace ScopeAtlas.Text

/-- White space, including the information separators. -/
def isBlank (c : Char) : Bool :=
  let n := c.toNat
  (0x09 ≤ n && n ≤ 0x0D) || (0x1C ≤ n && n ≤ 0x20) || n == 0x85 || n == 0xA0 || n == 0x1680 ||
    (0x2000 ≤ n && n ≤ 0x200A) || n == 0x2028 || n == 0x2029 || n == 0x202F || n == 0x205F ||
    n == 0x3000

/-- Drops the characters of a class from the front. -/
def trimLeftWhile (drop : Char → Bool) (text : String) : String :=
  String.ofList (text.toList.dropWhile drop)

/-- Drops the characters of a class from the back. -/
def trimRightWhile (drop : Char → Bool) (text : String) : String :=
  String.ofList (text.toList.reverse.dropWhile drop).reverse

/-- Drops the characters of a class from both ends. -/
def trimWhile (drop : Char → Bool) (text : String) : String :=
  trimRightWhile drop (trimLeftWhile drop text)

/-- Drops blank characters from both ends. -/
def trim (text : String) : String := trimWhile isBlank text

/-- Membership in a set of characters written as a string. -/
def oneOf (set : String) (c : Char) : Bool := set.toList.contains c

/-- Drops the characters of `set` from both ends. -/
def trimOf (set text : String) : String := trimWhile (oneOf set) text

/-- Drops the characters of `set` from the front. -/
def trimLeftOf (set text : String) : String := trimLeftWhile (oneOf set) text

/-- Drops the characters of `set` from the back. -/
def trimRightOf (set text : String) : String := trimRightWhile (oneOf set) text

/-- The maximal runs of non-blank characters; `word` collects the current one backwards. -/
def wordsFrom (word : List Char) : List Char → List (List Char)
  | [] => if word.isEmpty then [] else [word.reverse]
  | c :: rest =>
      if isBlank c then
        if word.isEmpty then wordsFrom [] rest else word.reverse :: wordsFrom [] rest
      else wordsFrom (c :: word) rest

/-- The words of a text: its maximal runs of non-blank characters. -/
def words (text : String) : List String :=
  (wordsFrom [] text.toList).map String.ofList

/-- Words separated by single spaces. -/
def squeeze (text : String) : String :=
  String.intercalate " " (words text)

end ScopeAtlas.Text
