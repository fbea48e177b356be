import ScopeAtlas.Text.Blank

/-!
# JSON with comments

Settings files are written as JSON with line comments, block comments and commas
after the last item.  Comments are removed outside strings; a quote that is never
closed begins no string, and an opening mark without its closing mark begins no
comment.  Afterwards every comma that stands before a closing bracket is removed,
wherever it stands.
-/

namespace ScopeAtlas.Data.JsonComments

open ScopeAtlas.Text

/-- The rest of a string after its opening quote, up to and with its closing quote, and what
follows it. -/
def cutString? : List Char → Option (List Char × List Char)
  | [] => none
  | '"' :: rest => some (['"'], rest)
  | '\\' :: c :: rest => (cutString? rest).map fun parts => ('\\' :: c :: parts.1, parts.2)
  | c :: rest =>
      if c == '\\' then none else (cutString? rest).map fun parts => (c :: parts.1, parts.2)

/-- What follows the end of a block comment. -/
def afterBlock? : List Char → Option (List Char)
  | [] => none
  | '*' :: '/' :: rest => some rest
  | _ :: rest => afterBlock? rest

/-- The text without comments.  The length of the text is enough `fuel`. -/
def withoutComments : (fuel : Nat) → List Char → List Char
  | 0, _ => []
  | fuel + 1, text =>
      match text with
      | [] => []
      | '"' :: rest =>
          match cutString? rest with
          | some (content, after) => '"' :: content ++ withoutComments fuel after
          | none => '"' :: withoutComments fuel rest
      | '/' :: '/' :: rest => withoutComments fuel (rest.dropWhile (· != '\n'))
      | '/' :: '*' :: rest =>
          match afterBlock? rest with
          | some after => withoutComments fuel after
          | none => '/' :: withoutComments fuel ('*' :: rest)
      | c :: rest => c :: withoutComments fuel rest

/-- The next character that is not blank is a closing bracket. -/
def closesNext (text : List Char) : Bool :=
  match text.dropWhile isBlank with
  | c :: _ => c == ']' || c == '\x7d'
  | [] => false

/-- The text without commas before closing brackets. -/
def withoutTrailingCommas : List Char → List Char
  | [] => []
  | c :: rest =>
      if c == ',' && closesNext rest then withoutTrailingCommas rest
      else c :: withoutTrailingCommas rest

/-- The text as plain JSON. -/
def strip (text : String) : String :=
  let input := text.toList
  String.ofList (withoutTrailingCommas (withoutComments (input.length + 1) input))

end ScopeAtlas.Data.JsonComments
