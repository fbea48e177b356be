import ScopeAtlas.Text.Letter
import ScopeAtlas.Text.Lines
import ScopeAtlas.Text.Split

/-!
# Names and comments as text

Small readings of source text that all languages share.
-/

namespace ScopeAtlas.Extraction

open ScopeAtlas.Text

/-- The bare name of a written type: without pointer marks in front, without type arguments,
subscripts and calls, and without the path it is qualified by. -/
def baseTypeName (text : String) : String :=
  let unmarked := trim (trimLeftOf "*&" (trim text))
  let unapplied := ["<", "[", "("].foldl (fun text opening => beforeFirst opening text) unmarked
  let unqualified := ["::", "."].foldl (fun text separator => afterLast separator text) unapplied
  trim unqualified

/-- Marks at the beginning of a comment line, longer ones first. -/
def commentMarks : List String := ["/**", "/*!", "/*", "*/", "///", "//!", "//", "#"]

/-- One line of a comment without its marks. -/
def cleanCommentLine (raw : String) : String :=
  let line := trim raw
  let unmarked :=
    match commentMarks.find? (startsWith · line) with
    | some mark => dropStart mark line
    | none => line
  let unclosed := trim (dropEnd "*/" unmarked)
  if startsWith "*" unclosed then trim (dropStart "*" unclosed) else unclosed

/-- A comment block without its marks. -/
def cleanComment (text : String) : String :=
  trim (String.intercalate "\n" ((lines text).map cleanCommentLine))

/-- The name given to a construct that has none. -/
def placeholderName (kind : String) : String :=
  match kind.toList with
  | [] => "Anonymous"
  | first :: rest => "Anonymous" ++ String.ofList (upperChar first ++ rest)

/-- A type without the colon that introduces it. -/
def withoutColon (text : String) : String := trim (trimLeftOf ":" text)

/-- A text, or nothing when it is empty. -/
def nonEmpty? (text : String) : Option String := if text.isEmpty then none else some text

end ScopeAtlas.Extraction
