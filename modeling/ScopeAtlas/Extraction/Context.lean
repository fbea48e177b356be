import ScopeAtlas.Extraction.Naming
import ScopeAtlas.Language.Profile
import ScopeAtlas.Scope.Basic
import ScopeAtlas.Syntax.Source

/-!
# The file under extraction

What is known about a file before its scopes are collected: its language, its
text, the bindings its imports introduce, its syntax problems, and how far into its
tree the call stack reaches.
-/

namespace ScopeAtlas.Extraction

open ScopeAtlas.Language ScopeAtlas.Syntax ScopeAtlas.Text

/-- An error node or a missing node, by its byte range. -/
structure Problem where
  startByte : Nat
  endByte : Nat
  message : String
deriving Repr, DecidableEq

/-- Where the call stack is used up: at such a place, how many steps are taken before.  What the
stack holds depends on the calls that are open when the walk comes there, so it is not said here. -/
abbrev StackLimit := Cursor → Option Nat

namespace StackLimit

/-- A stack that holds every call. -/
def unlimited : StackLimit := fun _ => none

/-- A stack of so many calls, of which each level of a tree takes two. -/
def ofCalls (calls : Nat) : StackLimit := fun place =>
  if calls < 2 * place.level then some 0 else none

end StackLimit

/-- The file under extraction. -/
structure Context where
  profile : Profile
  source : Source
  filePath : String
  stack : StackLimit := .unlimited
  imports : List Import := []
  problems : List Problem := []

namespace Context

abbrev nodes (ctx : Context) : NodeTable := ctx.profile.nodes

/-- The text of a node. -/
def text (ctx : Context) (place : Cursor) : String := ctx.source.text place

/-- The text of a node, empty when there is none. -/
def textOf (ctx : Context) (place : Option Cursor) : String := ctx.source.textOf place

/-- The text of the first child in a field. -/
def fieldText? (ctx : Context) (place : Cursor) (field : String) : Option String :=
  ctx.source.fieldText? place field

/-- The line on which a node begins. -/
def line (ctx : Context) (place : Cursor) : Nat := ctx.source.startLine place

/-- The column at which a node begins. -/
def column (ctx : Context) (place : Cursor) : Nat := (ctx.source.startPoint place).column

/-- The problems whose range lies within a byte range. -/
def problemsWithin (ctx : Context) (startByte endByte : Nat) : List String :=
  (ctx.problems.filter fun problem =>
    startByte ≤ problem.startByte && problem.endByte ≤ endByte).map (·.message)

/-- Comments directly above a row, nearest first.  With `starts`, only comments that begin with one
of them belong to the block. -/
def commentsAbove (ctx : Context) (starts : Option (List String)) :
    (row : Nat) → List Cursor → List String
  | _, [] => []
  | row, sibling :: rest =>
      if !ctx.nodes.comments.contains sibling.kind then []
      else if (ctx.source.endPoint sibling).row + 1 < row then []
      else
        let text := ctx.text sibling
        if (starts.map fun starts => !startsWithAny starts text).getD false then []
        else text :: ctx.commentsAbove starts (ctx.source.startPoint sibling).row rest

/-- The comment block directly above a node, past its decorators. -/
def leadingComments (ctx : Context) (place : Cursor) (starts : Option (List String)) :
    Option String :=
  let siblings := place.earlierSiblings
  let isDecorator := fun (sibling : Cursor) => ctx.nodes.decorators.contains sibling.kind
  let top := ((siblings.takeWhile isDecorator).getLast?).getD place
  let block := ctx.commentsAbove starts (ctx.source.startPoint top).row
    (siblings.dropWhile isDecorator)
  if block.isEmpty then none
  else some (cleanComment (String.intercalate "\n" block.reverse))

end Context

/-- The problems of a tree: each outermost error node, and each missing node outside of them. -/
def syntaxProblems (source : Source) (errors : List String) (root : Cursor) : List Problem :=
  let position := fun (place : Cursor) =>
    let point := source.startPoint place
    " at line " ++ toString (point.row + 1) ++ ":" ++ toString (point.column + 1)
  Cursor.explore (fun place =>
    if errors.contains place.kind then
      ([⟨place.startByte, place.endByte, "Syntax error" ++ position place⟩], fun _ => false)
    else if place.isMissing then
      ([⟨place.startByte, place.endByte, "Missing " ++ place.kind ++ position place⟩],
        fun _ => true)
    else ([], fun _ => true)) [root]

end ScopeAtlas.Extraction
