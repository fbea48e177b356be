import ScopeAtlas.Extraction.Draft

/-!
# Code outside declarations

The top-level nodes that hold no scope are grouped into stretches, and each
stretch becomes a scope of its own.  Imports and comments belong to a stretch
that has begun, but neither begin nor end one.
-/

namespace ScopeAtlas.Extraction

open ScopeAtlas.Language ScopeAtlas.Syntax

/-- Some row is covered by a node. -/
def coversRow (source : Source) (rows : List Nat) (place : Cursor) : Bool :=
  let first := (source.startPoint place).row
  let last := (source.endPoint place).row
  rows.any fun row => first ≤ row && row ≤ last

/-- A stretch without the imports and comments at its end; `stretch` is listed backwards. -/
def closeStretch (table : NodeTable) (stretch : List Cursor) : List Cursor :=
  (stretch.dropWhile fun place => table.isImportOrComment place.kind).reverse

/-- The stretches of code outside scopes; `current` is the stretch that has begun, backwards. -/
def stretchesFrom (table : NodeTable) (covered : Cursor → Bool) (current : List Cursor) :
    List Cursor → List (List Cursor)
  | [] => if current.isEmpty then [] else [closeStretch table current]
  | place :: rest =>
      if covered place then
        if current.isEmpty then stretchesFrom table covered [] rest
        else closeStretch table current :: stretchesFrom table covered [] rest
      else if table.isImportOrComment place.kind && current.isEmpty then
        stretchesFrom table covered [] rest
      else stretchesFrom table covered (place :: current) rest

/-- A number with at least two digits. -/
def twoDigits (number : Nat) : String :=
  if number < 10 then "0" ++ toString number else toString number

/-- The drafts of numbered stretches. -/
def moduleDrafts (number : Nat) : List (List Cursor) → List Draft
  | [] => []
  | [] :: rest => moduleDrafts (number + 1) rest
  | (first :: later) :: rest =>
      { place := first, extent := later, name := "file_scope_" ++ twoDigits number,
        kind := .moduleCode, depth := 0, parent := none } :: moduleDrafts (number + 1) rest

/-- The scopes of the code outside the scopes already found. -/
def moduleScopes (ctx : Context) (packageName : String → String) (found : List Scope)
    (root : Cursor) : List Scope :=
  let rows := found.map fun scope => (scope.startLine - 1).toNat
  let stretches :=
    stretchesFrom ctx.nodes (coversRow ctx.source rows) [] root.namedChildren
  (moduleDrafts 1 stretches).map fun draft => draft.complete ctx packageName

end ScopeAtlas.Extraction
