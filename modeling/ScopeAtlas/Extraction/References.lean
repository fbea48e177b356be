import ScopeAtlas.Extraction.Definition

/-!
# References of a scope

Every use of a name inside a scope is a reference, except for reserved words,
names the scope binds itself, and built-in names outside type positions.  An
access to a member refers to the member, with the object as qualifier, and the
object is searched in turn.
-/

namespace ScopeAtlas.Extraction

open ScopeAtlas.Language ScopeAtlas.Syntax ScopeAtlas.Text

/-- References in source order: by line, then by column. -/
def precedes (a b : Reference) : Bool :=
  a.line < b.line || (a.line == b.line && a.column ≤ b.column)

/-- References of equal identifier, position and qualifier are reported once. -/
def coincide (a b : Reference) : Bool :=
  a.identifier == b.identifier && a.line == b.line && a.column == b.column &&
    a.qualifier == b.qualifier

/-- The first of each group of coinciding references, in order. -/
def firstOccurrences (references : List Reference) : List Reference :=
  references.foldl (fun kept reference =>
    if kept.any (coincide reference) then kept else kept ++ [reference]) []

/-- References sorted by position; references at one position keep their order. -/
def sortReferences (references : List Reference) : List Reference :=
  references.mergeSort precedes

/-- The first segment of a qualifier. -/
def qualifierRoot (qualifier : Option String) : String :=
  beforeFirst "." (replaceAll "::" "." (qualifier.getD ""))

namespace Context

/-- A reference to the name at a place. -/
def referenceAt (ctx : Context) (place : Cursor) (name : String) (qualifier : Option String) :
    Reference :=
  let point := ctx.source.startPoint place
  { identifier := name
    line := point.row + 1
    column := point.column
    context := ctx.source.lineText point.row
    qualifier := qualifier }

/-- The object of a member access as a qualifier: its text, unless it is empty, spans lines or
contains a call. -/
def qualifierOf (ctx : Context) (object : Cursor) : Option String :=
  let text := ctx.text object
  if text.isEmpty || contains "(" text || contains "\n" text then none else some text

/-- Nodes below which no reference is looked for. -/
def hidesReferences (ctx : Context) (kind : String) : Bool :=
  ctx.nodes.skipReferences.contains kind || ctx.nodes.isImportOrComment kind

/-- The object and the member of a member access that has both. -/
def accessParts? (ctx : Context) (place : Cursor) : Option (Cursor × Cursor) :=
  match ctx.nodes.memberAccess.lookup place.kind with
  | some (object, member) =>
      match place.childByField? object, place.childByField? member with
      | some object, some member => some (object, member)
      | _, _ => none
  | none => none

/-- The reference that a member access makes to its member. -/
def memberReference? (ctx : Context) (object member : Cursor) : Option Reference :=
  let name := ctx.text member
  let qualifier := ctx.qualifierOf object
  if name.isEmpty || ctx.profile.stopWords.contains name ||
      ctx.profile.builtins.contains (qualifierRoot qualifier) then none
  else some (ctx.referenceAt member name qualifier)

/-- The reference that an identifier makes. -/
def identifierReference? (ctx : Context) (exclusions : List String) (place : Cursor) :
    Option Reference :=
  let name := ctx.text place
  if name.isEmpty || ctx.profile.stopWords.contains name || exclusions.contains name then none
  else if isDefinition ctx.nodes place then none
  else if ctx.profile.builtins.contains name && !inTypePosition ctx.nodes place then none
  else some (ctx.referenceAt place name none)

/-- What the search for references does at one place: the references found there, and the children
to search. -/
def visitForReferences (ctx : Context) (exclusions : List String) (skip : List Cursor)
    (place : Cursor) : List Reference × (Cursor → Bool) :=
  if skip.any (Cursor.same place) || ctx.hidesReferences place.kind then ([], fun _ => false)
  else
    match ctx.accessParts? place with
    | some (object, member) =>
        ((ctx.memberReference? object member).toList, fun child => child.same object)
    | none =>
        if ctx.nodes.isIdentifier place.kind then
          ((ctx.identifierReference? exclusions place).toList, fun _ => false)
        else ([], fun _ => true)

/-- The references at and below the roots, without the excluded names and the skipped places. -/
def collectReferences (ctx : Context) (roots : List Cursor) (exclusions : List String)
    (skip : List Cursor) : List Reference :=
  sortReferences <| firstOccurrences <|
    Cursor.explore (ctx.visitForReferences exclusions skip) roots

end Context

end ScopeAtlas.Extraction
