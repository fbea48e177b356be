import ScopeAtlas.Extraction.Context

/-!
# Defining positions

An identifier binds a name when the nodes above it say so.  A container binds
everything in it.  A node with defining fields binds what stands in one of them.
A pattern passes the question on to its parent, and any other node ends it.
-/

namespace ScopeAtlas.Extraction

open ScopeAtlas.Language ScopeAtlas.Syntax

/-- A place whose name is bound, not used. -/
def isDefinition (table : NodeTable) : Cursor → Bool
  | .root _ => false
  | .child parent _ node =>
      let isPattern := table.patternTypes.contains parent.kind
      if table.definitionContainers.contains parent.kind then true
      else
        match table.definitionFields.lookup parent.kind with
        | some fields =>
            if !fields.any fun field => node.field == some field then false
            else if isPattern then isDefinition table parent
            else true
        | none => if isPattern then isDefinition table parent else false

/-- An identifier where a type is expected. -/
def inTypePosition (table : NodeTable) (place : Cursor) : Bool :=
  table.typeIdentifiers.contains place.kind ||
    (place.parentKind?.map table.typeContexts.contains).getD false

namespace Context

/-- Identifiers at and below a place that bind a name, in source order. -/
def definitionsIn (ctx : Context) (place : Cursor) : List Cursor :=
  place.preorder.filter fun below =>
    ctx.nodes.isIdentifier below.kind && isDefinition ctx.nodes below

/-- All names bound at or below a place. -/
def localSymbols (ctx : Context) (place : Cursor) : List String :=
  (ctx.definitionsIn place).map ctx.text

/-- The names that a declarator or a pattern binds, in source order. -/
def boundNames (ctx : Context) (place : Cursor) : List String :=
  if ctx.nodes.isIdentifier place.kind then [ctx.text place] else ctx.localSymbols place

end Context

end ScopeAtlas.Extraction
