import ScopeAtlas.Extraction.Definition

/-!
# Complexity and variables

The complexity of a scope is one more than the number of its branches.  The
variables of a scope are those declared in it and not in a scope nested in it.
-/

namespace ScopeAtlas.Extraction

open ScopeAtlas.Language ScopeAtlas.Syntax

/-- A node that adds a path through its scope. -/
def isBranch (table : NodeTable) (place : Cursor) : Bool :=
  table.branches.contains place.kind ||
    (table.binaryExpressions.contains place.kind &&
      ((place.childByField? "operator").map fun operator =>
        table.logicalOperators.contains operator.kind).getD false)

/-- One more than the number of branches at and below the roots. -/
def complexity (table : NodeTable) (roots : List Cursor) : Nat :=
  1 + ((roots.flatMap Cursor.preorder).filter (isBranch table)).length

/-- The keyword that begins a declaration. -/
def leadingKeyword? (place : Cursor) : Option String :=
  place.children.head?.bind fun first =>
    if ["let", "const", "var", "static"].contains first.kind then some first.kind else none

/-- The keyword with which a variable is declared, at its declarator or around it. -/
def declarationKeyword (place : Cursor) : String :=
  match leadingKeyword? place with
  | some keyword => keyword
  | none => (place.parent?.bind leadingKeyword?).getD "var"

namespace Context

/-- The declared type of a declarator, looked for in its parent when it has none. -/
def declaredType? (ctx : Context) (place : Cursor) (field : String) : Option String :=
  let own := place.childByField? field
  let found :=
    match own with
    | some type => some type
    | none => place.parent?.bind (·.childByField? field)
  found.map fun type => withoutColon (ctx.text type)

/-- The variables of one declarator. -/
def declaredVariables (ctx : Context) (place : Cursor) (fields : DeclaratorFields) :
    List Variable :=
  let type := fields.type.bind (ctx.declaredType? place)
  let keyword := declarationKeyword place
  (place.childrenByField fields.name).flatMap fun name =>
    (ctx.boundNames name).map fun bound =>
      { name := bound, type := type, kind := keyword, line := ctx.line place }

/-- What the search for variables does at one place. -/
def visitForVariables (ctx : Context) (place : Cursor) : List Variable × (Cursor → Bool) :=
  let closed : Bool :=
    match ctx.nodes.construct? place.kind with
    | some construct => construct != .binding && construct != .compilationUnit
    | none => false
  if closed then ([], fun _ => false)
  else
    match ctx.nodes.variableDeclarators.lookup place.kind with
    | some fields => (ctx.declaredVariables place fields, fun _ => false)
    | none => ([], fun _ => true)

/-- The variables declared below the roots, outside nested scopes. -/
def collectVariables (ctx : Context) (roots : List Cursor) : List Variable :=
  Cursor.explore ctx.visitForVariables (roots.flatMap (·.children))

end Context

end ScopeAtlas.Extraction
