import ScopeAtlas.Data.Value
import ScopeAtlas.Graph.Relation
import ScopeAtlas.Scope.Basic

/-!
# Edges and the ledger

An edge joins two scopes and says what in the source it rests on.  A reference
that leads nowhere is entered in the ledger of unresolved references.
-/

namespace ScopeAtlas.Graph

open ScopeAtlas.Data

/-- What identifies one end of an edge. -/
structure Endpoint where
  id : String
  name : String
  file : String
  kind : ScopeKind
deriving Repr, DecidableEq, Inhabited

/-- A scope as the end of an edge. -/
def Endpoint.ofScope (scope : Scope) : Endpoint :=
  { id := scope.id, name := scope.name, file := scope.filePath, kind := scope.kind }

/-- What in the source an edge rests on. -/
inductive Evidence where
  /-- One scope lies in the other. -/
  | nesting
  /-- A name is used. -/
  | use (line : Int) (identifier context : String)
  /-- An imported name is used; without a file to follow, the name alone decided. -/
  | importedUse (line : Int) (identifier context source : String) (byNameOnly : Bool)
  /-- A decorator stands on the scope. -/
  | decoration (arguments : Option String)
deriving Repr, DecidableEq, Inhabited

/-- A directed edge between two scopes. -/
structure Edge where
  relation : Relation
  source : Endpoint
  target : Endpoint
  evidence : Evidence
  /-- The edge mirrors one that was found in the source. -/
  mirrored : Bool := false
deriving Repr, DecidableEq, Inhabited

namespace Edge

/-- Edges with equal keys say the same. -/
def key (edge : Edge) : String × String × Relation :=
  (edge.source.id, edge.target.id, edge.relation)

/-- The edge seen from its other end. -/
def inverted (edge : Edge) : Edge :=
  { relation := edge.relation.inverse
    source := edge.target
    target := edge.source
    evidence := edge.evidence
    mirrored := true }

/-- Of the edges with equal keys the first is kept; `seen` holds the keys met so far. -/
def keepFirst (seen : List (String × String × Relation)) : List Edge → List Edge
  | [] => []
  | edge :: rest =>
      if seen.contains edge.key then keepFirst seen rest
      else edge :: keepFirst (edge.key :: seen) rest

end Edge

/-- The context of a use, unless it is empty. -/
def contextEntry (context : String) : List (String × Value) :=
  if context.isEmpty then [] else [("context", .text context)]

/-- The evidence of an edge as data. -/
def Evidence.entries : Evidence → List (String × Value)
  | .nesting => []
  | .use line identifier context =>
      [("line", .int line), ("identifier", .text identifier)] ++ contextEntry context
  | .importedUse line identifier context source byNameOnly =>
      [("line", .int line), ("identifier", .text identifier)] ++ contextEntry context ++
        [("via_import", .bool true), ("import_path", .text source)] ++
        (if byNameOnly then [("fallback_resolution", .bool true)] else [])
  | .decoration (some arguments) =>
      if arguments.isEmpty then [] else [("decorator_args", .text arguments)]
  | .decoration none => []

/-- An edge as data. -/
def Edge.toValue (edge : Edge) : Value :=
  .table [("type", .text edge.relation.label),
    ("from_id", .text edge.source.id), ("from_name", .text edge.source.name),
    ("from_file", .text edge.source.file), ("from_type", .text edge.source.kind.label),
    ("to_id", .text edge.target.id), ("to_name", .text edge.target.name),
    ("to_file", .text edge.target.file), ("to_type", .text edge.target.kind.label),
    ("properties", .table (edge.evidence.entries ++
      (if edge.mirrored then [("inverse", .bool true)] else [])))]

/-- Why a reference leads nowhere. -/
inductive Reason where
  /-- No scope has the name. -/
  | noLocalScope
  /-- The name was imported from the project, and no scope has it. -/
  | noImportTarget
deriving Repr, DecidableEq, Inhabited

namespace Reason

def label : Reason → String
  | .noLocalScope => "no-local-scope-match"
  | .noImportTarget => "no-import-match"

/-- What the reference was found to be. -/
def referenceKind : Reason → ReferenceKind
  | .noLocalScope => .unknown
  | .noImportTarget => .imported

end Reason

/-- An entry of the ledger. -/
structure Unresolved where
  fromScope : String
  fromKind : ScopeKind
  fromFile : String
  identifier : String
  reason : Reason
  line : Int
deriving Repr, DecidableEq, Inhabited

namespace Unresolved

/-- The entry for a reference of a scope. -/
def ofReference (scope : Scope) (reference : Reference) (reason : Reason) : Unresolved :=
  { fromScope := scope.name
    fromKind := scope.kind
    fromFile := scope.filePath
    identifier := reference.identifier
    reason := reason
    line := reference.line }

/-- An entry as data. -/
def toValue (entry : Unresolved) : Value :=
  .table [("from_scope", .text entry.fromScope), ("from_type", .text entry.fromKind.label),
    ("from_file", .text entry.fromFile), ("identifier", .text entry.identifier),
    ("reason", .text entry.reason.label), ("kind", .text entry.reason.referenceKind.label),
    ("line", .int entry.line)]

end Unresolved

end ScopeAtlas.Graph
