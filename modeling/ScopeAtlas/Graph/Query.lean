import ScopeAtlas.Graph.Resolution
import ScopeAtlas.Scope.Report

/-!
# Reading a graph

Look-ups in a resolved project, and its scopes with the ids of the scopes they
are joined to.  All of them use the edges found in the source only, so they do
not depend on whether mirror images were added.
-/

namespace ScopeAtlas.Graph

open ScopeAtlas.Data

namespace Resolution

/-- The edges found in the source. -/
def forward (resolution : Resolution) : List Edge :=
  resolution.edges.filter fun edge => !edge.relation.isInverse

/-- The scopes of a name. -/
def scopesNamed (resolution : Resolution) (name : String) : List Listing :=
  (resolution.byName.lookup name).getD []

/-- The scope of an id. -/
def scope? (resolution : Resolution) (id : String) : Option Listing := resolution.byId.lookup id

/-- The scopes that use the scope of an id. -/
def consumers (resolution : Resolution) (id : String) : List Listing :=
  (resolution.forward.filter fun edge =>
      edge.target.id == id && edge.relation == .consumes).filterMap fun edge =>
    resolution.scope? edge.source.id

/-- The scopes that the scope of an id uses. -/
def dependencies (resolution : Resolution) (id : String) : List Listing :=
  (resolution.forward.filter fun edge =>
      edge.source.id == id && edge.relation == .consumes).filterMap fun edge =>
    resolution.scope? edge.target.id

end Resolution

/-- A scope with the ids of the scopes it is joined to. -/
structure Enriched where
  scope : Scope
  consumes : List String
  consumedBy : List String
  inheritsFrom : List String
  inheritedBy : List String
  contains : List String
  containedBy : Option String
  decoratedBy : List String
deriving Repr, DecidableEq, Inhabited

/-- The relation is one of the two ways of inheriting. -/
def Relation.isInheritance (relation : Relation) : Bool :=
  relation == .inheritsFrom || relation == .implements

/-- The targets of the edges that leave a scope in a way that is asked for. -/
def targetsOf (edges : List Edge) (id : String) (wanted : Relation → Bool) : List String :=
  (edges.filter fun edge => edge.source.id == id && wanted edge.relation).map (·.target.id)

/-- The sources of the edges that enter a scope in a way that is asked for. -/
def sourcesOf (edges : List Edge) (id : String) (wanted : Relation → Bool) : List String :=
  (edges.filter fun edge => edge.target.id == id && wanted edge.relation).map (·.source.id)

/-- A scope with its neighbours among the given edges. -/
def enrichScope (edges : List Edge) (scope : Scope) : Enriched :=
  { scope := scope
    consumes := targetsOf edges scope.id (· == .consumes)
    consumedBy := sourcesOf edges scope.id (· == .consumes)
    inheritsFrom := targetsOf edges scope.id Relation.isInheritance
    inheritedBy := sourcesOf edges scope.id Relation.isInheritance
    contains := targetsOf edges scope.id (· == .contains)
    containedBy := (sourcesOf edges scope.id (· == .contains)).head?
    decoratedBy := targetsOf edges scope.id (· == .decoratedBy) }

/-- The scopes of every file with their neighbours. -/
def enrich (resolution : Resolution) : List (String × List Enriched) :=
  resolution.analyses.map fun analysis =>
    (analysis.filePath, analysis.scopes.map (enrichScope resolution.forward))

/-- The neighbours of a scope as data. -/
def Enriched.entries (enriched : Enriched) : List (String × Value) :=
  [("consumes", .ofTexts enriched.consumes), ("consumed_by", .ofTexts enriched.consumedBy),
    ("inherits_from", .ofTexts enriched.inheritsFrom),
    ("inherited_by", .ofTexts enriched.inheritedBy), ("contains", .ofTexts enriched.contains),
    ("contained_by", .ofText? enriched.containedBy),
    ("decorated_by", .ofTexts enriched.decoratedBy)]

def Statistics.toValue (statistics : Statistics) : Value :=
  .table [("files_analyzed", .ofNat statistics.files),
    ("total_scopes", .ofNat statistics.scopes),
    ("total_relationships", .ofNat statistics.edges),
    ("by_type", .table (statistics.byRelation.map fun entry => (entry.1, .ofNat entry.2))),
    ("unresolved_count", .ofNat statistics.unresolved)]

/-- The graph as data, without the files. -/
def Resolution.entries (resolution : Resolution) : List (String × Value) :=
  [("relationships", .list (resolution.edges.map Edge.toValue)),
    ("unresolved_references", .list (resolution.unresolved.map Unresolved.toValue)),
    ("stats", resolution.statistics.toValue)]

end ScopeAtlas.Graph
