/-!
# Kinds of relations

Five kinds of relations are found in source code, and each has an inverse kind
that says the same from the other end.
-/

namespace ScopeAtlas.Graph

/-- How one scope is related to another. -/
inductive Relation where
  | consumes
  | consumedBy
  | inheritsFrom
  | inheritedBy
  | implements
  | implementedBy
  | contains
  | containedBy
  | decoratedBy
  | decorates
deriving Repr, DecidableEq, Inhabited

namespace Relation

def all : List Relation :=
  [.consumes, .consumedBy, .inheritsFrom, .inheritedBy, .implements, .implementedBy, .contains,
    .containedBy, .decoratedBy, .decorates]

def label : Relation → String
  | .consumes => "CONSUMES"
  | .consumedBy => "CONSUMED_BY"
  | .inheritsFrom => "INHERITS_FROM"
  | .inheritedBy => "INHERITED_BY"
  | .implements => "IMPLEMENTS"
  | .implementedBy => "IMPLEMENTED_BY"
  | .contains => "CONTAINS"
  | .containedBy => "CONTAINED_BY"
  | .decoratedBy => "DECORATED_BY"
  | .decorates => "DECORATES"

def ofLabel? (label : String) : Option Relation := all.find? fun relation => relation.label == label

/-- The same relation seen from the other end. -/
def inverse : Relation → Relation
  | .consumes => .consumedBy
  | .consumedBy => .consumes
  | .inheritsFrom => .inheritedBy
  | .inheritedBy => .inheritsFrom
  | .implements => .implementedBy
  | .implementedBy => .implements
  | .contains => .containedBy
  | .containedBy => .contains
  | .decoratedBy => .decorates
  | .decorates => .decoratedBy

/-- The relation is derived from the one found in the source. -/
def isInverse : Relation → Bool
  | .consumedBy | .inheritedBy | .implementedBy | .containedBy | .decorates => true
  | .consumes | .inheritsFrom | .implements | .contains | .decoratedBy => false

@[simp]
theorem inverse_inverse (relation : Relation) : relation.inverse.inverse = relation := by
  cases relation <;> rfl

@[simp]
theorem isInverse_inverse (relation : Relation) :
    relation.inverse.isInverse = !relation.isInverse := by
  cases relation <;> rfl

end Relation

end ScopeAtlas.Graph
