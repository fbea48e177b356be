import ScopeAtlas.Scope.Basic

/-!
# The container of a scope

A scope names its container, and the container is looked for among the scopes of
the same file: one level up, of that name, and around the lines of the scope.  Of
several the one that begins last is taken.  Methods that are declared away from
their type lie in no scope of that name; for them the first of that name and
level is taken.
-/

namespace ScopeAtlas.Graph

/-- The scope has the name and the level of the container of `inner`. -/
def mayContain (inner candidate : Scope) : Bool :=
  inner.parent == some candidate.name && candidate.depth + 1 == inner.depth

/-- The lines of `inner` lie in those of the candidate. -/
def spans (inner candidate : Scope) : Bool :=
  candidate.startLine ≤ inner.startLine && inner.endLine ≤ candidate.endLine

/-- The later beginning wins, and of equal beginnings the one met later. -/
def innermost? (best : Option Scope) : List Scope → Option Scope
  | [] => best
  | candidate :: rest =>
      match best with
      | none => innermost? (some candidate) rest
      | some held =>
          innermost? (some (if held.startLine ≤ candidate.startLine then candidate else held)) rest

/-- The container of a scope among the scopes of its file. -/
def enclosing? (inner : Scope) (scopes : List Scope) : Option Scope :=
  match innermost? none (scopes.filter fun scope => mayContain inner scope && spans inner scope) with
  | some scope => some scope
  | none => scopes.find? (mayContain inner)

end ScopeAtlas.Graph
