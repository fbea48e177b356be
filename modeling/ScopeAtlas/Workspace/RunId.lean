/-!
# The id of a run

The events of a run carry its id.  Between runs there is none; a run that is begun
without a wish for its id takes a fresh one.
-/

namespace ScopeAtlas.Workspace

/-- The id of the run in progress, if there is one. -/
structure RunId where
  current : Option String := none
deriving Repr, DecidableEq, Inhabited

namespace RunId

/-- Begins a run under the wished id, or under the fresh one when the wish is empty. -/
def start (_ : RunId) (wish : Option String) (fresh : String) : RunId :=
  match wish with
  | some id => { current := some (if id.isEmpty then fresh else id) }
  | none => { current := some fresh }

/-- Ends the run. -/
def finish (_ : RunId) : RunId := {}

end RunId

end ScopeAtlas.Workspace
