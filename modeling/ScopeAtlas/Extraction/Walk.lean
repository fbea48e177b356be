import ScopeAtlas.Data.Display
import ScopeAtlas.Extraction.Draft

/-!
# Collecting scopes

The walk goes down the tree.  At a node that opens a construct the language
decides what to do: which scopes to draft and which nodes to enter, in order.
Any other node is passed through, and so is a construct that cannot be read, which
is reported.  Where the call stack is used up the tree is given up as a whole: the
scopes collected up to that point are kept, and nothing after it is looked at.
-/

namespace ScopeAtlas.Extraction

open ScopeAtlas.Data ScopeAtlas.Language ScopeAtlas.Syntax

/-- One thing to do at a node. -/
inductive Step where
  /-- Collect a scope. -/
  | scope (draft : Draft)
  /-- Walk a node below the construct, with the depth and the container of the scopes in it. -/
  | enter (place : Cursor) (depth : Nat) (parent : Option String)
  /-- Report an issue of the file. -/
  | report (issue : String)

/-- Walks the children of a node. -/
def enterChildren (place : Cursor) (depth : Nat) (parent : Option String) : List Step :=
  place.children.map fun child => .enter child depth parent

/-- Walks the children of a node, if there is one. -/
def enterBody (body : Option Cursor) (depth : Nat) (parent : Option String) : List Step :=
  match body with
  | some body => enterChildren body depth parent
  | none => []

/-- Why a construct cannot be read: its node is not as the reading expects. -/
inductive ReadingFault where
  /-- A table does not have the kind of a node. -/
  | kindUnknown (kind : String)
  /-- The first of no nodes is asked for. -/
  | nodeMissing
deriving Repr, DecidableEq

def ReadingFault.message : ReadingFault → String
  | .kindUnknown kind => Display.quoted kind
  | .nodeMissing => "list index out of range"

/-- How a construct is read at a place, with the depth and the name of its container. -/
abbrev Reading := Context → Cursor → Nat → Option String → Except ReadingFault (List Step)

/-- A reading that takes every node as it is. -/
abbrev TotalReading := Context → Cursor → Nat → Option String → List Step

def Reading.always (reading : TotalReading) : Reading := fun ctx place depth parent =>
  .ok (reading ctx place depth parent)

/-- How the languages of a family are read. -/
structure Strategy where
  /-- The reading of each construct; a construct without one is passed through. -/
  reading? : Construct → Option Reading
  /-- The bindings that the imports of a file introduce. -/
  imports : Source → Cursor → List Import
  /-- The package to which an external import belongs. -/
  packageName : String → String

/-- What a walk collected and reported, and whether it was given up. -/
structure Harvest where
  scopes : List Scope := []
  issues : List String := []
  truncated : Bool := false
deriving Repr

/-- The issue of a construct that cannot be read. -/
def failureIssue (ctx : Context) (place : Cursor) (fault : ReadingFault) : String :=
  let point := ctx.source.startPoint place
  "Failed to extract " ++ place.kind ++ " at line " ++ toString (point.row + 1) ++ ":" ++
    toString (point.column + 1) ++ ": " ++ fault.message

/-- What to do at a place. -/
def stepsAt (strategy : Strategy) (ctx : Context) (place : Cursor) (depth : Nat)
    (parent : Option String) : List Step :=
  match (ctx.nodes.construct? place.kind).bind strategy.reading? with
  | none => enterChildren place depth parent
  | some reading =>
      match reading ctx place depth parent with
      | .ok steps => steps
      | .error fault => .report (failureIssue ctx place fault) :: enterChildren place depth parent

/-- The steps at a place for which the call stack has room. -/
def Context.room (ctx : Context) (place : Cursor) (steps : List Step) : List Step :=
  match ctx.stack place with
  | none => steps
  | some taken => steps.take taken

/-- Runs steps in order until one gives up. -/
def runSteps (complete : Draft → Scope) (enter : Cursor → Nat → Option String → Harvest) :
    List Step → Harvest
  | [] => {}
  | .scope draft :: rest =>
      let later := runSteps complete enter rest
      { later with scopes := complete draft :: later.scopes }
  | .enter place depth parent :: rest =>
      let first := enter place depth parent
      if first.truncated then first
      else
        let later := runSteps complete enter rest
        { later with
          scopes := first.scopes ++ later.scopes
          issues := first.issues ++ later.issues }
  | .report issue :: rest =>
      let later := runSteps complete enter rest
      { later with issues := issue :: later.issues }

/-- Walks a tree.  `fuel` counts nested walks; each of them is below the one around it, so that the
size of the tree never runs out. -/
def walk (strategy : Strategy) (ctx : Context) :
    (fuel : Nat) → Cursor → Nat → Option String → Harvest
  | 0, _, _, _ => { truncated := true }
  | fuel + 1, place, depth, parent =>
      let found := runSteps (fun draft => draft.complete ctx strategy.packageName)
        (walk strategy ctx fuel) (ctx.room place (stepsAt strategy ctx place depth parent))
      { found with truncated := found.truncated || (ctx.stack place).isSome }

/-- The scopes of a tree. -/
def harvest (strategy : Strategy) (ctx : Context) (root : Cursor) : Harvest :=
  walk strategy ctx root.node.size root 0 none

end ScopeAtlas.Extraction
