import ScopeAtlas.Data.Key
import ScopeAtlas.Data.ReadFault
import ScopeAtlas.Files.FileTree

/-!
# Project manifests

Every ecosystem describes a project in a file of its own: its name, what it
depends on, and where its sources lie.  A manifest holds what the location of
imports needs of it.  A manifest file with values of an unexpected kind is a
fault, while a missing file is none.
-/

namespace ScopeAtlas.Location

open ScopeAtlas.Data ScopeAtlas.Files

/-- Why a manifest or an import cannot be followed. -/
inductive Fault where
  /-- A table was needed. -/
  | tableExpected
  /-- A name or an argument is no text. -/
  | textExpected
  /-- A value that should hold items holds none. -/
  | itemsExpected
  /-- An item has a kind that it cannot have. -/
  | itemRefused
  /-- A table was given in place of a list, and has no item of a number. -/
  | placeMissing
  /-- A command line does not end well. -/
  | commandRefused
  /-- A file is not written in UTF-8. -/
  | encodingRefused
  /-- A path has no last component that could be changed. -/
  | namelessPath
  /-- A document holds a scalar that has no value. -/
  | scalarRefused (fault : ReadFault)
  /-- A path cannot be looked up. -/
  | path (fault : PathFault)
deriving Repr, DecidableEq

instance : MonadLift (Except PathFault) (Except Fault) where
  monadLift := Except.mapError Fault.path

instance : MonadLift (Except ReadFault) (Except Fault) where
  monadLift := Except.mapError Fault.scalarRefused

/-- What is known of a project. -/
structure Manifest where
  /-- The name by which the project imports itself; null when the manifest gives none. -/
  name : Value := .null
  dependencies : List String := []
  devDependencies : List String := []
  /-- Dependencies that are listed by something else than a name. -/
  nameless : List Value := []
  namelessDev : List Value := []
  /-- The directories in which modules or headers are looked for. -/
  sourceDirs : List Path := []
  /-- Patterns of specifiers, each with the paths it stands for. -/
  pathAliases : List (String × List String) := []
  projectReferences : List String := []
deriving Inhabited

namespace Manifest

/-- The name, when it is a text and not empty. -/
def properName? (manifest : Manifest) : Option String :=
  match manifest.name with
  | .text name => if name.isEmpty then none else some name
  | _ => none

/-- Everything the project depends on. -/
def allDependencies (manifest : Manifest) : List String :=
  manifest.dependencies ++ manifest.devDependencies

/-- Dependencies in ascending order.  Names cannot be put in order with others. -/
def sortedDependencies (names : List String) (others : List Value) : Except Fault Value :=
  match Value.sortedSet? (names.map .text ++ others) with
  | some items => .ok (.list items)
  | none => .error .itemRefused

/-- A manifest as data; dependencies are listed in ascending order. -/
def toValue (manifest : Manifest) : Except Fault Value := do
  let dependencies ← sortedDependencies manifest.dependencies manifest.nameless
  let development ← sortedDependencies manifest.devDependencies manifest.namelessDev
  let all ← sortedDependencies manifest.allDependencies (manifest.nameless ++ manifest.namelessDev)
  return .table [("name", manifest.name), ("dependencies", dependencies),
    ("dev_dependencies", development), ("all_dependencies", all),
    ("source_dirs", .ofTexts (manifest.sourceDirs.map Path.render)),
    ("path_aliases", .list (manifest.pathAliases.map fun entry =>
      .list [.text entry.1, .ofTexts entry.2])),
    ("project_references", .ofTexts manifest.projectReferences)]

end Manifest

/-- The entries of a value that must be a table. -/
def entriesOf : Value → Except Fault (List (String × Value))
  | .table entries => .ok entries
  | _ => .error .tableExpected

/-- The entries of the table under a key; a missing table has none. -/
def subtable (entries : List (String × Value)) (key : String) :
    Except Fault (List (String × Value)) :=
  entriesOf ((entries.lookup key).getD (.table []))

/-- The items of a value: those of a list, the keys of a table, the characters of a text. -/
def itemsOf : Value → Except Fault (List Value)
  | .list items => .ok items
  | .table entries => .ok (entries.map fun entry => .text entry.1)
  | .text content => .ok (content.toList.map fun c => .text (String.singleton c))
  | _ => .error .itemsExpected

/-- The items under a key; a missing value has none. -/
def itemsUnder (entries : List (String × Value)) (key : String) : Except Fault (List Value) :=
  itemsOf ((entries.lookup key).getD (.list []))

/-- The text of a value, which must be one; `fault` says what is wrong with another. -/
def textOr (fault : Fault) : Value → Except Fault String
  | .text content => .ok content
  | _ => .error fault

/-- A project: the disk it lies on, its root directory and its manifest. -/
structure Project where
  files : FileTree
  root : Path
  manifest : Manifest := {}

/-- A path as seen from the root directory. -/
def Project.absolute (project : Project) (path : Path) : Path :=
  if path.isAbsolute then path else project.root.join path

end ScopeAtlas.Location
