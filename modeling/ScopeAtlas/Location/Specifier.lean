import ScopeAtlas.Files.FileTree

/-!
# Specifiers

A specifier is the text by which an import names a module.  Its class says where
the module is looked for.  Module paths of several segments are followed through
directories, and a directory stands for the file that holds the module of the
same name.
-/

namespace ScopeAtlas.Location

open ScopeAtlas.Files ScopeAtlas.Text

/-- Where the module that a specifier names belongs. -/
inductive ImportClass where
  /-- Near the importing file. -/
  | relative
  /-- Below the root of the project. -/
  | absolute
  /-- Below a path that the project has given a short name. -/
  | aliased
  /-- In a package of others. -/
  | package
  /-- In the standard library. -/
  | builtin
  | unknown
deriving Repr, DecidableEq, Inhabited

namespace ImportClass

def label : ImportClass → String
  | .relative => "relative"
  | .absolute => "absolute"
  | .aliased => "alias"
  | .package => "package"
  | .builtin => "builtin"
  | .unknown => "unknown"

/-- The module is part of the project. -/
def isLocal : ImportClass → Bool
  | .relative | .absolute | .aliased => true
  | .package | .builtin | .unknown => false

end ImportClass

/-- The specifier begins at the directory of the importing file or above it. -/
def isRelativeSpecifier (specifier : String) : Bool :=
  startsWithAny ["./", "../"] specifier || specifier == "." || specifier == ".."

/-- A path without its empty segments, with backslashes read as slashes and every `..` cancelling
the segment before it. -/
def normalizeSegments (path : String) : String :=
  let segments := (split "/" (replaceAll "\\" "/" path)).filter fun part =>
    part != "" && part != "."
  String.intercalate "/" (Path.collapse true [] segments)

/-- How a language lays out modules: the endings of module files, and the files that hold the
module of a directory. -/
structure Layout where
  endings : List String
  indexFiles : List String

namespace Layout

/-- The files in a directory that may hold the module of a name. -/
def moduleFiles (layout : Layout) (directory : Path) (name : String) : List Path :=
  layout.endings.map fun ending => directory.child (name ++ ending)

/-- The files in a directory that may hold its own module. -/
def indexPaths (layout : Layout) (directory : Path) : List Path :=
  layout.indexFiles.map directory.child

/-- The file that holds the module of a directory: an index file, or the file of the same name
beside it. -/
def packageFile? (layout : Layout) (files : FileTree) (directory : Path) :
    Except PathFault (Option Path) := do
  match ← files.firstFile? (layout.indexPaths directory) with
  | some file => return some file
  | none => files.firstFile? (layout.moduleFiles directory.parent directory.name)

/-- The file to which the last segment of a module path leads: a file of that name, else the index
file of a directory of that name, else the name is an item of the package `directory`, unless the
path begins here. -/
def lastFile? (layout : Layout) (files : FileTree) (first : Bool) (directory : Path)
    (segment : String) : Except PathFault (Option Path) := do
  match ← files.firstFile? (layout.moduleFiles directory segment) with
  | some file => return some file
  | none =>
      let inner := directory.child segment
      if ← files.isDirectory inner then files.firstFile? (layout.indexPaths inner)
      else if first then return none
      else layout.packageFile? files directory

/-- The file to which a module path leads.  All segments but the last descend into directories;
one that is no directory may be a file, and the segments after it name items in that file. -/
def follow? (layout : Layout) (files : FileTree) (first : Bool) (directory : Path) :
    List String → Except PathFault (Option Path)
  | [] => return none
  | [segment] => layout.lastFile? files first directory segment
  | segment :: next :: rest => do
      let inner := directory.child segment
      if ← files.isDirectory inner then follow? layout files false inner (next :: rest)
      else files.firstFile? (layout.moduleFiles directory segment)

end Layout

end ScopeAtlas.Location
