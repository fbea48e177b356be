import ScopeAtlas.Data.Value
import ScopeAtlas.Files.Path
import ScopeAtlas.Text.Utf8

/-!
# File trees

A file tree is what can be seen of a disk: directories with named entries, and
files with their bytes.  The order of the entries of a directory carries no
meaning.  A path is followed component by component from the root, so `..` leads
to the directory that was passed last, and nothing lies below a file.  A path that
is too long cannot be asked for, whether it is there or not.
-/

namespace ScopeAtlas.Files

open ScopeAtlas.Data ScopeAtlas.Text

/-- Why a path cannot be looked up. -/
inductive PathFault where
  /-- The path or one of its components is too long. -/
  | tooLong
  /-- The path holds a null character. -/
  | hasNull
deriving Repr, DecidableEq

/-- No entry of a disk has a name of more bytes than this. -/
def longestName : Nat := 255

/-- No path of more bytes than this can be asked for. -/
def longestPath : Nat := 4095

/-- The name is too long for an entry. -/
def isTooLongName (name : String) : Bool := longestName < name.utf8ByteSize

/-- The path is too long to be asked for. -/
def Path.isTooLong (path : Path) : Bool := longestPath < path.render.utf8ByteSize

/-- A component holds a null character. -/
def Path.hasNull (path : Path) : Bool := path.parts.any fun part => part.toList.contains '\x00'

/-- A file or a directory. -/
inductive Entry where
  | file (content : ByteArray)
  | directory (entries : List (String × Entry))

instance : Inhabited Entry := ⟨.directory []⟩

namespace Entry

def isFile : Entry → Bool
  | .file _ => true
  | .directory _ => false

def isDirectory : Entry → Bool
  | .file _ => false
  | .directory _ => true

/-- The entries of a directory; a file has none. -/
def entries : Entry → List (String × Entry)
  | .file _ => []
  | .directory entries => entries

/-- How following a list of components ends. -/
inductive Trace where
  | found (entry : Entry)
  /-- A directory has no entry of this name. -/
  | missing (name : String)
  /-- A file was met before the last component. -/
  | belowFile

/-- Follows a list of components.  `passed` holds the directories above the entry, nearest first,
and above the root is the root itself.  The component `.` stays in its directory. -/
def trace (passed : List Entry) (entry : Entry) : List String → Trace
  | [] => .found entry
  | part :: rest =>
      match entry with
      | .file _ => .belowFile
      | .directory entries =>
          if part == "." then trace passed entry rest
          else if part == ".." then
            match passed with
            | [] => trace [] entry rest
            | above :: further => trace further above rest
          else
            match entries.lookup part with
            | none => .missing part
            | some inner => trace (entry :: passed) inner rest

/-- Puts an entry below a directory, creating the directories on the way.  A directory that is
there keeps its entries. -/
def put (new : Entry) : List String → List (String × Entry) → List (String × Entry)
  | [], entries => entries
  | [name], entries =>
      match new, entries.lookup name with
      | .directory _, some (.directory _) => entries
      | _, _ => putEntry name new entries
  | name :: rest, entries =>
      let inner := ((entries.lookup name).map Entry.entries).getD []
      putEntry name (.directory (put new rest inner)) entries

end Entry

/-- A disk: the entries of its root directory, and the directory from which relative paths are
seen. -/
structure FileTree where
  top : List (String × Entry)
  here : Path

namespace FileTree

/-- How following a path ends. -/
def trace (tree : FileTree) (path : Path) : Entry.Trace :=
  (Entry.directory tree.top).trace [] (tree.here.join path).parts

/-- What a path names. -/
def find? (tree : FileTree) (path : Path) : Option Entry :=
  match tree.trace path with
  | .found entry => some entry
  | _ => none

/-- Looks a path up.  No entry has a null character in its name.  A path that is too long is not
asked for, and neither is a name that is too long for an entry. -/
def probe (tree : FileTree) (path : Path) : Except PathFault (Option Entry) :=
  if path.hasNull then .ok none
  else if path.isTooLong then .error .tooLong
  else
    match tree.trace path with
    | .found entry => .ok (some entry)
    | .missing name => if isTooLongName name then .error .tooLong else .ok none
    | .belowFile => .ok none

/-- The path names a file. -/
def isFile (tree : FileTree) (path : Path) : Except PathFault Bool :=
  (tree.probe path).map fun found => found.any Entry.isFile

/-- The path names a directory. -/
def isDirectory (tree : FileTree) (path : Path) : Except PathFault Bool :=
  (tree.probe path).map fun found => found.any Entry.isDirectory

/-- The bytes of a file. -/
def bytes? (tree : FileTree) (path : Path) : Option ByteArray :=
  match tree.find? path with
  | some (.file content) => some content
  | _ => none

/-- The bytes of a file that is looked up. -/
def fileBytes? (tree : FileTree) (path : Path) : Except PathFault (Option ByteArray) :=
  (tree.probe path).map fun found =>
    match found with
    | some (.file content) => some content
    | _ => none

/-- Reads every line end as a line feed. -/
def unifyLineEnds : List Char → List Char
  | [] => []
  | '\r' :: '\n' :: rest => '\n' :: unifyLineEnds rest
  | c :: rest => (if c == '\r' then '\n' else c) :: unifyLineEnds rest

/-- The text of bytes, with malformed parts replaced and line ends unified. -/
def textOf (content : ByteArray) : String :=
  String.ofList (unifyLineEnds (Utf8.decode content).toList)

/-- The text of a file. -/
def text? (tree : FileTree) (path : Path) : Option String := (tree.bytes? path).map textOf

/-- The text of a file that is looked up. -/
def fileText? (tree : FileTree) (path : Path) : Except PathFault (Option String) :=
  (tree.fileBytes? path).map fun content => content.map textOf

/-- The paths of the entries of a directory, with the entries. -/
def list (tree : FileTree) (path : Path) : List (Path × Entry) :=
  ((tree.find? path).map Entry.entries).getD [] |>.map fun entry =>
    (path.along [entry.1], entry.2)

/-- The absolute form of a path. -/
def absolute (tree : FileTree) (path : Path) : Path := Path.resolved tree.here path

/-- The absolute form of a path that may not be one. -/
def resolve (tree : FileTree) (path : Path) : Except PathFault Path :=
  if path.hasNull then .error .hasNull else .ok (tree.absolute path)

/-- The first path that names a file. -/
def firstFile? (tree : FileTree) : List Path → Except PathFault (Option Path)
  | [] => .ok none
  | path :: rest =>
      match tree.isFile path with
      | .ok true => .ok (some path)
      | .ok false => tree.firstFile? rest
      | .error fault => .error fault

/-- The absolute form of the first path that names a file. -/
def firstResolved? (tree : FileTree) (candidates : List Path) : Except PathFault (Option Path) :=
  (tree.firstFile? candidates).map fun found => found.map tree.absolute

/-- The paths that name directories. -/
def directoriesAmong (tree : FileTree) (paths : List Path) : Except PathFault (List Path) :=
  paths.filterM tree.isDirectory

/-- Adds an entry at an absolute path. -/
def add (tree : FileTree) (path : Path) (entry : Entry) : FileTree :=
  { tree with top := entry.put path.parts tree.top }

end FileTree

end ScopeAtlas.Files
