import ScopeAtlas.Data.Display
import ScopeAtlas.Files.FileTree

/-!
# File systems

What a program sees of a disk is more than its tree.  A link stands for another path, and
the system may refuse to list a directory, to look a path up or to read a file.  A link
is known by the path to which it leads in the end, so it is followed in one step; one that
may not be looked at is seen as a file that may not be looked up.

A path is followed in two ways.  Its absolute form is found by following the links on it,
and whatever is missing is passed by its name.  What it names is found only where each
component but the last is a directory.
-/

namespace ScopeAtlas.Files

open ScopeAtlas.Data

/-- What a directory has entries for. -/
inductive Item where
  | file (content : ByteArray)
  | directory (entries : List (String × Item))
  /-- Neither a file nor a directory, such as a pipe, and its number of bytes. -/
  | special (size : Nat)
  /-- A link, with the components of the path to which it leads in the end.  Without them it leads
  back to itself. -/
  | link (target : Option (List String))

instance : Inhabited Item := ⟨.directory []⟩

namespace Item

def isFile : Item → Bool
  | .file _ => true
  | _ => false

def isDirectory : Item → Bool
  | .directory _ => true
  | _ => false

/-- The number of bytes of what is no directory. -/
def size? : Item → Option Nat
  | .file content => some content.size
  | .special size => some size
  | _ => none

/-- The item at the end of a list of names, none of which is a link. -/
def at? : Item → List String → Option Item
  | item, [] => some item
  | .directory entries, name :: rest =>
      match entries.lookup name with
      | some inner => inner.at? rest
      | none => none
  | _, _ :: _ => none

end Item

/-- What the system refuses. -/
structure Refusals where
  /-- The directory cannot be listed. -/
  listing : Path → Bool := fun _ => false
  /-- Why the path cannot be looked up. -/
  lookup : Path → Option String := fun _ => none
  /-- Why the file cannot be read. -/
  reading : Path → Option String := fun _ => none

/-- A file system: the entries of its root directory, the directory from which relative paths are
seen, and what is refused. -/
structure FileSystem where
  top : List (String × Item)
  here : Path
  refusals : Refusals := {}

/-- Why a path has no absolute form. -/
inductive ResolveFault where
  /-- The path holds a null character. -/
  | hasNull
  /-- A link on the path leads back to itself. -/
  | loop (path : Path)
deriving Repr, DecidableEq

namespace FileSystem

/-- The item at the end of a list of names from the root, none of which is a link. -/
def at? (system : FileSystem) (names : List String) : Option Item :=
  (Item.directory system.top).at? names

/-- Follows components and the links among them from the place `kept`, or tells which path leads
back to itself. -/
def follow (system : FileSystem) (kept : List String) :
    List String → Except ResolveFault (List String)
  | [] => .ok kept
  | part :: rest =>
      if part == "." then system.follow kept rest
      else if part == ".." then system.follow kept.dropLast rest
      else
        match system.at? (kept ++ [part]) with
        | some (.link (some target)) => system.follow target rest
        | some (.link none) => .error (.loop { anchor := .root, parts := kept ++ part :: rest })
        | _ => system.follow (kept ++ [part]) rest

/-- Looks for what components from the place `kept` name, through directories and links only. -/
def reach (system : FileSystem) (kept : List String) : List String → Option Item
  | [] => system.at? kept
  | part :: rest =>
      if !(system.at? kept).any Item.isDirectory then none
      else if part == "." then system.reach kept rest
      else if part == ".." then system.reach kept.dropLast rest
      else
        match system.at? (kept ++ [part]) with
        | some (.link (some target)) => system.reach target rest
        | some (.link none) => none
        | _ => system.reach (kept ++ [part]) rest

/-- The absolute form of a path. -/
def resolve (system : FileSystem) (path : Path) : Except ResolveFault Path :=
  if path.hasNull then .error .hasNull
  else (system.follow [] (system.here.join path).parts).map fun parts => { anchor := .root, parts }

/-- What a path names, whether or not it may be looked up. -/
def item? (system : FileSystem) (path : Path) : Option Item :=
  system.reach [] (system.here.join path).parts

/-- What an item that is listed at a path leads to, if it may be looked up. -/
def followed? (system : FileSystem) (path : Path) (item : Item) : Option Item :=
  if (system.refusals.lookup path).isSome then none
  else
    match item with
    | .link _ => system.item? path
    | item => some item

/-- An item that is listed at a path is a directory, or a link to one that may be followed. -/
def showsDirectory (system : FileSystem) (path : Path) (item : Item) : Bool :=
  match item with
  | .directory _ => true
  | .file _ | .special _ => false
  | .link _ => (system.followed? path item).any Item.isDirectory

/-- The number of bytes of the file that is listed at a path, if the system tells it. -/
def sizeOf? (system : FileSystem) (path : Path) (item : Item) : Option Nat :=
  (system.followed? path item).bind Item.size?

end FileSystem

mutual
/-- A file or a directory without links. -/
def Entry.item : Entry → Item
  | .file content => .file content
  | .directory entries => .directory (Entry.items entries)

def Entry.items : List (String × Entry) → List (String × Item)
  | [] => []
  | (name, entry) :: rest => (name, entry.item) :: Entry.items rest
end

/-- Why the system refuses to look a path up on a disk without links: it is too long. -/
def FileTree.refusal? (tree : FileTree) (path : Path) : Option String :=
  match tree.probe path with
  | .error _ => some ("[Errno 36] File name too long: " ++ Display.quoted path.render)
  | .ok _ => none

/-- The file system of a disk without links.  A path that is too long is neither looked up nor
listed. -/
def FileTree.system (tree : FileTree) : FileSystem :=
  { top := Entry.items tree.top
    here := tree.here
    refusals := { listing := Path.isTooLong, lookup := tree.refusal? } }

end ScopeAtlas.Files
