import ScopeAtlas.Data.Key
import ScopeAtlas.Files.FileSystem
import ScopeAtlas.Language.Registry

/-!
# Discovery of source files

The source files of a directory are its own files in the order of their names,
followed by those of its subdirectories in the order of theirs.  Subdirectories
with excluded names are passed over, and so are those that cannot be listed and those
that are links.  A link that does not lead to a directory is listed with the files.  The
order in which a directory lists its entries has no influence on the result.
-/

namespace ScopeAtlas.Workspace

open ScopeAtlas.Data ScopeAtlas.Files ScopeAtlas.Language

/-- A file and its size in bytes, if the system tells it. -/
structure FoundFile where
  path : Path
  size : Option Nat
deriving Repr, DecidableEq

/-- Items in the order of their names. -/
def byName {α : Type} (items : List (String × α)) : List (String × α) :=
  items.mergeSort fun a b => decide (a.1 ≤ b.1)

/-- The entries of a directory that are listed with its files. -/
def listedFiles (system : FileSystem) (directory : Path) (entries : List (String × Item)) :
    List (String × Item) :=
  entries.filter fun entry => !system.showsDirectory (directory.along [entry.1]) entry.2

/-- A directory's own files, in the order of their names. -/
def ownFiles (system : FileSystem) (directory : Path) (entries : List (String × Item)) :
    List FoundFile :=
  (byName (listedFiles system directory entries)).map fun entry =>
    let path := directory.along [entry.1]
    { path := path, size := system.sizeOf? path entry.2 }

mutual
/-- The files below an item. -/
def walk (system : FileSystem) (excluded : List String) (directory : Path) :
    Item → List FoundFile
  | .directory entries =>
      if system.refusals.listing directory then []
      else
        ownFiles system directory entries ++
          (byName (walkEntries system excluded directory entries)).flatMap (·.2)
  | .file _ | .special _ | .link _ => []

/-- The files below each subdirectory that is not excluded. -/
def walkEntries (system : FileSystem) (excluded : List String) (directory : Path) :
    List (String × Item) → List (String × List FoundFile)
  | [] => []
  | (name, item) :: rest =>
      let later := walkEntries system excluded directory rest
      if item.isDirectory && !excluded.contains name then
        (name, walk system excluded (directory.along [name]) item) :: later
      else later
end

/-- The source files of a directory, apart from those that are too large. -/
structure Discovery where
  files : List Path
  oversized : List Path
deriving Repr, DecidableEq

/-- A number of bytes is too large when it makes more kilobytes than the limit; a limit of zero is
none. -/
def exceedsLimit (limitKb : Measure) (size : Nat) : Bool :=
  match limitKb with
  | .finite numerator denominator =>
      numerator != 0 && decide (numerator * 1024 < size * denominator)
  | .infinite negative => negative
  | .notANumber => false

/-- A file is too large when its size is known and too large. -/
def isOversized (limitKb : Measure) (file : FoundFile) : Bool :=
  file.size.any (exceedsLimit limitKb)

/-- Finds the source files below a directory. -/
def discover (system : FileSystem) (registry : Registry) (root : Path) (excluded : List String)
    (limitKb : Measure) : Discovery :=
  let found := ((system.item? root).map (walk system excluded root)).getD []
  let supported := found.filter fun file => registry.isSupported file.path
  { files := (supported.filter fun file => !isOversized limitKb file).map (·.path)
    oversized := (supported.filter (isOversized limitKb)).map (·.path) }

end ScopeAtlas.Workspace
