import ScopeAtlas.Text.Split

/-!
# Paths

A path is an anchor and a list of components.  Reading a path drops empty
components and the component `.`, so a path is written without doubled or
trailing slashes; the component `..` is kept until a path is normalised.  Two
leading slashes are an anchor of their own, and more than two count as one.
-/

namespace ScopeAtlas.Files

open ScopeAtlas.Text

/-- What stands in front of the first component. -/
inductive Anchor where
  | relative
  | root
  | doubleRoot
deriving Repr, DecidableEq, Inhabited

def Anchor.render : Anchor → String
  | .relative => ""
  | .root => "/"
  | .doubleRoot => "//"

/-- A path on a file system with slashes. -/
structure Path where
  anchor : Anchor
  parts : List String
deriving Repr, DecidableEq, Inhabited

namespace Path

/-- The anchor of a written path. -/
def anchorOf (text : String) : Anchor :=
  if startsWith "///" text then .root
  else if startsWith "//" text then .doubleRoot
  else if startsWith "/" text then .root
  else .relative

/-- Reads a path. -/
def ofString (text : String) : Path :=
  { anchor := anchorOf text
    parts := (split "/" text).filter fun part => part != "" && part != "." }

/-- Reads a path with every step that is written: the component `.` is kept, and a slash at the end
counts as one, so that such a path names directories only. -/
def ofSteps (text : String) : Path :=
  { anchor := anchorOf text
    parts := (split "/" text).filter (· != "") ++ (if endsWith "/" text then ["."] else []) }

/-- Writes a path; the empty relative path is the current directory. -/
def render (path : Path) : String :=
  match path.anchor, path.parts with
  | .relative, [] => "."
  | anchor, parts => anchor.render ++ String.intercalate "/" parts

instance : ToString Path := ⟨render⟩

def isAbsolute (path : Path) : Bool := path.anchor != .relative

/-- The last component, empty when there is none. -/
def name (path : Path) : String := path.parts.getLast?.getD ""

/-- The stem and the ending of a file name.  The ending begins at the last dot, which is neither the
first nor the last character of the name. -/
def splitName (name : String) : String × String :=
  match cutLast? "." name with
  | some (stem, ending) =>
      if stem.isEmpty || ending.isEmpty then (name, "") else (stem, "." ++ ending)
  | none => (name, "")

/-- The last component without its ending. -/
def stem (path : Path) : String := (splitName path.name).1

/-- The ending of the last component, with its dot. -/
def suffix (path : Path) : String := (splitName path.name).2

/-- The directory that holds the path; a path without components is its own parent. -/
def parent (path : Path) : Path := { path with parts := path.parts.dropLast }

/-- The path `second` as seen from `first`; an absolute path stands for itself. -/
def join (first second : Path) : Path :=
  if second.isAbsolute then second else { first with parts := first.parts ++ second.parts }

/-- The path from `first` along the components `parts`. -/
def along (first : Path) (parts : List String) : Path :=
  { first with parts := first.parts ++ parts }

/-- The path written `text` as seen from `first`. -/
def child (first : Path) (text : String) : Path := first.join (ofString text)

/-- The path reached from `first` by the written paths `texts`, one after the other. -/
def descend (first : Path) (texts : List String) : Path := texts.foldl child first

/-- The same directory with another last component; a path without components has none to
change. -/
def renamed? (path : Path) (name : String) : Option Path :=
  if path.name.isEmpty then none else some { path with parts := path.parts.dropLast ++ [name] }

/-- The path with `ending` in place of its own ending. -/
def withEnding? (path : Path) (ending : String) : Option Path := path.renamed? (path.stem ++ ending)

/-- Lets every `..` cancel the component before it.  With nothing to cancel it stays, unless the
path is absolute.  `kept` holds the components kept so far, latest first. -/
def collapse (absolute : Bool) (kept : List String) : List String → List String
  | [] => kept.reverse
  | part :: rest =>
      if part == ".." then
        match kept with
        | [] => collapse absolute (if absolute then [] else [".."]) rest
        | last :: earlier =>
            collapse absolute (if last == ".." then ".." :: last :: earlier else earlier) rest
      else collapse absolute (part :: kept) rest

/-- The path without `..` where the component before it is known. -/
def normal (path : Path) : Path :=
  { path with parts := collapse path.isAbsolute [] path.parts }

/-- The absolute path without `..`, seen from the directory `here`. -/
def resolved (here path : Path) : Path :=
  let full := here.join path
  { anchor := .root, parts := collapse true [] full.parts }

/-- The components that lead from one list of components to another. -/
def route : List String → List String → List String
  | start :: starts, goal :: goals =>
      if start == goal then route starts goals
      else List.replicate (starts.length + 1) ".." ++ goal :: goals
  | starts, goals => List.replicate starts.length ".." ++ goals

/-- The absolute path `path` as seen from the absolute path `start`. -/
def relativeTo (start path : Path) : Path :=
  { anchor := .relative
    parts := route (collapse true [] start.parts) (collapse true [] path.parts) }

end Path

end ScopeAtlas.Files
