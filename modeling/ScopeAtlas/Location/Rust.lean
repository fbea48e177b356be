import ScopeAtlas.Location.Manifest
import ScopeAtlas.Location.Specifier
import ScopeAtlas.Text.Letter
import ScopeAtlas.Text.Lines

/-!
# Locating Rust modules

A path begins at the root of the crate, at the current module or at one above
it, and is followed through directories and files.  The last segments may name
items inside the file that is found.
-/

namespace ScopeAtlas.Location.Rust

open ScopeAtlas.Data ScopeAtlas.Files ScopeAtlas.Text

/-- The crates that come with the compiler. -/
def standardCrates : List String :=
  ["std", "core", "alloc", "proc_macro", "test"]

/-- Crates so common that they count as packages without being declared. -/
def commonCrates : List String :=
  ["serde", "serde_json", "tokio", "async_std", "futures", "log", "env_logger", "tracing",
    "anyhow", "thiserror", "clap", "structopt", "regex", "lazy_static", "once_cell", "chrono",
    "uuid", "rand", "reqwest", "hyper", "actix", "diesel", "sqlx", "rusqlite", "syn", "quote",
    "proc_macro2"]

/-- The layout of modules. -/
def layout : Layout := { endings := [".rs"], indexFiles := ["mod.rs"] }

/-- The files that hold the root module of a crate. -/
def rootFiles : List String := ["lib.rs", "main.rs"]

/-! ## Manifests -/

/-- The name of a crate as paths write it. -/
def crateName (name : String) : String := replaceAll "-" "_" name

/-- The name between the brackets of a header line. -/
def header? (line : String) : Option String :=
  match line.toList with
  | '[' :: rest =>
      let name := rest.takeWhile (· != ']')
      if name.isEmpty || name.length == rest.length then none
      else some (trim (String.ofList name))
  | _ => none

/-- A character of a bare key. -/
def isKeyChar (c : Char) : Bool :=
  ('A' ≤ c && c ≤ 'Z') || ('a' ≤ c && c ≤ 'z') || ('0' ≤ c && c ≤ '9') || c == '_' || c == '-'

/-- What stands after the equals sign, when the line begins with a key of the given characters. -/
def afterKey? (key : Char → Bool) (line : List Char) : Option (List Char × List Char) :=
  let name := line.takeWhile key
  match (line.dropWhile key).dropWhile isBlank with
  | '=' :: rest => if name.isEmpty then none else some (name, rest)
  | _ => none

/-- The key of an entry line. -/
def key? (line : String) : Option String :=
  (afterKey? isKeyChar line.toList).map fun parts => String.ofList parts.1

/-- The value of an entry line that gives a string, which must not be empty. -/
def stringValue? (line : String) : Option String :=
  match afterKey? isWordChar line.toList with
  | some (_, rest) =>
      match rest.dropWhile isBlank with
      | '"' :: rest =>
          let content := rest.takeWhile (· != '"')
          if content.isEmpty || content.length == rest.length then none
          else some (String.ofList content)
      | _ => none
  | none => none

/-- What has been read of a manifest, and the section that the next line belongs to. -/
structure Reading where
  heading : String := ""
  manifest : Manifest := {}

namespace Reading

/-- Takes note of a dependency. -/
def depend (reading : Reading) (development : Bool) (name : String) : Reading :=
  let manifest := reading.manifest
  if development then
    { reading with manifest :=
        { manifest with devDependencies := manifest.devDependencies ++ [crateName name] } }
  else
    { reading with manifest :=
        { manifest with dependencies := manifest.dependencies ++ [crateName name] } }

/-- Enters a section.  The section of one dependency declares it. -/
def enter (reading : Reading) (name : String) : Reading :=
  let entered := { reading with heading := name }
  if startsWith "dependencies." name then
    entered.depend false (dropChars "dependencies.".length name)
  else if startsWith "dev-dependencies." name then
    entered.depend true (dropChars "dev-dependencies.".length name)
  else entered

/-- Reads an entry of the current section. -/
def entry (reading : Reading) (line : String) : Reading :=
  let manifest := reading.manifest
  if reading.heading == "package" && startsWith "name" line then
    match stringValue? line with
    | some name => { reading with manifest := { manifest with name := .text (crateName name) } }
    | none => reading
  else if ["dependencies", "dev-dependencies", "build-dependencies"].contains reading.heading then
    match key? line with
    | some name => reading.depend (reading.heading == "dev-dependencies") name
    | none => reading
  else reading

/-- Reads one line. -/
def line (reading : Reading) (raw : String) : Reading :=
  let content := trim (beforeFirst "#" raw)
  if content.isEmpty then reading
  else
    match header? content with
    | some name => reading.enter name
    | none => reading.entry content

end Reading

/-- Reads a manifest line by line. -/
def readManifest (text : String) : Manifest :=
  ((lines text).foldl Reading.line {}).manifest

/-! ## Modules -/

/-- The first segment of a path. -/
def head (specifier : String) : String := beforeFirst "::" specifier

/-- The module belongs to the standard library. -/
def isBuiltin (name : String) : Bool := standardCrates.contains (head name)

/-- The segment names the crate of the project. -/
def isOwnName (project : Project) (segment : String) : Bool :=
  project.manifest.properName? == some segment

/-- The class of a specifier. -/
def classify (project : Project) (specifier : String) : ImportClass :=
  let first := head specifier
  if ["crate", "self", "super"].contains first || isOwnName project first then .relative
  else if standardCrates.contains first then .builtin
  else if project.manifest.allDependencies.contains first || commonCrates.contains first then
    .package
  else .unknown

/-- The directory of the root module. -/
def crateRoot (project : Project) : Except PathFault Path := do
  let source := project.root.child "src"
  return if ← project.files.isDirectory source then source else project.root

/-- The directory that holds the children of the module that a file defines. -/
def moduleDirectory (file : Path) : Path :=
  if ["mod", "lib", "main"].contains file.stem then file.parent
  else file.parent.child file.stem

/-- The file of the module whose children lie in a directory. -/
def moduleFile? (project : Project) (directory : Path) : Except PathFault (Option Path) := do
  let files := project.files
  let here ← files.resolve directory
  let root ← crateRoot project
  if here == (← files.resolve root) then files.firstFile? (rootFiles.map directory.child)
  else layout.packageFile? files directory

/-- The file to which segments lead from a directory.  A single segment that leads nowhere names
an item of the module of that directory. -/
def locateBelow? (project : Project) (base : Path) (segments : List String) :
    Except PathFault (Option Path) := do
  let found ←
    match segments with
    | [] => moduleFile? project base
    | [segment] => do
        match ← layout.follow? project.files true base [segment] with
        | some file => pure (some file)
        | none => moduleFile? project base
    | segments => layout.follow? project.files true base segments
  return found.map project.files.absolute

/-- Goes up one directory for each leading `super`. -/
def climb (base : Path) : List String → Path × List String
  | segment :: rest =>
      if segment == "super" then climb base.parent rest else (base, segment :: rest)
  | [] => (base, [])

/-- The file of a module, or the file that defines an item. -/
def locate? (project : Project) (specifier : String) (current : Path) :
    Except PathFault (Option Path) := do
  match (split "::" specifier).filter (!·.isEmpty) with
  | [] => return none
  | first :: rest =>
      let current := project.absolute current
      if first == "crate" || isOwnName project first then
        locateBelow? project (← crateRoot project) rest
      else if first == "self" then
        if rest.isEmpty then
          return if ← project.files.isFile current then some (project.files.absolute current)
            else none
        else locateBelow? project (moduleDirectory current) rest
      else if first == "super" then
        let climbed := climb (moduleDirectory current).parent rest
        locateBelow? project climbed.1 climbed.2
      else return none

end ScopeAtlas.Location.Rust
