import ScopeAtlas.Language.Profile
import ScopeAtlas.Location.CFamily
import ScopeAtlas.Location.CSharp
import ScopeAtlas.Location.EcmaScript
import ScopeAtlas.Location.Go
import ScopeAtlas.Location.Python
import ScopeAtlas.Location.Rust

/-!
# Ecosystems

The rules of a family of languages for its manifests and specifiers, in one
record, and the operations that are the same for all of them.
-/

namespace ScopeAtlas.Location

open ScopeAtlas.Files ScopeAtlas.Language ScopeAtlas.Text

/-- The rules by which a family of languages describes projects and names modules. -/
structure Ecosystem where
  /-- The manifest file of a root directory. -/
  findManifest? : FileTree → Path → Except PathFault (Option Path)
  /-- Reads a manifest of a project with the given root from its text and its path. -/
  readManifest : FileTree → (root : Path) → (text : String) → Path → Except Fault Manifest
  /-- The manifest of a root directory without a manifest file. -/
  plainManifest : FileTree → (root : Path) → Except Fault Manifest
  isBuiltin : String → Bool
  classify : Project → String → Except Fault ImportClass
  packageName : Project → String → String
  /-- Every file that may define what is imported, the main one first. -/
  locate : Project → String → Path → Except Fault (List Path)

/-- The first of some files of a root directory that exists. -/
def firstManifest? (names : List String) (files : FileTree) (root : Path) :
    Except PathFault (Option Path) :=
  files.firstFile? (names.map root.child)

/-- The files of an import that is followed to at most one. -/
def atMostOne (found : Except PathFault (Option Path)) : Except Fault (List Path) := do
  return (← found).toList

namespace Ecosystem

def ecmaScript : Ecosystem where
  findManifest? := firstManifest? ["tsconfig.json", "jsconfig.json"]
  readManifest files _ text path := EcmaScript.readManifest files text path
  plainManifest := EcmaScript.plainManifest
  isBuiltin := EcmaScript.isBuiltin
  classify project specifier := .ok (EcmaScript.classify project specifier)
  packageName _ specifier := EcmaScript.packageName specifier
  locate project specifier current := atMostOne (EcmaScript.locate? project specifier current)

def python : Ecosystem where
  findManifest? := firstManifest? ["pyproject.toml"]
  readManifest := Python.readManifest
  plainManifest files root := Python.plainManifest files root
  isBuiltin := Python.isBuiltin
  classify := Python.classify
  packageName _ specifier := beforeFirst "." specifier
  locate project specifier current :=
    (Python.locate? project specifier current).map Option.toList

def rust : Ecosystem where
  findManifest? := firstManifest? ["Cargo.toml"]
  readManifest _ _ text _ := .ok (Rust.readManifest text)
  plainManifest _ _ := .ok {}
  isBuiltin := Rust.isBuiltin
  classify project specifier := .ok (Rust.classify project specifier)
  packageName _ specifier := Rust.head specifier
  locate project specifier current := atMostOne (Rust.locate? project specifier current)

def go : Ecosystem where
  findManifest? := firstManifest? ["go.mod"]
  readManifest _ _ text _ := .ok (Go.readManifest text)
  plainManifest _ _ := .ok {}
  isBuiltin := Go.isBuiltin
  classify project specifier := .ok (Go.classify project specifier)
  packageName _ specifier := Go.rootPackage specifier
  locate project specifier current := do return ← Go.locate project specifier current

def cFamily : Ecosystem where
  findManifest? := firstManifest? ["compile_commands.json", "build/compile_commands.json"]
  readManifest files root text _ := CFamily.readManifest files root text
  plainManifest files root := CFamily.plainManifest files root
  isBuiltin := CFamily.isBuiltin
  classify _ specifier := .ok (CFamily.classify specifier)
  packageName _ specifier := specifier
  locate project specifier current := atMostOne (CFamily.locate? project specifier current)

def csharp : Ecosystem where
  findManifest? files root := .ok (CSharp.findManifest? files root)
  readManifest _ _ text path := .ok (CSharp.readManifest text (some path))
  plainManifest _ _ := .ok {}
  isBuiltin := CSharp.isBuiltin
  classify := CSharp.classify
  packageName := CSharp.packageName
  locate project specifier _ := CSharp.locate project specifier

/-- The ecosystem of a family. -/
def ofFamily : Family → Ecosystem
  | .typescript => ecmaScript
  | .python => python
  | .rust => rust
  | .go => go
  | .c | .cpp => cFamily
  | .csharp => csharp

end Ecosystem

/-- An import that has been followed. -/
structure LocatedImport where
  specifier : String
  file : Option Path
  isLocal : Bool
  importClass : ImportClass
  packageName : Option String

namespace Ecosystem

/-- The manifest of a project, read from the given file or from the one that is found. -/
def manifestOf (ecosystem : Ecosystem) (project : Project) (config : Option Path) :
    Except Fault Manifest := do
  let path ←
    match config with
    | some path => pure (some path)
    | none => ecosystem.findManifest? project.files project.root
  match path with
  | none => ecosystem.plainManifest project.files project.root
  | some path =>
      match ← project.files.fileText? path with
      | some text => ecosystem.readManifest project.files project.root text path
      | none => ecosystem.plainManifest project.files project.root

/-- The project with the given root, or its own, and the manifest of that root. -/
def load (ecosystem : Ecosystem) (project : Project) (root config : Option Path) :
    Project × Option Fault :=
  let resolved :=
    match root with
    | some root => project.files.resolve root
    | none => .ok project.root
  match resolved with
  | .error fault => (project, some (.path fault))
  | .ok root =>
      let project := { project with root := root }
      match ecosystem.manifestOf project config with
      | .ok manifest => ({ project with manifest := manifest }, none)
      | .error fault => (project, some fault)

/-- The specifier names a module of the project. -/
def isLocal (ecosystem : Ecosystem) (project : Project) (specifier : String) :
    Except Fault Bool :=
  (ecosystem.classify project specifier).map ImportClass.isLocal

/-- The file that a specifier names. -/
def locateFirst? (ecosystem : Ecosystem) (project : Project) (specifier : String)
    (current : Path) : Except Fault (Option Path) :=
  (ecosystem.locate project specifier current).map List.head?

/-- Everything about one import. -/
def follow (ecosystem : Ecosystem) (project : Project) (specifier : String) (current : Path) :
    Except Fault LocatedImport := do
  let file ← ecosystem.locateFirst? project specifier current
  let importClass ← ecosystem.classify project specifier
  let isLocal := file.isSome || importClass.isLocal
  return {
    specifier := specifier
    file := file
    isLocal := isLocal
    importClass := importClass
    packageName := if isLocal then none else some (ecosystem.packageName project specifier) }

end Ecosystem

end ScopeAtlas.Location
