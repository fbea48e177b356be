import ScopeAtlas.Data.Toml
import ScopeAtlas.Language.PythonModules
import ScopeAtlas.Location.Manifest
import ScopeAtlas.Location.Specifier
import ScopeAtlas.Text.Letter
import ScopeAtlas.Text.Lines

/-!
# Locating Python modules

A dotted name is looked for below the source directories of the project, and a
name that begins with dots below the package of the importing file.  A module is
a file, or a directory with an initial file; the file wins.
-/

namespace ScopeAtlas.Location.Python

open ScopeAtlas.Data ScopeAtlas.Files ScopeAtlas.Language ScopeAtlas.Text

/-! ## Manifests -/

/-- A letter or digit of the names of distributions. -/
def isNameStart (c : Char) : Bool :=
  ('A' ≤ c && c ≤ 'Z') || ('a' ≤ c && c ≤ 'z') || ('0' ≤ c && c ≤ '9')

/-- A later character of the names of distributions. -/
def isNameChar (c : Char) : Bool := isNameStart c || c == '.' || c == '_' || c == '-'

/-- Small letters, with underscores for hyphens. -/
def normalizeName (name : String) : String := replaceAll "-" "_" (lower name)

/-- The distribution that a requirement names. -/
def requirementName? (requirement : String) : Option String :=
  match requirement.toList.dropWhile isBlank with
  | c :: rest =>
      if isNameStart c then
        some (normalizeName (String.ofList (c :: rest.takeWhile isNameChar)))
      else none
  | [] => none

/-- The distributions named in a list of requirements, one to a line.  Comments and options are
passed over. -/
def requirements (text : String) : List String :=
  (lines text).filterMap fun line =>
    let content := trim (beforeFirst "#" line)
    if content.isEmpty || startsWith "-" content then none else requirementName? content

/-- The distributions that the items of a manifest require. -/
def requirementNames (items : List Value) : Except Fault (List String) := do
  let texts ← items.mapM (textOr .itemRefused)
  return texts.filterMap requirementName?

/-- The directories where sources usually lie. -/
def usualSourceDirs (files : FileTree) (root : Path) : Except PathFault (List Path) := do
  return (← files.directoriesAmong (["src", "lib"].map root.child)) ++ [root]

/-- The distributions named in the file of requirements at the root, if there is one. -/
def rootRequirements (files : FileTree) (root : Path) : Except PathFault (List String) := do
  return ((← files.fileText? (root.child "requirements.txt")).map requirements).getD []

/-- The directories that the packaging settings name. -/
def packageDirs (files : FileTree) (tool : List (String × Value)) (directory : Path) :
    Except Fault (List Path) := do
  let packages := ((← subtable tool "setuptools").lookup "packages").getD (.table [])
  match packages with
  | .table packages =>
      let items ← itemsUnder (← subtable packages "find") "where"
      items.mapM fun item => do
        files.resolve (directory.child (← textOr .itemRefused item))
  | _ => return []

/-- Reads the manifest at `path`.  A text that is no document describes an empty project. -/
def readManifest (files : FileTree) (root : Path) (text : String) (path : Path) :
    Except Fault Manifest := do
  let document := (← Toml.parse? text).getD []
  let project ← subtable document "project"
  let required ← requirementNames (← itemsUnder project "dependencies")
  let groups ← subtable project "optional-dependencies"
  let optional ← groups.flatMapM fun group => do requirementNames (← itemsOf group.2)
  let tool ← subtable document "tool"
  let poetry ← subtable tool "poetry"
  let listed ← (← itemsUnder poetry "dependencies").mapM (textOr .textExpected)
  let listedDev ← (← itemsUnder poetry "dev-dependencies").mapM (textOr .textExpected)
  let named ← packageDirs files tool path.parent
  let usual ← usualSourceDirs files root
  let listedAtRoot ← rootRequirements files root
  let name := (project.lookup "name").getD .null
  return {
    name := if name.isEmpty then (poetry.lookup "name").getD .null else name
    dependencies := required ++ (listed.filter (· != "python")).map normalizeName ++
      listedAtRoot
    devDependencies := optional ++ listedDev.map normalizeName
    sourceDirs := named ++ usual.filter fun dir => !named.contains dir }

/-- The manifest of a project that has no manifest file. -/
def plainManifest (files : FileTree) (root : Path) : Except Fault Manifest := do
  let usual ← usualSourceDirs files root
  return { dependencies := ← rootRequirements files root, sourceDirs := usual }

/-! ## Modules -/

/-- The module belongs to the standard library. -/
def isBuiltin (name : String) : Bool := isPythonStandardModule (beforeFirst "." name)

/-- The file of the module that segments name below a directory. -/
def moduleFile? (files : FileTree) (base : Path) (segments : List String) :
    Except Fault (Option Path) := do
  let target := base.descend segments
  let indexFiles := [target.child "__init__.py", target.child "__init__.pyi"]
  if segments.isEmpty then files.firstResolved? indexFiles
  else
    match target.renamed? (target.name ++ ".py"), target.renamed? (target.name ++ ".pyi") with
    | some plain, some stub => files.firstResolved? (plain :: stub :: indexFiles)
    | _, _ => throw .namelessPath

/-- The first source directory that has a module decides. -/
def searchDirs (files : FileTree) (segments : List String) : List Path → Except Fault (Option Path)
  | [] => .ok none
  | directory :: rest =>
      match moduleFile? files directory segments with
      | .ok none => searchDirs files segments rest
      | decided => decided

/-- The directories in which a project's modules are looked for. -/
def sourceDirs (project : Project) : Except PathFault (List Path) :=
  if project.manifest.sourceDirs.isEmpty then usualSourceDirs project.files project.root
  else .ok project.manifest.sourceDirs

/-- The file of a module named from a source directory. -/
def findModule? (project : Project) (specifier : String) : Except Fault (Option Path) := do
  searchDirs project.files (split "." specifier) (← sourceDirs project)

/-- The class of a specifier. -/
def classify (project : Project) (specifier : String) : Except Fault ImportClass :=
  if startsWith "." specifier then .ok .relative
  else if isBuiltin specifier then .ok .builtin
  else if project.manifest.allDependencies.contains
      (normalizeName (beforeFirst "." specifier)) then .ok .package
  else
    match findModule? project specifier with
    | .ok (some _) => .ok .absolute
    | .ok none => .ok .unknown
    | .error fault => .error fault

/-- The directory `count` levels up. -/
def climb : (count : Nat) → Path → Path
  | 0, directory => directory
  | count + 1, directory => climb count directory.parent

/-- The file of a module.  One dot is the package of the importing file, and each further dot the
package around it. -/
def locate? (project : Project) (specifier : String) (current : Path) :
    Except Fault (Option Path) :=
  let dots := specifier.toList.takeWhile (· == '.')
  if !dots.isEmpty then
    let base := climb (dots.length - 1) (project.absolute current).parent
    let name := dropChars dots.length specifier
    moduleFile? project.files base (if name.isEmpty then [] else split "." name)
  else if isBuiltin specifier then .ok none
  else findModule? project specifier

end ScopeAtlas.Location.Python
