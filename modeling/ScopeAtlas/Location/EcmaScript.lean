import ScopeAtlas.Data.Json
import ScopeAtlas.Data.JsonComments
import ScopeAtlas.Location.Manifest
import ScopeAtlas.Location.Specifier
import ScopeAtlas.Text.Blank

/-!
# Locating TypeScript and JavaScript modules

A specifier that is a path is completed with the endings of source files and,
for a directory, with its index file.  A settings file may give path patterns
short names and a directory from which bare names are looked for; all other bare
names belong to packages.
-/

namespace ScopeAtlas.Location.EcmaScript

open ScopeAtlas.Data ScopeAtlas.Files ScopeAtlas.Text

/-- The endings of source files, in the order in which they are tried. -/
def endings : List String :=
  [".ts", ".tsx", ".d.ts", ".js", ".jsx", ".mjs", ".mts", ".cjs", ".cts"]

/-- Written endings for which the source file may have another. -/
def compiledEndings : List String := [".js", ".jsx", ".mjs", ".cjs"]

/-- The modules of the runtime. -/
def runtimeModules : List String :=
  ["assert", "async_hooks", "buffer", "child_process", "cluster", "console", "constants",
    "crypto", "dgram", "diagnostics_channel", "dns", "domain", "events", "fs", "http", "http2",
    "https", "inspector", "module", "net", "os", "path", "perf_hooks", "process", "punycode",
    "querystring", "readline", "repl", "stream", "string_decoder", "timers", "tls",
    "trace_events", "tty", "url", "util", "v8", "vm", "wasi", "worker_threads", "zlib"]

/-! ## Manifests -/

/-- The packages under a key, as a list or as the keys of a table. -/
def packagesUnder (entries : List (String × Value)) (key : String) :
    Except Fault (List Value) := do
  let value := (entries.lookup key).getD .null
  if value.isEmpty then return []
  let items ← itemsOf value
  if items.all Value.isScalar then return items else throw .itemRefused

/-- The texts among values. -/
def namesAmong (items : List Value) : List String := items.filterMap Value.text?

/-- The values that are no texts. -/
def namelessAmong (items : List Value) : List Value := items.filter fun item => item.text?.isNone

/-- Adds what the package file says to a manifest.  A file that is no table says nothing. -/
def addPackageFile (files : FileTree) (path : Path) (manifest : Manifest) :
    Except Fault Manifest := do
  match ← files.fileBytes? path with
  | none => return manifest
  | some content =>
      match Utf8.decode? content with
      | none => throw .encodingRefused
      | some text =>
          match ← Json.parse? (String.ofList (FileTree.unifyLineEnds text.toList)) with
          | some (.table entries) =>
              let runtime ← packagesUnder entries "dependencies"
              let peer ← packagesUnder entries "peerDependencies"
              let optional ← packagesUnder entries "optionalDependencies"
              let development ← packagesUnder entries "devDependencies"
              return { manifest with
                name :=
                  match entries.lookup "name" with
                  | some (.text name) => .text name
                  | _ => manifest.name
                dependencies := manifest.dependencies ++ namesAmong (runtime ++ peer ++ optional)
                devDependencies := manifest.devDependencies ++ namesAmong development
                nameless := namelessAmong (runtime ++ peer ++ optional)
                namelessDev := namelessAmong development }
          | _ => return manifest

/-- The path patterns of the settings, with the paths they stand for. -/
def aliasesOf (options : List (String × Value)) :
    Except Fault (List (String × List String)) := do
  let value := (options.lookup "paths").getD .null
  if value.isEmpty then return []
  return (← entriesOf value).filterMap fun entry =>
    match entry.2 with
    | .list targets => some (entry.1, targets.filterMap Value.text?)
    | _ => none

/-- Reads the settings file at `path` and the package file beside it. -/
def readManifest (files : FileTree) (text : String) (path : Path) : Except Fault Manifest := do
  let settings :=
    match ← Json.parse? (JsonComments.strip text) with
    | some (.table entries) => entries
    | _ => []
  let options ← subtable settings "compilerOptions"
  let base ←
    match options.lookup "baseUrl" with
    | some (.text base) => do pure [← files.resolve (path.parent.child base)]
    | _ => pure []
  let aliases ← aliasesOf options
  addPackageFile files (path.parent.child "package.json")
    { sourceDirs := base, pathAliases := aliases }

/-- The manifest of a project that has no settings file. -/
def plainManifest (files : FileTree) (root : Path) : Except Fault Manifest :=
  addPackageFile files (root.child "package.json") {}

/-! ## Modules -/

/-- The module belongs to the runtime. -/
def isBuiltin (name : String) : Bool :=
  startsWith "node:" name || runtimeModules.contains (beforeFirst "/" name)

/-- The part of a specifier that the star of a pattern stands for. -/
def starPart? (start ending specifier : String) : Option String :=
  if startsWith start specifier && endsWith ending specifier &&
      start.length + ending.length ≤ specifier.length then
    some (dropRightChars ending.length (dropChars start.length specifier))
  else none

/-- The paths that the first matching pattern gives for a specifier. -/
def aliasTargets? (specifier : String) : List (String × List String) → Option (List String)
  | [] => none
  | (pattern, targets) :: rest =>
      match cutFirst? "*" pattern with
      | some (start, ending) =>
          match starPart? start ending specifier with
          | some part => some (targets.map (replaceAll "*" part))
          | none => aliasTargets? specifier rest
      | none => if specifier == pattern then some targets else aliasTargets? specifier rest

/-- The class of a specifier. -/
def classify (project : Project) (specifier : String) : ImportClass :=
  if isRelativeSpecifier specifier then .relative
  else if startsWith "/" specifier then .absolute
  else if (aliasTargets? specifier project.manifest.pathAliases).isSome ||
      startsWithAny ["@/", "~/"] specifier then .aliased
  else if isBuiltin specifier then .builtin
  else .package

/-- The package of a specifier; a scope belongs to the name of its package. -/
def packageName (specifier : String) : String :=
  let name := dropStart "node:" specifier
  match split "/" name with
  | scope :: package :: _ => if startsWith "@" name then scope ++ "/" ++ package else scope
  | parts => String.intercalate "/" parts

/-- A written path without the first compiled ending that it has. -/
def sourceStem (path : String) : String :=
  match compiledEndings.find? (endsWith · path) with
  | some ending => dropEnd ending path
  | none => path

/-- The source file that a path stands for. -/
def probe? (files : FileTree) (path : Path) : Except PathFault (Option Path) := do
  let target := path.normal
  if ← files.isFile target then return some (files.absolute target)
  let stem := sourceStem target.render
  match ← files.firstResolved? (endings.map fun ending => Path.ofString (stem ++ ending)) with
  | some file => return some file
  | none =>
      if ← files.isDirectory target then
        files.firstResolved? (endings.map fun ending => target.child ("index" ++ ending))
      else return none

/-- The source file that the first possible path stands for. -/
def probeFirst? (files : FileTree) : List Path → Except PathFault (Option Path)
  | [] => .ok none
  | path :: rest => do
      match ← probe? files path with
      | some file => return some file
      | none => probeFirst? files rest

/-- The directory from which named paths are looked for. -/
def baseDirectory (project : Project) : Path := project.manifest.sourceDirs.headD project.root

/-- The file of a module. -/
def locate? (project : Project) (specifier : String) (current : Path) :
    Except PathFault (Option Path) :=
  match classify project specifier with
  | .relative => probe? project.files ((project.absolute current).parent.child specifier)
  | .absolute => probe? project.files (project.root.child (trimLeftOf "/" specifier))
  | .aliased =>
      let rest := dropChars 2 specifier
      let targets :=
        (aliasTargets? specifier project.manifest.pathAliases).getD ["src/" ++ rest, rest]
      probeFirst? project.files (targets.map (baseDirectory project).child)
  | .package =>
      match project.manifest.sourceDirs with
      | base :: _ => probe? project.files (base.child specifier)
      | [] => .ok none
  | _ => .ok none

end ScopeAtlas.Location.EcmaScript
