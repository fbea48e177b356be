import ScopeAtlas.Location.Manifest
import ScopeAtlas.Location.Specifier
import ScopeAtlas.Text.Blank
import ScopeAtlas.Text.Lines

/-!
# Locating Go packages

An import names a directory.  All source files of the directory belong to the
package, and the file named like the directory comes first.
-/

namespace ScopeAtlas.Location.Go

open ScopeAtlas.Data ScopeAtlas.Files ScopeAtlas.Text

/-- The packages of the standard library. -/
def standardPackages : List String :=
  ["fmt", "io", "os", "bufio", "bytes", "strings", "strconv", "errors", "log", "flag",
    "context", "time", "math", "sort", "sync", "atomic", "runtime", "reflect", "unsafe",
    "io/ioutil", "io/fs", "os/exec", "os/signal", "path", "path/filepath", "net", "net/http",
    "net/url", "net/http/httptest", "net/http/httputil", "encoding", "encoding/json",
    "encoding/xml", "encoding/base64", "encoding/binary", "encoding/csv", "encoding/gob",
    "encoding/hex", "crypto", "crypto/md5", "crypto/sha1", "crypto/sha256", "crypto/sha512",
    "crypto/rand", "crypto/tls", "crypto/x509", "crypto/aes", "crypto/cipher", "text/template",
    "html/template", "regexp", "container/heap", "container/list", "container/ring", "testing",
    "testing/quick", "testing/iotest", "compress/gzip", "compress/zlib", "archive/zip",
    "archive/tar", "database/sql", "database/sql/driver", "embed", "go/ast", "go/parser",
    "go/token", "go/format", "unicode", "unicode/utf8", "unicode/utf16", "image", "image/png",
    "image/jpeg", "image/gif", "debug/dwarf", "debug/elf", "debug/pe"]

/-! ## Manifests -/

/-- What has been read of a module file, and whether the next line stands in a block of
requirements. -/
structure Reading where
  inBlock : Bool := false
  manifest : Manifest := {}

namespace Reading

/-- Takes note of a requirement, which needs a path and a version. -/
def require (reading : Reading) (parts : List String) : Reading :=
  match parts with
  | path :: _ :: _ =>
      { reading with manifest :=
          { reading.manifest with dependencies := reading.manifest.dependencies ++ [path] } }
  | _ => reading

/-- Reads one line. -/
def line (reading : Reading) (raw : String) : Reading :=
  let content := trim (beforeFirst "//" raw)
  if content.isEmpty then reading
  else if startsWith "module " content then
    let name := trimOf "\"" (trim (dropChars "module ".length content))
    { reading with manifest := { reading.manifest with name := .text name } }
  else if startsWith "require (" content then { reading with inBlock := true }
  else if content == ")" then { reading with inBlock := false }
  else if startsWith "require " content || reading.inBlock then
    reading.require (words (dropStart "require " content))
  else reading

end Reading

/-- Reads a module file line by line. -/
def readManifest (text : String) : Manifest :=
  ((lines text).foldl Reading.line {}).manifest

/-! ## Packages -/

/-- The repository of a package: the first three segments when the first is a host. -/
def rootPackage (path : String) : String :=
  match split "/" path with
  | host :: owner :: repository :: _ =>
      if contains "." host then String.intercalate "/" [host, owner, repository] else path
  | _ => path

/-- The package belongs to the standard library. -/
def isBuiltin (name : String) : Bool :=
  let first := beforeFirst "/" name
  !contains "." first && (standardPackages.contains name || standardPackages.contains first)

/-- The part of a specifier below the module of the project. -/
def belowModule? (project : Project) (specifier : String) : Option String :=
  match project.manifest.properName? with
  | some name =>
      if specifier == name || startsWith (name ++ "/") specifier then
        some (trimLeftOf "/" (dropChars name.length specifier))
      else none
  | none => none

/-- The class of a specifier. -/
def classify (project : Project) (specifier : String) : ImportClass :=
  let dependencies := project.manifest.dependencies
  if isBuiltin specifier then .builtin
  else if isRelativeSpecifier specifier || (belowModule? project specifier).isSome then .relative
  else if dependencies.contains (rootPackage specifier) || dependencies.contains specifier then
    .package
  else if contains "." (beforeFirst "/" specifier) then .package
  else .unknown

/-- The directory of a package. -/
def packageDirectory? (project : Project) (specifier : String) (current : Path) :
    Except PathFault (Option Path) := do
  if isBuiltin specifier then return none
  let directory ←
    match belowModule? project specifier with
    | some rest => pure (project.root.child rest)
    | none =>
        if isRelativeSpecifier specifier then
          project.files.resolve ((project.absolute current).parent.child specifier)
        else pure ((project.root.child "vendor").child specifier)
  return if ← project.files.isDirectory directory then some directory else none

/-- A source file that is no test. -/
def isSourceFile (path : Path) : Bool :=
  path.suffix == ".go" && !endsWith "_test.go" path.name

/-- The source files of a directory, those named like it first. -/
def packageFiles (files : FileTree) (directory : Path) : List Path :=
  let found := (files.list directory).filter fun item => isSourceFile item.1 && item.2.isFile
  let sorted := found.mergeSort fun a b => decide (a.1.name ≤ b.1.name)
  let paths := sorted.map fun item => files.absolute item.1
  paths.filter (·.stem == directory.name) ++ paths.filter (·.stem != directory.name)

/-- The source files of a package. -/
def locate (project : Project) (specifier : String) (current : Path) :
    Except PathFault (List Path) := do
  match ← packageDirectory? project specifier current with
  | none => return []
  | some directory => return packageFiles project.files directory

end ScopeAtlas.Location.Go
