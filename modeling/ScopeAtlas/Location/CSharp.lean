import ScopeAtlas.Location.Manifest
import ScopeAtlas.Location.Specifier
import ScopeAtlas.Text.Blank

/-!
# Locating C# namespaces

By convention a namespace is a directory: that of its name, or that of its name
without the root namespace of the project, below the root or a source directory.
All source files of the directory belong to it.  Where there is no such
directory, the longest beginning of the name that is a file counts.
-/

namespace ScopeAtlas.Location.CSharp

open ScopeAtlas.Data ScopeAtlas.Files ScopeAtlas.Text

/-- The namespaces of the base library. -/
def baseNamespaces : List String :=
  ["System", "System.Collections", "System.Collections.Generic",
    "System.Collections.Concurrent", "System.Collections.Immutable",
    "System.Collections.ObjectModel", "System.Collections.Specialized", "System.ComponentModel",
    "System.ComponentModel.DataAnnotations", "System.Configuration", "System.Data",
    "System.Diagnostics", "System.Drawing", "System.Dynamic", "System.Globalization",
    "System.IO", "System.IO.Compression", "System.IO.Pipes", "System.Linq",
    "System.Linq.Expressions", "System.Net", "System.Net.Http", "System.Net.Sockets",
    "System.Net.WebSockets", "System.Numerics", "System.Reflection", "System.Resources",
    "System.Runtime", "System.Runtime.CompilerServices", "System.Runtime.InteropServices",
    "System.Runtime.Serialization", "System.Security", "System.Security.Cryptography",
    "System.Text", "System.Text.Json", "System.Text.RegularExpressions", "System.Threading",
    "System.Threading.Tasks", "System.Threading.Channels", "System.Timers",
    "System.Transactions", "System.Web", "System.Xml", "System.Xml.Linq",
    "System.Xml.Serialization", "Microsoft.Extensions",
    "Microsoft.Extensions.DependencyInjection", "Microsoft.Extensions.Logging",
    "Microsoft.Extensions.Configuration", "Microsoft.Extensions.Hosting",
    "Microsoft.Extensions.Options", "Microsoft.AspNetCore", "Microsoft.AspNetCore.Mvc",
    "Microsoft.AspNetCore.Http", "Microsoft.EntityFrameworkCore", "Microsoft.Data"]

/-- Packages so common that they count without being declared. -/
def commonPackages : List String :=
  ["Newtonsoft.Json", "AutoMapper", "FluentValidation", "MediatR", "Serilog", "NLog", "log4net",
    "Polly", "Dapper", "Moq", "xunit", "NUnit", "FluentAssertions", "Bogus", "Swashbuckle",
    "Hangfire"]

/-- The directories, seen from the root, below which namespaces are looked for. -/
def sourceDirNames : List String := ["", "src", "Source", "Sources"]

/-! ## Manifests -/

/-- The content of the first element of a name that holds text only. -/
def elementText? (name : String) : List Char → Option String
  | [] => none
  | c :: rest =>
      let opening := ("<" ++ name ++ ">").toList
      let closing := ("</" ++ name ++ ">").toList
      let body := (c :: rest).drop opening.length
      let content := body.takeWhile (· != '<')
      if opening.isPrefixOf (c :: rest) && !content.isEmpty &&
          closing.isPrefixOf (body.dropWhile (· != '<')) then
        some (String.ofList content)
      else elementText? name rest

/-- The included name at the beginning of a text that opens an element, and what follows it. -/
def includeAt? (element : String) (text : List Char) : Option (String × List Char) :=
  let opening := ("<" ++ element).toList
  let field := "Include=\"".toList
  let after := text.drop opening.length
  let body := after.dropWhile isBlank
  let rest := body.drop field.length
  let content := rest.takeWhile (· != '"')
  if opening.isPrefixOf text && body.length < after.length && field.isPrefixOf body &&
      !content.isEmpty && content.length < rest.length then
    some (String.ofList content, rest.drop (content.length + 1))
  else none

/-- The names that the elements of a kind include.  The length of the text is enough `fuel`. -/
def includes (element : String) : (fuel : Nat) → List Char → List String
  | 0, _ => []
  | fuel + 1, text =>
      match includeAt? element text with
      | some (name, rest) => name :: includes element fuel rest
      | none =>
          match text with
          | [] => []
          | _ :: rest => includes element fuel rest

/-- Reads a project file.  Without a root namespace and an assembly name, the project is named
after the file. -/
def readManifest (text : String) (path : Option Path) : Manifest :=
  let input := text.toList
  let given :=
    match elementText? "RootNamespace" input with
    | some name => some name
    | none => elementText? "AssemblyName" input
  { name :=
      match given, path with
      | some name, _ => .text (trim name)
      | none, some path => .text path.stem
      | none, none => .null
    dependencies := includes "PackageReference" (input.length + 1) input
    projectReferences := (includes "ProjectReference" (input.length + 1) input).map fun name =>
      (Path.ofString (replaceAll "\\" "/" name)).stem }

/-- The first project file of a directory. -/
def findManifest? (files : FileTree) (root : Path) : Option Path :=
  let projects := (files.list root).filter fun item => endsWith ".csproj" item.1.name
  ((projects.map Prod.fst).mergeSort fun a b => decide (a.name ≤ b.name)).head?

/-! ## Namespaces -/

/-- The namespace is the given one or lies in it. -/
def isWithin (outer specifier : String) : Bool :=
  specifier == outer || startsWith (outer ++ ".") specifier

/-- The namespace belongs to the base library. -/
def isBuiltin (name : String) : Bool :=
  baseNamespaces.contains name || ["System", "Microsoft"].contains (beforeFirst "." name)

/-- The namespace belongs to the project or to a project it refers to. -/
def isProjectNamespace (project : Project) (specifier : String) : Bool :=
  (project.manifest.properName?.toList ++
      project.manifest.projectReferences.filter (!·.isEmpty)).any fun root =>
    isWithin root specifier

/-- The segments by which a namespace is looked for: first without the root namespace. -/
def variants (project : Project) (specifier : String) : List (List String) :=
  let all := split "." specifier
  match project.manifest.properName? with
  | some root =>
      if startsWith (root ++ ".") specifier then
        [split "." (dropChars (root.length + 1) specifier), all]
      else [all]
  | none => [all]

/-- The source directories of a project. -/
def sourceDirs (project : Project) : List Path := sourceDirNames.map project.root.child

/-- The source files of a directory, by name. -/
def directoryFiles (files : FileTree) (directory : Path) : List Path :=
  let found := (files.list directory).filter fun item =>
    endsWith ".cs" item.1.name && item.2.isFile
  let sorted := found.mergeSort fun a b => decide (a.1.name ≤ b.1.name)
  sorted.map fun item => files.absolute item.1

/-- The source files of the first directory that has any. -/
def firstDirectoryFiles (files : FileTree) : List Path → Except PathFault (List Path)
  | [] => .ok []
  | directory :: rest => do
      let found := if ← files.isDirectory directory then directoryFiles files directory else []
      if found.isEmpty then firstDirectoryFiles files rest else return found

/-- The file that segments name below the first possible source directory. -/
def namedFile? (files : FileTree) (segments : List String) :
    List Path → Except Fault (Option Path)
  | [] => .ok none
  | base :: rest =>
      match (base.descend segments).withEnding? ".cs" with
      | none => .error .namelessPath
      | some file => do
          match ← files.firstResolved? [file] with
          | some found => return some found
          | none => namedFile? files segments rest

/-- The file that the longest possible beginning of the segments names; `count` is the number of
segments tried first. -/
def longestFile? (files : FileTree) (dirs : List Path) (segments : List String) :
    (count : Nat) → Except Fault (Option Path)
  | 0 => .ok none
  | count + 1 =>
      match namedFile? files (segments.take (count + 1)) dirs with
      | .ok none => longestFile? files dirs segments count
      | decided => decided

/-- The files of the namespace that segments name. -/
def segmentFiles (files : FileTree) (dirs : List Path) (segments : List String) :
    Except Fault (List Path) := do
  let found ← firstDirectoryFiles files (dirs.map fun base => base.descend segments)
  if found.isEmpty then
    return (← longestFile? files dirs segments segments.length).toList
  else return found

/-- The files of the first variant that has any. -/
def firstVariant (files : FileTree) (dirs : List Path) :
    List (List String) → Except Fault (List Path)
  | [] => .ok []
  | segments :: rest =>
      match segmentFiles files dirs segments with
      | .ok [] => firstVariant files dirs rest
      | decided => decided

/-- The files of a namespace. -/
def namespaceFiles (project : Project) (specifier : String) : Except Fault (List Path) :=
  firstVariant project.files (sourceDirs project) (variants project specifier)

/-- The class of a specifier. -/
def classify (project : Project) (specifier : String) : Except Fault ImportClass :=
  let root := beforeFirst "." specifier
  let dependencies := project.manifest.dependencies
  if isBuiltin specifier then .ok .builtin
  else if isProjectNamespace project specifier then .ok .relative
  else if dependencies.any (isWithin · specifier) || dependencies.contains root then .ok .package
  else if commonPackages.contains root || commonPackages.any (isWithin · specifier) then
    .ok .package
  else
    match namespaceFiles project specifier with
    | .ok [] => .ok .unknown
    | .ok _ => .ok .relative
    | .error fault => .error fault

/-- The longest package to which a namespace belongs, else its first segment. -/
def packageName (project : Project) (specifier : String) : String :=
  let known := (project.manifest.dependencies ++ commonPackages).mergeSort fun a b =>
    decide (b.length ≤ a.length)
  match known.find? (isWithin · specifier) with
  | some package => package
  | none => beforeFirst "." specifier

/-- The files of a namespace of the project. -/
def locate (project : Project) (specifier : String) : Except Fault (List Path) := do
  match ← classify project specifier with
  | .builtin | .package => return []
  | _ => namespaceFiles project specifier

end ScopeAtlas.Location.CSharp
