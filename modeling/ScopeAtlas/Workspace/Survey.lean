import ScopeAtlas.Data.Display
import ScopeAtlas.Extraction.Extractor
import ScopeAtlas.Workspace.Discovery
import ScopeAtlas.Workspace.Linking

/-!
# Surveys

A survey of a project reads and extracts its source files one by one and then
builds the graph of those that could be read.  A file that fails is reported with
its error and has no influence on the others.  Only a link that leads back to itself has no
path under which it could be reported, and ends the survey.
-/

namespace ScopeAtlas.Workspace

open ScopeAtlas.Data ScopeAtlas.Extraction ScopeAtlas.Files ScopeAtlas.Graph ScopeAtlas.Language
open ScopeAtlas.Location ScopeAtlas.Syntax

/-- Parses the bytes of a file as a language, or says why the parser failed. -/
abbrev Parser := (language : String) → ByteArray → Except String Node

/-- What reads a file: a parser, and the call stack that the walk of its tree may use. -/
structure Engine where
  parse : Parser
  stack : StackLimit

/-- Why a file could not be analysed. -/
inductive Failure where
  /-- The request was refused. -/
  | refused (error : Error)
  /-- The parser failed. -/
  | crashed (reason : String)
  /-- The system refuses to look the path of the file up. -/
  | unreachable (reason : String)

/-- A failure as an error of the file that is reported under a name. -/
def Failure.toError (shown : String) (failure : Failure) : Error :=
  let unexpected := fun reason =>
    Error.unexpected ("extraction failed for " ++ shown ++ ": " ++ reason) [("file", .text shown)]
  match failure with
  | .refused error => error
  | .crashed reason | .unreachable reason => unexpected reason

/-- The bytes of a source file.  A path with a null character names none. -/
def readSource (system : FileSystem) (path : Path) : Except Failure ByteArray :=
  let missing := Failure.refused (.sourceMissing path.render)
  if path.hasNull then .error missing
  else
    match system.refusals.lookup path with
    | some reason => .error (.unreachable reason)
    | none =>
        match system.item? path with
        | some (.file content) =>
            match system.refusals.reading path with
            | some reason => .error (.refused (.sourceUnreadable path.render reason))
            | none => .ok content
        | _ => .error missing

/-- Parses and extracts the bytes of a file under the name by which it is reported. -/
def extractBytes (engine : Engine) (registry : Registry) (includeModuleScopes : Bool)
    (shown language : String) (content : ByteArray) : Except Failure FileAnalysis :=
  match registry.load language with
  | .error error => .error (.refused error)
  | .ok _ =>
      match engine.parse language content with
      | .error reason => .error (.crashed reason)
      | .ok tree =>
          match extractTree registry engine.stack includeModuleScopes shown language content
              tree with
          | .ok analysis => .ok analysis
          | .error error => .error (.refused error)

/-- Reads and extracts one file. -/
def analyzeFile (system : FileSystem) (engine : Engine) (registry : Registry)
    (includeModuleScopes : Bool) (path : Path) (shown : Option String) :
    Except Failure FileAnalysis :=
  match registry.languageForPath path.render with
  | .error error => .error (.refused error)
  | .ok language =>
      match readSource system path with
      | .error failure => .error failure
      | .ok content =>
          extractBytes engine registry includeModuleScopes
            ((shown.bind nonEmpty?).getD path.render) language content

/-- The part of a list after a beginning that it has. -/
def afterStart? {α : Type} [BEq α] : List α → List α → Option (List α)
  | [], rest => some rest
  | _ :: _, [] => none
  | a :: start, b :: rest => if a == b then afterStart? start rest else none

/-- A path as it is reported: seen from the root when it leads below it.  A path that a link on it
leads back to cannot be reported, and is the error. -/
def shownPath (system : FileSystem) (root path : Path) : Except Path String :=
  match system.resolve path with
  | .error .hasNull => .ok path.render
  | .error (.loop looping) => .error looping
  | .ok resolved =>
      match afterStart? root.parts resolved.parts with
      | some parts => .ok (Path.render { anchor := .relative, parts := parts })
      | none => .ok path.render

/-- Reads and extracts one file of a survey; the parser's failure is an error of its own. -/
def surveyFile (system : FileSystem) (engine : Engine) (registry : Registry)
    (includeModuleScopes : Bool) (path : Path) (shown : String) : Except Error FileAnalysis :=
  match readSource system path with
  | .error failure => .error (failure.toError shown)
  | .ok content =>
      match registry.languageForPath path.render with
      | .error error => .error error
      | .ok language =>
          (extractBytes engine registry includeModuleScopes shown language content).mapError
            (Failure.toError shown)

/-- What a survey is asked for. -/
structure Request where
  /-- The files to read, or none to search the root. -/
  paths : Option (List Path) := none
  excludedDirs : List String := []
  maxFileSizeKb : Int := 0
  includeModuleScopes : Bool := true
  options : Options := {}

/-- What a survey finds of the files. -/
structure Findings where
  /-- The analysed files under the paths by which they are reported. -/
  analyses : List (String × FileAnalysis)
  errors : List (String × String)
  skipped : List String

/-- The result of a survey. -/
structure Survey extends Findings where
  resolution : Resolution

/-- Why a survey has no result. -/
inductive SurveyFault where
  /-- A link leads back to itself. -/
  | loop (path : Path)
  /-- The graph cannot be built. -/
  | unlinked (fault : LinkFault)

/-- The files that a survey reads, and those that it skips. -/
def filesOf (system : FileSystem) (registry : Registry) (root : Path) (request : Request) :
    Discovery :=
  match request.paths with
  | none => discover system registry root request.excludedDirs (.ofInt request.maxFileSizeKb)
  | some paths => { files := paths.map root.join, oversized := [] }

/-- The outcome of every file, under the path by which it is reported. -/
def outcomes (system : FileSystem) (engine : Engine) (registry : Registry)
    (includeModuleScopes : Bool) (root : Path) (paths : List Path) :
    Except Path (List (String × Except Error FileAnalysis)) :=
  paths.mapM fun path => do
    let shown ← shownPath system root path
    return (shown, surveyFile system engine registry includeModuleScopes path shown)

/-- The analyses among outcomes; a path that occurs again keeps its first place. -/
def analysesOf (outcomes : List (String × Except Error FileAnalysis)) :
    List (String × FileAnalysis) :=
  outcomes.foldl (fun table outcome =>
    match outcome.2 with
    | .ok analysis => putEntry outcome.1 analysis table
    | .error _ => table) []

/-- The errors among outcomes; a path that occurs again keeps its first place. -/
def errorsOf (outcomes : List (String × Except Error FileAnalysis)) : List (String × String) :=
  outcomes.foldl (fun table outcome =>
    match outcome.2 with
    | .ok _ => table
    | .error error => putEntry outcome.1 error.message table) []

/-- Reads the files of a project. -/
def readFiles (system : FileSystem) (engine : Engine) (registry : Registry) (root : Path)
    (request : Request) : Except Path Findings := do
  let chosen := filesOf system registry root request
  let skipped ← chosen.oversized.mapM (shownPath system root)
  let results ←
    outcomes system engine registry request.includeModuleScopes root chosen.files
  return { analyses := analysesOf results, errors := errorsOf results, skipped := skipped }

/-- Surveys a project, of which `build` builds the graph. -/
def survey (system : FileSystem) (engine : Engine) (registry : Registry)
    (build : List FileAnalysis → Except LinkFault Resolution) (root : Path) (request : Request) :
    Except SurveyFault Survey := do
  let findings ← (readFiles system engine registry root request).mapError .loop
  let resolution ← (build (findings.analyses.map (·.2))).mapError .unlinked
  return { findings with resolution := resolution }

/-- Surveys a project on a disk without links. -/
def surveyTree (files : FileTree) (engine : Engine) (registry : Registry) (root : Path)
    (request : Request) : Except SurveyFault Survey :=
  survey files.system engine registry (link request.options files root) root request

end ScopeAtlas.Workspace
