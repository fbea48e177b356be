import ScopeAtlas.Command.Arguments
import ScopeAtlas.Data.Json
import ScopeAtlas.Graph.Query
import ScopeAtlas.Settings.Sources
import ScopeAtlas.Workspace.Survey

/-!
# Running a command

A command reads the settings of its project, does its work on the disk it is given
and says what it found.  The outcome is what is written to the two standard
streams, and the exit code.
-/

namespace ScopeAtlas.Command

open ScopeAtlas.Data ScopeAtlas.Files ScopeAtlas.Graph ScopeAtlas.Language ScopeAtlas.Settings
open ScopeAtlas.Workspace

/-- What a run leaves behind. -/
structure Outcome where
  exitCode : Nat := 0
  stdout : String := ""
  stderr : String := ""
deriving Repr, DecidableEq

/-- A count with its noun, which is singular only after one. -/
def pluralizeValue (count : Value) (singular : String) (plural : Option String) : String :=
  Display.text count ++ " " ++
    (if count.sameKey (.int 1) then singular else plural.getD (singular ++ "s"))

/-- A whole number with its noun. -/
def pluralize (count : Int) (singular : String) (plural : Option String) : String :=
  pluralizeValue (.int count) singular plural

/-- A refused request. -/
def failed (error : Error) : Outcome :=
  { exitCode := 1, stderr := "Error: " ++ error.message ++ "\n" }

/-- A run that broke off. -/
def brokenOff : Outcome := { exitCode := 1 }

/-- The outcome of settings that cannot be loaded. -/
def settingsFailed : LoadFailure → Outcome
  | .refused error => failed error
  | .badVariable | .homeUnknown | .badScalar _ | .badEncoding | .notFile | .nameNotText => brokenOff

/-- A report on the standard output. -/
def report (value : Value) : Outcome := { stdout := Json.render .indented value ++ "\n" }

/-- Lines on the standard error. -/
def notice (lines : List String) : Outcome :=
  { stderr := String.join (lines.map (· ++ "\n")) }

/-- What is asked of a survey by the settings. -/
def requestOf (settings : Settings) : Request :=
  { excludedDirs := settings.extraction.excludedDirs
    maxFileSizeKb := settings.extraction.maxFileSizeKb
    includeModuleScopes := settings.extraction.includeModuleScopes
    options := settings.resolution }

/-- A survey as data. -/
def surveyValue (survey : Survey) : Value :=
  .table (survey.resolution.entries ++
    [("errors", .table (survey.errors.map fun entry => (entry.1, .text entry.2))),
      ("skipped", .ofTexts survey.skipped)])

/-- A survey in a few lines. -/
def surveyLines (survey : Survey) (listUnresolved : Bool) : List String :=
  let statistics := survey.resolution.statistics
  [pluralize statistics.files "file" none ++ ", " ++ pluralize statistics.scopes "scope" none ++
      ", " ++ pluralize statistics.edges "relationship" none] ++
    (statistics.byRelation.map fun entry => entry.1 ++ " " ++ toString entry.2) ++
    (if statistics.unresolved == 0 then []
      else [pluralize statistics.unresolved "unresolved reference" none]) ++
    (if listUnresolved then
      survey.resolution.unresolved.map fun entry =>
        entry.fromFile ++ " " ++ entry.fromScope ++ " " ++ entry.identifier ++ " " ++
          toString entry.line ++ " " ++ entry.reason.label
      else []) ++
    (survey.skipped.map fun path => "Skipped " ++ path ++ " (size limit)") ++
    survey.errors.map fun entry => entry.1 ++ ": " ++ entry.2

/-- A file in a few lines, one for each scope. -/
def analysisLines (analysis : FileAnalysis) : List String :=
  (analysis.filePath ++ " (" ++ analysis.language ++ ")") ::
    (analysis.scopes.map fun scope =>
      String.ofList (List.replicate (2 * scope.depth).toNat ' ') ++ scope.name ++ " " ++
        scope.kind.label ++ " " ++ toString scope.startLine ++ "-" ++ toString scope.endLine) ++
    (if analysis.syntaxValid then []
      else [toString analysis.syntaxIssues.length ++ " syntax issue(s) recovered"])

/-- Surveys a project. -/
def runAnalyze (surroundings : Surroundings) (engine : Engine) (registry : Registry)
    (path : String) (asJson noInverse noContains listUnresolved : Bool) : Outcome :=
  let root := surroundings.files.absolute (Path.ofString path)
  match load surroundings root [] with
  | .error failure => settingsFailed failure
  | .ok settings =>
      let request := requestOf settings
      let options :=
        { request.options with
          includeInverse := request.options.includeInverse && !noInverse
          includeContains := request.options.includeContains && !noContains }
      match surveyTree surroundings.files engine registry root
          { request with options := options } with
      | .error _ => brokenOff
      | .ok survey =>
          if asJson then report (surveyValue survey)
          else notice (surveyLines survey listUnresolved)

/-- Lists the scopes of a file. -/
def runScopes (surroundings : Surroundings) (engine : Engine) (registry : Registry)
    (file : String) (asJson : Bool) : Outcome :=
  match load surroundings surroundings.files.here [] with
  | .error failure => settingsFailed failure
  | .ok settings =>
      match analyzeFile surroundings.files.system engine registry
          settings.extraction.includeModuleScopes (Path.ofString file) none with
      | .error (.refused error) => failed error
      | .error (.crashed _) | .error (.unreachable _) => brokenOff
      | .ok analysis =>
          if asJson then report analysis.toValue else notice (analysisLines analysis)

/-- The answer to the question for the version. -/
def versionText : String := "scopegraph, version 0.1.0\n"

/-- Runs the program under the name by which it was called. -/
def run (program : String) (surroundings : Surroundings) (engine : Engine) (registry : Registry)
    (words : List String) : Outcome :=
  let disk : Disk :=
    { isFile := fun operand =>
        !operand.isEmpty && (surroundings.files.find? (Path.ofSteps operand)).any Entry.isFile
      isDirectory := fun operand =>
        !operand.isEmpty && (surroundings.files.find? (Path.ofSteps operand)).any Entry.isDirectory }
  match readWords disk words with
  | .error .nullCharacter => brokenOff
  | .error misuse => { exitCode := 2, stderr := misuse.message program }
  | .ok .version => { stdout := versionText }
  | .ok (.help page) => { stdout := page.text program }
  | .ok (.analyze path asJson noInverse noContains listUnresolved) =>
      runAnalyze surroundings engine registry path asJson noInverse noContains listUnresolved
  | .ok (.scopes file asJson) => runScopes surroundings engine registry file asJson

end ScopeAtlas.Command
