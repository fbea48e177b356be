import ScopeAtlas.Data.Value
import ScopeAtlas.Graph.Resolution

/-!
# Settings

What can be set: how events are logged, which files are extracted, and which
edges the graph has.
-/

namespace ScopeAtlas

open ScopeAtlas.Data

namespace Settings

/-- How important an event must be to be logged. -/
inductive LogLevel where
  | debug
  | info
  | warning
  | error
  | critical
deriving Repr, DecidableEq, Inhabited

namespace LogLevel

def all : List LogLevel := [.debug, .info, .warning, .error, .critical]

def label : LogLevel → String
  | .debug => "DEBUG"
  | .info => "INFO"
  | .warning => "WARNING"
  | .error => "ERROR"
  | .critical => "CRITICAL"

end LogLevel

/-- How an event is written. -/
inductive LogFormat where
  | json
  | console
deriving Repr, DecidableEq, Inhabited

namespace LogFormat

def all : List LogFormat := [.json, .console]

def label : LogFormat → String
  | .json => "json"
  | .console => "console"

end LogFormat

/-- One place to which events are written. -/
structure LogOutput where
  format : LogFormat := .console
  /-- One of the two standard streams, or an absolute path. -/
  destination : String := "stderr"
  /-- Absent where the general level holds. -/
  level : Option LogLevel := none
deriving Repr, DecidableEq, Inhabited

structure Logging where
  level : LogLevel := .warning
  outputs : List LogOutput := [{}]
deriving Repr, DecidableEq, Inhabited

structure Extraction where
  /-- Larger files are skipped. -/
  maxFileSizeKb : Int := 1024
  maxWorkers : Int := 4
  includeModuleScopes : Bool := true
  excludedDirs : List String :=
    [".git", "node_modules", "target", "vendor", "dist", "build", "__pycache__", ".venv", "venv",
      "bin", "obj"]
deriving Repr, DecidableEq, Inhabited

end Settings

/-- All settings. -/
structure Settings where
  logging : Settings.Logging := {}
  extraction : Settings.Extraction := {}
  resolution : Graph.Options := {}
deriving Repr, DecidableEq, Inhabited

namespace Settings

def LogOutput.toValue (output : LogOutput) : Value :=
  .table [("format", .text output.format.label), ("destination", .text output.destination),
    ("level", .ofText? (output.level.map LogLevel.label))]

def Logging.toValue (logging : Logging) : Value :=
  .table [("level", .text logging.level.label),
    ("outputs", .list (logging.outputs.map LogOutput.toValue))]

def Extraction.toValue (extraction : Extraction) : Value :=
  .table [("max_file_size_kb", .int extraction.maxFileSizeKb),
    ("max_workers", .int extraction.maxWorkers),
    ("include_module_scopes", .bool extraction.includeModuleScopes),
    ("excluded_dirs", .ofTexts extraction.excludedDirs)]

def optionsValue (options : Graph.Options) : Value :=
  .table [("include_contains", .bool options.includeContains),
    ("include_inverse", .bool options.includeInverse),
    ("include_decorators", .bool options.includeDecorators),
    ("resolve_cross_file", .bool options.crossFile)]

def toValue (settings : Settings) : Value :=
  .table [("logging", settings.logging.toValue), ("extraction", settings.extraction.toValue),
    ("resolution", optionsValue settings.resolution)]

end Settings

end ScopeAtlas
