import ScopeAtlas.Data.Value

/-!
# Errors

The causes for which a request is refused.  Source code that does not parse is
no error: it is reported in the analysis of its file.  Each cause has a number,
a code name, a message and details; the wording is decided here only.
-/

namespace ScopeAtlas

open ScopeAtlas.Data

/-- A cause for which a request is refused. -/
inductive Error where
  /-- A settings file cannot be read. -/
  | configUnreadable (path reason : String)
  /-- A setting has a value it cannot have; the value is given as text. -/
  | configInvalid (field value reason : String)
  /-- A settings file does not exist. -/
  | configMissing (path : String)
  /-- No language is registered under a name or a file name ending. -/
  | unsupportedLanguage (language : String) (path : Option String)
  /-- The grammar of a language cannot be loaded. -/
  | grammarUnavailable (language grammar reason : String)
  /-- A source file does not exist. -/
  | sourceMissing (path : String)
  /-- A source file cannot be read. -/
  | sourceUnreadable (path reason : String)
  /-- Something failed that should not. -/
  | unexpected (reason : String) (details : List (String × Value))
deriving Repr

namespace Error

/-- The areas in which errors arise. -/
inductive Area where
  | configuration
  | language
  | sourceFile
  | internal
deriving Repr, DecidableEq

def area : Error → Area
  | .configUnreadable .. | .configInvalid .. | .configMissing .. => .configuration
  | .unsupportedLanguage .. | .grammarUnavailable .. => .language
  | .sourceMissing .. | .sourceUnreadable .. => .sourceFile
  | .unexpected .. => .internal

/-- The number of the cause. -/
def code : Error → Nat
  | .configUnreadable .. => 2001
  | .configInvalid .. => 2002
  | .configMissing .. => 2004
  | .unsupportedLanguage .. => 3001
  | .grammarUnavailable .. => 3002
  | .sourceMissing .. => 3003
  | .sourceUnreadable .. => 3004
  | .unexpected .. => 9001

/-- The code name of the cause. -/
def codeName : Error → String
  | .configUnreadable .. => "CONFIG_PARSE_ERROR"
  | .configInvalid .. => "CONFIG_INVALID_VALUE"
  | .configMissing .. => "CONFIG_FILE_NOT_FOUND"
  | .unsupportedLanguage .. => "UNSUPPORTED_LANGUAGE"
  | .grammarUnavailable .. => "GRAMMAR_UNAVAILABLE"
  | .sourceMissing .. => "SOURCE_NOT_FOUND"
  | .sourceUnreadable .. => "SOURCE_UNREADABLE"
  | .unexpected .. => "INTERNAL_ERROR"

/-- One sentence for the user. -/
def message : Error → String
  | .configUnreadable path reason => "Failed to parse config at " ++ path ++ ": " ++ reason
  | .configInvalid field _ reason => "Invalid value for '" ++ field ++ "': " ++ reason
  | .configMissing path => "Config file not found: " ++ path
  | .unsupportedLanguage language _ => "No scope extractor registered for '" ++ language ++ "'"
  | .grammarUnavailable language grammar reason =>
      "Grammar for '" ++ language ++ "' could not be loaded from " ++ grammar ++ ": " ++ reason
  | .sourceMissing path => "Source file not found: " ++ path
  | .sourceUnreadable path reason => "Source file could not be read: " ++ path ++ ": " ++ reason
  | .unexpected reason _ => "Internal error: " ++ reason

/-- Trying again may help. -/
def retryable : Error → Bool
  | .sourceUnreadable .. => true
  | _ => false

/-- The facts behind the message. -/
def details : Error → List (String × Value)
  | .configUnreadable path reason => [("path", .text path), ("reason", .text reason)]
  | .configInvalid field value reason =>
      [("field", .text field), ("value", .text value), ("reason", .text reason)]
  | .configMissing path => [("path", .text path)]
  | .unsupportedLanguage language none => [("language", .text language)]
  | .unsupportedLanguage language (some path) =>
      [("language", .text language), ("path", .text path)]
  | .grammarUnavailable language grammar reason =>
      [("language", .text language), ("module", .text grammar), ("reason", .text reason)]
  | .sourceMissing path => [("path", .text path)]
  | .sourceUnreadable path reason => [("path", .text path), ("reason", .text reason)]
  | .unexpected _ details => details

/-- The error as data. -/
def toValue (error : Error) : Value :=
  .table [("code", .ofNat error.code), ("error", .text error.codeName),
    ("message", .text error.message), ("retryable", .bool error.retryable),
    ("details", .table error.details)]

/-- Number, code name and message on one line. -/
def summary (error : Error) : String :=
  "[" ++ toString error.code ++ "] " ++ error.codeName ++ ": " ++ error.message

end Error

end ScopeAtlas
