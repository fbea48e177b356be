import ScopeAtlas.Data.Decimal
import ScopeAtlas.Data.Json
import ScopeAtlas.Files.Path
import ScopeAtlas.Settings.Basic
import ScopeAtlas.Text.Blank
import ScopeAtlas.Text.Letter
import ScopeAtlas.Text.Utf8

/-!
# Reading settings

Settings are read from data with some tolerance: numbers and flags may be written
as texts.  Sections and settings are read in a fixed order, and the first value
that cannot be taken is reported.
-/

namespace ScopeAtlas.Settings

open ScopeAtlas.Data ScopeAtlas.Files ScopeAtlas.Text

/-- Why settings cannot be read. -/
inductive Complaint where
  /-- A setting has a value that it cannot have. -/
  | badValue (place : List String) (value : Value) (reason : String)
  /-- A path names the home directory of a user who is not known. -/
  | homeUnknown

/-- A reader of the value at a place. -/
abbrev Reader (α : Type) := (place : List String) → Value → Except Complaint α

/-- Refuses a value. -/
def refuse {α : Type} (reason : String) : Reader α := fun place value =>
  .error (.badValue place value reason)

/-! ## Numbers -/

/-- White space around a number. -/
def isPadding (c : Char) : Bool := isBlank c && !(0x1C ≤ c.toNat && c.toNat ≤ 0x1F)

/-- Digits with single underscores between them. -/
def groupedDigits? (text : List Char) : Option (List Char) :=
  let groups := splitChars ['_'] text
  if groups.all fun group => !group.isEmpty && group.all Json.isDigit then some groups.flatten
  else none

/-- Drops zeros, and underscores after the first, before another digit.  Of zeros alone the last
character stays, and a point keeps the character before it. -/
def dropLeadingZeros (last : Char) : List Char → List Char
  | [] => [last]
  | c :: rest =>
      if c == '0' || c == '_' then dropLeadingZeros c rest
      else if c == '.' then last :: c :: rest
      else c :: rest

/-- Drops a fraction of zeros. -/
def dropZeroFraction (text : List Char) : List Char :=
  match cutFirstChars ['.'] text with
  | some (whole, zeros) => if !zeros.isEmpty && zeros.all (· == '0') then whole else text
  | none => text

/-- The digits of a number without its sign. -/
def magnitudeDigits? (text : List Char) : Option (List Char) :=
  match text with
  | '0' :: rest => groupedDigits? (dropZeroFraction (dropLeadingZeros '0' rest))
  | text => groupedDigits? (dropZeroFraction text)

/-- The sign and the digits of the whole number that a text writes. -/
def integerDigits? (text : String) : Option (Bool × List Char) :=
  let bare :=
    match (trimWhile isPadding text).toList with
    | '+' :: rest => rest
    | text => text
  match bare with
  | '-' :: rest => (magnitudeDigits? rest).map fun digits => (true, digits)
  | text => (magnitudeDigits? text).map fun digits => (false, digits)

/-- What a number with a fraction is as a whole number. -/
inductive Whole where
  | exactly (number : Int)
  | broken
  | endless
  | tooLarge

/-- Reads a number with a fraction as a whole number, in double precision. -/
def wholeOf : RealNumber → Whole
  | .notANumber | .infinite _ => .endless
  | .finite negative digits exponent =>
      let value := Decimal.toFloat digits exponent
      if value == 1.0 / 0.0 then .endless
      else
        let exact := Decimal.fraction value
        if exact.1 % exact.2 != 0 then .broken
        else
          let number : Int := (exact.1 / exact.2 : Nat)
          if 9223372036854775808 ≤ number then .tooLarge else .exactly (if negative then -number else number)

/-- The complaint about what should be a text and cannot be. -/
def notUnicode : String :=
  "Input should be a valid string, unable to parse raw data as a unicode string"

/-- What is written where a text may stand for another kind of value: a text, or bytes in UTF-8.
Other kinds of values have nothing written. -/
def readWritten (reason : String) : Reader (Option String) := fun place value =>
  match value with
  | .text content => .ok (some content)
  | .bytes content =>
      match Utf8.decode? ⟨content.toArray⟩ with
      | some text => .ok (some text)
      | none => refuse reason place value
  | .halved _ => refuse notUnicode place value
  | _ => .ok none

/-- A whole number as a text writes it. -/
def readIntegerText (content : String) : Reader Int := fun place value =>
  match integerDigits? content with
  | some (negative, digits) =>
      if mostDigits + 1 < digits.length then
        refuse "Unable to parse input string as an integer, exceeded maximum size" place value
      else
        let number : Int := Json.numberOf digits
        .ok (if negative then -number else number)
  | none =>
      refuse "Input should be a valid integer, unable to parse string as an integer" place value

/-- A whole number. -/
def readInteger : Reader Int := fun place value =>
  match value with
  | .bool flag => .ok (if flag then 1 else 0)
  | .int number => .ok number
  | .real number =>
      match wholeOf number with
      | .exactly number => .ok number
      | .broken =>
          refuse "Input should be a valid integer, got a number with a fractional part" place value
      | .endless => refuse "Input should be a finite number" place value
      | .tooLarge =>
          refuse "Unable to parse input string as an integer, exceeded maximum size" place value
  | value => do
      match ← readWritten "Input should be a valid integer, unable to parse string as an integer"
        place value with
      | some content => readIntegerText content place value
      | none => refuse "Input should be a valid integer" place value

/-- A whole number that passes a test. -/
def readIntegerWith (test : Int → Bool) (reason : Int → String) : Reader Int :=
  fun place value => do
    let number ← readInteger place value
    if test number then return number
    else refuse ("Value error, " ++ reason number) place value

/-! ## Flags and texts -/

/-- The flag that a text writes, in any case. -/
def flag? (text : String) : Option Bool :=
  let small := String.ofList (text.toList.map Char.toLower)
  if ["1", "t", "y", "on", "yes", "true"].contains small then some true
  else if ["0", "f", "n", "off", "no", "false"].contains small then some false
  else none

/-- The complaint about what writes no flag. -/
def notFlag : String := "Input should be a valid boolean, unable to interpret input"

/-- The flag that a whole number of at most 64 bits stands for. -/
def flagOfInteger (number : Int) : Reader Bool := fun place value =>
  if number == 0 then .ok false
  else if number == 1 then .ok true
  else if -9223372036854775808 ≤ number && number ≤ 9223372036854775807 then
    refuse notFlag place value
  else refuse "Input should be a valid boolean" place value

/-- A flag. -/
def readFlag : Reader Bool := fun place value =>
  match value with
  | .bool flag => .ok flag
  | .int number => flagOfInteger number place value
  | .real number =>
      match wholeOf number with
      | .exactly number => flagOfInteger number place value
      | _ => refuse "Input should be a valid boolean" place value
  | value => do
      match ← readWritten notFlag place value with
      | some content =>
          match flag? content with
          | some flag => return flag
          | none => refuse notFlag place value
      | none => refuse "Input should be a valid boolean" place value

/-- A text. -/
def readText : Reader String := fun place value => do
  match ← readWritten notUnicode place value with
  | some content => return content
  | none => refuse "Input should be a valid string" place value

/-- Alternatives as a sentence lists them. -/
def alternatives (labels : List String) : String :=
  let marked := labels.map fun label => "'" ++ label ++ "'"
  match marked.reverse with
  | [] => ""
  | [only] => only
  | last :: earlier => String.intercalate ", " earlier.reverse ++ " or " ++ last

/-- One of several labelled choices. -/
def readChoice {α : Type} (choices : List α) (label : α → String) : Reader α :=
  fun place value =>
    let reason := "Input should be " ++ alternatives (choices.map label)
    match value with
    | .text content =>
        match choices.find? fun choice => label choice == content with
        | some choice => .ok choice
        | none => refuse reason place value
    | .halved _ => refuse notUnicode place value
    | value => refuse reason place value

/-- Something that may be null. -/
def readNullable {α : Type} (read : Reader α) : Reader (Option α) := fun place value =>
  match value with
  | .null => .ok none
  | value => some <$> read place value

/-- The items of a list, which are numbered in the place of a complaint. -/
def readItems {α : Type} (read : Reader α) (place : List String) :
    (number : Nat) → List Value → Except Complaint (List α)
  | _, [] => .ok []
  | number, item :: rest => do
      let first ← read (place ++ [toString number]) item
      let later ← readItems read place (number + 1) rest
      return first :: later

/-- A list. -/
def readList {α : Type} (read : Reader α) : Reader (List α) := fun place value =>
  match value with
  | .list items => readItems read place 0 items
  | .unordered items => readItems read place 0 items
  | .pair first second => readItems read place 0 [first, second]
  | _ => refuse "Input should be a valid list" place value

/-! ## Sections -/

/-- The entries of a section; the name of its kind is part of the complaint.  Keys that are no texts
are passed over. -/
def readSection (kind : String) : Reader (List (String × Value)) := fun place value =>
  match value with
  | .table entries => .ok entries
  | .keyed entries =>
      .ok (entries.filterMap fun entry => entry.1.text?.map fun key => (key, entry.2))
  | .around true => .ok []
  | _ => refuse ("Input should be a valid dictionary or instance of " ++ kind) place value

/-- The setting of a name, or its default where it is not given. -/
def setting {α : Type} (place : List String) (entries : List (String × Value)) (name : String)
    (default : α) (read : Reader α) : Except Complaint α :=
  match entries.lookup name with
  | some value => read (place ++ [name]) value
  | none => .ok default

/-- A log destination: a standard stream, or an absolute path, in which `~` is the home directory. -/
def readDestination (home : String) : Reader String := fun place value => do
  let content ← readText place value
  if content == "stderr" || content == "stdout" then return content
  let path := Path.ofString content
  let expanded ←
    match path.anchor, path.parts with
    | .relative, first :: rest =>
        if first == "~" then
          .ok { Path.ofString home with parts := (Path.ofString home).parts ++ rest }
        else if startsWith "~" first then
          if contains "\x00" first then refuse "Value error, embedded null byte" place value
          else .error Complaint.homeUnknown
        else .ok path
    | _, _ => .ok path
  if expanded.isAbsolute then return expanded.render
  else
    refuse ("Value error, File destination must be absolute path: " ++ content) place value

def readLevel : Reader LogLevel := readChoice LogLevel.all LogLevel.label

def readOutput (home : String) : Reader LogOutput := fun place value => do
  let entries ← readSection "LogOutputConfig" place value
  let format ← setting place entries "format" .console (readChoice LogFormat.all LogFormat.label)
  let destination ← setting place entries "destination" "stderr" (readDestination home)
  let level ← setting place entries "level" none (readNullable readLevel)
  return { format := format, destination := destination, level := level }

def readLogging (home : String) : Reader Logging := fun place value => do
  let entries ← readSection "LoggingConfig" place value
  let level ← setting place entries "level" .warning readLevel
  let outputs ← setting place entries "outputs" [{}] (readList (readOutput home))
  return { level := level, outputs := outputs }

def readExtraction : Reader Extraction := fun place value => do
  let entries ← readSection "ExtractionConfig" place value
  let default : Extraction := {}
  let size ← setting place entries "max_file_size_kb" default.maxFileSizeKb
    (readIntegerWith (0 < ·) fun number =>
      "max_file_size_kb must be positive, got " ++ toString number)
  let workers ← setting place entries "max_workers" default.maxWorkers
    (readIntegerWith (1 ≤ ·) fun number => "max_workers must be >= 1, got " ++ toString number)
  let moduleScopes ← setting place entries "include_module_scopes" default.includeModuleScopes
    readFlag
  let excluded ← setting place entries "excluded_dirs" default.excludedDirs (readList readText)
  return {
    maxFileSizeKb := size
    maxWorkers := workers
    includeModuleScopes := moduleScopes
    excludedDirs := excluded }

def readOptions : Reader Graph.Options := fun place value => do
  let entries ← readSection "ResolutionConfig" place value
  let contains ← setting place entries "include_contains" true readFlag
  let inverse ← setting place entries "include_inverse" true readFlag
  let decorators ← setting place entries "include_decorators" true readFlag
  let crossFile ← setting place entries "resolve_cross_file" true readFlag
  return {
    includeContains := contains
    includeInverse := inverse
    includeDecorators := decorators
    crossFile := crossFile }

/-- The names of the sections. -/
def sectionNames : List String := ["logging", "extraction", "resolution"]

/-- Reads all sections; other entries are passed over. -/
def read (home : String) (entries : List (String × Value)) : Except Complaint Settings := do
  let logging ← setting [] entries "logging" {} (readLogging home)
  let extraction ← setting [] entries "extraction" {} readExtraction
  let resolution ← setting [] entries "resolution" {} readOptions
  return { logging := logging, extraction := extraction, resolution := resolution }

/-- Reads all sections, and complains about the first entry that is none. -/
def readClosed (home : String) (entries : List (String × Value)) :
    Except Complaint Settings := do
  let settings ← read home entries
  match entries.find? fun entry => !sectionNames.contains entry.1 with
  | some (name, value) => refuse "Extra inputs are not permitted" [name] value
  | none => return settings

end ScopeAtlas.Settings
