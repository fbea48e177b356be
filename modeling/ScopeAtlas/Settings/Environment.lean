import ScopeAtlas.Data.Json
import ScopeAtlas.Settings.Merge
import ScopeAtlas.Text.Letter
import ScopeAtlas.Text.Split

/-!
# Settings in the environment

A variable names a section and a setting, or parts of one, with double underscores
between them, in any case.  The value of a setting that is a list, and of a whole
section, is written as JSON.
-/

namespace ScopeAtlas.Settings

open ScopeAtlas.Data ScopeAtlas.Text

/-- A section as the environment names it: its settings, and those of them that are lists. -/
structure EnvironmentSection where
  name : String
  settings : List String
  lists : List String

/-- The sections, in the order in which they are read. -/
def environmentSections : List EnvironmentSection :=
  [{ name := "logging", settings := ["level", "outputs"], lists := ["outputs"] },
   { name := "extraction"
     settings := ["max_file_size_kb", "max_workers", "include_module_scopes", "excluded_dirs"]
     lists := ["excluded_dirs"] },
   { name := "resolution"
     settings := ["include_contains", "include_inverse", "include_decorators",
      "resolve_cross_file"]
     lists := [] }]

/-- What the names of all variables begin with. -/
def variableStart : String := "scopegraph__"

/-- The variables with their names in small letters; of names that then are equal the later counts. -/
def smallNames (environment : List (String × String)) : List (String × String) :=
  environment.foldl (fun table entry => putEntry (lower entry.1) entry.2 table) []

/-- Sets the value under a key of several parts, creating the tables on the way.  Where something
else than a table is in the way, nothing changes. -/
def putNested (last : String) (value : Value) :
    List String → List (String × Value) → List (String × Value)
  | [], entries => putEntry last value entries
  | key :: rest, entries =>
      match entries.lookup key with
      | none => putEntry key (.table (putNested last value rest [])) entries
      | some (.table inner) => putEntry key (.table (putNested last value rest inner)) entries
      | some _ => entries

/-- The value of a variable: JSON for the lists of a section, a text for everything else. -/
def variableValue? (part : EnvironmentSection) (keys : List String) (last value : String) :
    Option Value :=
  if keys.isEmpty && part.lists.contains last && !value.isEmpty then (Json.read value).toOption
  else some (.text value)

/-- The settings of a section that variables give one by one; nothing when a value cannot be read. -/
def singleSettings? (part : EnvironmentSection) (environment : List (String × String)) :
    Option (List (String × Value)) :=
  let start := variableStart ++ part.name ++ "__"
  environment.foldlM (fun entries entry =>
    if startsWith start entry.1 then
      let parts := split "__" (dropChars start.length entry.1)
      let last := parts.getLastD ""
      (variableValue? part parts.dropLast last entry.2).map fun value =>
        putNested last value parts.dropLast entries
    else some entries) []

/-- The entries of a section under the proper names of its settings. -/
def properNames (part : EnvironmentSection) (entries : List (String × Value)) :
    List (String × Value) :=
  entries.foldl (fun table entry =>
    let proper := (part.settings.find? fun name => name == lower entry.1).getD entry.1
    putEntry proper entry.2 table) []

/-- What the environment gives for a section: some value or none.  The result itself is absent
when a value cannot be read. -/
def sectionFrom? (part : EnvironmentSection) (environment : List (String × String)) :
    Option (Option Value) := do
  match environment.lookup (variableStart ++ part.name) with
  | some written =>
      match ← (Json.read written).toOption with
      | .table entries =>
          let single ← singleSettings? part environment
          return some (.table (properNames part (deepMerge entries single)))
      | .null => return none
      | value => return some value
  | none =>
      let single ← singleSettings? part environment
      if single.isEmpty then return none
      return some (.table (properNames part single))

/-- The settings that the environment gives; nothing when a value cannot be read. -/
def fromEnvironment? (environment : List (String × String)) : Option (List (String × Value)) :=
  let environment := smallNames environment
  environmentSections.foldlM (fun entries part => do
    match ← sectionFrom? part environment with
    | some value => return putEntry part.name value entries
    | none => return entries) []

end ScopeAtlas.Settings
