import ScopeAtlas.Data.Display
import ScopeAtlas.Data.Yaml
import ScopeAtlas.Error
import ScopeAtlas.Files.FileTree
import ScopeAtlas.Settings.Environment
import ScopeAtlas.Settings.Reader

/-!
# Where settings come from

Settings given directly win over the environment, the environment over the file of
the project, that file over the file of the user, and all over the defaults.  The
sources are merged key by key at every depth before they are read.
-/

namespace ScopeAtlas.Settings

open ScopeAtlas.Data ScopeAtlas.Files ScopeAtlas.Text

/-- Why settings cannot be loaded. -/
inductive LoadFailure where
  | refused (error : Error)
  /-- A variable of the environment cannot be read. -/
  | badVariable
  /-- A path names the home directory of a user who is not known. -/
  | homeUnknown
  /-- A settings file holds a scalar that has no value. -/
  | badScalar (fault : ReadFault)
  /-- A settings file is not written in UTF-8. -/
  | badEncoding
  /-- A settings file is a directory. -/
  | notFile
  /-- A section has a name that is no text. -/
  | nameNotText

/-- A complaint as a failure. -/
def Complaint.toFailure : Complaint → LoadFailure
  | .badValue place value reason =>
      .refused (.configInvalid (String.intercalate "." place) (Display.text value) reason)
  | .homeUnknown => .homeUnknown

/-- The text of a settings file, if there is one. -/
def settingsText (files : FileTree) (path : Path) : Except LoadFailure (Option String) :=
  match files.find? path with
  | none => .ok none
  | some (.directory _) => .error .notFile
  | some (.file content) =>
      match Utf8.decode? content with
      | some _ => .ok (some (FileTree.textOf content))
      | none => .error .badEncoding

/-- The table of a settings file; a missing file and an empty one have an empty one. -/
def fileTable (files : FileTree) (path : Path) : Except LoadFailure Value := do
  match ← settingsText files path with
  | none => return .table []
  | some text =>
      match Yaml.read text with
      | .error .malformed =>
          throw (.refused (.configUnreadable path.render "not a valid document"))
      | .error fault => throw (.badScalar fault)
      | .ok (.table entries) => return .table entries
      | .ok (.keyed entries) => return .keyed entries
      | .ok value =>
          if value.isEmpty then return .table []
          else throw (.refused (.configUnreadable path.render "top-level value must be a mapping"))

/-- Where settings are looked for beside those that are given directly. -/
structure Surroundings where
  files : FileTree
  /-- The home directory of the user. -/
  home : String
  environment : List (String × String) := []

/-- The settings file of the user. -/
def Surroundings.userFile (surroundings : Surroundings) : Path :=
  (Path.ofString surroundings.home).child ".config/scopegraph/config.yaml"

/-- The settings file of a project. -/
def projectFile (root : Path) : Path := root.child ".scopegraph/config.yaml"

/-- The table of both settings files, that of the project on top. -/
def mergedFiles (surroundings : Surroundings) (root : Path) : Except LoadFailure Value := do
  let user ← fileTable surroundings.files surroundings.userFile
  let project ← fileTable surroundings.files (projectFile root)
  return overlay (some user) project

/-- Loads the settings of a project. -/
def load (surroundings : Surroundings) (root : Path) (given : List (String × Value)) :
    Except LoadFailure Settings := do
  let files ← mergedFiles surroundings root
  match fromEnvironment? surroundings.environment with
  | none => throw .badVariable
  | some environment =>
      match overlay (some files) (.table (deepMerge environment given)) with
      | .table entries =>
          (readClosed surroundings.home entries).mapError Complaint.toFailure
      | _ => throw .nameNotText

end ScopeAtlas.Settings
