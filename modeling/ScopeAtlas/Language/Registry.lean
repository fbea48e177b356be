import ScopeAtlas.Error
import ScopeAtlas.Files.Path
import ScopeAtlas.Language.CFamily
import ScopeAtlas.Language.CSharp
import ScopeAtlas.Language.EcmaScript
import ScopeAtlas.Language.Go
import ScopeAtlas.Language.Python
import ScopeAtlas.Language.Rust
import ScopeAtlas.Text.Blank
import ScopeAtlas.Text.Letter

/-!
# The registry of languages

A registry maps language names to profiles and file name endings to language
names.  Registering a profile replaces an earlier one of the same name and takes
over its endings.  Grammars are loaded from a fixed set of modules; a loaded
grammar is remembered until its profile is replaced.
-/

namespace ScopeAtlas.Language

open ScopeAtlas.Data ScopeAtlas.Files ScopeAtlas.Text

/-- The built-in profiles. -/
def allProfiles : List Profile :=
  [typescript, tsx, javascript, python, rust, go, c, cpp, csharp]

/-- The built-in profile of a name; the grammar's own name for C# counts as well. -/
def profile? (name : String) : Option Profile :=
  if name == "c_sharp" then some csharp else allProfiles.find? (·.name == name)

/-- A file name ending as it is compared: in small letters and without dots in front. -/
def plainEnding (ending : String) : String := trimLeftOf "." (lower ending)

/-- The built-in profile of a file name ending. -/
def profileForEnding? (ending : String) : Option Profile :=
  allProfiles.find? (·.extensions.contains (plainEnding ending))

/-- The grammar modules that can be loaded, each with its loaders. -/
def grammarModules : List (String × List String) :=
  [("tree_sitter_typescript", ["language_typescript", "language_tsx"]),
   ("tree_sitter_javascript", ["language"]),
   ("tree_sitter_python", ["language"]),
   ("tree_sitter_rust", ["language"]),
   ("tree_sitter_go", ["language"]),
   ("tree_sitter_c", ["language"]),
   ("tree_sitter_cpp", ["language"]),
   ("tree_sitter_c_sharp", ["language"])]

/-- Why the grammar of a profile cannot be loaded; nothing when it can. -/
def Profile.loadProblem? (profile : Profile) : Option String :=
  match grammarModules.lookup profile.grammarModule with
  | none => some ("No module named '" ++ profile.grammarModule ++ "'")
  | some loaders =>
      let loader := profile.languageFunc.getD "language"
      if loaders.contains loader then none
      else some ("module '" ++ profile.grammarModule ++ "' has no attribute '" ++ loader ++ "'")

/-- Profiles by name, language names by ending, and the grammars already loaded. -/
structure Registry where
  profiles : List (String × Profile)
  endings : List (String × String)
  loaded : List String := []
deriving Repr, Inhabited

namespace Registry

/-- Adds or replaces a profile. -/
def register (registry : Registry) (profile : Profile) : Registry :=
  { profiles := putEntry profile.name profile registry.profiles
    endings := profile.extensions.foldl
      (fun endings ending => putEntry ending profile.name endings) registry.endings
    loaded := registry.loaded.filter (· != profile.name) }

/-- The registry of the built-in profiles. -/
def standard : Registry := allProfiles.foldl register ⟨[], [], []⟩

/-- The names of all languages, in ascending order. -/
def languages (registry : Registry) : List String :=
  (registry.profiles.map (·.1)).mergeSort fun a b => decide (a ≤ b)

/-- The profile of a language. -/
def profile (registry : Registry) (name : String) : Except Error Profile :=
  match registry.profiles.lookup name with
  | some profile => .ok profile
  | none => .error (.unsupportedLanguage name none)

/-- The language of a file, by the ending of its name. -/
def languageForPath (registry : Registry) (path : String) : Except Error String :=
  let file := Path.ofString path
  let ending := plainEnding file.suffix
  match registry.endings.lookup ending with
  | some language => .ok language
  | none =>
      .error (.unsupportedLanguage (if ending.isEmpty then file.name else ending) (some path))

/-- A language is registered for the ending of a file's name. -/
def isSupported (registry : Registry) (path : Path) : Bool :=
  (registry.endings.lookup (plainEnding path.suffix)).isSome

/-- Loads the grammar of a language. -/
def load (registry : Registry) (name : String) : Except Error Registry :=
  if registry.loaded.contains name then .ok registry
  else do
    let profile ← registry.profile name
    match profile.loadProblem? with
    | some reason => .error (.grammarUnavailable profile.name profile.grammarModule reason)
    | none => .ok { registry with loaded := registry.loaded ++ [name] }

/-- Loads every grammar that can be loaded, and names the languages that have one. -/
def loadAll (registry : Registry) : Registry × List String :=
  registry.languages.foldl (fun (registry, names) name =>
    match registry.load name with
    | .ok registry => (registry, names ++ [name])
    | .error _ => (registry, names)) (registry, [])

/-- Forgets all loaded grammars. -/
def dispose (registry : Registry) : Registry := { registry with loaded := [] }

end Registry

end ScopeAtlas.Language
