import ScopeAtlas.Data.Value
import ScopeAtlas.Graph.Edge
import ScopeAtlas.Language.Registry
import ScopeAtlas.Text.Split

/-!
# Classification of references

Every reference of a project has one fate: it uses an import of its file, or it
names a scope of the project, or it names something built into the language and
is dropped, or nothing is known of it and it is entered in the ledger.  The first
of these that applies is taken.
-/

namespace ScopeAtlas.Graph

open ScopeAtlas.Data ScopeAtlas.Language ScopeAtlas.Text

/-! ## Imports by local name -/

/-- The imports of a file by the name they bind; the first import that binds a name keeps it. -/
def bindingTable (imports : List Import) : List (String × Import) :=
  imports.foldl (fun table binding =>
    match binding.localName? with
    | some name => if name.isEmpty then table else putNewEntry name binding table
    | none => table) []

/-- The names under which the import of a reference is looked for: its qualifier, the first
segment of its qualifier, and its identifier. -/
def bindingNames (reference : Reference) : List String :=
  match reference.qualifier with
  | none => [reference.identifier]
  | some qualifier =>
      if qualifier.isEmpty then [reference.identifier]
      else
        let dotted := replaceAll "::" "." qualifier
        [dotted, beforeFirst "." dotted, reference.identifier]

/-- The import that a reference uses. -/
def boundImport? (table : List (String × Import)) (reference : Reference) : Option Import :=
  (bindingNames reference).findSome? fun name => table.lookup name

/-! ## Scopes by name -/

/-- The scopes of a project that have a name, in the order of the files. -/
def namedScopes (analyses : List FileAnalysis) : List Scope :=
  (analyses.flatMap (·.scopes)).filter fun scope => !scope.name.isEmpty

/-- The scopes of a name, in the order of the files. -/
def bearers (analyses : List FileAnalysis) (name : String) : List Scope :=
  (namedScopes analyses).filter fun scope => scope.name == name

/-- The names of a project in the order of their first occurrence, each with its scopes. -/
def nameIndex (analyses : List FileAnalysis) : List (String × List Scope) :=
  (distinct ((namedScopes analyses).map (·.name))).map fun name => (name, bearers analyses name)

/-! ## Fates -/

/-- How the imports of a language are followed. -/
structure Locator where
  /-- The specifier names a module of the project. -/
  isLocal : String → Bool
  /-- The files that may define what is imported, for a specifier and the importing file. -/
  files : String → Files.Path → List Files.Path

/-- The locators of a project by language. -/
abbrev Locators := String → Option Locator

/-- What becomes of a reference. -/
inductive Fate where
  | usesImport (binding : Import) (isLocal : Bool)
  | namesScope (target : Scope)
  | isBuiltin
  | isUnknown
deriving Repr, DecidableEq

/-- The names built into a language. -/
def builtinsOf (language : String) : List String :=
  match profile? language with
  | some profile => profile.builtins
  | none => []

/-- The import is one of the project: the locator of the language decides, and without one the
spelling of the import. -/
def isLocalImport (locator : Option Locator) (binding : Import) : Bool :=
  match locator with
  | some locator => locator.isLocal binding.source
  | none => binding.isLocal

/-- The fate of a reference in a file. -/
def fate (locators : Locators) (analyses : List FileAnalysis) (file : FileAnalysis)
    (reference : Reference) : Fate :=
  match boundImport? (bindingTable file.imports) reference with
  | some binding => .usesImport binding (isLocalImport (locators file.language) binding)
  | none =>
      match bearers analyses reference.identifier with
      | target :: _ => .namesScope target
      | [] =>
          if (builtinsOf file.language).contains reference.identifier then .isBuiltin
          else .isUnknown

/-- The reference with its fate written into it; a dropped reference is gone. -/
def Fate.apply (reference : Reference) : Fate → Option Reference
  | .usesImport binding isLocal =>
      some { reference with
        kind := .imported, source := some binding.source, isLocalImport := some isLocal }
  | .namesScope target =>
      some { reference with kind := .localScope, targetScope := some target.pointer }
  | .isBuiltin => none
  | .isUnknown => some { reference with kind := .unknown }

/-- Adds an import unless it is there. -/
def addImport (imports : List Import) (binding : Import) : List Import :=
  if imports.contains binding then imports else imports ++ [binding]

/-- The imports of a scope together with those that its references use. -/
def extendImports (table : List (String × Import)) (scope : Scope) : List Import :=
  (scope.references.filterMap (boundImport? table)).foldl addImport scope.imports

/-- A scope with its references classified. -/
def classifyScope (locators : Locators) (analyses : List FileAnalysis) (file : FileAnalysis)
    (scope : Scope) : Scope :=
  { scope with
    references := scope.references.filterMap fun reference =>
      (fate locators analyses file reference).apply reference
    imports := extendImports (bindingTable file.imports) scope }

/-- A file with its references classified. -/
def classifyFile (locators : Locators) (analyses : List FileAnalysis) (file : FileAnalysis) :
    FileAnalysis :=
  { file with scopes := file.scopes.map (classifyScope locators analyses file) }

/-- The references of a scope of which nothing is known. -/
def unknownReferences (locators : Locators) (analyses : List FileAnalysis) (file : FileAnalysis)
    (scope : Scope) : List Unresolved :=
  (scope.references.filter fun reference =>
      fate locators analyses file reference == .isUnknown).map fun reference =>
    .ofReference scope reference .noLocalScope

/-- The files of a project with all references classified. -/
def classify (locators : Locators) (analyses : List FileAnalysis) : List FileAnalysis :=
  analyses.map (classifyFile locators analyses)

/-- The references of a project of which nothing is known, in the order of the files. -/
def unknownLedger (locators : Locators) (analyses : List FileAnalysis) : List Unresolved :=
  analyses.flatMap fun file => file.scopes.flatMap (unknownReferences locators analyses file)

end ScopeAtlas.Graph
