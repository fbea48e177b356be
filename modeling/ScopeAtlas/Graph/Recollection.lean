import ScopeAtlas.Graph.Classification

/-!
# Classification that remembers

Locators are costly to ask, so the pass over the files of a project remembers their
answers, by the name of the locator and the source of the import.  Apart from that
every reference has the fate that it has by itself.
-/

namespace ScopeAtlas.Data

/-- A step for each member of a list, with a state that is handed on. -/
def threaded {σ α β : Type} (step : σ → α → β × σ) (state : σ) : List α → List β × σ
  | [] => ([], state)
  | item :: rest =>
      let (result, next) := step state item
      let (results, last) := threaded step next rest
      (result :: results, last)

end ScopeAtlas.Data

namespace ScopeAtlas.Graph

open ScopeAtlas.Data

/-- A locator with the name under which its answers are remembered. -/
structure NamedLocator where
  name : String
  locator : Locator

/-- The answers given so far, by the name of the locator and the source of the import. -/
abbrev Answers := List ((String × String) × Bool)

/-- Whether an import is one of the project, and what is remembered afterwards. -/
def recalledIsLocal (locator : Option NamedLocator) (answers : Answers) (binding : Import) :
    Bool × Answers :=
  match locator with
  | none => (binding.isLocal, answers)
  | some named =>
      match answers.lookup (named.name, binding.source) with
      | some answer => (answer, answers)
      | none =>
          let answer := named.locator.isLocal binding.source
          (answer, ((named.name, binding.source), answer) :: answers)

section Recalling

variable (locators : String → Option NamedLocator) (analyses : List FileAnalysis)

/-- The fate of a reference.  Only for one that uses an import a locator is asked. -/
def recalledFate (file : FileAnalysis) (answers : Answers) (reference : Reference) :
    Fate × Answers :=
  match boundImport? (bindingTable file.imports) reference with
  | some binding =>
      let (isLocal, next) := recalledIsLocal (locators file.language) answers binding
      (.usesImport binding isLocal, next)
  | none => (fate (fun _ => none) analyses file reference, answers)

/-- What is kept of a reference. -/
def recalledReference (file : FileAnalysis) (answers : Answers) (reference : Reference) :
    Option Reference × Answers :=
  let (found, next) := recalledFate locators analyses file answers reference
  (found.apply reference, next)

def recalledScope (file : FileAnalysis) (answers : Answers) (scope : Scope) : Scope × Answers :=
  let (kept, next) := threaded (recalledReference locators analyses file) answers scope.references
  ({ scope with
      references := kept.filterMap id
      imports := extendImports (bindingTable file.imports) scope }, next)

def recalledFile (answers : Answers) (file : FileAnalysis) : FileAnalysis × Answers :=
  let (scopes, next) := threaded (recalledScope locators analyses file) answers file.scopes
  ({ file with scopes := scopes }, next)

/-- The files of a project with all references classified, by a pass that remembers the answers of
its locators. -/
def recallingClassify : List FileAnalysis :=
  (threaded (recalledFile locators analyses) [] analyses).1

end Recalling

end ScopeAtlas.Graph
