import ScopeAtlas.Graph.Resolution
import ScopeAtlas.Location.Ecosystem

/-!
# Linking the files of a project

The imports of each language are followed by the rules of its ecosystem, with the
manifest of the project loaded.  A specifier that the rules refuse makes the whole
project refused; otherwise the graph of the project is built.
-/

namespace ScopeAtlas.Workspace

open ScopeAtlas.Data ScopeAtlas.Files ScopeAtlas.Graph ScopeAtlas.Language ScopeAtlas.Location

/-- An ecosystem with a project of it. -/
structure Home where
  ecosystem : Ecosystem
  project : Project

namespace Home

/-- How imports are followed here.  What the rules refuse is not found. -/
def locator (home : Home) : Locator :=
  { isLocal := fun specifier =>
      ((home.ecosystem.isLocal home.project specifier).toOption).getD false
    files := fun specifier current =>
      ((home.ecosystem.locate home.project specifier current).toOption).getD [] }

end Home

/-- Why the files of a project cannot be linked. -/
inductive LinkFault where
  /-- A manifest or an import cannot be followed. -/
  | followed (fault : Fault)
  /-- A reference builds on a type in a way that is not known. -/
  | relationUnknown
deriving Repr, DecidableEq

/-- Loads the ecosystem of each language, in the order of their names.  A language that is not
known has none. -/
def loadHomes (files : FileTree) (root : Path) :
    List String → Except Fault (List (String × Home))
  | [] => .ok []
  | language :: rest =>
      match profile? language with
      | none => loadHomes files root rest
      | some profile =>
          let ecosystem := Ecosystem.ofFamily profile.family
          let project : Project := { files := files, root := root }
          match ecosystem.load project none none with
          | (_, some fault) => .error fault
          | (project, none) => do
              let later ← loadHomes files root rest
              return (language, ⟨ecosystem, project⟩) :: later

/-- The locators of loaded ecosystems. -/
def locatorsOf (homes : List (String × Home)) : Locators :=
  fun language => (homes.lookup language).map Home.locator

/-- The fault of a check, if it has one. -/
def faultOf? {α : Type} : Except Fault α → Option LinkFault
  | .ok _ => none
  | .error fault => some (.followed fault)

/-- The first specifier whose class is refused. -/
def classFault? (homes : List (String × Home)) (analyses : List FileAnalysis) :
    Option LinkFault :=
  analyses.findSome? fun file =>
    (homes.lookup file.language).bind fun home =>
      let table := bindingTable file.imports
      (file.scopes.flatMap (·.references)).findSome? fun reference =>
        (boundImport? table reference).bind fun binding =>
          faultOf? (home.ecosystem.classify home.project binding.source)

/-- The fault of a file whose path has no absolute form. -/
def pathFault? (analyses : List FileAnalysis) : Option LinkFault :=
  if analyses.any fun file => (Path.ofString file.filePath).hasNull then
    some (.followed (.path .hasNull))
  else none

/-- The fault of following an import from a file. -/
def importFault? (homes : List (String × Home)) (setting : Setting) (file : FileAnalysis)
    (binding : Import) : Option LinkFault :=
  (homes.lookup file.language).bind fun home =>
    faultOf? (home.ecosystem.locate home.project binding.source (setting.absolute file.filePath))

/-- The fault of a reference that leads to a scope. -/
def relationFault? (scope : Scope) (reference : Reference) (leads : Bool) : Option LinkFault :=
  if leads && (relationOf? scope reference).isNone then some .relationUnknown else none

/-- The fault of a reference of a classified scope. -/
def referenceFault? (homes : List (String × Home)) (setting : Setting) (file : FileAnalysis)
    (scope : Scope) (reference : Reference) : Option LinkFault :=
  match reference.kind with
  | .imported =>
      (boundImport? (bindingTable file.imports) reference).bind fun binding =>
        let followed :=
          if reference.isLocalImport == some true then importFault? homes setting file binding
          else none
        followed.orElse fun _ =>
          relationFault? scope reference (importTarget? setting file binding reference).isSome
  | .localScope =>
      relationFault? scope reference
        (setting.atPointer? (reference.targetScope.getD "")).isSome
  | _ => none

/-- The fault of a decorator. -/
def decoratorFault? (homes : List (String × Home)) (setting : Setting) (file : FileAnalysis)
    (decorator : Decorator) : Option LinkFault :=
  (boundImport? (bindingTable file.imports) (decoratorReference decorator)).bind
    (importFault? homes setting file)

/-- The first fault in a classified project: scope by scope, of its references and then of its
decorators. -/
def useFault? (options : Options) (homes : List (String × Home)) (setting : Setting) :
    Option LinkFault :=
  setting.analyses.findSome? fun file =>
    file.scopes.findSome? fun scope =>
      let decorators := if options.includeDecorators then scope.decorators else []
      (scope.references.findSome? (referenceFault? homes setting file scope)).orElse fun _ =>
        decorators.findSome? (decoratorFault? homes setting file)

/-- Builds the graph of a project whose files have been analysed. -/
def link (options : Options) (files : FileTree) (root : Path) (analyses : List FileAnalysis) :
    Except LinkFault Resolution := do
  let homes ←
    (loadHomes files root (sortedSet (analyses.map (·.language)))).mapError LinkFault.followed
  let locators := locatorsOf homes
  let fault := (classFault? homes analyses).orElse fun _ =>
    (pathFault? analyses).orElse fun _ =>
      useFault? options homes (settingOf root locators analyses)
  match fault with
  | some fault => throw fault
  | none => return resolve options root locators analyses

end ScopeAtlas.Workspace
