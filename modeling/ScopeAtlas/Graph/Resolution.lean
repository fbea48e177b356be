import ScopeAtlas.Files.Path
import ScopeAtlas.Graph.Classification
import ScopeAtlas.Graph.Heritage
import ScopeAtlas.Graph.Nesting
import ScopeAtlas.Text.Blank

/-!
# The relationship graph

The graph is built from the classified files of a project: nesting, uses and
decorations each contribute edges, and of the edges that say the same the first
is kept.  An imported name is looked for in the files that the import leads to
and then among all names of the project; where both fail, a name imported from
the project is entered in the ledger.
-/

namespace ScopeAtlas.Graph

open ScopeAtlas.Data ScopeAtlas.Files ScopeAtlas.Text

/-- Which edges are wanted. -/
structure Options where
  includeContains : Bool := true
  includeInverse : Bool := true
  includeDecorators : Bool := true
  /-- Edges may join scopes of different files. -/
  crossFile : Bool := true
deriving Repr, DecidableEq, Inhabited

/-- A classified project, as the edges are found in it. -/
structure Setting where
  root : Path
  locators : Locators
  /-- The classified files. -/
  analyses : List FileAnalysis
  /-- The names of the project, each with its scopes before classification. -/
  index : List (String × List Scope)

namespace Setting

/-- The absolute path of a file of the project. -/
def absolute (setting : Setting) (path : String) : Path :=
  Path.resolved setting.root (Path.ofString path)

/-- The analysis of a file; of two that denote the same file the later counts. -/
def analysisAt? (setting : Setting) (path : Path) : Option FileAnalysis :=
  setting.analyses.reverse.find? fun analysis => setting.absolute analysis.filePath == path

/-- The first scope of a name. -/
def firstNamed? (setting : Setting) (name : String) : Option Scope :=
  (setting.index.lookup name).bind List.head?

/-- The first scope of the first name that has any. -/
def firstOfNames? (setting : Setting) (names : List String) : Option Scope :=
  names.findSome? setting.firstNamed?

/-- The scope that a pointer denotes. -/
def atPointer? (setting : Setting) (pointer : String) : Option Scope :=
  (setting.index.flatMap (·.2)).find? fun scope => scope.pointer == pointer

end Setting

/-- The names under which an imported symbol is looked for: the imported name, when the import gives
one, and the name that is used. -/
def importNames (binding : Import) (reference : Reference) : List String :=
  let named := binding.kind == .named || binding.kind == .defaultExport
  if named && binding.imported != "*" && binding.imported != binding.source then
    distinct [binding.imported, reference.identifier]
  else [reference.identifier]

/-- The scope of a name in one file; a scope without a container comes first. -/
def scopeNamed? (scopes : List Scope) (name : String) : Option Scope :=
  let matching := scopes.filter fun scope => scope.name == name
  match matching.find? fun scope => scope.parent.isNone with
  | some scope => some scope
  | none => matching.head?

/-- The scope that an import leads to: in the first file that has one of the names, the scope of
the first such name. -/
def locatedTarget? (setting : Setting) (file : FileAnalysis) (binding : Import)
    (reference : Reference) : Option Scope :=
  match setting.locators file.language with
  | none => none
  | some locator =>
      (locator.files binding.source (setting.absolute file.filePath)).findSome? fun path =>
        (setting.analysisAt? (Path.resolved setting.root path)).bind fun found =>
          (importNames binding reference).findSome? (scopeNamed? found.scopes)

/-- The scope that an imported name refers to, and whether only its name led there. -/
def importTarget? (setting : Setting) (file : FileAnalysis) (binding : Import)
    (reference : Reference) : Option (Scope × Bool) :=
  let located :=
    if reference.isLocalImport == some true then locatedTarget? setting file binding reference
    else none
  match located with
  | some scope => some (scope, false)
  | none =>
      (setting.firstOfNames? (importNames binding reference)).map fun scope => (scope, true)

/-- An edge between two scopes. -/
def edgeBetween (relation : Relation) (source target : Scope) (evidence : Evidence) : Edge :=
  { relation := relation
    source := .ofScope source
    target := .ofScope target
    evidence := evidence }

/-- The edge from the container of a scope. -/
def nestingEdge? (file : FileAnalysis) (scope : Scope) : Option Edge :=
  if scope.parent.isNone then none
  else (enclosing? scope file.scopes).map fun outer => edgeBetween .contains outer scope .nesting

/-- The edge that a reference contributes.  A reference whose relation is not known contributes
none. -/
def referenceEdge? (setting : Setting) (file : FileAnalysis) (scope : Scope)
    (reference : Reference) : Option Edge :=
  match reference.kind with
  | .imported =>
      (boundImport? (bindingTable file.imports) reference).bind fun binding =>
        (importTarget? setting file binding reference).bind fun target =>
          (relationOf? scope reference).map fun relation =>
            edgeBetween relation scope target.1
              (.importedUse reference.line reference.identifier reference.context binding.source
                target.2)
  | .localScope =>
      (setting.atPointer? (reference.targetScope.getD "")).bind fun target =>
        (relationOf? scope reference).map fun relation =>
          edgeBetween relation scope target
            (.use reference.line reference.identifier reference.context)
  | _ => none

/-- The reference was imported from the project and leads nowhere. -/
def isLost (setting : Setting) (file : FileAnalysis) (reference : Reference) : Bool :=
  reference.kind == .imported && reference.isLocalImport == some true &&
    match boundImport? (bindingTable file.imports) reference with
    | some binding => (importTarget? setting file binding reference).isNone
    | none => false

/-- The name of a decorator without its mark and its arguments. -/
def decoratorName (decorator : Decorator) : String :=
  beforeFirst "(" (trimLeftOf "@" decorator.name)

/-- A decorator as a reference: its last segment, qualified by what stands before the last dot. -/
def decoratorReference (decorator : Decorator) : Reference :=
  let name := decoratorName decorator
  { identifier := (split "::" (afterLast "." name)).getLastD ""
    line := decorator.line
    column := 0
    context := ""
    qualifier :=
      match cutLast? "." name with
      | some (qualifier, _) => if qualifier.isEmpty then none else some qualifier
      | none => none
    isLocalImport := some true }

/-- The scope that a decorator refers to: where its import leads, else a scope of its name in the
same file, else any scope of its name. -/
def decoratorTarget? (setting : Setting) (file : FileAnalysis) (scope : Scope)
    (decorator : Decorator) : Option Scope :=
  let reference := decoratorReference decorator
  let located :=
    (boundImport? (bindingTable file.imports) reference).bind fun binding =>
      locatedTarget? setting file binding reference
  match located with
  | some target => some target
  | none =>
      let named := (setting.index.lookup reference.identifier).getD []
      match named.find? fun candidate => candidate.filePath == scope.filePath with
      | some target => some target
      | none => named.head?

/-- The edge that a decorator contributes. -/
def decoratorEdge? (setting : Setting) (file : FileAnalysis) (scope : Scope)
    (decorator : Decorator) : Option Edge :=
  (decoratorTarget? setting file scope decorator).map fun target =>
    edgeBetween .decoratedBy scope target (.decoration decorator.arguments)

/-- The edges that a scope contributes: from its container, for its references and for its
decorators. -/
def scopeEdges (options : Options) (setting : Setting) (file : FileAnalysis) (scope : Scope) :
    List Edge :=
  (if options.includeContains then (nestingEdge? file scope).toList else []) ++
    scope.references.filterMap (referenceEdge? setting file scope) ++
    (if options.includeDecorators then
      scope.decorators.filterMap (decoratorEdge? setting file scope) else [])

/-- The edge joins two scopes, and they may be joined. -/
def Options.admits (options : Options) (edge : Edge) : Bool :=
  edge.source.id != edge.target.id &&
    (options.crossFile || edge.source.file == edge.target.file)

/-- All contributions that are admitted, in the order of the files. -/
def contributions (options : Options) (setting : Setting) : List Edge :=
  (setting.analyses.flatMap fun file =>
    file.scopes.flatMap (scopeEdges options setting file)).filter options.admits

/-- The edges found in the source. -/
def forwardEdges (options : Options) (setting : Setting) : List Edge :=
  Edge.keepFirst [] (contributions options setting)

/-- The edges of the graph: those found in the source and, where wanted, their mirror images. -/
def allEdges (options : Options) (setting : Setting) : List Edge :=
  let forward := forwardEdges options setting
  if options.includeInverse then forward ++ forward.map Edge.inverted else forward

/-- The references that were imported from the project and lead nowhere. -/
def lostLedger (setting : Setting) : List Unresolved :=
  setting.analyses.flatMap fun file =>
    file.scopes.flatMap fun scope =>
      (scope.references.filter (isLost setting file)).map fun reference =>
        .ofReference scope reference .noImportTarget

/-- What a reader of the graph finds for a scope. -/
structure Listing where
  id : String
  name : String
  kind : ScopeKind
  file : String
  startLine : Int
  endLine : Int
  signature : Option String
  parent : Option String
deriving Repr, DecidableEq, Inhabited

namespace Listing

def ofScope (scope : Scope) : Listing :=
  { id := scope.id
    name := scope.name
    kind := scope.kind
    file := scope.filePath
    startLine := scope.startLine
    endLine := scope.endLine
    signature := scope.signature
    parent := scope.parent }

/-- A textual pointer: the file, the name and the lines. -/
def pointer (listing : Listing) : String :=
  listing.file ++ "::" ++ listing.name ++ ":" ++ toString listing.startLine ++ "-" ++
    toString listing.endLine

def toValue (listing : Listing) : Value :=
  .table [("id", .text listing.id), ("name", .text listing.name),
    ("type", .text listing.kind.label), ("file", .text listing.file),
    ("start_line", .int listing.startLine), ("end_line", .int listing.endLine),
    ("signature", .ofText? listing.signature), ("parent", .ofText? listing.parent)]

end Listing

/-- Numbers that describe a graph. -/
structure Statistics where
  files : Nat
  scopes : Nat
  edges : Nat
  /-- The number of edges by relation, in the order of the labels. -/
  byRelation : List (String × Nat)
  unresolved : Nat
deriving Repr, DecidableEq, Inhabited

/-- The result of resolving a project. -/
structure Resolution where
  edges : List Edge
  unresolved : List Unresolved
  statistics : Statistics
  /-- Every name with its scopes. -/
  byName : List (String × List Listing)
  /-- Every scope by its id; of two with the same id the later counts. -/
  byId : List (String × Listing)
  /-- The classified files. -/
  analyses : List FileAnalysis
deriving Inhabited

/-- The number of edges of each relation that occurs. -/
def countByRelation (edges : List Edge) : List (String × Nat) :=
  (sortedSet (edges.map (·.relation.label))).map fun label =>
    (label, (edges.filter fun edge => edge.relation.label == label).length)

/-- The listings of a project by id. -/
def listingsById (byName : List (String × List Listing)) : List (String × Listing) :=
  (byName.flatMap (·.2)).foldl (fun table listing => putEntry listing.id listing table) []

/-- The setting in which the edges of a project are found. -/
def settingOf (root : Path) (locators : Locators) (analyses : List FileAnalysis) : Setting :=
  { root := root
    locators := locators
    analyses := classify locators analyses
    index := nameIndex analyses }

/-- Builds the graph of a project. -/
def resolve (options : Options) (root : Path) (locators : Locators)
    (analyses : List FileAnalysis) : Resolution :=
  let setting := settingOf root locators analyses
  let edges := allEdges options setting
  let unresolved := unknownLedger locators analyses ++ lostLedger setting
  let byName := setting.index.map fun entry => (entry.1, entry.2.map Listing.ofScope)
  { edges := edges
    unresolved := unresolved
    statistics :=
      { files := analyses.length
        scopes := (analyses.flatMap (·.scopes)).length
        edges := edges.length
        byRelation := countByRelation edges
        unresolved := unresolved.length }
    byName := byName
    byId := listingsById byName
    analyses := setting.analyses }

end ScopeAtlas.Graph
