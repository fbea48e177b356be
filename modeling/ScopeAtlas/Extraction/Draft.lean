import ScopeAtlas.Digest
import ScopeAtlas.Extraction.Heritage
import ScopeAtlas.Extraction.ImportUse
import ScopeAtlas.Extraction.Metrics

/-!
# From a construct to a scope

Reading a construct of some language gives a draft: the parts of a scope that
depend on the construct.  Completing a draft adds what is the same for all:
position, content, references, used imports, variables, complexity and problems.
-/

namespace ScopeAtlas.Extraction

open ScopeAtlas.Data ScopeAtlas.Syntax ScopeAtlas.Text

/-- The parts of a scope that depend on its construct. -/
structure Draft where
  /-- The node of the construct. -/
  place : Cursor
  /-- Following siblings that also belong to the scope. -/
  extent : List Cursor := []
  name : String
  kind : ScopeKind
  depth : Nat
  parent : Option String
  /-- The node of the name, which is no reference. -/
  nameNode : Option Cursor := none
  /-- Further nodes below which no reference is looked for. -/
  skip : List Cursor := []
  signature : Option String := none
  parameters : List Parameter := []
  returnType : Option String := none
  modifiers : List String := []
  genericParameters : List GenericParameter := []
  heritageClauses : List HeritageClause := []
  members : List Member := []
  enumMembers : List EnumMember := []
  decorators : List Decorator := []
  docstring : Option String := none
  value : Option String := none
  /-- Further names that are no references. -/
  exclude : List String := []
  /-- References that stand for no identifier of the text. -/
  synthetic : List Reference := []
  notes : List String := []
  exported : Bool := false

/-- The identity of a scope: a digest of its file, its byte range and its content. -/
def scopeId (filePath : String) (startByte endByte : Int) (content : String) : String :=
  let head := filePath ++ ":" ++ toString startByte ++ "-" ++ toString endByte ++ "\n"
  String.ofList ((Digest.hex (head ++ content).toUTF8.data.toList).toList.take 16)

/-- Number of lines that are not blank. -/
def countCodeLines (content : String) : Nat :=
  ((lines content).filter fun line => !(trim line).isEmpty).length

namespace Draft

/-- All nodes of the scope. -/
def places (draft : Draft) : List Cursor := draft.place :: draft.extent

/-- The last node of the scope. -/
def lastPlace (draft : Draft) : Cursor := draft.extent.getLast?.getD draft.place

/-- Names that are no references inside the scope. -/
def exclusions (draft : Draft) (ctx : Context) : List String :=
  draft.name :: draft.exclude ++ draft.parameters.map (·.name) ++ ctx.profile.receivers ++
    draft.places.flatMap ctx.localSymbols

/-- The references of the scope. -/
def references (draft : Draft) (ctx : Context) : List Reference :=
  applyHeritage
    (ctx.collectReferences draft.places (draft.exclusions ctx)
      (draft.skip ++ draft.nameNode.toList))
    draft.heritageClauses draft.synthetic

/-- The last row of the scope.  A node that ends at the beginning of a row does not occupy it. -/
def endRow (draft : Draft) (ctx : Context) : Nat :=
  let startRow := (ctx.source.startPoint draft.place).row
  let stop := ctx.source.endPoint draft.lastPlace
  if stop.column == 0 && startRow < stop.row then stop.row - 1 else stop.row

/-- Completes a draft.  `packageName` names the package of an external import. -/
def complete (draft : Draft) (ctx : Context) (packageName : String → String) : Scope :=
  let startByte := draft.place.startByte
  let endByte := draft.lastPlace.endByte
  let startRow := (ctx.source.startPoint draft.place).row
  let endRow := draft.endRow ctx
  let content := ctx.source.slice startByte endByte
  let rows := (ctx.source.lines.toList.drop startRow).take (endRow + 1 - startRow)
  let references := draft.references ctx
  let imports := usedImports ctx.imports references
  let issues := ctx.problemsWithin startByte endByte
  { id := scopeId ctx.filePath startByte endByte content
    name := draft.name
    kind := draft.kind
    filePath := ctx.filePath
    startLine := startRow + 1
    endLine := endRow + 1
    signature := draft.signature
    parameters := draft.parameters
    returnType := draft.returnType
    modifiers := distinct draft.modifiers
    genericParameters := draft.genericParameters
    heritageClauses := draft.heritageClauses
    content := content
    contentDedented := trimOf "\n" (dedent (String.intercalate "\n" rows))
    members := draft.members
    enumMembers := draft.enumMembers
    declaredVariables := ctx.collectVariables draft.places
    references := references
    imports := imports
    dependencies :=
      sortedSet ((imports.filter fun binding => !binding.isLocal).map fun binding =>
        packageName binding.source)
    exports := if draft.exported then [draft.name] else []
    decorators := draft.decorators
    docstring := draft.docstring
    value := draft.value
    syntaxValid := issues.isEmpty
    syntaxIssues := issues
    notes := draft.notes
    complexity := complexity ctx.nodes draft.places
    linesOfCode := countCodeLines content
    parent := draft.parent
    depth := draft.depth }

end Draft

end ScopeAtlas.Extraction
