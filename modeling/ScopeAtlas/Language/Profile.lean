/-!
# Language profiles

Everything the extractor knows about a language as data: how its grammar is
loaded, which file name endings it has, which node kinds of the grammar open a
scope, bind a name, use a name or branch, and which names are reserved or built
in.  The extractor itself is the same for all languages.
-/

namespace ScopeAtlas.Language

/-- Languages whose constructs are read in the same way. -/
inductive Family where
  | typescript
  | python
  | rust
  | go
  | c
  | cpp
  | csharp
deriving Repr, DecidableEq, Inhabited

namespace Family

/-- All families, in the order in which they are listed. -/
def all : List Family := [.typescript, .python, .rust, .go, .c, .cpp, .csharp]

def label : Family → String
  | .typescript => "typescript"
  | .python => "python"
  | .rust => "rust"
  | .go => "go"
  | .c => "c"
  | .cpp => "cpp"
  | .csharp => "csharp"

/-- The family with a label. -/
def ofLabel? (label : String) : Option Family := all.find? fun family => family.label == label

end Family

/-- What a node that opens a scope is, up to the spelling of the language. -/
inductive Construct where
  | classLike
  | interfaceLike
  | functionLike
  | methodLike
  | enumeration
  | typeAlias
  | namespaceLike
  | binding
  | decorated
  | implementation
  | typeDeclaration
  | textMacro
  | template
  | compilationUnit
deriving Repr, DecidableEq, Inhabited

def Construct.label : Construct → String
  | .classLike => "class"
  | .interfaceLike => "interface"
  | .functionLike => "function"
  | .methodLike => "method"
  | .enumeration => "enum"
  | .typeAlias => "type_alias"
  | .namespaceLike => "namespace"
  | .binding => "variable"
  | .decorated => "decorated"
  | .implementation => "impl"
  | .typeDeclaration => "type_declaration"
  | .textMacro => "macro"
  | .template => "template"
  | .compilationUnit => "compilation_unit"

/-- Fields of a node that holds a declared name and, possibly, its type.  A type that the node
does not have is looked for in its parent. -/
structure DeclaratorFields where
  name : String
  type : Option String
deriving Repr, DecidableEq, Inhabited

/-- The roles of the node kinds of one grammar. -/
structure NodeTable where
  /-- Node kinds that open a scope. -/
  scopes : List (String × Construct) := []
  identifiers : List String := ["identifier"]
  typeIdentifiers : List String := []
  /-- Parents that put a plain identifier in type position. -/
  typeContexts : List String := []
  /-- Accesses to a member, with the fields of the object and of the member. -/
  memberAccess : List (String × String × String) := []
  decorators : List String := []
  imports : List String := []
  comments : List String := ["comment"]
  /-- Nodes below which no reference is looked for. -/
  skipReferences : List String := []
  /-- Fields whose content binds names. -/
  definitionFields : List (String × List String) := []
  /-- Nodes all of whose content binds names. -/
  definitionContainers : List String := []
  /-- Nodes that only group names, so that their parent decides. -/
  patternTypes : List String := []
  variableDeclarators : List (String × DeclaratorFields) := []
  branches : List String := []
  binaryExpressions : List String := ["binary_expression"]
  logicalOperators : List String := ["&&", "||"]
  errors : List String := ["ERROR"]
deriving Repr, DecidableEq, Inhabited

namespace NodeTable

/-- The construct that a node kind opens. -/
def construct? (table : NodeTable) (kind : String) : Option Construct := table.scopes.lookup kind

/-- A plain or a type identifier. -/
def isIdentifier (table : NodeTable) (kind : String) : Bool :=
  table.identifiers.contains kind || table.typeIdentifiers.contains kind

/-- An import or a comment. -/
def isImportOrComment (table : NodeTable) (kind : String) : Bool :=
  table.imports.contains kind || table.comments.contains kind

end NodeTable

/-- Everything known about one language. -/
structure Profile where
  name : String
  family : Family
  grammarName : String
  grammarPackage : String
  grammarModule : String
  minVersion : String
  /-- Name of the grammar's loader when it is not the usual one. -/
  languageFunc : Option String := none
  extensions : List String := []
  nodes : NodeTable := {}
  stopWords : List String := []
  builtins : List String := []
  /-- Names of the object a method works on, never reported as references. -/
  receivers : List String := []
deriving Repr, DecidableEq, Inhabited

end ScopeAtlas.Language
