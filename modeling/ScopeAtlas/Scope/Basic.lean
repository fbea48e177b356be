/-!
# Scopes

A scope is one semantic unit of source code: a class, a function, a constant, or
a stretch of code outside all declarations.  The scopes of a file form a flat
list; a scope names its container and its depth, and the hierarchy is rebuilt
from these when it is needed.
-/

namespace ScopeAtlas

/-- What a scope is. -/
inductive ScopeKind where
  | moduleCode
  | classLike
  | interfaceLike
  | function
  | method
  | enumeration
  | typeAlias
  | namespaceLike
  | variableLike
  | constantLike
  | lambdaLike
  /-- A kind that is only known by its label. -/
  | other (label : String)
deriving Repr, DecidableEq, Inhabited

namespace ScopeKind

/-- The kinds that are found in source code. -/
def all : List ScopeKind :=
  [.moduleCode, .classLike, .interfaceLike, .function, .method, .enumeration, .typeAlias,
    .namespaceLike, .variableLike, .constantLike, .lambdaLike]

def label : ScopeKind → String
  | .moduleCode => "module"
  | .classLike => "class"
  | .interfaceLike => "interface"
  | .function => "function"
  | .method => "method"
  | .enumeration => "enum"
  | .typeAlias => "type_alias"
  | .namespaceLike => "namespace"
  | .variableLike => "variable"
  | .constantLike => "constant"
  | .lambdaLike => "lambda"
  | .other label => label

/-- The kind of a label. -/
def ofLabel (label : String) : ScopeKind :=
  (all.find? fun kind => kind.label == label).getD (.other label)

end ScopeKind

/-- A declared parameter. -/
structure Parameter where
  name : String
  type : Option String := none
  optional : Bool := false
  rest : Bool := false
  defaultValue : Option String := none
  line : Int := 0
  column : Int := 0
deriving Repr, DecidableEq, Inhabited

/-- How an import binds names. -/
inductive ImportKind where
  | defaultExport
  | named
  | wholeModule
  | sideEffect
  /-- A kind that is only known by its label. -/
  | other (label : String)
deriving Repr, DecidableEq, Inhabited

namespace ImportKind

/-- The kinds that are found in source code. -/
def all : List ImportKind := [.defaultExport, .named, .wholeModule, .sideEffect]

def label : ImportKind → String
  | .defaultExport => "default"
  | .named => "named"
  | .wholeModule => "namespace"
  | .sideEffect => "side-effect"
  | .other label => label

/-- The kind of a label. -/
def ofLabel (label : String) : ImportKind :=
  (all.find? fun kind => kind.label == label).getD (.other label)

end ImportKind

/-- A binding introduced by an import statement. -/
structure Import where
  /-- Module or path as written. -/
  source : String
  /-- Imported symbol, or the module itself. -/
  imported : String
  /-- The name it is given by the import, if it is given one. -/
  newName : Option String := none
  kind : ImportKind := .named
  /-- The source lies in the importing project, as far as its spelling tells. -/
  isLocal : Bool := false
  line : Int := 0
deriving Repr, DecidableEq, Inhabited

/-- The name an import binds in its file.  An empty alias counts as none. -/
def Import.localName? (binding : Import) : Option String :=
  match binding.newName with
  | some newName =>
      if newName.isEmpty then unaliased else some newName
  | none => unaliased
where
  unaliased : Option String :=
    if binding.kind = .sideEffect ∨ binding.imported = "*" then none else some binding.imported

/-- The ways to build on another type. -/
inductive HeritageKind where
  | extending
  | implementing
  /-- A way that is only known by its label. -/
  | other (label : String)
deriving Repr, DecidableEq, Inhabited

namespace HeritageKind

def label : HeritageKind → String
  | .extending => "extends"
  | .implementing => "implements"
  | .other label => label

/-- The way of a label. -/
def ofLabel (label : String) : HeritageKind :=
  ([HeritageKind.extending, .implementing].find? fun kind => kind.label == label).getD
    (.other label)

end HeritageKind

/-- What a reference was found to refer to. -/
inductive ReferenceKind where
  | unknown
  | imported
  | localScope
  | builtin
  /-- A kind that is only known by its label. -/
  | other (label : String)
deriving Repr, DecidableEq, Inhabited

namespace ReferenceKind

def label : ReferenceKind → String
  | .unknown => "unknown"
  | .imported => "import"
  | .localScope => "local_scope"
  | .builtin => "builtin"
  | .other label => label

/-- The kind of a label. -/
def ofLabel (label : String) : ReferenceKind :=
  ([ReferenceKind.unknown, .imported, .localScope, .builtin].find? fun kind =>
    kind.label == label).getD (.other label)

end ReferenceKind

/-- A use of a name inside a scope. -/
structure Reference where
  identifier : String
  line : Int
  column : Int
  /-- Trimmed text of the source line. -/
  context : String
  /-- The object of which the identifier is a member. -/
  qualifier : Option String := none
  kind : ReferenceKind := .unknown
  /-- Source of the import it refers to. -/
  source : Option String := none
  /-- Pointer to the scope it refers to. -/
  targetScope : Option String := none
  isLocalImport : Option Bool := none
  /-- Set on references to base types. -/
  heritage : Option HeritageKind := none
deriving Repr, DecidableEq, Inhabited

/-- A variable declared directly inside a scope. -/
structure Variable where
  name : String
  type : Option String := none
  /-- The declaring keyword. -/
  kind : String := "var"
  line : Int := 0
deriving Repr, DecidableEq, Inhabited

/-- What a member of a class is. -/
inductive MemberKind where
  | property
  | method
  | field
  | constructor
  /-- A kind that is only known by its label. -/
  | other (label : String)
deriving Repr, DecidableEq, Inhabited

def MemberKind.label : MemberKind → String
  | .property => "property"
  | .method => "method"
  | .field => "field"
  | .constructor => "constructor"
  | .other label => label

/-- The kind of a label. -/
def MemberKind.ofLabel (label : String) : MemberKind :=
  ([MemberKind.property, .method, .field, .constructor].find? fun kind =>
    kind.label == label).getD (.other label)

/-- A field, property or method of a class. -/
structure Member where
  name : String
  memberKind : MemberKind := .property
  type : Option String := none
  accessibility : Option String := none
  isStatic : Bool := false
  isReadonly : Bool := false
  signature : Option String := none
  line : Int := 0
deriving Repr, DecidableEq, Inhabited

/-- A type parameter. -/
structure GenericParameter where
  name : String
  constraint : Option String := none
  default : Option String := none
deriving Repr, DecidableEq, Inhabited

/-- The types that a scope builds on in one way. -/
structure HeritageClause where
  clause : HeritageKind
  types : List String := []
deriving Repr, DecidableEq, Inhabited

/-- A decorator or an attribute. -/
structure Decorator where
  name : String
  arguments : Option String := none
  line : Int := 0
deriving Repr, DecidableEq, Inhabited

/-- A member of an enumeration. -/
structure EnumMember where
  name : String
  value : Option String := none
  line : Int := 0
deriving Repr, DecidableEq, Inhabited

/-- One semantic unit of source code. -/
structure Scope where
  id : String
  name : String
  kind : ScopeKind
  filePath : String
  startLine : Int
  endLine : Int
  signature : Option String := none
  parameters : List Parameter := []
  returnType : Option String := none
  modifiers : List String := []
  genericParameters : List GenericParameter := []
  heritageClauses : List HeritageClause := []
  content : String := ""
  contentDedented : String := ""
  members : List Member := []
  enumMembers : List EnumMember := []
  declaredVariables : List Variable := []
  references : List Reference := []
  imports : List Import := []
  dependencies : List String := []
  exports : List String := []
  decorators : List Decorator := []
  docstring : Option String := none
  /-- Initialiser of a variable or constant. -/
  value : Option String := none
  syntaxValid : Bool := true
  syntaxIssues : List String := []
  notes : List String := []
  complexity : Int := 1
  linesOfCode : Int := 0
  /-- Name of the containing scope. -/
  parent : Option String := none
  depth : Int := 0
deriving Repr, DecidableEq, Inhabited

/-- A textual pointer to a scope: its file, name and lines. -/
def Scope.pointer (scope : Scope) : String :=
  scope.filePath ++ "::" ++ scope.name ++ ":" ++ toString scope.startLine ++ "-" ++
    toString scope.endLine

/-- The result of extracting one file. -/
structure FileAnalysis where
  filePath : String
  language : String
  scopes : List Scope := []
  totalLines : Int := 0
  importSources : List String := []
  exports : List String := []
  dependencies : List String := []
  imports : List Import := []
  syntaxValid : Bool := true
  syntaxIssues : List String := []
  contentHash : Option String := none
deriving Repr, DecidableEq, Inhabited

end ScopeAtlas
