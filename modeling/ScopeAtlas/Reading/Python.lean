import ScopeAtlas.Extraction.Walk
import ScopeAtlas.Language.PythonModules

/-!
# Reading Python

Classes and functions, with or without decorators, are scopes everywhere.
Assignments are scopes at module level, and lambda assignments everywhere.
-/

namespace ScopeAtlas.Reading.Python

open ScopeAtlas.Data ScopeAtlas.Extraction ScopeAtlas.Language ScopeAtlas.Syntax ScopeAtlas.Text

/-- Base classes that make a class an enumeration. -/
def enumBases : List String := ["Enum", "IntEnum", "StrEnum", "Flag", "IntFlag"]

/-- Conventional names of the object or class a method works on. -/
def receivers : List String := ["self", "cls"]

/-- The content of a string literal, cleaned like a documentation string. -/
def stringValue (text : String) : String :=
  let body := trimLeftOf "rRbBuUfF" text
  let quotes := ["\"\"\"", "'''", "\"", "'"]
  let quote? := quotes.find? fun quote =>
    startsWith quote body && endsWith quote body && 2 * quote.length ≤ body.length
  cleanDocumentation <|
    match quote? with
    | some quote => dropRightChars quote.length (dropChars quote.length body)
    | none => body

/-- The documentation string at the beginning of a body. -/
def docstring (ctx : Context) (body : Option Cursor) : Option String := do
  let first ← (← body).namedChildren.head?
  let content ← first.namedChildren.head?
  if first.kind == "expression_statement" && content.kind == "string" then
    nonEmpty? (stringValue (ctx.text content))
  else none

/-- The parent of a definition, past the node that holds its decorators. -/
def holder? (place : Cursor) : Option Cursor :=
  match place.parent? with
  | some parent => if parent.kind == "decorated_definition" then parent.parent? else some parent
  | none => none

/-- A definition directly in the body of a class. -/
def isInClass (place : Cursor) : Bool :=
  match holder? place with
  | some holder => holder.kind == "block" && holder.parentKind? == some "class_definition"
  | none => false

/-- A definition at module level. -/
def isModuleLevel (place : Cursor) : Bool :=
  (holder? place).map (·.kind) == some "module"

/-- Names without a leading underscore are visible outside their module. -/
def isExported (place : Cursor) (name : String) : Bool :=
  isModuleLevel place && !startsWith "_" name

/-- One decorator. -/
def decorator? (ctx : Context) (place : Cursor) : Option Decorator :=
  if place.kind != "decorator" then none
  else place.namedChildren.head?.map fun expression =>
    if expression.kind == "call" then
      { name := (ctx.fieldText? expression "function").getD ""
        arguments := nonEmpty? (trim (dropEnds ((ctx.fieldText? expression "arguments").getD "()")))
        line := ctx.line place }
    else { name := ctx.text expression, line := ctx.line place }

/-- The decorators that a node holds. -/
def decorators (ctx : Context) (wrapper : Option Cursor) : List Decorator :=
  match wrapper with
  | some wrapper =>
      if wrapper.kind == "decorated_definition" then
        wrapper.namedChildren.filterMap (decorator? ctx)
      else []
  | none => []

/-- One parameter.  Names of receivers are left out when `skipReceiver` says so. -/
def parameter? (ctx : Context) (skipReceiver : Bool) (place : Cursor) : Option Parameter := do
  let annotated :=
    ["typed_parameter", "typed_default_parameter", "default_parameter"].contains place.kind
  let value := if annotated then place.childByField? "value" else none
  let target ←
    if annotated then (place.childByField? "name").or place.namedChildren.head? else some place
  let rest := ["list_splat_pattern", "dictionary_splat_pattern"].contains target.kind
  let target := if rest then target.namedChildren.head?.getD target else target
  if target.kind != "identifier" then none
  else
    let name := ctx.text target
    if skipReceiver && receivers.contains name then none
    else
      some
        { name := name
          type := if annotated then ctx.fieldText? place "type" else none
          optional := value.isSome
          rest := rest
          defaultValue := value.map ctx.text
          line := ctx.line place
          column := ctx.column place }

/-- The parameters of a function. -/
def parameters (ctx : Context) (list : Option Cursor) (skipReceiver : Bool) : List Parameter :=
  match list with
  | some list => list.namedChildren.filterMap (parameter? ctx skipReceiver)
  | none => []

/-- A parameter list on one line. -/
def parametersText (ctx : Context) (list : Option Cursor) : String :=
  match list with
  | some list => squeeze (ctx.text list)
  | none => "()"

/-- The modifiers of a function, from its keyword, its decorators and its name. -/
def functionModifiers (place : Cursor) (name : String) (decorators : List Decorator) :
    List String :=
  let marks := decorators.map fun decorator => baseTypeName decorator.name
  (if place.hasChildOfKind "async" then ["async"] else []) ++
    ["staticmethod", "classmethod", "property", "abstractmethod"].filter marks.contains ++
    (if startsWith "__" name && endsWith "__" name then ["dunder"]
      else if startsWith "_" name then ["private"]
      else [])

/-- A function or a method with its decorators. -/
def functionSteps (decorators : List Decorator) : TotalReading := fun ctx place depth parent =>
  let nameNode := place.childByField? "name"
  let name := ctx.textOf nameNode
  let isMethod := isInClass place
  let list := place.childByField? "parameters"
  let returnType := ctx.fieldText? place "return_type"
  let modifiers := functionModifiers place name decorators
  let body := place.childByField? "body"
  let signature :=
    (if modifiers.contains "async" then "async " else "") ++ "def " ++ name ++
      parametersText ctx list ++
      (match returnType.bind nonEmpty? with
        | some type => " -> " ++ type
        | none => "")
  .scope
    { place := place
      name := name
      kind := if isMethod then .method else .function
      depth := depth
      parent := parent
      nameNode := nameNode
      signature := some signature
      parameters := parameters ctx list isMethod
      returnType := returnType
      modifiers := modifiers
      decorators := decorators
      docstring := docstring ctx body
      exported := isExported place name } :: enterBody body (depth + 1) (some name)

/-- Private by a leading underscore. -/
def accessibility (isPrivate : Bool) : Option String :=
  some (if isPrivate then "private" else "public")

/-- What has been found in a class body so far. -/
structure Body where
  members : List Member := []
  enumMembers : List EnumMember := []
  /-- Names of the attributes already listed. -/
  seen : List String := []

/-- Lists an attribute that is assigned through the receiver, once. -/
def Body.addInstanceAttribute (ctx : Context) (body : Body) (assignment : Cursor) : Body :=
  match assignment.childByField? "left" with
  | some left =>
      match left.childByField? "object", left.childByField? "attribute" with
      | some object, some member =>
          let name := ctx.text member
          if left.kind != "attribute" || ctx.text object != "self" || body.seen.contains name then
            body
          else
            { body with
              members := body.members ++
                [{ name := name
                   type := ctx.fieldText? assignment "type"
                   accessibility := accessibility (startsWith "_" name)
                   line := ctx.line assignment }]
              seen := name :: body.seen }
      | _, _ => body
  | none => body

/-- Lists a method, and after the initialiser the attributes it assigns. -/
def Body.addMethod (ctx : Context) (body : Body) (definition : Cursor) : Body :=
  let name := (ctx.fieldText? definition "name").getD ""
  let list := ((ctx.fieldText? definition "parameters").bind nonEmpty?).getD "()"
  let listed : Body :=
    { body with
      members := body.members ++
        [{ name := name
           memberKind := .method
           type := ctx.fieldText? definition "return_type"
           accessibility := accessibility (startsWith "_" name && !endsWith "__" name)
           signature := some (name ++ squeeze list)
           line := ctx.line definition }] }
  if name == "__init__" then
    (definition.preorderOfKind ["assignment"]).foldl (Body.addInstanceAttribute ctx) listed
  else listed

/-- Lists an attribute assigned in the class body. -/
def Body.addAttribute (ctx : Context) (body : Body) (statement : Cursor) : Body :=
  match statement.namedChildren.head? with
  | some assignment =>
      match assignment.childByField? "left" with
      | some left =>
          if assignment.kind != "assignment" || left.kind != "identifier" then body
          else
            let name := ctx.text left
            let type := ctx.fieldText? assignment "type"
            { members := body.members ++
                [{ name := name
                   type := type
                   accessibility := accessibility (startsWith "_" name)
                   isStatic := type.isNone
                   line := ctx.line assignment }]
              enumMembers := body.enumMembers ++
                [{ name := name
                   value := ctx.fieldText? assignment "right"
                   line := ctx.line assignment }]
              seen := name :: body.seen }
      | none => body
  | none => body

/-- Lists what a statement of a class body declares. -/
def Body.addStatement (ctx : Context) (body : Body) (statement : Cursor) : Body :=
  let definition? :=
    if statement.kind == "decorated_definition" then statement.childByField? "definition"
    else some statement
  match definition? with
  | some definition =>
      if definition.kind == "function_definition" then body.addMethod ctx definition
      else if definition.kind == "expression_statement" then body.addAttribute ctx definition
      else body
  | none => body

/-- The members that a class body declares. -/
def classBody (ctx : Context) (body : Option Cursor) : Body :=
  match body with
  | some body => body.namedChildren.foldl (Body.addStatement ctx) {}
  | none => {}

/-- The type parameters of a class: its own, and those of a generic base. -/
def genericParameters (ctx : Context) (place : Cursor) (bases : List String) :
    List GenericParameter :=
  let own :=
    match place.childByField? "type_parameters" with
    | some list => list.namedChildren.map fun child => { name := ctx.text child }
    | none => []
  let inherited := bases.flatMap fun base =>
    if startsWithAny ["Generic[", "typing.Generic["] base && endsWith "]" base then
      match cutFirst? "[" base with
      | some (_, arguments) =>
          (split "," (dropRightChars 1 arguments)).filterMap fun argument =>
            (nonEmpty? (trim argument)).map fun name => { name := name : GenericParameter }
      | none => []
    else []
  own ++ inherited

/-- A class with its decorators. -/
def classSteps (decorators : List Decorator) : TotalReading := fun ctx place depth parent =>
  let nameNode := place.childByField? "name"
  let name := ctx.textOf nameNode
  let arguments :=
    match place.childByField? "superclasses" with
    | some list => list.namedChildren
    | none => []
  let bases :=
    (arguments.filter fun argument =>
      ["identifier", "attribute", "subscript", "generic_type"].contains argument.kind).map ctx.text
  let metaclasses := arguments.filter fun argument =>
    argument.kind == "keyword_argument" && ctx.fieldText? argument "name" == some "metaclass"
  let baseNames := bases.map baseTypeName
  let modifiers :=
    metaclasses.map (fun _ => "metaclass") ++
      (if baseNames.contains "Protocol" then ["protocol"] else []) ++
      (if ["ABC", "ABCMeta"].any baseNames.contains then ["abstract"] else []) ++
      (if decorators.any fun decorator => endsWith "dataclass" decorator.name then ["dataclass"]
        else [])
  let body := place.childByField? "body"
  let declared := classBody ctx body
  let isEnum := enumBases.any baseNames.contains
  .scope
    { place := place
      name := name
      kind := if isEnum then .enumeration else .classLike
      depth := depth
      parent := parent
      nameNode := nameNode
      signature := some ("class " ++ name ++
        (if bases.isEmpty then "" else "(" ++ String.intercalate ", " bases ++ ")"))
      modifiers := modifiers
      genericParameters := genericParameters ctx place bases
      heritageClauses := if bases.isEmpty then [] else [⟨.extending, bases⟩]
      members := declared.members
      enumMembers := if isEnum then declared.enumMembers else []
      decorators := decorators
      docstring := docstring ctx body
      exported := isExported place name } :: enterBody body (depth + 1) (some name)

/-- A function outside a decorator wrapper takes the decorators of its parent. -/
def readFunction : TotalReading := fun ctx place depth parent =>
  functionSteps (decorators ctx place.parent?) ctx place depth parent

/-- A class outside a decorator wrapper takes the decorators of its parent. -/
def readClass : TotalReading := fun ctx place depth parent =>
  classSteps (decorators ctx place.parent?) ctx place depth parent

/-- A definition with decorators. -/
def readDecorated : TotalReading := fun ctx place depth parent =>
  match place.childByField? "definition" with
  | none => enterChildren place depth parent
  | some definition =>
      let decorators := decorators ctx (some place)
      if definition.kind == "class_definition" then
        classSteps decorators ctx definition depth parent
      else functionSteps decorators ctx definition depth parent

/-- Constants are written in capitals, with digits and underscores. -/
def isConstantName (name : String) : Bool :=
  allCapitals name && allAlphanumeric (replaceAll "_" "" name)

/-- The draft of a lambda bound to a name. -/
def lambdaDraft (ctx : Context) (place left right : Cursor) (depth : Nat)
    (parent : Option String) : Draft :=
  let name := ctx.text left
  let list := right.childByField? "parameters"
  let listText := ctx.textOf list
  { place := place
    name := name
    kind := .lambdaLike
    depth := depth
    parent := parent
    nameNode := some left
    signature := some (name ++ " = lambda" ++
      (if listText.isEmpty then "" else " " ++ listText))
    parameters := parameters ctx list false
    value := some (ctx.text right)
    exported := isExported place name }

/-- The draft of a variable or constant. -/
def bindingDraft (ctx : Context) (place assignment left : Cursor) (depth : Nat)
    (parent : Option String) : Draft :=
  let name := ctx.text left
  let type := ctx.fieldText? assignment "type"
  { place := place
    name := name
    kind := if isConstantName name then .constantLike else .variableLike
    depth := depth
    parent := parent
    nameNode := some left
    signature := some (name ++
      (match type.bind nonEmpty? with
        | some type => ": " ++ type
        | none => ""))
    returnType := type
    value := ctx.fieldText? assignment "right"
    exported := isExported place name }

/-- A statement: an assignment to a name may be a scope, anything else is none. -/
def readStatement : TotalReading := fun ctx place depth parent =>
  match place.namedChildren.head? with
  | none => []
  | some assignment =>
      match assignment.childByField? "left" with
      | none => []
      | some left =>
          if assignment.kind != "assignment" || left.kind != "identifier" then []
          else
            match (assignment.childByField? "right").filter (·.kind == "lambda") with
            | some right => [.scope (lambdaDraft ctx place left right depth parent)]
            | none =>
                if place.parentKind? == some "module" then
                  [.scope (bindingDraft ctx place assignment left depth parent)]
                else []

/-- Relative imports are local, the standard library is not, and anything else may be. -/
def isLocalSpecifier (source : String) : Bool :=
  startsWith "." source || !isPythonStandardModule (beforeFirst "." source)

/-- The package of a dotted module name. -/
def packageName (source : String) : String := beforeFirst "." source

/-- The name and the alias of an imported module or symbol. -/
def importedName (source : Source) (place : Cursor) : String × Option String :=
  if place.kind == "aliased_import" then
    ((source.fieldText? place "name").getD "", source.fieldText? place "alias")
  else (source.text place, none)

/-- The bindings of one import statement. -/
def importsOf (source : Source) (place : Cursor) : List Import :=
  let line := source.startLine place
  if place.kind == "import_statement" then
    (place.childrenByField "name").map fun name =>
      let imported := importedName source name
      { source := imported.1, imported := imported.1, newName := imported.2, kind := .wholeModule,
        isLocal := isLocalSpecifier imported.1, line := line }
  else
    let origin := String.join (words (source.textOf (place.childByField? "module_name")))
    let isLocal := isLocalSpecifier origin
    if place.namedChildren.any (·.kind == "wildcard_import") then
      [{ source := origin, imported := "*", kind := .wholeModule, isLocal := isLocal, line := line }]
    else
      (place.childrenByField "name").map fun name =>
        let imported := importedName source name
        { source := origin, imported := imported.1, newName := imported.2, kind := .named,
          isLocal := isLocal, line := line }

/-- The bindings of all import statements, wherever they stand. -/
def imports (source : Source) (root : Cursor) : List Import :=
  (root.preorderOfKind ["import_statement", "import_from_statement"]).flatMap (importsOf source)

/-- How Python is read. -/
def strategy : Strategy where
  reading?
    | .classLike => some (.always readClass)
    | .functionLike => some (.always readFunction)
    | .decorated => some (.always readDecorated)
    | .binding => some (.always readStatement)
    | _ => none
  imports := imports
  packageName := packageName

end ScopeAtlas.Reading.Python
