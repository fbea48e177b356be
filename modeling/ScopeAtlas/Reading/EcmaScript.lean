import ScopeAtlas.Extraction.Walk

/-!
# Reading TypeScript, TSX and JavaScript

Declarations may stand inside an export statement, which then carries their
documentation and decorators.  A variable that holds a function is read as a
function; other variables are scopes at the top level only.
-/

namespace ScopeAtlas.Reading.EcmaScript

open ScopeAtlas.Extraction ScopeAtlas.Syntax ScopeAtlas.Text

/-- Values that make their variable a function. -/
def functionValues : List String :=
  ["arrow_function", "function_expression", "function", "generator_function"]

/-- Children that are modifiers. -/
def modifierTokens : List String :=
  ["static", "async", "readonly", "abstract", "get", "set", "declare", "override_modifier"]

/-- A text without the quotes around it. -/
def unquote (text : String) : String := trimOf "'\"\x60" (trim text)

/-- A type annotation without its colon. -/
def typeAfterColon (ctx : Context) (place : Option Cursor) : Option String :=
  place.bind fun place => nonEmpty? (withoutColon (ctx.text place))

/-- The statement to which the documentation and the export keyword of a declaration belong. -/
def exportTarget (place : Cursor) : Cursor :=
  let declaration :=
    if place.kind == "variable_declarator" then place.parent?.getD place else place
  match declaration.parent? with
  | some parent => if parent.kind == "export_statement" then parent else declaration
  | none => declaration

/-- A declaration inside an export statement. -/
def isExported (place : Cursor) : Bool := (exportTarget place).kind == "export_statement"

/-- The modifiers that an export statement adds. -/
def exportModifiers (place : Cursor) : List String :=
  let target := exportTarget place
  if target.kind != "export_statement" then []
  else if target.hasChildOfKind "default" then ["export", "default"]
  else ["export"]

/-- The modifiers of a declaration. -/
def modifiers (ctx : Context) (place : Cursor) : List String :=
  place.children.filterMap fun child =>
    if child.kind == "accessibility_modifier" then some (ctx.text child)
    else if modifierTokens.contains child.kind then
      some (if child.kind == "override_modifier" then "override" else child.kind)
    else if child.kind == "*" then some "generator"
    else none

/-- The documentation comment of a declaration. -/
def docstring (ctx : Context) (place : Cursor) : Option String :=
  ctx.leadingComments (exportTarget place) (some ["/**"])

/-- One decorator. -/
def decorator? (ctx : Context) (place : Cursor) : Option Decorator :=
  place.namedChildren.head?.map fun expression =>
    if expression.kind == "call_expression" then
      { name := ctx.textOf (expression.childByField? "function")
        arguments := (ctx.fieldText? expression "arguments").bind fun list =>
          nonEmpty? (trim (dropEnds list))
        line := ctx.line place }
    else { name := ctx.text expression, line := ctx.line place }

/-- The decorators of a declaration: those before it, those of its export statement, and its
own. -/
def decorators (ctx : Context) (place : Cursor) : List Decorator :=
  let isDecorator := fun (child : Cursor) => child.kind == "decorator"
  let target := exportTarget place
  let outer := if target.same place then [] else target.children.filter isDecorator
  let before := (place.earlierNamedSiblings.takeWhile isDecorator).reverse
  (before ++ outer ++ place.children.filter isDecorator).filterMap (decorator? ctx)

/-- One type parameter. -/
def typeParameter (ctx : Context) (place : Cursor) : GenericParameter :=
  { name := ((ctx.fieldText? place "name").bind nonEmpty?).getD (ctx.text place)
    constraint := (ctx.fieldText? place "constraint").map fun text =>
      trim (dropStart "extends" text)
    default := (ctx.fieldText? place "value").map fun text => trim (trimLeftOf "=" text) }

/-- The type parameters of a declaration. -/
def typeParameters (ctx : Context) (place : Cursor) : List GenericParameter :=
  match place.childByField? "type_parameters" with
  | some list =>
      (list.namedChildren.filter (·.kind == "type_parameter")).map (typeParameter ctx)
  | none => []

/-- The name, the type, the default and the optionality of a node in a parameter list. -/
def parameterParts (ctx : Context) (place : Cursor) :
    Option (Cursor × Option String × Option String × Bool) :=
  if ["required_parameter", "optional_parameter"].contains place.kind then
    (place.childByField? "pattern").map fun pattern =>
      let value := ctx.fieldText? place "value"
      (pattern, typeAfterColon ctx (place.childByField? "type"), value,
        place.kind == "optional_parameter" || value.isSome)
  else if place.kind == "assignment_pattern" then
    (place.childByField? "left").map fun left => (left, none, ctx.fieldText? place "right", true)
  else if ["identifier", "rest_pattern", "object_pattern", "array_pattern"].contains place.kind then
    some (place, none, none, false)
  else none

/-- One parameter; the type of the receiver is none. -/
def parameter? (ctx : Context) (place : Cursor) : Option Parameter := do
  let (pattern, type, value, optional) ← parameterParts ctx place
  let rest := pattern.kind == "rest_pattern"
  let target := if rest then pattern.namedChildren.head?.getD pattern else pattern
  let name := ctx.text target
  if name == "this" then none
  else
    some
      { name := name
        type := type
        optional := optional
        rest := rest
        defaultValue := value
        line := ctx.line place
        column := ctx.column place }

/-- The parameters of a function, which may have a single one without brackets. -/
def parameters (ctx : Context) (function : Cursor) : List Parameter :=
  match function.childByField? "parameter" with
  | some single =>
      [{ name := ctx.text single, line := ctx.line single, column := ctx.column single }]
  | none =>
      match function.childByField? "parameters" with
      | some list => list.namedChildren.filterMap (parameter? ctx)
      | none => []

/-- A parameter as it stands in a signature. -/
def parameterText (parameter : Parameter) : String :=
  (if parameter.rest then "..." else "") ++ parameter.name ++
    (if parameter.optional && parameter.defaultValue.isNone then "?" else "") ++
    (match parameter.type.bind nonEmpty? with
      | some type => ": " ++ type
      | none => "") ++
    (match parameter.defaultValue with
      | some value => " = " ++ value
      | none => "")

/-- The parameters as they stand in a signature. -/
def parametersText (parameters : List Parameter) : String :=
  "(" ++ String.intercalate ", " (parameters.map parameterText) ++ ")"

/-- A type parameter as it stands in a signature. -/
def genericText (parameter : GenericParameter) : String :=
  parameter.name ++
    (match parameter.constraint.bind nonEmpty? with
      | some constraint => " extends " ++ constraint
      | none => "") ++
    (match parameter.default.bind nonEmpty? with
      | some default => " = " ++ default
      | none => "")

/-- The type parameters as they stand in a signature. -/
def genericsText (parameters : List GenericParameter) : String :=
  if parameters.isEmpty then ""
  else "<" ++ String.intercalate ", " (parameters.map genericText) ++ ">"

/-- A type after a colon, when there is one. -/
def typeText (type : Option String) : String :=
  match type with
  | some type => ": " ++ type
  | none => ""

/-- A function scope at `place` whose parameters and body are those of `function`.  The keyword
stands in the signature of a function and not of a method. -/
def functionSteps (ctx : Context) (place function : Cursor) (name : String)
    (nameNode : Option Cursor) (depth : Nat) (parent : Option String) (keyword : Option String) :
    List Step :=
  let parameters := parameters ctx function
  let generics := typeParameters ctx function
  let returnType := typeAfterColon ctx (function.childByField? "return_type")
  let modifiers :=
    exportModifiers place ++ modifiers ctx function ++
      (if function.kind == "arrow_function" then ["arrow"] else [])
  let shown := modifiers.filter fun modifier =>
    !(["export", "default", "arrow", "generator"].contains modifier)
  let head := (nonEmpty? (String.intercalate " " shown)).toList ++ keyword.toList
  let signature :=
    String.join (head.map (· ++ " ")) ++ name ++ genericsText generics ++
      parametersText parameters ++ typeText returnType
  .scope
    { place := place
      name := name
      kind := if keyword.isNone then .method else .function
      depth := depth
      parent := parent
      nameNode := nameNode
      signature := some signature
      parameters := parameters
      returnType := returnType
      modifiers := modifiers
      genericParameters := generics
      decorators := decorators ctx place
      docstring := docstring ctx place
      notes := if nameNode.isNone then ["anonymous function"] else []
      exported := isExported place } ::
    enterBody (function.childByField? "body") (depth + 1) (some name)

/-- The text of a name, or a placeholder when there is none. -/
def nameOr (ctx : Context) (nameNode : Option Cursor) (kind : String) : String :=
  match nameNode with
  | some node => ctx.text node
  | none => placeholderName kind

/-- A function declaration. -/
def readFunction : TotalReading := fun ctx place depth parent =>
  let nameNode := place.childByField? "name"
  functionSteps ctx place place (nameOr ctx nameNode "function") nameNode depth parent
    (some "function")

/-- A method. -/
def readMethod : TotalReading := fun ctx place depth parent =>
  let nameNode := place.childByField? "name"
  functionSteps ctx place place (nameOr ctx nameNode "method") nameNode depth parent none

/-- A member of a class or interface body. -/
def member? (ctx : Context) (place : Cursor) : Option Member :=
  let marks := modifiers ctx place
  let access := marks.find? ["public", "private", "protected"].contains
  if ["public_field_definition", "field_definition", "property_signature"].contains place.kind then
    ((place.childByField? "name").or (place.childByField? "property")).map fun name =>
      { name := ctx.text name
        type := typeAfterColon ctx (place.childByField? "type")
        accessibility := access
        isStatic := marks.contains "static"
        isReadonly := marks.contains "readonly"
        line := ctx.line place }
  else if ["method_definition", "method_signature", "abstract_method_signature"].contains
      place.kind then
    let name := ((ctx.fieldText? place "name").bind nonEmpty?).getD (placeholderName "method")
    let returnType := typeAfterColon ctx (place.childByField? "return_type")
    some
      { name := name
        memberKind := .method
        type := returnType
        accessibility := access
        isStatic := marks.contains "static"
        signature := some (name ++ parametersText (parameters ctx place) ++ typeText returnType)
        line := ctx.line place }
  else none

/-- The members of a class or interface body. -/
def members (ctx : Context) (body : Option Cursor) : List Member :=
  match body with
  | some body => body.namedChildren.filterMap (member? ctx)
  | none => []

/-- A part of the heritage of a class. -/
def heritagePart (ctx : Context) (part : Cursor) : HeritageClause :=
  if part.kind == "extends_clause" then
    let values := part.childrenByField "value"
    ⟨.extending, (if values.isEmpty then part.namedChildren.take 1 else values).map ctx.text⟩
  else if part.kind == "implements_clause" then
    ⟨.implementing, part.namedChildren.map ctx.text⟩
  else ⟨.extending, [ctx.text part]⟩

/-- The heritage of a class or an interface. -/
def heritage (ctx : Context) (place : Cursor) : List HeritageClause :=
  place.children.flatMap fun child =>
    if child.kind == "class_heritage" then child.namedChildren.map (heritagePart ctx)
    else if child.kind == "extends_type_clause" then
      [⟨.extending, child.namedChildren.map ctx.text⟩]
    else []

/-- The heritage as it stands in a signature. -/
def heritageText (clauses : List HeritageClause) : String :=
  String.join (clauses.map fun clause =>
    " " ++ clause.clause.label ++ " " ++ String.intercalate ", " clause.types)

/-- A class declaration. -/
def readClass : TotalReading := fun ctx place depth parent =>
  let nameNode := place.childByField? "name"
  let name := nameOr ctx nameNode "class"
  let generics := typeParameters ctx place
  let clauses := heritage ctx place
  let body := place.childByField? "body"
  let isAbstract := place.kind == "abstract_class_declaration"
  .scope
    { place := place
      name := name
      kind := .classLike
      depth := depth
      parent := parent
      nameNode := nameNode
      signature := some ((if isAbstract then "abstract class " else "class ") ++ name ++
        genericsText generics ++ heritageText clauses)
      modifiers := exportModifiers place ++ (if isAbstract then ["abstract"] else [])
      genericParameters := generics
      heritageClauses := clauses
      members := members ctx body
      decorators := decorators ctx place
      docstring := docstring ctx place
      notes := if nameNode.isNone then ["anonymous class"] else []
      exported := isExported place } :: enterBody body (depth + 1) (some name)

/-- An interface declaration. -/
def readInterface : TotalReading := fun ctx place depth parent =>
  let nameNode := place.childByField? "name"
  let name := ctx.textOf nameNode
  let generics := typeParameters ctx place
  let clauses := heritage ctx place
  [.scope
    { place := place
      name := name
      kind := .interfaceLike
      depth := depth
      parent := parent
      nameNode := nameNode
      signature := some ("interface " ++ name ++ genericsText generics ++ heritageText clauses)
      modifiers := exportModifiers place
      genericParameters := generics
      heritageClauses := clauses
      members := members ctx (place.childByField? "body")
      docstring := docstring ctx place
      exported := isExported place }]

/-- A member of an enumeration. -/
def enumMember? (ctx : Context) (place : Cursor) : Option EnumMember :=
  if place.kind == "enum_assignment" then
    some
      { name := (ctx.fieldText? place "name").getD ""
        value := ctx.fieldText? place "value"
        line := ctx.line place }
  else if ["property_identifier", "string"].contains place.kind then
    some { name := unquote (ctx.text place), line := ctx.line place }
  else none

/-- An enumeration. -/
def readEnum : TotalReading := fun ctx place depth parent =>
  let nameNode := place.childByField? "name"
  let name := ctx.textOf nameNode
  let listed :=
    match place.childByField? "body" with
    | some body => body.namedChildren.filterMap (enumMember? ctx)
    | none => []
  [.scope
    { place := place
      name := name
      kind := .enumeration
      depth := depth
      parent := parent
      nameNode := nameNode
      signature := some ("enum " ++ name)
      modifiers := exportModifiers place ++ (if place.hasChildOfKind "const" then ["const"] else [])
      enumMembers := listed
      docstring := docstring ctx place
      exported := isExported place }]

/-- A type alias. -/
def readTypeAlias : TotalReading := fun ctx place depth parent =>
  let nameNode := place.childByField? "name"
  let name := ctx.textOf nameNode
  let generics := typeParameters ctx place
  [.scope
    { place := place
      name := name
      kind := .typeAlias
      depth := depth
      parent := parent
      nameNode := nameNode
      signature := some ("type " ++ name ++ genericsText generics)
      modifiers := exportModifiers place
      genericParameters := generics
      value := ctx.fieldText? place "value"
      docstring := docstring ctx place
      exported := isExported place }]

/-- A namespace or a module declaration. -/
def readNamespace : TotalReading := fun ctx place depth parent =>
  let nameNode := place.childByField? "name"
  let name :=
    match nameNode with
    | some node => unquote (ctx.text node)
    | none => placeholderName "namespace"
  let keyword := if place.kind == "internal_module" then "namespace " else "module "
  .scope
    { place := place
      name := name
      kind := .namespaceLike
      depth := depth
      parent := parent
      nameNode := nameNode
      signature := some (keyword ++ name)
      modifiers := exportModifiers place
      docstring := docstring ctx place
      exported := isExported place } ::
    enterBody (place.childByField? "body") (depth + 1) (some name)

/-- One variable of a declaration.  `place` is the node of its scope. -/
def variableDraft (ctx : Context) (place declarator nameNode : Cursor) (keyword : String)
    (depth : Nat) (parent : Option String) : Draft :=
  let name := ctx.text nameNode
  let type := typeAfterColon ctx (declarator.childByField? "type")
  { place := place
    name := name
    kind := if keyword == "const" && allCapitals name then .constantLike else .variableLike
    depth := depth
    parent := parent
    nameNode := some nameNode
    signature := some (keyword ++ " " ++ name ++ typeText type)
    returnType := type
    modifiers := exportModifiers declarator ++ [keyword]
    value := ctx.fieldText? declarator "value"
    docstring := docstring ctx declarator
    exported := isExported declarator }

/-- The steps for one declarator of a declaration with `count` declarators. -/
def declaratorSteps (ctx : Context) (declaration : Cursor) (count : Nat) (keyword : String)
    (depth : Nat) (parent : Option String) (declarator : Cursor) : List Step :=
  let value := declarator.childByField? "value"
  match declarator.childByField? "name" with
  | none => []
  | some nameNode =>
      let isName := nameNode.kind == "identifier"
      let name := ctx.text nameNode
      match value.filter fun value => isName && functionValues.contains value.kind with
      | some function =>
          functionSteps ctx declarator function name (some nameNode) depth parent (some keyword)
      | none =>
          if parent.isNone && isName then
            let place := if count == 1 then declaration else declarator
            .scope (variableDraft ctx place declarator nameNode keyword depth parent) ::
              (value.map fun value => Step.enter value (depth + 1) (some name)).toList
          else (value.map fun value => Step.enter value depth parent).toList

/-- A declaration of variables. -/
def readVariables : TotalReading := fun ctx place depth parent =>
  let keyword := (place.children.head?.map (·.kind)).getD "var"
  let declarators := place.namedChildren.filter (·.kind == "variable_declarator")
  declarators.flatMap (declaratorSteps ctx place declarators.length keyword depth parent)

/-- Paths and the conventional aliases of the project root are local. -/
def isLocalSpecifier (source : String) : Bool := startsWithAny [".", "/", "@/", "~/"] source

/-- The package of a module path; a scoped package has two segments. -/
def packageName (source : String) : String :=
  let parts := split "/" source
  if startsWith "@" source && 1 < parts.length then String.intercalate "/" (parts.take 2)
  else parts.head?.getD ""

/-- The bindings of one part of an import clause. -/
def clauseImports (source : Source) (origin : String) (isLocal : Bool) (line : Nat)
    (part : Cursor) : List Import :=
  if part.kind == "identifier" then
    [{ source := origin, imported := "default", newName := some (source.text part),
       kind := .defaultExport, isLocal := isLocal, line := line }]
  else if part.kind == "namespace_import" then
    [{ source := origin, imported := "*",
       newName := (part.namedChildOfKind? "identifier").map source.text,
       kind := .wholeModule, isLocal := isLocal, line := line }]
  else if part.kind == "named_imports" then
    (part.namedChildren.filter (·.kind == "import_specifier")).map fun specifier =>
      { source := origin, imported := unquote ((source.fieldText? specifier "name").getD ""),
        newName := source.fieldText? specifier "alias",
        kind := .named, isLocal := isLocal, line := line }
  else []

/-- The bindings of one import statement. -/
def importsOf (source : Source) (place : Cursor) : List Import :=
  match source.fieldText? place "source" with
  | none => []
  | some written =>
      let origin := unquote written
      let isLocal := isLocalSpecifier origin
      let line := source.startLine place
      match place.namedChildOfKind? "import_clause" with
      | none =>
          [{ source := origin, imported := "*", kind := .sideEffect, isLocal := isLocal,
             line := line }]
      | some clause => clause.namedChildren.flatMap (clauseImports source origin isLocal line)

/-- The bindings of all import statements. -/
def imports (source : Source) (root : Cursor) : List Import :=
  (root.preorderOfKind ["import_statement"]).flatMap (importsOf source)

/-- How the script languages are read. -/
def strategy : Strategy where
  reading?
    | .classLike => some (.always readClass)
    | .interfaceLike => some (.always readInterface)
    | .functionLike => some (.always readFunction)
    | .methodLike => some (.always readMethod)
    | .enumeration => some (.always readEnum)
    | .typeAlias => some (.always readTypeAlias)
    | .namespaceLike => some (.always readNamespace)
    | .binding => some (.always readVariables)
    | _ => none
  imports := imports
  packageName := packageName

end ScopeAtlas.Reading.EcmaScript
