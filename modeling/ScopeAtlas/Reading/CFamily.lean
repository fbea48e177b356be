import ScopeAtlas.Extraction.Walk
import ScopeAtlas.Reading.Declarator

/-!
# Reading C and C++

Both languages share functions, records, enumerations, type definitions, file
level variables and macros.  C++ adds namespaces, templates, base classes, and
methods that are defined outside their class.
-/

namespace ScopeAtlas.Reading.CFamily

open ScopeAtlas.Data ScopeAtlas.Extraction ScopeAtlas.Language ScopeAtlas.Syntax ScopeAtlas.Text

/-- Structures, unions and classes with their keywords. -/
def recordKeywords : List (String × String) :=
  [("struct_specifier", "struct"), ("union_specifier", "union"), ("class_specifier", "class")]

/-- A structure, a union or a class. -/
def isRecord (kind : String) : Bool := (recordKeywords.lookup kind).isSome

/-- The keyword of a record, or of an enumeration. -/
def typeKeyword (kind : String) : String := (recordKeywords.lookup kind).getD "enum"

/-- The comment above a declaration. -/
def docstring (ctx : Context) (place : Cursor) : Option String := ctx.leadingComments place none

/-- Code inside a function body. -/
def isInFunction (place : Cursor) : Bool :=
  place.ancestors.any fun ancestor =>
    ["compound_statement", "lambda_expression"].contains ancestor.kind

/-- Declared static. -/
def isStatic (ctx : Context) (place : Cursor) : Bool :=
  place.children.any fun child =>
    child.kind == "storage_class_specifier" && ctx.text child == "static"

/-- Everything outside functions is visible unless it is static.  For a template, the templated
declaration counts. -/
def isExported (ctx : Context) (place : Cursor) : Bool :=
  let target :=
    if place.kind == "template_declaration" then place.namedChildren.getLast?.getD place else place
  !isStatic ctx target && !isInFunction place

/-- A parameter, of which `index` precede it; a lone `void` is none. -/
def parameter? (ctx : Context) (index : Nat) (place : Cursor) : Option Parameter :=
  let line := ctx.line place
  let column := ctx.column place
  if place.kind == "variadic_parameter" || ctx.text place == "..." then
    some { name := "...", rest := true, line := line, column := column }
  else if !(["parameter_declaration", "optional_parameter_declaration",
      "variadic_parameter_declaration"].contains place.kind) then none
  else
    let written := (ctx.fieldText? place "type").getD ""
    let declarator := place.childByField? "declarator"
    let name := (Declarator.name ctx.source declarator).text
    let type :=
      match declarator with
      | some declarator =>
          if name.isEmpty then written
          else squeeze (written ++ " " ++ replaceFirst name "" (ctx.text declarator))
      | none => written
    if type == "void" && name.isEmpty then none
    else
      let value := ctx.fieldText? place "default_value"
      some
        { name := (nonEmpty? name).getD ("arg" ++ toString index)
          type := nonEmpty? type
          optional := value.isSome
          rest := place.kind == "variadic_parameter_declaration"
          defaultValue := value
          line := line
          column := column }

/-- The parameters of a parameter list. -/
def parameters (ctx : Context) (list : Option Cursor) : List Parameter :=
  match list with
  | some list =>
      list.namedChildren.foldl (fun found place =>
        found ++ (parameter? ctx found.length place).toList) []
  | none => []

/-- One template parameter. -/
def templateParameter? (ctx : Context) (place : Cursor) : Option GenericParameter :=
  if ["type_parameter_declaration", "variadic_type_parameter_declaration"].contains place.kind then
    (place.namedChildOfKind? "type_identifier").map fun name => { name := ctx.text name }
  else if place.kind == "optional_type_parameter_declaration" then
    some
      { name := (ctx.fieldText? place "name").getD ""
        default := ctx.fieldText? place "default_type" }
  else if ["parameter_declaration", "optional_parameter_declaration"].contains place.kind then
    (nonEmpty? (Declarator.name ctx.source (place.childByField? "declarator")).text).map fun name =>
      { name := name
        constraint := ctx.fieldText? place "type"
        default := ctx.fieldText? place "default_value" }
  else none

/-- The parameters of a template. -/
def templateParameters (ctx : Context) (list : Option Cursor) : List GenericParameter :=
  match list with
  | some list => list.namedChildren.filterMap (templateParameter? ctx)
  | none => []

/-- A type together with pointer marks. -/
def typeWithMarks (type : Option String) (declarator : Option Cursor) : Option String :=
  nonEmpty? (squeeze (type.getD "" ++ Declarator.marksOf declarator))

/-- The modifier of a templated declaration. -/
def templateModifier (generics : List GenericParameter) : List String :=
  if generics.isEmpty then [] else ["template"]

/-- A function whose scope is at `scopePlace`, with the parameters of its template. -/
def functionSteps (ctx : Context) (place scopePlace : Cursor) (generics : List GenericParameter)
    (depth : Nat) (parent : Option String) : List Step :=
  let declarator := place.childByField? "declarator"
  let function := declarator.bind Declarator.function?
  let name := Declarator.name ctx.source
    (match function with
      | some function => function.childByField? "declarator"
      | none => declarator)
  if name.text.isEmpty then enterChildren place depth parent
  else
    let owner := name.qualifier.bind nonEmpty?
    let isMember := scopePlace.parentKind? == some "field_declaration_list"
    let level := if owner.isSome then depth + 1 else depth
    let specifiers := place.children.filter fun child =>
      ["storage_class_specifier", "type_qualifier", "virtual",
        "explicit_function_specifier"].contains child.kind
    let trailing :=
      match function with
      | some function => function.children.filter fun child =>
          ["type_qualifier", "virtual_specifier", "noexcept"].contains child.kind
      | none => []
    let headEnd := (declarator.map (·.endByte)).getD place.endByte
    .scope
      { place := scopePlace
        name := name.text
        kind := if owner.isSome || isMember then .method else .function
        depth := level
        parent :=
          match owner with
          | some owner => some (baseTypeName owner)
          | none => parent
        nameNode := name.node
        signature := some (squeeze (ctx.source.slice scopePlace.startByte headEnd))
        parameters := parameters ctx (function.bind (·.childByField? "parameters"))
        returnType := typeWithMarks (ctx.fieldText? place "type") declarator
        modifiers := (specifiers ++ trailing).map ctx.text ++ templateModifier generics
        genericParameters := generics
        docstring := docstring ctx scopePlace
        exclude := generics.map (·.name)
        exported := isExported ctx scopePlace } ::
      enterBody (place.childByField? "body") (level + 1) (some name.text)

/-- A function definition. -/
def readFunction : TotalReading := fun ctx place depth parent =>
  functionSteps ctx place place [] depth parent

/-- The members that a field declaration declares. -/
def fieldMembers (ctx : Context) (access : String) (line : Nat) (place : Cursor) : List Member :=
  let type := ctx.fieldText? place "type"
  let isConst := place.children.any fun child =>
    child.kind == "type_qualifier" && ctx.text child == "const"
  (place.childrenByField "declarator").filterMap fun declarator =>
    (nonEmpty? (Declarator.name ctx.source (some declarator)).text).map fun name =>
      let isMethod := (Declarator.function? declarator).isSome
      { name := name
        memberKind := if isMethod then .method else .field
        type := typeWithMarks type (some declarator)
        accessibility := some access
        isStatic := isStatic ctx place
        isReadonly := isConst
        signature :=
          if isMethod then some (squeeze (type.getD "" ++ " " ++ ctx.text declarator)) else none
        line := line }

/-- The member that a function definition in a record declares. -/
def methodMember? (ctx : Context) (access : String) (line : Nat) (place : Cursor) :
    Option Member :=
  let declarator := place.childByField? "declarator"
  let type := ctx.fieldText? place "type"
  (nonEmpty? (Declarator.name ctx.source declarator).text).map fun name =>
    { name := name
      memberKind := .method
      type := type
      accessibility := some access
      isStatic := isStatic ctx place
      signature := some (squeeze (type.getD "" ++ " " ++ ctx.textOf declarator))
      line := line }

/-- The members of a record; an access specifier holds for what follows it. -/
def recordMembers (ctx : Context) (access : String) : List Cursor → List Member
  | [] => []
  | child :: rest =>
      if child.kind == "access_specifier" then
        recordMembers ctx (trim (trimRightOf ":" (ctx.text child))) rest
      else
        let target :=
          if child.kind == "template_declaration" then child.namedChildren.getLast?.getD child
          else child
        let line := ctx.line child
        let declared :=
          if ["field_declaration", "declaration"].contains target.kind then
            fieldMembers ctx access line target
          else if target.kind == "function_definition" then
            (methodMember? ctx access line target).toList
          else []
        declared ++ recordMembers ctx access rest

/-- The base classes of a class. -/
def baseClasses (ctx : Context) (place : Cursor) : List String :=
  match place.childOfKind? "base_class_clause" with
  | some clause =>
      (clause.namedChildren.filter fun child =>
        ["type_identifier", "qualified_identifier", "template_type"].contains child.kind).map
          ctx.text
  | none => []

/-- A name given from outside, with its node. -/
abbrev GivenName := Option (String × Option Cursor)

/-- A record with its keyword and its body, under a given or its own name, whose scope is at
`scopePlace`. -/
def bodySteps (ctx : Context) (place scopePlace : Cursor) (keyword : String) (body : Cursor)
    (given : GivenName) (generics : List GenericParameter) (depth : Nat) (parent : Option String) :
    List Step :=
  let ownNode := place.childByField? "name"
  let ownName :=
    match ownNode with
    | some node => baseTypeName (ctx.text node)
    | none => placeholderName keyword
  let (name, nameNode) := given.getD (ownName, ownNode)
  let bases := baseClasses ctx place
  .scope
    { place := scopePlace
      name := name
      kind := .classLike
      depth := depth
      parent := parent
      nameNode := nameNode
      signature := some (keyword ++ " " ++ name ++
        (if bases.isEmpty then "" else " : " ++ String.intercalate ", " bases))
      modifiers := keyword :: templateModifier generics
      genericParameters := generics
      heritageClauses := if bases.isEmpty then [] else [⟨.extending, bases⟩]
      members := recordMembers ctx (if keyword == "class" then "private" else "public")
        body.namedChildren
      docstring := docstring ctx scopePlace
      exclude := generics.map (·.name)
      exported := isExported ctx scopePlace } :: enterChildren body (depth + 1) (some name)

/-- A record.  One without a body is no scope, and one whose kind has no keyword cannot be read. -/
def recordSteps (ctx : Context) (place scopePlace : Cursor) (given : GivenName)
    (generics : List GenericParameter) (depth : Nat) (parent : Option String) :
    Except ReadingFault (List Step) :=
  match place.childByField? "body" with
  | none => .ok []
  | some body =>
      match recordKeywords.lookup place.kind with
      | some keyword =>
          .ok (bodySteps ctx place scopePlace keyword body given generics depth parent)
      | none => .error (.kindUnknown place.kind)

/-- An enumeration with a body, under a given or its own name, whose scope is at `scopePlace`. -/
def enumSteps (ctx : Context) (place scopePlace : Cursor) (given : GivenName) (depth : Nat)
    (parent : Option String) : List Step :=
  match place.childByField? "body" with
  | none => []
  | some body =>
      let ownNode := place.childByField? "name"
      let ownName :=
        match ownNode with
        | some node => ctx.text node
        | none => placeholderName "enum"
      let (name, nameNode) := given.getD (ownName, ownNode)
      let isScoped := place.hasChildOfKind "class" || place.hasChildOfKind "struct"
      let underlying := ctx.fieldText? place "base"
      let listed : List EnumMember :=
        (body.namedChildren.filter (·.kind == "enumerator")).map fun member =>
          { name := (ctx.fieldText? member "name").getD ""
            value := ctx.fieldText? member "value"
            line := ctx.line member }
      [.scope
        { place := scopePlace
          name := name
          kind := .enumeration
          depth := depth
          parent := parent
          nameNode := nameNode
          signature := some ("enum " ++ (if isScoped then "class " else "") ++ name ++
            (match underlying.bind nonEmpty? with
              | some type => " : " ++ type
              | none => ""))
          returnType := underlying
          modifiers := if isScoped then ["scoped"] else []
          enumMembers := listed
          docstring := docstring ctx scopePlace
          exclude := listed.map (·.name)
          exported := isExported ctx scopePlace }]

/-- A record or an enumeration under a given or its own name. -/
def typeSteps (ctx : Context) (place scopePlace : Cursor) (given : GivenName) (depth : Nat)
    (parent : Option String) : Except ReadingFault (List Step) :=
  if place.kind == "enum_specifier" then .ok (enumSteps ctx place scopePlace given depth parent)
  else recordSteps ctx place scopePlace given [] depth parent

/-- A record or an enumeration. -/
def readSpecifier : Reading := fun ctx place depth parent =>
  typeSteps ctx place place none depth parent

/-- A record or an enumeration with a body. -/
def hasBody (place : Cursor) : Bool :=
  (isRecord place.kind || place.kind == "enum_specifier") && (place.childByField? "body").isSome

/-- A type definition.  An unnamed record or enumeration takes the defined name; a named one is a
scope of its own, beside the alias.  The marks of any other type are those of the first
declarator. -/
def readTypeDefinition : Reading := fun ctx place depth parent =>
  let type := place.childByField? "type"
  let declarators := place.childrenByField "declarator"
  let synonym := Declarator.name ctx.source declarators.head?
  let defined := type.filter hasBody
  let aliasScope := fun (signature value : String) =>
    Step.scope
      { place := place
        name := synonym.text
        kind := .typeAlias
        depth := depth
        parent := parent
        nameNode := synonym.node
        skip := defined.toList
        signature := some signature
        value := some value
        docstring := docstring ctx place
        exported := isExported ctx place }
  match defined with
  | some specifier =>
      if (specifier.childByField? "name").isNone && !synonym.text.isEmpty then
        typeSteps ctx specifier place (some (synonym.text, synonym.node)) depth parent
      else
        let target := (ctx.fieldText? specifier "name").getD ""
        (typeSteps ctx specifier specifier none depth parent).map fun steps => steps ++
          (if synonym.text.isEmpty then []
            else [aliasScope
              ("typedef " ++ typeKeyword specifier.kind ++ " " ++ target ++ " " ++ synonym.text)
              target])
  | none =>
      if synonym.text.isEmpty then .ok []
      else
        match declarators.head? with
        | some declarator =>
            .ok [aliasScope (trimRightOf ";" (squeeze (ctx.text place)))
              (squeeze (ctx.textOf type) ++ Declarator.pointerMarks declarator)]
        | none => .error .nodeMissing

/-- An alias declaration whose scope is at `scopePlace`. -/
def usingSteps (ctx : Context) (place scopePlace : Cursor) (generics : List GenericParameter)
    (depth : Nat) (parent : Option String) : List Step :=
  let nameNode := place.childByField? "name"
  let name := ctx.textOf nameNode
  let value := ctx.fieldText? place "type"
  [.scope
    { place := scopePlace
      name := name
      kind := .typeAlias
      depth := depth
      parent := parent
      nameNode := nameNode
      signature := some ("using " ++ name ++ " = " ++ squeeze (value.getD ""))
      modifiers := templateModifier generics
      genericParameters := generics
      value := value
      docstring := docstring ctx scopePlace
      exclude := generics.map (·.name)
      exported := isExported ctx scopePlace }]

/-- A type definition or an alias declaration. -/
def readAlias : Reading := fun ctx place depth parent =>
  if place.kind == "alias_declaration" then .ok (usingSteps ctx place place [] depth parent)
  else readTypeDefinition ctx place depth parent

/-- A declarator without its initialiser. -/
def withoutInitializer (declarator : Cursor) : Cursor :=
  if declarator.kind == "init_declarator" then
    (declarator.childByField? "declarator").getD declarator
  else declarator

/-- One variable of a declaration.  `place` is the node of its scope. -/
def variableDraft (ctx : Context) (place declaration declarator : Cursor) (type : Option Cursor)
    (qualifiers : List String) (depth : Nat) (parent : Option String) : Draft :=
  let name := Declarator.name ctx.source (some declarator)
  let isConstant := ["const", "constexpr"].any qualifiers.contains || allCapitals name.text
  let typeText := typeWithMarks (type.map ctx.text) (some (withoutInitializer declarator))
  { place := place
    name := name.text
    kind := if isConstant then .constantLike else .variableLike
    depth := depth
    parent := parent
    nameNode := name.node
    skip := (type.filter hasBody).toList
    signature := some (squeeze
      (String.intercalate " " qualifiers ++ " " ++ typeText.getD "" ++ " " ++ name.text))
    returnType := typeText
    modifiers := qualifiers
    value :=
      if declarator.kind == "init_declarator" then ctx.fieldText? declarator "value" else none
    docstring := docstring ctx declaration
    exported := isExported ctx place }

/-- A declaration: the type it defines, and its variables outside functions and records.
Prototypes are left out. -/
def readDeclaration : Reading := fun ctx place depth parent =>
  let type := place.childByField? "type"
  let defined :=
    match type.filter hasBody with
    | some specifier => typeSteps ctx specifier specifier none depth parent
    | none => .ok []
  if isInFunction place || place.parentKind? == some "field_declaration_list" then defined
  else
    let declarators :=
      (place.childrenByField "declarator").filter fun declarator =>
        !Declarator.isPrototype declarator
    let qualifiers := sortedSet
      ((place.children.filter fun child =>
        ["type_qualifier", "storage_class_specifier"].contains child.kind).map ctx.text)
    let named := declarators.filter fun declarator =>
      !(Declarator.name ctx.source (some declarator)).text.isEmpty
    defined.map fun steps => steps ++ named.map fun declarator =>
      .scope (variableDraft ctx (if declarators.length == 1 then place else declarator) place
        declarator type qualifiers depth parent)

/-- The parameters of a macro. -/
def macroParameters (ctx : Context) (list : Option Cursor) : List Parameter :=
  match list with
  | some list => list.namedChildren.map fun place =>
      let isName := place.kind == "identifier"
      { name := if isName then ctx.text place else "..."
        rest := !isName
        line := ctx.line place
        column := ctx.column place }
  | none => []

/-- A macro, with or without parameters. -/
def readMacro : TotalReading := fun ctx place depth parent =>
  let nameNode := place.childByField? "name"
  let name := ctx.textOf nameNode
  let isFunction := place.kind == "preproc_function_def"
  let list := if isFunction then place.childByField? "parameters" else none
  [.scope
    { place := place
      name := name
      kind := if isFunction then .function else .constantLike
      depth := depth
      parent := parent
      nameNode := nameNode
      signature := some ("#define " ++ name ++ squeeze (ctx.textOf list))
      parameters := macroParameters ctx list
      modifiers := ["macro"]
      value := ((ctx.fieldText? place "value").bind nonEmpty?).map trim
      docstring := docstring ctx place
      exported := isExported ctx place }]

/-- A namespace; one without a name is not visible outside. -/
def readNamespace : TotalReading := fun ctx place depth parent =>
  let nameNode := place.childByField? "name"
  let name :=
    match nameNode with
    | some node => ctx.text node
    | none => placeholderName "namespace"
  .scope
    { place := place
      name := name
      kind := .namespaceLike
      depth := depth
      parent := parent
      nameNode := nameNode
      signature := some ("namespace " ++ name)
      modifiers := if nameNode.isSome then [] else ["anonymous"]
      docstring := docstring ctx place
      exported := nameNode.isSome } ::
    enterBody (place.childByField? "body") (depth + 1) (some name)

/-- A template: the declaration in it, with the template's extent and parameters. -/
def readTemplate : Reading := fun ctx place depth parent =>
  let generics := templateParameters ctx (place.childByField? "parameters")
  let templated? := place.namedChildren.reverse.find? fun child =>
    !(["template_parameter_list", "comment"].contains child.kind)
  match templated? with
  | none => .ok []
  | some templated =>
      if templated.kind == "function_definition" then
        .ok (functionSteps ctx templated place generics depth parent)
      else if isRecord templated.kind && (templated.childByField? "body").isSome then
        recordSteps ctx templated place none generics depth parent
      else if templated.kind == "alias_declaration" then
        .ok (usingSteps ctx templated place generics depth parent)
      else if templated.kind == "declaration" then
        match (templated.childByField? "type").filter fun type =>
            hasBody type && isRecord type.kind with
        | some type => recordSteps ctx type place none generics depth parent
        | none => .ok []
      else .ok [.enter templated depth parent]

/-- The first segment of an included path, without its ending. -/
def packageName (source : String) : String :=
  let head := beforeFirst "/" (replaceAll "::" "/" source)
  beforeLast "." head

/-- The binding of an include or a using declaration. -/
def importOf? (source : Source) (place : Cursor) : Option Import :=
  let line := source.startLine place
  if place.kind == "preproc_include" then
    (place.childByField? "path").map fun path =>
      let origin := trimOf "\"<>" (source.text path)
      { source := origin, imported := origin, kind := .sideEffect,
        isLocal := path.kind == "string_literal", line := line }
  else
    let target? := place.namedChildren.find? fun child =>
      ["identifier", "qualified_identifier"].contains child.kind
    target?.bind fun target =>
      let text := source.text target
      if place.hasChildOfKind "namespace" then
        some { source := text, imported := "*", kind := .wholeModule, line := line }
      else
        (cutLast? "::" text).map fun (scope, imported) =>
          { source := scope, imported := imported, kind := .named, line := line }

/-- The bindings of all includes and using declarations. -/
def imports (source : Source) (root : Cursor) : List Import :=
  (root.preorderOfKind ["preproc_include", "using_declaration"]).filterMap (importOf? source)

/-- The constructs that both languages have. -/
def commonReading? : Construct → Option Reading
  | .functionLike => some (.always readFunction)
  | .classLike => some readSpecifier
  | .enumeration => some readSpecifier
  | .typeAlias => some readAlias
  | .binding => some readDeclaration
  | .textMacro => some (.always readMacro)
  | _ => none

/-- How C is read. -/
def cStrategy : Strategy where
  reading? := commonReading?
  imports := imports
  packageName := packageName

/-- How C++ is read. -/
def cppStrategy : Strategy where
  reading?
    | .namespaceLike => some (.always readNamespace)
    | .template => some readTemplate
    | construct => commonReading? construct
  imports := imports
  packageName := packageName

end ScopeAtlas.Reading.CFamily
