import ScopeAtlas.Extraction.Walk

/-!
# Reading Go

A method belongs to the type of its receiver although it stands at file level.
A capital first letter makes a name visible outside its package.
-/

namespace ScopeAtlas.Reading.Go

open ScopeAtlas.Extraction ScopeAtlas.Syntax ScopeAtlas.Text

/-- The comment above a declaration. -/
def docstring (ctx : Context) (place : Cursor) : Option String := ctx.leadingComments place none

/-- The modifier of a visible name. -/
def visibility (name : String) : List String := if startsCapital name then ["exported"] else []

/-- Accessibility by the first letter. -/
def accessibility (name : String) : Option String :=
  some (if startsCapital name then "public" else "private")

/-- The parameters of one declaration; a declaration without a name has one anonymous parameter. -/
def declaredParameters (ctx : Context) (place : Cursor) : List Parameter :=
  if !(["parameter_declaration", "variadic_parameter_declaration"].contains place.kind) then []
  else
    let declare := fun (name : String) =>
      { name := name
        type := ctx.fieldText? place "type"
        rest := place.kind == "variadic_parameter_declaration"
        line := ctx.line place
        column := ctx.column place : Parameter }
    let names := place.childrenByField "name"
    if names.isEmpty then [declare "_"] else names.map fun name => declare (ctx.text name)

/-- The parameters of a parameter list. -/
def parameters (ctx : Context) (list : Option Cursor) : List Parameter :=
  match list with
  | some list => list.namedChildren.flatMap (declaredParameters ctx)
  | none => []

/-- The type parameters of a declaration. -/
def typeParameters (ctx : Context) (place : Cursor) : List GenericParameter :=
  match place.childByField? "type_parameters" with
  | some list =>
      (list.namedChildren.filter (·.kind == "type_parameter_declaration")).flatMap fun group =>
        (group.childrenByField "name").map fun name =>
          { name := ctx.text name, constraint := ctx.fieldText? group "type" }
  | none => []

/-- The type parameters as written. -/
def typeParametersText (ctx : Context) (place : Cursor) : String :=
  (ctx.fieldText? place "type_parameters").getD ""

/-- A result after a signature, when there is one. -/
def resultText (result : Option String) : String :=
  match result.bind nonEmpty? with
  | some result => " " ++ result
  | none => ""

/-- A function. -/
def readFunction : TotalReading := fun ctx place depth parent =>
  let nameNode := place.childByField? "name"
  let name := ctx.textOf nameNode
  let list := place.childByField? "parameters"
  let result := ctx.fieldText? place "result"
  .scope
    { place := place
      name := name
      kind := .function
      depth := depth
      parent := parent
      nameNode := nameNode
      signature := some ("func " ++ name ++ typeParametersText ctx place ++
        squeeze (ctx.textOf list) ++ resultText result)
      parameters := parameters ctx list
      returnType := result
      modifiers := visibility name
      genericParameters := typeParameters ctx place
      docstring := docstring ctx place
      exported := startsCapital name } ::
    enterBody (place.childByField? "body") (depth + 1) (some name)

/-- A method, one level below the type of its receiver. -/
def readMethod : TotalReading := fun ctx place depth parent =>
  let nameNode := place.childByField? "name"
  let name := ctx.textOf nameNode
  let receiver := place.childByField? "receiver"
  let receivers := parameters ctx receiver
  let receiverText := (receivers.head?.bind (·.type)).getD ""
  let receiverType := baseTypeName receiverText
  let list := place.childByField? "parameters"
  let result := ctx.fieldText? place "result"
  let level := if receiverType.isEmpty then depth else depth + 1
  .scope
    { place := place
      name := name
      kind := .method
      depth := level
      parent := if receiverType.isEmpty then parent else some receiverType
      nameNode := nameNode
      skip := receiver.toList
      signature := some ("func " ++ squeeze (ctx.textOf receiver) ++ " " ++ name ++
        squeeze (ctx.textOf list) ++ resultText result)
      parameters := parameters ctx list
      returnType := result
      modifiers :=
        visibility name ++ (if startsWith "*" receiverText then ["pointer_receiver"] else [])
      docstring := docstring ctx place
      exclude := receivers.map (·.name)
      exported := startsCapital name } ::
    enterBody (place.childByField? "body") (level + 1) (some name)

/-- The fields and the embedded types of one field declaration. -/
def fieldParts (ctx : Context) (place : Cursor) : List Member × List String :=
  if place.kind != "field_declaration" then ([], [])
  else
    let type := ctx.fieldText? place "type"
    let names := place.childrenByField "name"
    match names, type.bind nonEmpty? with
    | [], some type => ([], [trimLeftOf "*" type])
    | _, _ =>
        (names.map fun node =>
          let name := ctx.text node
          { name := name
            memberKind := .field
            type := type
            accessibility := accessibility name
            line := ctx.line place }, [])

/-- The fields and the embedded types of a structure. -/
def structParts (ctx : Context) (place : Cursor) : List Member × List String :=
  match place.namedChildOfKind? "field_declaration_list" with
  | some list =>
      let parts := list.namedChildren.map (fieldParts ctx)
      (parts.flatMap (·.1), parts.flatMap (·.2))
  | none => ([], [])

/-- The method or the embedded type of one element of an interface. -/
def elementParts (ctx : Context) (place : Cursor) : List Member × List String :=
  if ["method_elem", "method_spec"].contains place.kind then
    let name := (ctx.fieldText? place "name").getD ""
    let list := squeeze (((ctx.fieldText? place "parameters").bind nonEmpty?).getD "()")
    let result := ctx.fieldText? place "result"
    ([{ name := name
        memberKind := .method
        type := result
        accessibility := accessibility name
        signature := some (name ++ list ++ resultText result)
        line := ctx.line place }], [])
  else if ["type_elem", "constraint_elem", "type_identifier", "qualified_type"].contains
      place.kind then ([], [ctx.text place])
  else ([], [])

/-- The methods and the embedded types of an interface. -/
def interfaceParts (ctx : Context) (place : Cursor) : List Member × List String :=
  let parts := place.namedChildren.map (elementParts ctx)
  (parts.flatMap (·.1), parts.flatMap (·.2))

/-- What the type of a declaration makes of it. -/
structure TypeBody where
  kind : ScopeKind
  signatureEnd : String
  modifiers : List String := []
  members : List Member := []
  embedded : List String := []
  value : Option String := none

/-- A structure, an interface, or an alias. -/
def typeBody (ctx : Context) (spec : Cursor) : TypeBody :=
  let type := spec.childByField? "type"
  let typeKind := if spec.kind == "type_spec" then type.map (·.kind) else none
  match type, typeKind with
  | some type, some "struct_type" =>
      let parts := structParts ctx type
      { kind := .classLike, signatureEnd := " struct", modifiers := ["struct"],
        members := parts.1, embedded := parts.2 }
  | some type, some "interface_type" =>
      let parts := interfaceParts ctx type
      { kind := .interfaceLike, signatureEnd := " interface", members := parts.1,
        embedded := parts.2 }
  | type, _ =>
      let value := type.map ctx.text
      { kind := .typeAlias
        signatureEnd :=
          (if spec.kind == "type_alias" then " = " else " ") ++ squeeze (value.getD "")
        value := value }

/-- One type of a declaration.  `place` is the node of its scope. -/
def typeDraft (ctx : Context) (place spec : Cursor) (depth : Nat) (parent : Option String) :
    Draft :=
  let nameNode := spec.childByField? "name"
  let name := ctx.textOf nameNode
  let body := typeBody ctx spec
  { place := place
    name := name
    kind := body.kind
    depth := depth
    parent := parent
    nameNode := nameNode
    signature := some ("type " ++ name ++ typeParametersText ctx spec ++ body.signatureEnd)
    modifiers := body.modifiers ++ visibility name
    genericParameters := typeParameters ctx spec
    heritageClauses := if body.embedded.isEmpty then [] else [⟨.extending, body.embedded⟩]
    members := body.members
    value := body.value
    docstring := docstring ctx place
    exported := startsCapital name }

/-- A declaration of types; a single type spans the declaration. -/
def readTypes : TotalReading := fun ctx place depth parent =>
  let specs := place.namedChildren.filter fun child =>
    ["type_spec", "type_alias"].contains child.kind
  specs.map fun spec =>
    .scope (typeDraft ctx (if specs.length == 1 then place else spec) spec depth parent)

/-- One name of a constant or variable specification.  `place` is the node of its scope. -/
def bindingDraft (ctx : Context) (place spec nameNode : Cursor) (keyword : String) (depth : Nat)
    (parent : Option String) : Draft :=
  let name := ctx.text nameNode
  let type := ctx.fieldText? spec "type"
  { place := place
    name := name
    kind := if keyword == "const" then .constantLike else .variableLike
    depth := depth
    parent := parent
    nameNode := some nameNode
    exclude := (spec.childrenByField "name").map ctx.text
    signature := some (keyword ++ " " ++ name ++ resultText type)
    returnType := type
    modifiers := keyword :: visibility name
    value := ctx.fieldText? spec "value"
    docstring := docstring ctx place
    exported := startsCapital name }

/-- Constants and variables of a package; local ones belong to their function. -/
def readBindings : TotalReading := fun ctx place depth parent =>
  if parent.isSome then []
  else
    let keyword := if place.kind == "const_declaration" then "const" else "var"
    let specs := place.preorderOfKind ["const_spec", "var_spec"]
    specs.flatMap fun spec =>
      let names := spec.childrenByField "name"
      let scopePlace := if specs.length == 1 && names.length == 1 then place else spec
      names.map fun name => .scope (bindingDraft ctx scopePlace spec name keyword depth parent)

/-- Relative paths are local. -/
def isLocalSpecifier (source : String) : Bool := startsWithAny ["./", "../"] source

/-- The name under which a package is used: the last segment of its path that is no version. -/
def packageAlias (path : String) : String :=
  let parts := (split "/" path).filter (!·.isEmpty)
  match parts.reverse with
  | [] => path
  | [only] => only
  | last :: previous :: _ =>
      if startsWith "v" last && allDigits (dropChars 1 last) then previous else last

/-- The module to which a package path belongs: three segments after a host name, else one. -/
def packageName (source : String) : String :=
  let parts := split "/" source
  let first := parts.head?.getD ""
  if contains "." first then String.intercalate "/" (parts.take 3) else first

/-- The binding of one import specification. -/
def importOf? (source : Source) (place : Cursor) : Option Import :=
  (source.fieldText? place "path").map fun written =>
    let path := trimOf "\"\x60" written
    let newName := source.fieldText? place "name"
    let line := source.startLine place
    let isLocal := isLocalSpecifier path
    if newName == some "_" then
      { source := path, imported := path, kind := .sideEffect, isLocal := isLocal, line := line }
    else if newName == some "." then
      { source := path, imported := "*", kind := .wholeModule, isLocal := isLocal, line := line }
    else
      { source := path, imported := packageAlias path, newName := newName, kind := .wholeModule,
        isLocal := isLocal, line := line }

/-- The bindings of all import specifications. -/
def imports (source : Source) (root : Cursor) : List Import :=
  (root.preorderOfKind ["import_spec"]).filterMap (importOf? source)

/-- How Go is read. -/
def strategy : Strategy where
  reading?
    | .functionLike => some (.always readFunction)
    | .methodLike => some (.always readMethod)
    | .typeDeclaration => some (.always readTypes)
    | .binding => some (.always readBindings)
    | _ => none
  imports := imports
  packageName := packageName

end ScopeAtlas.Reading.Go
