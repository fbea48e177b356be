import ScopeAtlas.Extraction.Walk

/-!
# Reading C#

A namespace without braces spans the rest of its file.  The base list of a class
is split into the base class and the interfaces by the naming convention for
interfaces.
-/

namespace ScopeAtlas.Reading.CSharp

open ScopeAtlas.Data ScopeAtlas.Extraction ScopeAtlas.Syntax ScopeAtlas.Text

/-- The modifiers of a declaration. -/
def modifiers (ctx : Context) (place : Cursor) : List String :=
  (place.children.filter (·.kind == "modifier")).map ctx.text

/-- Public declarations are visible outside. -/
def isExported (ctx : Context) (place : Cursor) : Bool := (modifiers ctx place).contains "public"

/-- The documentation comment of a declaration. -/
def docstring (ctx : Context) (place : Cursor) : Option String :=
  ctx.leadingComments place (some ["///"])

/-- The attributes of a declaration. -/
def attributes (ctx : Context) (place : Cursor) : List Decorator :=
  (place.children.filter (·.kind == "attribute_list")).flatMap fun list =>
    (list.namedChildren.filter (·.kind == "attribute")).map fun content =>
      { name := (ctx.fieldText? content "name").getD ""
        arguments := (content.namedChildOfKind? "attribute_argument_list").bind fun arguments =>
          nonEmpty? (trim (dropEnds (ctx.text arguments)))
        line := ctx.line content }

/-- One parameter. -/
def parameter (ctx : Context) (place : Cursor) : Parameter :=
  let value := place.namedChildOfKind? "equals_value_clause"
  { name := (ctx.fieldText? place "name").getD ""
    type := ctx.fieldText? place "type"
    optional := value.isSome
    rest := place.children.any fun child =>
      child.kind == "params" || (child.kind == "modifier" && ctx.text child == "params")
    defaultValue := value.map fun value => trim (trimLeftOf "=" (ctx.text value))
    line := ctx.line place
    column := ctx.column place }

/-- The parameters of a parameter list. -/
def parameters (ctx : Context) (list : Option Cursor) : List Parameter :=
  match list with
  | some list => (list.namedChildren.filter (·.kind == "parameter")).map (parameter ctx)
  | none => []

/-- The constraints on type parameters, by parameter; a later clause replaces an earlier one. -/
def typeConstraints (ctx : Context) (place : Cursor) : List (String × String) :=
  (place.children.filter (·.kind == "type_parameter_constraints_clause")).foldl
    (fun constraints clause =>
      match clause.namedChildOfKind? "identifier" with
      | some target =>
          let bounds := clause.namedChildren.filter fun child => !child.same target
          putEntry (ctx.text target) (String.intercalate ", " (bounds.map ctx.text)) constraints
      | none => constraints) []

/-- The type parameters of a declaration. -/
def typeParameters (ctx : Context) (place : Cursor) : List GenericParameter :=
  match (place.childByField? "type_parameters").or (place.childOfKind? "type_parameter_list") with
  | none => []
  | some list =>
      let constraints := typeConstraints ctx place
      (list.namedChildren.filter (·.kind == "type_parameter")).map fun parameter =>
        let name :=
          (ctx.fieldText? parameter "name").getD
            (ctx.textOf (parameter.namedChildOfKind? "identifier"))
        { name := name, constraint := (constraints.lookup name).bind nonEmpty? }

/-- The types of a base list. -/
def baseTypes (ctx : Context) (place : Cursor) : List String :=
  match (place.childByField? "bases").or (place.childOfKind? "base_list") with
  | none => []
  | some list =>
      list.namedChildren.filterMap fun child =>
        let base :=
          if child.kind == "primary_constructor_base_type" then
            child.namedChildren.head?.getD child
          else child
        if ["identifier", "generic_name", "qualified_name", "predefined_type"].contains base.kind
        then some (ctx.text base)
        else none

/-- Named like an interface: a capital I before another capital. -/
def isInterfaceName (type : String) : Bool :=
  match (baseTypeName type).toList with
  | 'I' :: second :: _ => 'A' ≤ second && second ≤ 'Z'
  | _ => false

/-- The heritage of a declaration.  Interfaces extend, structures implement, and a class extends the
first base that is not named like an interface and implements the others. -/
def heritage (place : Cursor) (bases : List String) : List HeritageClause :=
  if bases.isEmpty then []
  else if place.kind == "interface_declaration" then [⟨.extending, bases⟩]
  else if ["struct_declaration", "record_struct_declaration"].contains place.kind then
    [⟨.implementing, bases⟩]
  else
    let classes := bases.filter fun base => !isInterfaceName base
    let implemented := classes.drop 1 ++ bases.filter isInterfaceName
    (if classes.isEmpty then [] else [⟨.extending, classes.take 1⟩]) ++
      (if implemented.isEmpty then [] else [⟨.implementing, implemented⟩])

/-- The type that a method returns. -/
def returnType? (ctx : Context) (place : Cursor) : Option String :=
  match (ctx.fieldText? place "returns").bind nonEmpty? with
  | some type => some type
  | none => ctx.fieldText? place "type"

/-- The signature of a method. -/
def methodSignature (ctx : Context) (place : Cursor) (name : String) (returns : Option String) :
    String :=
  let head := String.intercalate " "
    (([some (String.intercalate " " (modifiers ctx place)), returns].filterMap id).filter
      (!·.isEmpty))
  let list :=
    match place.childByField? "parameters" with
    | some list => squeeze (ctx.text list)
    | none => "()"
  trim (head ++ " " ++ name ++ (ctx.fieldText? place "type_parameters").getD "" ++ list)

/-- The members that one node of a body declares. -/
def declaredMembers (ctx : Context) (place : Cursor) : List Member :=
  let marks := modifiers ctx place
  let declare := fun (name : String) (kind : MemberKind) (type signature : Option String) =>
    { name := name
      memberKind := kind
      type := type
      accessibility := some
        ((marks.find? ["public", "private", "protected", "internal"].contains).getD "private")
      isStatic := marks.contains "static"
      isReadonly := marks.contains "readonly" || marks.contains "const"
      signature := signature
      line := ctx.line place : Member }
  if ["field_declaration", "event_field_declaration"].contains place.kind then
    match place.namedChildOfKind? "variable_declaration" with
    | some declaration =>
        (declaration.namedChildren.filter (·.kind == "variable_declarator")).map fun declarator =>
          declare ((ctx.fieldText? declarator "name").getD "") .field
            (ctx.fieldText? declaration "type") none
    | none => []
  else if place.kind == "property_declaration" then
    [declare ((ctx.fieldText? place "name").getD "") .property (ctx.fieldText? place "type") none]
  else if ["method_declaration", "constructor_declaration"].contains place.kind then
    let name := (ctx.fieldText? place "name").getD ""
    let returns := returnType? ctx place
    [declare name (if place.kind == "constructor_declaration" then .constructor else .method)
      returns (some (methodSignature ctx place name returns))]
  else []

/-- The members of a body. -/
def members (ctx : Context) (body : Option Cursor) : List Member :=
  match body with
  | some body => body.namedChildren.flatMap (declaredMembers ctx)
  | none => []

/-- A namespace, with the siblings that belong to it. -/
def namespaceSteps (extent : List Cursor) : TotalReading := fun ctx place depth parent =>
  let nameNode := place.childByField? "name"
  let name := ctx.textOf nameNode
  let body :=
    match place.childByField? "body" with
    | some body => some body
    | none => if place.kind == "file_scoped_namespace_declaration" then some place else none
  let inside :=
    match body with
    | some body => body.children.filter fun (child : Cursor) =>
        !(nameNode.map child.same).getD false
    | none => []
  .scope
    { place := place
      extent := extent
      name := name
      kind := .namespaceLike
      depth := depth
      parent := parent
      nameNode := nameNode
      signature := some ("namespace " ++ name)
      docstring := docstring ctx place
      exported := true } ::
    inside.map fun child => .enter child (depth + 1) (some name)

/-- A namespace. -/
def readNamespace : TotalReading := namespaceSteps []

/-- The nodes of a file up to a namespace without braces, which takes the rest of the file. -/
def unitSteps (ctx : Context) (depth : Nat) (parent : Option String) : List Cursor → List Step
  | [] => []
  | child :: rest =>
      if child.kind == "file_scoped_namespace_declaration" then
        let following := rest.filter (·.isNamed)
        namespaceSteps following ctx child depth parent ++
          following.map fun sibling =>
            .enter sibling (depth + 1) (ctx.fieldText? child "name")
      else .enter child depth parent :: unitSteps ctx depth parent rest

/-- A file. -/
def readUnit : TotalReading := fun ctx place depth parent =>
  unitSteps ctx depth parent place.children

/-- Type declarations with their keywords. -/
def typeKeywords : List (String × String) :=
  [("class_declaration", "class"), ("struct_declaration", "struct"),
   ("record_declaration", "record"), ("record_struct_declaration", "record struct"),
   ("interface_declaration", "interface")]

/-- A class, a structure, a record or an interface with its keyword. -/
def typeSteps (keyword : String) : TotalReading := fun ctx place depth parent =>
  let nameNode := place.childByField? "name"
  let name := ctx.textOf nameNode
  let marks := modifiers ctx place
  let generics := typeParameters ctx place
  let bases := baseTypes ctx place
  let list := (place.childByField? "parameters").or (place.childOfKind? "parameter_list")
  let body := place.childByField? "body"
  let isInterface := place.kind == "interface_declaration"
  let plainKeyword := if isInterface then "interface" else "class"
  .scope
    { place := place
      name := name
      kind := if isInterface then .interfaceLike else .classLike
      depth := depth
      parent := parent
      nameNode := nameNode
      signature := some (String.intercalate " " (marks ++ [keyword, name]) ++
        (ctx.fieldText? place "type_parameters").getD "" ++ squeeze (ctx.textOf list) ++
        (if bases.isEmpty then "" else " : " ++ String.intercalate ", " bases))
      parameters := parameters ctx list
      modifiers := if keyword == plainKeyword then marks else marks ++ [keyword]
      genericParameters := generics
      heritageClauses := heritage place bases
      members := members ctx body
      decorators := attributes ctx place
      docstring := docstring ctx place
      exclude := generics.map (·.name)
      exported := isExported ctx place } :: enterBody body (depth + 1) (some name)

/-- A type declaration.  One whose kind has no keyword cannot be read. -/
def readType : Reading := fun ctx place depth parent =>
  match typeKeywords.lookup place.kind with
  | some keyword => .ok (typeSteps keyword ctx place depth parent)
  | none => .error (.kindUnknown place.kind)

/-- An enumeration. -/
def readEnum : TotalReading := fun ctx place depth parent =>
  let nameNode := place.childByField? "name"
  let name := ctx.textOf nameNode
  let listed : List EnumMember :=
    match place.childByField? "body" with
    | some body =>
        (body.namedChildren.filter (·.kind == "enum_member_declaration")).map fun member =>
          { name := (ctx.fieldText? member "name").getD ""
            value := ctx.fieldText? member "value"
            line := ctx.line member }
    | none => []
  let base := (baseTypes ctx place).head?
  let marks := modifiers ctx place
  [.scope
    { place := place
      name := name
      kind := .enumeration
      depth := depth
      parent := parent
      nameNode := nameNode
      signature := some (String.intercalate " " (marks ++ ["enum", name]) ++
        (match base with
          | some base => " : " ++ base
          | none => ""))
      returnType := base
      modifiers := marks
      enumMembers := listed
      decorators := attributes ctx place
      docstring := docstring ctx place
      exclude := listed.map (·.name)
      exported := isExported ctx place }]

/-- A method or a constructor. -/
def readMethod : TotalReading := fun ctx place depth parent =>
  let nameNode := place.childByField? "name"
  let name := ctx.textOf nameNode
  let isConstructor := place.kind == "constructor_declaration"
  let returns := if isConstructor then none else returnType? ctx place
  let generics := typeParameters ctx place
  .scope
    { place := place
      name := name
      kind := .method
      depth := depth
      parent := parent
      nameNode := nameNode
      signature := some (methodSignature ctx place name returns)
      parameters := parameters ctx (place.childByField? "parameters")
      returnType := returns
      modifiers := modifiers ctx place ++ (if isConstructor then ["constructor"] else [])
      genericParameters := generics
      decorators := attributes ctx place
      docstring := docstring ctx place
      exclude := generics.map (·.name)
      exported := isExported ctx place } ::
    enterBody (place.childByField? "body") (depth + 1) (some name)

/-- A function inside another. -/
def readLocalFunction : TotalReading := fun ctx place depth parent =>
  let nameNode := place.childByField? "name"
  let name := ctx.textOf nameNode
  let returns := returnType? ctx place
  let generics := typeParameters ctx place
  .scope
    { place := place
      name := name
      kind := .function
      depth := depth
      parent := parent
      nameNode := nameNode
      signature := some (methodSignature ctx place name returns)
      parameters := parameters ctx (place.childByField? "parameters")
      returnType := returns
      modifiers := modifiers ctx place ++ ["local"]
      genericParameters := generics
      decorators := attributes ctx place
      exclude := generics.map (·.name)
      exported := false } ::
    enterBody (place.childByField? "body") (depth + 1) (some name)

/-- A delegate type. -/
def readDelegate : TotalReading := fun ctx place depth parent =>
  let nameNode := place.childByField? "name"
  let name := ctx.textOf nameNode
  let returns := returnType? ctx place
  let marks := modifiers ctx place
  let list := place.childByField? "parameters"
  let generics := typeParameters ctx place
  let shown := (returns.bind nonEmpty?).getD "void"
  [.scope
    { place := place
      name := name
      kind := .typeAlias
      depth := depth
      parent := parent
      nameNode := nameNode
      signature := some (String.intercalate " " (marks ++ ["delegate", shown, name]) ++
        squeeze (ctx.textOf list))
      parameters := parameters ctx list
      returnType := returns
      modifiers := marks ++ ["delegate"]
      genericParameters := generics
      decorators := attributes ctx place
      docstring := docstring ctx place
      exclude := generics.map (·.name)
      exported := isExported ctx place }]

/-- The outermost namespace of a dotted name. -/
def packageName (source : String) : String := beforeFirst "." source

/-- The binding of a using directive. -/
def importOf? (source : Source) (place : Cursor) : Option Import :=
  let nameEquals := place.namedChildOfKind? "name_equals"
  let aliasNode :=
    (place.childByField? "name").or (nameEquals.bind (·.namedChildOfKind? "identifier"))
  let isTarget := fun (child : Cursor) =>
    ["qualified_name", "identifier", "generic_name"].contains child.kind &&
      !(aliasNode.map child.same).getD false && !(nameEquals.map child.same).getD false
  (place.namedChildren.reverse.find? isTarget).map fun target =>
    let origin := source.text target
    let line := source.startLine place
    match aliasNode with
    | some node =>
        { source := origin, imported := origin, newName := some (source.text node),
          kind := .wholeModule, line := line }
    | none => { source := origin, imported := "*", kind := .wholeModule, line := line }

/-- The bindings of all using directives. -/
def imports (source : Source) (root : Cursor) : List Import :=
  (root.preorderOfKind ["using_directive"]).filterMap (importOf? source)

/-- How C# is read. -/
def strategy : Strategy where
  reading?
    | .compilationUnit => some (.always readUnit)
    | .namespaceLike => some (.always readNamespace)
    | .classLike => some readType
    | .interfaceLike => some readType
    | .enumeration => some (.always readEnum)
    | .methodLike => some (.always readMethod)
    | .functionLike => some (.always readLocalFunction)
    | .typeAlias => some (.always readDelegate)
    | _ => none
  imports := imports
  packageName := packageName

end ScopeAtlas.Reading.CSharp
