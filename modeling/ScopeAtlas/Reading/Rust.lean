import ScopeAtlas.Extraction.Walk

/-!
# Reading Rust

An implementation block is a scope named after its type.  The implementation of
a trait also carries a reference to the trait, so that the type and the trait
are linked.
-/

namespace ScopeAtlas.Reading.Rust

open ScopeAtlas.Extraction ScopeAtlas.Syntax ScopeAtlas.Text

/-- The visibility of an item as written. -/
def visibility? (ctx : Context) (place : Cursor) : Option String :=
  (place.childOfKind? "visibility_modifier").map ctx.text

/-- Any visibility makes an item visible outside. -/
def isExported (place : Cursor) : Bool := (place.childOfKind? "visibility_modifier").isSome

/-- The visibility in front of a signature; nothing when it is not written or empty. -/
def visibilityText (ctx : Context) (place : Cursor) : String :=
  match (visibility? ctx place).bind nonEmpty? with
  | some written => written ++ " "
  | none => ""

/-- The modifier for a written visibility. -/
def visibilityModifier (ctx : Context) (place : Cursor) : List String :=
  if ((visibility? ctx place).bind nonEmpty?).isSome then ["pub"] else []

/-- The documentation comment of an item. -/
def docstring (ctx : Context) (place : Cursor) : Option String :=
  ctx.leadingComments place (some ["///", "//!", "/**"])

/-- The attribute in an attribute item. -/
def attribute? (ctx : Context) (place : Cursor) : Option Decorator := do
  if place.kind != "attribute_item" then none
  else
    let content ← place.namedChildOfKind? "attribute"
    let head ← content.namedChildren.head?
    some
      { name := ctx.text head
        arguments := (ctx.fieldText? content "arguments").bind fun list =>
          nonEmpty? (trim (dropEnds list))
        line := ctx.line place }

/-- The attributes above an item, past comments. -/
def attributes (ctx : Context) (place : Cursor) : List Decorator :=
  let above := place.earlierNamedSiblings.takeWhile fun sibling =>
    ["attribute_item", "line_comment", "block_comment"].contains sibling.kind
  above.reverse.filterMap (attribute? ctx)

/-- One type parameter. -/
def typeParameter? (ctx : Context) (place : Cursor) : Option GenericParameter :=
  if place.kind == "constrained_type_parameter" then
    some
      { name := (ctx.fieldText? place "left").getD ""
        constraint := (ctx.fieldText? place "bounds").map withoutColon }
  else if place.kind == "optional_type_parameter" then
    some
      { name := (ctx.fieldText? place "name").getD ""
        default := ctx.fieldText? place "default_type" }
  else if place.kind == "const_parameter" then
    some { name := ((ctx.fieldText? place "name").bind nonEmpty?).getD (ctx.text place) }
  else if ["type_identifier", "lifetime"].contains place.kind then some { name := ctx.text place }
  else none

/-- The type parameters of an item. -/
def typeParameters (ctx : Context) (place : Cursor) : List GenericParameter :=
  match place.childByField? "type_parameters" with
  | some list => list.namedChildren.filterMap (typeParameter? ctx)
  | none => []

/-- The type parameters as written. -/
def typeParametersText (ctx : Context) (place : Cursor) : String :=
  (ctx.fieldText? place "type_parameters").getD ""

/-- The parameters of a function, without the receiver. -/
def parameters (ctx : Context) (place : Cursor) : List Parameter :=
  match place.childByField? "parameters" with
  | some list =>
      (list.namedChildren.filter (·.kind == "parameter")).map fun parameter =>
        { name := trim (dropStart "mut " (ctx.textOf (parameter.childByField? "pattern")))
          type := ctx.fieldText? parameter "type"
          line := ctx.line parameter
          column := ctx.column parameter }
  | none => []

/-- An item in the body of an implementation or a trait. -/
def isInTypeBody (place : Cursor) : Bool :=
  match place.parent? with
  | some body =>
      body.kind == "declaration_list" &&
        (body.parentKind?.map ["impl_item", "trait_item"].contains).getD false
  | none => false

/-- The modifiers of a function as written. -/
def functionModifiers? (ctx : Context) (place : Cursor) : Option String :=
  (place.childOfKind? "function_modifiers").map ctx.text

/-- The signature of a function. -/
def functionSignature (ctx : Context) (place : Cursor) (name : String) : String :=
  let list := squeeze (((ctx.fieldText? place "parameters").bind nonEmpty?).getD "()")
  let parts :=
    ((visibility? ctx place).bind nonEmpty?).toList ++ (functionModifiers? ctx place).toList ++
      ["fn " ++ name ++ typeParametersText ctx place ++ list]
  String.intercalate " " parts ++
    (match (ctx.fieldText? place "return_type").bind nonEmpty? with
      | some type => " -> " ++ type
      | none => "")

/-- A function takes the object it is called on. -/
def takesSelf (list : Cursor) : Bool := list.namedChildren.any (·.kind == "self_parameter")

/-- A function or a method. -/
def readFunction : TotalReading := fun ctx place depth parent =>
  let nameNode := place.childByField? "name"
  let name := ctx.textOf nameNode
  let modifiers :=
    visibilityModifier ctx place ++
      words ((functionModifiers? ctx place).getD "") ++
      (if ((place.childByField? "parameters").map takesSelf).getD false then ["self"] else [])
  .scope
    { place := place
      name := name
      kind := if isInTypeBody place then .method else .function
      depth := depth
      parent := parent
      nameNode := nameNode
      signature := some (functionSignature ctx place name)
      parameters := parameters ctx place
      returnType := ctx.fieldText? place "return_type"
      modifiers := modifiers
      genericParameters := typeParameters ctx place
      decorators := attributes ctx place
      docstring := docstring ctx place
      exported := isExported place } ::
    enterBody (place.childByField? "body") (depth + 1) (some name)

/-- The fields of a structure; positional fields are named by their number. -/
def fields (ctx : Context) (body : Option Cursor) : List Member :=
  match body with
  | none => []
  | some body =>
      if body.kind == "ordered_field_declaration_list" then
        let types := body.namedChildren.filter fun child =>
          !(["visibility_modifier", "attribute_item"].contains child.kind)
        types.zipIdx.map fun (type, index) =>
          { name := toString index
            memberKind := .field
            type := some (ctx.text type)
            line := ctx.line type }
      else
        (body.namedChildren.filter (·.kind == "field_declaration")).map fun field =>
          { name := (ctx.fieldText? field "name").getD ""
            memberKind := .field
            type := ctx.fieldText? field "type"
            accessibility :=
              some (if (visibilityModifier ctx field).isEmpty then "private" else "public")
            line := ctx.line field }

/-- A structure or a union. -/
def readStruct : TotalReading := fun ctx place depth parent =>
  let nameNode := place.childByField? "name"
  let name := ctx.textOf nameNode
  let keyword := if place.kind == "union_item" then "union" else "struct"
  [.scope
    { place := place
      name := name
      kind := .classLike
      depth := depth
      parent := parent
      nameNode := nameNode
      signature := some (visibilityText ctx place ++ keyword ++ " " ++ name ++
        typeParametersText ctx place)
      modifiers := keyword :: visibilityModifier ctx place
      genericParameters := typeParameters ctx place
      members := fields ctx (place.childByField? "body")
      decorators := attributes ctx place
      docstring := docstring ctx place
      exported := isExported place }]

/-- The variants of an enumeration. -/
def variants (ctx : Context) (body : Option Cursor) : List EnumMember :=
  match body with
  | none => []
  | some body =>
      (body.namedChildren.filter (·.kind == "enum_variant")).map fun variant =>
        { name := (ctx.fieldText? variant "name").getD ""
          value := ((variant.childByField? "body").or (variant.childByField? "value")).map ctx.text
          line := ctx.line variant }

/-- An enumeration. -/
def readEnum : TotalReading := fun ctx place depth parent =>
  let nameNode := place.childByField? "name"
  let name := ctx.textOf nameNode
  [.scope
    { place := place
      name := name
      kind := .enumeration
      depth := depth
      parent := parent
      nameNode := nameNode
      signature := some (visibilityText ctx place ++ "enum " ++ name ++
        typeParametersText ctx place)
      modifiers := visibilityModifier ctx place
      genericParameters := typeParameters ctx place
      enumMembers := variants ctx (place.childByField? "body")
      decorators := attributes ctx place
      docstring := docstring ctx place
      exported := isExported place }]

/-- A function or an associated type in the body of a trait or an implementation. -/
def bodyMember? (ctx : Context) (item : Cursor) : Option Member :=
  let name := (ctx.fieldText? item "name").getD ""
  if ["function_item", "function_signature_item"].contains item.kind then
    some
      { name := name
        memberKind := .method
        type := ctx.fieldText? item "return_type"
        accessibility := if (visibilityModifier ctx item).isEmpty then none else some "public"
        isStatic := !takesSelf ((item.childByField? "parameters").getD item)
        signature := some (functionSignature ctx item name)
        line := ctx.line item }
  else if item.kind == "associated_type" then some { name := name, line := ctx.line item }
  else none

/-- The members in the body of a trait or an implementation. -/
def bodyMembers (ctx : Context) (body : Option Cursor) : List Member :=
  match body with
  | some body => body.namedChildren.filterMap (bodyMember? ctx)
  | none => []

/-- A trait. -/
def readTrait : TotalReading := fun ctx place depth parent =>
  let nameNode := place.childByField? "name"
  let name := ctx.textOf nameNode
  let supertraits :=
    match place.childByField? "bounds" with
    | some bounds => bounds.namedChildren.map ctx.text
    | none => []
  let body := place.childByField? "body"
  .scope
    { place := place
      name := name
      kind := .interfaceLike
      depth := depth
      parent := parent
      nameNode := nameNode
      signature := some (visibilityText ctx place ++ "trait " ++ name ++
        typeParametersText ctx place ++
        (if supertraits.isEmpty then "" else ": " ++ String.intercalate " + " supertraits))
      modifiers := "trait" :: visibilityModifier ctx place
      genericParameters := typeParameters ctx place
      heritageClauses := if supertraits.isEmpty then [] else [⟨.extending, supertraits⟩]
      members := bodyMembers ctx body
      decorators := attributes ctx place
      docstring := docstring ctx place
      exported := isExported place } :: enterBody body (depth + 1) (some name)

/-- The reference from an implementation to its trait. -/
def traitReference (ctx : Context) (trait : Cursor) (name : String) : Reference :=
  let text := ctx.text trait
  let traitName := baseTypeName text
  { identifier := traitName
    line := ctx.line trait
    column := ctx.column trait
    context := "impl " ++ traitName ++ " for " ++ name
    qualifier :=
      if contains "::" (beforeFirst "<" text) then some (beforeLast "::" text) else none
    heritage := some .implementing }

/-- An implementation block. -/
def readImplementation : TotalReading := fun ctx place depth parent =>
  let typeNode := place.childByField? "type"
  let trait := place.childByField? "trait"
  let typeText := ctx.textOf typeNode
  let name := (nonEmpty? (baseTypeName typeText)).getD (placeholderName "impl")
  let body := place.childByField? "body"
  let head := "impl" ++ typeParametersText ctx place ++ " "
  .scope
    { place := place
      name := name
      kind := .classLike
      depth := depth
      parent := parent
      nameNode := typeNode
      skip := trait.toList
      signature := some (head ++
        (match trait with
          | some trait => ctx.text trait ++ " for " ++ typeText
          | none => typeText))
      modifiers := ["impl"]
      genericParameters := typeParameters ctx place
      heritageClauses := trait.toList.map fun trait => ⟨.implementing, [ctx.text trait]⟩
      members := bodyMembers ctx body
      decorators := attributes ctx place
      docstring := docstring ctx place
      synthetic := trait.toList.map fun trait => traitReference ctx trait name
      exported := false } :: enterBody body (depth + 1) (some name)

/-- A module, with or without a body. -/
def readModule : TotalReading := fun ctx place depth parent =>
  let nameNode := place.childByField? "name"
  let name := ctx.textOf nameNode
  let body := place.childByField? "body"
  .scope
    { place := place
      name := name
      kind := .namespaceLike
      depth := depth
      parent := parent
      nameNode := nameNode
      signature := some (visibilityText ctx place ++ "mod " ++ name)
      modifiers := visibilityModifier ctx place
      decorators := attributes ctx place
      docstring := docstring ctx place
      notes := if body.isSome then [] else ["module declared in another file"]
      exported := isExported place } :: enterBody body (depth + 1) (some name)

/-- What stands for a type or a value that is not there. -/
def absentText : String := "None"

/-- A type alias. -/
def readTypeAlias : TotalReading := fun ctx place depth parent =>
  let nameNode := place.childByField? "name"
  let name := ctx.textOf nameNode
  let value := ctx.fieldText? place "type"
  [.scope
    { place := place
      name := name
      kind := .typeAlias
      depth := depth
      parent := parent
      nameNode := nameNode
      signature := some (visibilityText ctx place ++ "type " ++ name ++
        typeParametersText ctx place ++ " = " ++ value.getD absentText)
      modifiers := visibilityModifier ctx place
      genericParameters := typeParameters ctx place
      value := value
      docstring := docstring ctx place
      exported := isExported place }]

/-- A constant or a static variable outside types. -/
def readConstant : TotalReading := fun ctx place depth parent =>
  if isInTypeBody place then []
  else
    let nameNode := place.childByField? "name"
    let name := ctx.textOf nameNode
    let type := ctx.fieldText? place "type"
    let isConstant := place.kind == "const_item"
    let keyword := if isConstant then "const" else "static"
    [.scope
      { place := place
        name := name
        kind := if isConstant then .constantLike else .variableLike
        depth := depth
        parent := parent
        nameNode := nameNode
        signature := some (visibilityText ctx place ++ keyword ++ " " ++ name ++ ": " ++
          type.getD absentText)
        returnType := type
        modifiers := keyword :: visibilityModifier ctx place
        value := ctx.fieldText? place "value"
        docstring := docstring ctx place
        exported := isExported place }]

/-- The first segment of a path. -/
def packageName (source : String) : String := beforeFirst "::" source

/-- Paths from the crate, the current or the enclosing module are local. -/
def isLocalSpecifier (source : String) : Bool :=
  ["crate", "self", "super"].contains (packageName source)

/-- One path below another; an empty path adds nothing. -/
def joinPath (outer inner : String) : String :=
  if outer.isEmpty then inner else if inner.isEmpty then outer else outer ++ "::" ++ inner

/-- A binding of a use declaration. -/
def useBinding (line : Nat) (source imported : String) (newName : Option String)
    (kind : ImportKind) : Import :=
  { source := source, imported := imported, newName := newName, kind := kind,
    isLocal := isLocalSpecifier source, line := line }

/-- The binding of a leaf of a use tree below a path. -/
def leafBindings (source : Source) (outer : String) (line : Nat) (node : Cursor) : List Import :=
  if ["identifier", "crate", "super", "metavariable"].contains node.kind then
    let name := source.text node
    [useBinding line ((nonEmpty? outer).getD name) name none .named]
  else if node.kind == "self" then
    let parts := (cutLast? "::" outer).getD ("", outer)
    [useBinding line ((nonEmpty? parts.1).getD outer) ((nonEmpty? parts.2).getD outer) none .named]
  else if node.kind == "scoped_identifier" then
    [useBinding line (joinPath outer ((source.fieldText? node "path").getD ""))
      ((source.fieldText? node "name").getD "") none .named]
  else if node.kind == "use_wildcard" then
    let path := dropEnd "::" (dropEnd "*" (source.text node))
    [useBinding line (joinPath outer path) "*" none .wholeModule]
  else []

/-- The bindings of a use tree below a path.  `fuel` bounds the nesting of the tree.  Nesting has no
limit here, though a call stack has one: the walk takes more calls for each level than this does, so
it gives up a tree long before. -/
def useBindings (source : Source) (line : Nat) : (fuel : Nat) → String → Cursor → List Import
  | 0, _, _ => []
  | fuel + 1, outer, node =>
      if node.kind == "use_as_clause" then
        let newName := source.fieldText? node "alias"
        let renamed :=
          match node.childByField? "path" with
          | some path => useBindings source line fuel outer path
          | none => []
        renamed.map fun binding => useBinding line binding.source binding.imported newName .named
      else if node.kind == "scoped_use_list" then
        match node.childByField? "list" with
        | some list =>
            useBindings source line fuel
              (joinPath outer ((source.fieldText? node "path").getD "")) list
        | none => []
      else if node.kind == "use_list" then
        node.namedChildren.flatMap (useBindings source line fuel outer)
      else leafBindings source outer line node

/-- The bindings of all use declarations. -/
def imports (source : Source) (root : Cursor) : List Import :=
  (root.preorderOfKind ["use_declaration"]).flatMap fun place =>
    match place.childByField? "argument" with
    | some argument =>
        useBindings source (source.startLine place) argument.node.size "" argument
    | none => []

/-- How Rust is read. -/
def strategy : Strategy where
  reading?
    | .classLike => some (.always readStruct)
    | .interfaceLike => some (.always readTrait)
    | .implementation => some (.always readImplementation)
    | .functionLike => some (.always readFunction)
    | .enumeration => some (.always readEnum)
    | .typeAlias => some (.always readTypeAlias)
    | .namespaceLike => some (.always readModule)
    | .binding => some (.always readConstant)
    | _ => none
  imports := imports
  packageName := packageName

end ScopeAtlas.Reading.Rust
