import ScopeAtlas.Language.StopWords

/-!
# TypeScript, TSX and JavaScript

The three languages share one node table; they differ in their grammars, file name endings,
reserved words and built-in names.
-/

namespace ScopeAtlas.Language

/-- Names that every script finds defined. -/
def scriptBuiltins : List String :=
  ["Number", "String", "Boolean", "Object", "Array", "Map", "Set", "WeakMap", "WeakSet", "Promise",
   "Date", "Error", "TypeError", "RangeError", "console", "Math", "JSON", "RegExp", "Symbol",
   "BigInt", "Reflect", "Proxy", "isNaN", "isFinite", "parseInt", "parseFloat", "globalThis",
   "window", "document", "process", "require", "module", "exports", "setTimeout", "clearTimeout",
   "setInterval", "clearInterval", "Record", "Partial", "Required", "Readonly", "Pick", "Omit",
   "ReturnType", "Parameters", "Awaited", "NonNullable", "string", "number", "boolean", "any",
   "unknown", "never", "void", "object", "bigint", "symbol"]

/-- Node kinds that open a scope. -/
def typescriptScopes : List (String × Construct) :=
  [("class_declaration", .classLike), ("abstract_class_declaration", .classLike),
   ("interface_declaration", .interfaceLike), ("function_declaration", .functionLike),
   ("generator_function_declaration", .functionLike), ("method_definition", .methodLike),
   ("abstract_method_signature", .methodLike), ("enum_declaration", .enumeration),
   ("type_alias_declaration", .typeAlias), ("internal_module", .namespaceLike),
   ("module", .namespaceLike), ("lexical_declaration", .binding),
   ("variable_declaration", .binding)]

/-- Roles of the node kinds. -/
def typescriptNodes : NodeTable where
  scopes := typescriptScopes
  identifiers := ["identifier", "shorthand_property_identifier"]
  typeIdentifiers := ["type_identifier"]
  memberAccess :=
    [("member_expression", "object", "property"), ("nested_type_identifier", "module", "name")]
  decorators := ["decorator"]
  imports := ["import_statement"]
  skipReferences := ["string", "regex", "hash_bang_line"]
  definitionFields :=
    [("function_declaration", ["name"]), ("generator_function_declaration", ["name"]),
     ("function_expression", ["name"]), ("function", ["name"]), ("class_declaration", ["name"]),
     ("abstract_class_declaration", ["name"]), ("class", ["name"]),
     ("interface_declaration", ["name"]), ("type_alias_declaration", ["name"]),
     ("enum_declaration", ["name"]), ("internal_module", ["name"]),
     ("variable_declarator", ["name"]), ("required_parameter", ["pattern"]),
     ("optional_parameter", ["pattern"]), ("assignment_pattern", ["left"]),
     ("pair_pattern", ["value"]), ("catch_clause", ["parameter"]), ("for_in_statement", ["left"]),
     ("arrow_function", ["parameter"]), ("type_parameter", ["name"]),
     ("labeled_statement", ["label"])]
  definitionContainers := ["formal_parameters", "array_pattern", "object_pattern", "rest_pattern"]
  patternTypes := ["array_pattern", "object_pattern", "rest_pattern"]
  variableDeclarators := [("variable_declarator", ⟨"name", some "type"⟩)]
  branches :=
    ["if_statement", "for_statement", "for_in_statement", "while_statement", "do_statement",
     "switch_case", "catch_clause", "ternary_expression"]
  logicalOperators := ["&&", "||", "??"]

/-- Reserved words with type annotations. -/
def typedStopWords : List String :=
  commonStopWords ++
    ["interface", "type", "enum", "namespace", "declare", "readonly", "public", "private",
     "protected", "static", "abstract", "as", "is", "keyof", "get", "set"]

/-- TypeScript. -/
def typescript : Profile where
  name := "typescript"
  family := .typescript
  grammarName := "typescript"
  grammarPackage := "tree-sitter-typescript"
  grammarModule := "tree_sitter_typescript"
  minVersion := "0.23.0"
  languageFunc := some "language_typescript"
  extensions := ["ts", "mts", "cts"]
  nodes := typescriptNodes
  stopWords := typedStopWords
  builtins := scriptBuiltins
  receivers := ["this", "super"]

/-- TypeScript with embedded markup. -/
def tsx : Profile where
  name := "tsx"
  family := .typescript
  grammarName := "tsx"
  grammarPackage := "tree-sitter-typescript"
  grammarModule := "tree_sitter_typescript"
  minVersion := "0.23.0"
  languageFunc := some "language_tsx"
  extensions := ["tsx"]
  nodes := typescriptNodes
  stopWords := typedStopWords
  builtins :=
    scriptBuiltins ++
      ["React", "JSX"]
  receivers := ["this", "super"]

/-- JavaScript. -/
def javascript : Profile where
  name := "javascript"
  family := .typescript
  grammarName := "javascript"
  grammarPackage := "tree-sitter-javascript"
  grammarModule := "tree_sitter_javascript"
  minVersion := "0.23.0"
  extensions := ["js", "jsx", "mjs", "cjs"]
  nodes := typescriptNodes
  stopWords :=
    commonStopWords ++
      ["static", "get", "set"]
  builtins := scriptBuiltins
  receivers := ["this", "super"]

end ScopeAtlas.Language
