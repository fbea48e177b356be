import ScopeAtlas.Language.Profile

/-!
# Go

The node table and the reserved and built-in names of Go.
-/

namespace ScopeAtlas.Language

/-- Roles of the node kinds. -/
def goNodes : NodeTable where
  scopes :=
    [("function_declaration", .functionLike), ("method_declaration", .methodLike),
     ("type_declaration", .typeDeclaration), ("const_declaration", .binding),
     ("var_declaration", .binding)]
  identifiers := ["identifier"]
  typeIdentifiers := ["type_identifier"]
  memberAccess :=
    [("selector_expression", "operand", "field"), ("qualified_type", "package", "name")]
  imports := ["import_declaration"]
  skipReferences :=
    ["interpreted_string_literal", "raw_string_literal", "rune_literal", "package_clause"]
  definitionFields :=
    [("function_declaration", ["name"]), ("method_declaration", ["name"]), ("type_spec", ["name"]),
     ("type_alias", ["name"]), ("var_spec", ["name"]), ("const_spec", ["name"]),
     ("parameter_declaration", ["name"]), ("variadic_parameter_declaration", ["name"]),
     ("short_var_declaration", ["left"]), ("range_clause", ["left"]),
     ("field_declaration", ["name"]), ("labeled_statement", ["label"]),
     ("type_parameter_declaration", ["name"])]
  definitionContainers := ["identifier_list"]
  patternTypes := ["expression_list"]
  variableDeclarators :=
    [("short_var_declaration", ⟨"left", none⟩), ("var_spec", ⟨"name", some "type"⟩),
     ("const_spec", ⟨"name", some "type"⟩)]
  branches :=
    ["if_statement", "for_statement", "expression_case", "type_case", "communication_case"]

/-- Go. -/
def go : Profile where
  name := "go"
  family := .go
  grammarName := "go"
  grammarPackage := "tree-sitter-go"
  grammarModule := "tree_sitter_go"
  minVersion := "0.23.0"
  extensions := ["go"]
  nodes := goNodes
  stopWords :=
    ["package", "import", "func", "var", "const", "type", "struct", "interface", "map", "chan",
     "range", "go", "select", "case", "default", "defer", "if", "else", "switch", "for", "break",
     "continue", "return", "goto", "fallthrough", "nil", "true", "false", "iota"]
  builtins :=
    ["append", "cap", "clear", "close", "complex", "copy", "delete", "imag", "len", "make", "max",
     "min", "new", "panic", "print", "println", "real", "recover", "bool", "byte", "complex64",
     "complex128", "error", "float32", "float64", "int", "int8", "int16", "int32", "int64", "rune",
     "string", "uint", "uint8", "uint16", "uint32", "uint64", "uintptr", "any", "comparable"]

end ScopeAtlas.Language
