import ScopeAtlas.Language.Profile

/-!
# Python

The node table and the reserved and built-in names of Python.
-/

namespace ScopeAtlas.Language

/-- Roles of the node kinds. -/
def pythonNodes : NodeTable where
  scopes :=
    [("class_definition", .classLike), ("function_definition", .functionLike),
     ("decorated_definition", .decorated), ("expression_statement", .binding)]
  identifiers := ["identifier"]
  typeContexts := ["type", "generic_type", "type_parameter"]
  memberAccess := [("attribute", "object", "attribute")]
  decorators := ["decorator"]
  imports := ["import_statement", "import_from_statement", "future_import_statement"]
  skipReferences := ["string", "concatenated_string"]
  definitionFields :=
    [("function_definition", ["name"]), ("class_definition", ["name"]), ("assignment", ["left"]),
     ("for_statement", ["left"]), ("for_in_clause", ["left"]), ("default_parameter", ["name"]),
     ("typed_default_parameter", ["name"]), ("keyword_argument", ["name"]),
     ("named_expression", ["name"]), ("as_pattern", ["alias"])]
  definitionContainers :=
    ["parameters", "lambda_parameters", "typed_parameter", "global_statement", "nonlocal_statement",
     "as_pattern_target"]
  patternTypes :=
    ["pattern_list", "tuple_pattern", "list_pattern", "list_splat_pattern",
     "dictionary_splat_pattern"]
  variableDeclarators := [("assignment", ⟨"left", some "type"⟩)]
  branches :=
    ["if_statement", "elif_clause", "for_statement", "while_statement", "except_clause",
     "with_statement", "case_clause", "conditional_expression", "for_in_clause", "if_clause",
     "boolean_operator"]
  binaryExpressions := []
  logicalOperators := []

/-- Python. -/
def python : Profile where
  name := "python"
  family := .python
  grammarName := "python"
  grammarPackage := "tree-sitter-python"
  grammarModule := "tree_sitter_python"
  minVersion := "0.23.0"
  extensions := ["py", "pyi"]
  nodes := pythonNodes
  stopWords :=
    ["and", "as", "assert", "break", "class", "continue", "def", "del", "elif", "else", "except",
     "finally", "for", "from", "global", "if", "import", "in", "is", "lambda", "nonlocal", "not",
     "or", "pass", "raise", "return", "try", "while", "with", "yield", "True", "False", "None",
     "async", "await", "match", "case"]
  builtins :=
    ["print", "len", "range", "str", "int", "float", "bool", "list", "dict", "tuple", "set",
     "frozenset", "type", "object", "super", "property", "staticmethod", "classmethod", "enumerate",
     "zip", "map", "filter", "sorted", "reversed", "sum", "min", "max", "abs", "all", "any",
     "ascii", "bin", "callable", "chr", "compile", "delattr", "dir", "divmod", "eval", "exec",
     "format", "getattr", "globals", "hasattr", "hash", "help", "hex", "id", "input", "isinstance",
     "issubclass", "iter", "locals", "next", "oct", "open", "ord", "pow", "repr", "round",
     "setattr", "slice", "vars", "bytes", "bytearray", "memoryview", "complex", "Exception",
     "BaseException", "ValueError", "TypeError", "KeyError", "IndexError", "AttributeError",
     "RuntimeError", "NotImplementedError", "StopIteration", "OSError", "IOError", "ImportError",
     "LookupError", "ArithmeticError", "ZeroDivisionError", "FileNotFoundError", "PermissionError",
     "AssertionError", "NotImplemented", "Ellipsis", "__name__", "__file__", "__doc__"]
  receivers := ["self", "cls"]

end ScopeAtlas.Language
