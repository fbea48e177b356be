import ScopeAtlas.Language.StopWords

/-!
# C#

The node table and the reserved and built-in names of C#.
-/

namespace ScopeAtlas.Language

/-- Roles of the node kinds. -/
def csharpNodes : NodeTable where
  scopes :=
    [("compilation_unit", .compilationUnit), ("namespace_declaration", .namespaceLike),
     ("file_scoped_namespace_declaration", .namespaceLike), ("class_declaration", .classLike),
     ("struct_declaration", .classLike), ("record_declaration", .classLike),
     ("record_struct_declaration", .classLike), ("interface_declaration", .interfaceLike),
     ("enum_declaration", .enumeration), ("method_declaration", .methodLike),
     ("constructor_declaration", .methodLike), ("local_function_statement", .functionLike),
     ("delegate_declaration", .typeAlias)]
  identifiers := ["identifier"]
  typeContexts :=
    ["type_argument_list", "generic_name", "nullable_type", "array_type", "base_list",
     "type_parameter_constraint", "type_constraint", "parameter", "variable_declaration",
     "object_creation_expression", "property_declaration"]
  memberAccess :=
    [("member_access_expression", "expression", "name"), ("qualified_name", "qualifier", "name")]
  decorators := ["attribute_list"]
  imports := ["using_directive"]
  skipReferences :=
    ["string_literal", "verbatim_string_literal", "character_literal", "attribute_list"]
  definitionFields :=
    [("class_declaration", ["name"]), ("struct_declaration", ["name"]),
     ("record_declaration", ["name"]), ("interface_declaration", ["name"]),
     ("enum_declaration", ["name"]), ("method_declaration", ["name"]),
     ("constructor_declaration", ["name"]), ("property_declaration", ["name"]),
     ("local_function_statement", ["name"]), ("variable_declarator", ["name"]),
     ("parameter", ["name"]), ("namespace_declaration", ["name"]),
     ("file_scoped_namespace_declaration", ["name"]), ("enum_member_declaration", ["name"]),
     ("type_parameter", ["name"]), ("foreach_statement", ["left"]), ("catch_declaration", ["name"]),
     ("delegate_declaration", ["name"])]
  definitionContainers := ["type_parameter_list"]
  variableDeclarators := [("variable_declarator", ⟨"name", some "type"⟩)]
  branches :=
    ["if_statement", "for_statement", "foreach_statement", "while_statement", "do_statement",
     "switch_section", "catch_clause", "conditional_expression"]
  logicalOperators := ["&&", "||", "??"]

/-- The language C#. -/
def csharp : Profile where
  name := "csharp"
  family := .csharp
  grammarName := "c_sharp"
  grammarPackage := "tree-sitter-c-sharp"
  grammarModule := "tree_sitter_c_sharp"
  minVersion := "0.23.0"
  extensions := ["cs"]
  nodes := csharpNodes
  stopWords :=
    commonStopWords ++
      ["namespace", "using", "struct", "record", "interface", "enum", "public", "private",
       "protected", "internal", "static", "readonly", "virtual", "override", "abstract", "sealed",
       "partial", "base", "void", "dynamic", "get", "set", "init", "value", "where", "when", "is",
       "as", "out", "ref", "else", "foreach", "do", "lock", "yield", "params", "sizeof", "nameof",
       "checked", "unchecked", "fixed", "unsafe", "stackalloc"]
  builtins :=
    ["object", "string", "bool", "byte", "sbyte", "char", "decimal", "double", "float", "int",
     "uint", "long", "ulong", "short", "ushort", "nint", "nuint", "String", "Object", "Boolean",
     "Int32", "Int64", "Double", "Decimal", "DateTime", "TimeSpan", "Guid", "Type", "Enum", "Array",
     "Exception", "ArgumentException", "ArgumentNullException", "InvalidOperationException",
     "NotImplementedException", "List", "Dictionary", "HashSet", "Queue", "Stack", "LinkedList",
     "IEnumerable", "ICollection", "IList", "IDictionary", "ISet", "IQueryable", "Task",
     "ValueTask", "CancellationToken", "IDisposable", "IAsyncDisposable", "IComparable",
     "IEquatable", "ICloneable", "Nullable", "Console", "Debug", "Trace", "Enumerable", "Queryable",
     "Math", "Func", "Action"]
  receivers := ["this", "base"]

end ScopeAtlas.Language
