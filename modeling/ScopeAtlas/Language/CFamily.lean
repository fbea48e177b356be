import ScopeAtlas.Language.Profile

/-!
# C and C++

The two languages share their declarator syntax, and with it the tables of defining positions.
-/

namespace ScopeAtlas.Language

/-- Reserved words of C. -/
def cStopWords : List String :=
  ["auto", "break", "case", "char", "const", "continue", "default", "do", "double", "else", "enum",
   "extern", "float", "for", "goto", "if", "inline", "int", "long", "register", "restrict",
   "return", "short", "signed", "sizeof", "static", "struct", "switch", "typedef", "union",
   "unsigned", "void", "volatile", "while", "_Bool", "_Complex", "_Imaginary"]

/-- Names of the C library that are treated as built in. -/
def cBuiltins : List String :=
  ["printf", "scanf", "sprintf", "snprintf", "puts", "malloc", "free", "calloc", "realloc",
   "strlen", "strcpy", "strncpy", "strcat", "strcmp", "strncmp", "memcpy", "memset", "memmove",
   "fopen", "fclose", "fread", "fwrite", "fprintf", "fscanf", "exit", "abort", "atoi", "atof",
   "rand", "srand", "assert", "NULL", "EOF", "stdin", "stdout", "stderr", "size_t", "ptrdiff_t",
   "intptr_t", "uintptr_t", "int8_t", "int16_t", "int32_t", "int64_t", "uint8_t", "uint16_t",
   "uint32_t", "uint64_t", "bool", "true", "false", "errno"]

/-- Declarators that wrap another declarator. -/
def declaratorWrappers : List String :=
  ["pointer_declarator", "array_declarator", "parenthesized_declarator", "function_declarator",
   "reference_declarator", "init_declarator"]

/-- Fields whose content binds names. -/
def cDefinitionFields : List (String × List String) :=
  [("init_declarator", ["declarator"]), ("pointer_declarator", ["declarator"]),
   ("array_declarator", ["declarator"]), ("function_declarator", ["declarator"]),
   ("function_definition", ["declarator"]), ("declaration", ["declarator"]),
   ("parameter_declaration", ["declarator"]), ("optional_parameter_declaration", ["declarator"]),
   ("field_declaration", ["declarator"]), ("type_definition", ["declarator"]),
   ("struct_specifier", ["name"]), ("union_specifier", ["name"]), ("enum_specifier", ["name"]),
   ("class_specifier", ["name"]), ("enumerator", ["name"]), ("preproc_def", ["name"]),
   ("preproc_function_def", ["name"]), ("labeled_statement", ["label"]),
   ("namespace_definition", ["name"]), ("alias_declaration", ["name"]),
   ("for_range_loop", ["declarator"])]

/-- Nodes that branch. -/
def cBranches : List String :=
  ["if_statement", "for_statement", "while_statement", "do_statement", "case_statement",
   "conditional_expression"]

/-- Roles of the node kinds of C. -/
def cNodes : NodeTable where
  scopes :=
    [("function_definition", .functionLike), ("struct_specifier", .classLike),
     ("union_specifier", .classLike), ("enum_specifier", .enumeration),
     ("type_definition", .typeAlias), ("declaration", .binding), ("preproc_def", .textMacro),
     ("preproc_function_def", .textMacro)]
  identifiers := ["identifier"]
  typeIdentifiers := ["type_identifier"]
  memberAccess := [("field_expression", "argument", "field")]
  imports := ["preproc_include"]
  skipReferences := ["string_literal", "char_literal", "system_lib_string"]
  definitionFields := cDefinitionFields
  definitionContainers := ["preproc_params"]
  patternTypes := declaratorWrappers
  variableDeclarators := [("declaration", ⟨"declarator", some "type"⟩)]
  branches := cBranches

/-- The language C. -/
def c : Profile where
  name := "c"
  family := .c
  grammarName := "c"
  grammarPackage := "tree-sitter-c"
  grammarModule := "tree_sitter_c"
  minVersion := "0.23.0"
  extensions := ["c", "h"]
  nodes := cNodes
  stopWords := cStopWords
  builtins := cBuiltins

/-- Roles of the node kinds of C++. -/
def cppNodes : NodeTable where
  scopes :=
    [("function_definition", .functionLike), ("class_specifier", .classLike),
     ("struct_specifier", .classLike), ("union_specifier", .classLike),
     ("enum_specifier", .enumeration), ("type_definition", .typeAlias),
     ("alias_declaration", .typeAlias), ("namespace_definition", .namespaceLike),
     ("template_declaration", .template), ("declaration", .binding), ("preproc_def", .textMacro),
     ("preproc_function_def", .textMacro)]
  identifiers := ["identifier"]
  typeIdentifiers := ["type_identifier"]
  memberAccess :=
    [("field_expression", "argument", "field"), ("qualified_identifier", "scope", "name")]
  imports := ["preproc_include", "using_declaration"]
  skipReferences := ["string_literal", "raw_string_literal", "char_literal", "system_lib_string"]
  definitionFields := cDefinitionFields
  definitionContainers := ["preproc_params", "template_parameter_list"]
  patternTypes :=
    declaratorWrappers ++
      ["type_parameter_declaration"]
  variableDeclarators := [("declaration", ⟨"declarator", some "type"⟩)]
  branches :=
    cBranches ++
      ["for_range_loop", "catch_clause"]

/-- The language C++. -/
def cpp : Profile where
  name := "cpp"
  family := .cpp
  grammarName := "cpp"
  grammarPackage := "tree-sitter-cpp"
  grammarModule := "tree_sitter_cpp"
  minVersion := "0.23.0"
  extensions := ["cpp", "cc", "cxx", "hpp", "hxx", "hh"]
  nodes := cppNodes
  stopWords :=
    cStopWords ++
      ["class", "namespace", "template", "typename", "public", "private", "protected", "virtual",
       "override", "final", "explicit", "constexpr", "consteval", "mutable", "friend", "operator",
       "new", "delete", "this", "nullptr", "try", "catch", "throw", "noexcept", "using", "decltype",
       "static_cast", "dynamic_cast", "const_cast", "reinterpret_cast", "wchar_t", "char16_t",
       "char32_t"]
  builtins :=
    cBuiltins ++
      ["std", "cout", "cin", "cerr", "endl", "string", "vector", "map", "set", "unordered_map",
       "unordered_set", "list", "deque", "array", "pair", "tuple", "optional", "variant", "any",
       "shared_ptr", "unique_ptr", "weak_ptr", "make_shared", "make_unique", "move", "forward"]
  receivers := ["this"]

end ScopeAtlas.Language
