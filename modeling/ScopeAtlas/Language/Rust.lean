import ScopeAtlas.Language.Profile

/-!
# Rust

The node table and the reserved and built-in names of Rust.
-/

namespace ScopeAtlas.Language

/-- Roles of the node kinds. -/
def rustNodes : NodeTable where
  scopes :=
    [("struct_item", .classLike), ("union_item", .classLike), ("trait_item", .interfaceLike),
     ("impl_item", .implementation), ("function_item", .functionLike), ("enum_item", .enumeration),
     ("type_item", .typeAlias), ("mod_item", .namespaceLike), ("const_item", .binding),
     ("static_item", .binding)]
  identifiers := ["identifier"]
  typeIdentifiers := ["type_identifier"]
  memberAccess :=
    [("field_expression", "value", "field"), ("scoped_identifier", "path", "name"),
     ("scoped_type_identifier", "path", "name")]
  decorators := ["attribute_item"]
  imports := ["use_declaration", "extern_crate_declaration"]
  comments := ["line_comment", "block_comment"]
  skipReferences :=
    ["string_literal", "raw_string_literal", "char_literal", "lifetime", "attribute_item"]
  definitionFields :=
    [("function_item", ["name"]), ("function_signature_item", ["name"]), ("struct_item", ["name"]),
     ("union_item", ["name"]), ("enum_item", ["name"]), ("trait_item", ["name"]),
     ("type_item", ["name"]), ("mod_item", ["name"]), ("const_item", ["name"]),
     ("static_item", ["name"]), ("let_declaration", ["pattern"]), ("parameter", ["pattern"]),
     ("for_expression", ["pattern"]), ("match_arm", ["pattern"]), ("enum_variant", ["name"]),
     ("field_declaration", ["name"]), ("constrained_type_parameter", ["left"]),
     ("macro_definition", ["name"]), ("let_condition", ["pattern"])]
  definitionContainers := ["closure_parameters", "type_parameters"]
  patternTypes :=
    ["tuple_pattern", "tuple_struct_pattern", "struct_pattern", "field_pattern", "ref_pattern",
     "mut_pattern", "reference_pattern", "slice_pattern", "captured_pattern", "or_pattern",
     "match_pattern"]
  variableDeclarators := [("let_declaration", ⟨"pattern", some "type"⟩)]
  branches :=
    ["if_expression", "match_arm", "while_expression", "loop_expression", "for_expression",
     "try_expression"]

/-- Rust. -/
def rust : Profile where
  name := "rust"
  family := .rust
  grammarName := "rust"
  grammarPackage := "tree-sitter-rust"
  grammarModule := "tree_sitter_rust"
  minVersion := "0.23.0"
  extensions := ["rs"]
  nodes := rustNodes
  stopWords :=
    ["fn", "let", "mut", "const", "static", "struct", "enum", "trait", "impl", "type", "mod", "use",
     "pub", "crate", "self", "super", "where", "if", "else", "match", "loop", "while", "for", "in",
     "break", "continue", "return", "async", "await", "move", "ref", "dyn", "unsafe", "extern",
     "as", "true", "false", "Some", "None", "Ok", "Err"]
  builtins :=
    ["Self", "Option", "Result", "Vec", "String", "Box", "Rc", "Arc", "HashMap", "HashSet",
     "BTreeMap", "BTreeSet", "VecDeque", "Cell", "RefCell", "Mutex", "RwLock", "Cow", "Clone",
     "Copy", "Debug", "Default", "Display", "Eq", "Hash", "Ord", "PartialEq", "PartialOrd", "Send",
     "Sync", "Sized", "Iterator", "IntoIterator", "FromIterator", "Extend", "From", "Into",
     "TryFrom", "TryInto", "AsRef", "AsMut", "Drop", "Deref", "DerefMut", "Fn", "FnMut", "FnOnce",
     "println", "print", "eprintln", "eprint", "format", "panic", "assert", "assert_eq",
     "assert_ne", "vec", "dbg", "todo", "unimplemented", "unreachable", "write", "writeln", "bool",
     "char", "str", "i8", "i16", "i32", "i64", "i128", "isize", "u8", "u16", "u32", "u64", "u128",
     "usize", "f32", "f64", "std", "core", "alloc"]
  receivers := ["self", "Self"]

end ScopeAtlas.Language
