import ScopeAtlas.Data.Value
import ScopeAtlas.Language.Profile

/-!
# Profiles as data

The form in which the profile of a language is reported.  Sets are listed in
ascending order; tables keep the order of their entries.
-/

namespace ScopeAtlas.Language

open ScopeAtlas.Data

/-- A set of names. -/
def nameSet (names : List String) : Value := .ofTexts (sortedSet names)

/-- A table of names whose contents are written by `write`. -/
def nameTable {α : Type} (entries : List (String × α)) (write : α → Value) : Value :=
  .table (entries.map fun entry => (entry.1, write entry.2))

def NodeTable.toValue (table : NodeTable) : Value :=
  .table [("scopes", nameTable table.scopes fun construct => .text construct.label),
    ("identifiers", nameSet table.identifiers),
    ("type_identifiers", nameSet table.typeIdentifiers),
    ("type_contexts", nameSet table.typeContexts),
    ("member_access", nameTable table.memberAccess fun fields => .ofTexts [fields.1, fields.2]),
    ("decorators", nameSet table.decorators),
    ("imports", nameSet table.imports),
    ("comments", nameSet table.comments),
    ("skip_references", nameSet table.skipReferences),
    ("definition_fields", nameTable table.definitionFields .ofTexts),
    ("definition_containers", nameSet table.definitionContainers),
    ("pattern_types", nameSet table.patternTypes),
    ("variable_declarators", nameTable table.variableDeclarators fun fields =>
      .list [.text fields.name, .ofText? fields.type]),
    ("branches", nameSet table.branches),
    ("binary_expressions", nameSet table.binaryExpressions),
    ("logical_operators", nameSet table.logicalOperators),
    ("errors", nameSet table.errors)]

def Profile.toValue (profile : Profile) : Value :=
  .table [("name", .text profile.name), ("family", .text profile.family.label),
    ("grammar_name", .text profile.grammarName),
    ("grammar_package", .text profile.grammarPackage),
    ("grammar_module", .text profile.grammarModule), ("min_version", .text profile.minVersion),
    ("language_func", .ofText? profile.languageFunc), ("extensions", nameSet profile.extensions),
    ("node_types", profile.nodes.toValue), ("stop_words", nameSet profile.stopWords),
    ("builtins", nameSet profile.builtins), ("receivers", nameSet profile.receivers)]

end ScopeAtlas.Language
