import ScopeAtlas.Data.Record
import ScopeAtlas.Scope.Report

/-!
# Scopes from data

Reads scopes and file analyses back from the form in which they are reported.
Fields that are absent have their defaults; what identifies a scope or a
reference must be there, and a record has no other fields.
-/

namespace ScopeAtlas

open ScopeAtlas.Data ScopeAtlas.Data.Record

def Parameter.ofValue? (value : Value) : Option Parameter := do
  onlyKeys? ["name", "type", "optional", "rest", "default_value", "line", "column"] value
  return {
    name := ← required? value "name" Value.text?
    type := ← optional? value "type" Value.text?
    optional := ← withDefault? value "optional" false flag?
    rest := ← withDefault? value "rest" false flag?
    defaultValue := ← optional? value "default_value" Value.text?
    line := ← withDefault? value "line" 0 number?
    column := ← withDefault? value "column" 0 number? }

def Import.ofValue? (value : Value) : Option Import := do
  onlyKeys? ["source", "imported", "alias", "kind", "is_local", "line"] value
  return {
    source := ← required? value "source" Value.text?
    imported := ← required? value "imported" Value.text?
    newName := ← optional? value "alias" Value.text?
    kind := ← withDefault? value "kind" .named (labelled? ImportKind.ofLabel)
    isLocal := ← withDefault? value "is_local" false flag?
    line := ← withDefault? value "line" 0 number? }

def Reference.ofValue? (value : Value) : Option Reference := do
  onlyKeys? ["identifier", "line", "column", "context", "qualifier", "kind", "source",
      "target_scope", "is_local_import", "heritage"] value
  return {
    identifier := ← required? value "identifier" Value.text?
    line := ← required? value "line" number?
    column := ← required? value "column" number?
    context := ← required? value "context" Value.text?
    qualifier := ← optional? value "qualifier" Value.text?
    kind := ← withDefault? value "kind" .unknown (labelled? ReferenceKind.ofLabel)
    source := ← optional? value "source" Value.text?
    targetScope := ← optional? value "target_scope" Value.text?
    isLocalImport := ← optional? value "is_local_import" flag?
    heritage := ← optional? value "heritage" (labelled? HeritageKind.ofLabel) }

def Variable.ofValue? (value : Value) : Option Variable := do
  onlyKeys? ["name", "type", "kind", "line"] value
  return {
    name := ← required? value "name" Value.text?
    type := ← optional? value "type" Value.text?
    kind := ← withDefault? value "kind" "var" Value.text?
    line := ← withDefault? value "line" 0 number? }

def Member.ofValue? (value : Value) : Option Member := do
  onlyKeys? ["name", "member_type", "type", "accessibility", "is_static", "is_readonly",
      "signature", "line"] value
  return {
    name := ← required? value "name" Value.text?
    memberKind := ← withDefault? value "member_type" .property (labelled? MemberKind.ofLabel)
    type := ← optional? value "type" Value.text?
    accessibility := ← optional? value "accessibility" Value.text?
    isStatic := ← withDefault? value "is_static" false flag?
    isReadonly := ← withDefault? value "is_readonly" false flag?
    signature := ← optional? value "signature" Value.text?
    line := ← withDefault? value "line" 0 number? }

def GenericParameter.ofValue? (value : Value) : Option GenericParameter := do
  onlyKeys? ["name", "constraint", "default"] value
  return {
    name := ← required? value "name" Value.text?
    constraint := ← optional? value "constraint" Value.text?
    default := ← optional? value "default" Value.text? }

def HeritageClause.ofValue? (value : Value) : Option HeritageClause := do
  onlyKeys? ["clause", "types"] value
  return {
    clause := ← required? value "clause" (labelled? HeritageKind.ofLabel)
    types := ← many? value "types" Value.text? }

def Decorator.ofValue? (value : Value) : Option Decorator := do
  onlyKeys? ["name", "arguments", "line"] value
  return {
    name := ← required? value "name" Value.text?
    arguments := ← optional? value "arguments" Value.text?
    line := ← withDefault? value "line" 0 number? }

def EnumMember.ofValue? (value : Value) : Option EnumMember := do
  onlyKeys? ["name", "value", "line"] value
  return {
    name := ← required? value "name" Value.text?
    value := ← optional? value "value" Value.text?
    line := ← withDefault? value "line" 0 number? }

def Scope.ofValue? (value : Value) : Option Scope := do
  onlyKeys? ["id", "name", "type", "file_path", "start_line", "end_line", "signature",
      "parameters", "return_type", "modifiers", "generic_parameters", "heritage_clauses",
      "content", "content_dedented", "members", "enum_members", "variables",
      "identifier_references", "import_references", "dependencies", "exports", "decorators",
      "docstring", "value", "ast_valid", "ast_issues", "ast_notes", "complexity", "lines_of_code",
      "parent", "depth"] value
  return {
    id := ← required? value "id" Value.text?
    name := ← required? value "name" Value.text?
    kind := ← required? value "type" (labelled? ScopeKind.ofLabel)
    filePath := ← required? value "file_path" Value.text?
    startLine := ← required? value "start_line" number?
    endLine := ← required? value "end_line" number?
    signature := ← optional? value "signature" Value.text?
    parameters := ← many? value "parameters" Parameter.ofValue?
    returnType := ← optional? value "return_type" Value.text?
    modifiers := ← many? value "modifiers" Value.text?
    genericParameters := ← many? value "generic_parameters" GenericParameter.ofValue?
    heritageClauses := ← many? value "heritage_clauses" HeritageClause.ofValue?
    content := ← withDefault? value "content" "" Value.text?
    contentDedented := ← withDefault? value "content_dedented" "" Value.text?
    members := ← many? value "members" Member.ofValue?
    enumMembers := ← many? value "enum_members" EnumMember.ofValue?
    declaredVariables := ← many? value "variables" Variable.ofValue?
    references := ← many? value "identifier_references" Reference.ofValue?
    imports := ← many? value "import_references" Import.ofValue?
    dependencies := ← many? value "dependencies" Value.text?
    exports := ← many? value "exports" Value.text?
    decorators := ← many? value "decorators" Decorator.ofValue?
    docstring := ← optional? value "docstring" Value.text?
    value := ← optional? value "value" Value.text?
    syntaxValid := ← withDefault? value "ast_valid" true flag?
    syntaxIssues := ← many? value "ast_issues" Value.text?
    notes := ← many? value "ast_notes" Value.text?
    complexity := ← withDefault? value "complexity" 1 number?
    linesOfCode := ← withDefault? value "lines_of_code" 0 number?
    parent := ← optional? value "parent" Value.text?
    depth := ← withDefault? value "depth" 0 number? }

def FileAnalysis.ofValue? (value : Value) : Option FileAnalysis := do
  return {
    filePath := ← required? value "file_path" Value.text?
    language := ← required? value "language" Value.text?
    scopes := ← many? value "scopes" Scope.ofValue?
    totalLines := ← withDefault? value "total_lines" 0 number?
    importSources := ← many? value "imports" Value.text?
    exports := ← many? value "exports" Value.text?
    dependencies := ← many? value "dependencies" Value.text?
    imports := ← many? value "import_references" Import.ofValue?
    syntaxValid := ← withDefault? value "ast_valid" true flag?
    syntaxIssues := ← many? value "ast_issues" Value.text?
    contentHash := ← optional? value "content_hash" Value.text? }

end ScopeAtlas
