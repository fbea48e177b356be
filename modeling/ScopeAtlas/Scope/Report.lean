import ScopeAtlas.Data.Value
import ScopeAtlas.Scope.Basic

/-!
# Scopes as data

The form in which scopes and file analyses are reported.
-/

namespace ScopeAtlas

open ScopeAtlas.Data

/-- A flag, or nothing. -/
def flagValue : Option Bool → Value
  | some flag => .bool flag
  | none => .null

def Parameter.toValue (parameter : Parameter) : Value :=
  .table [("name", .text parameter.name), ("type", .ofText? parameter.type),
    ("optional", .bool parameter.optional), ("rest", .bool parameter.rest),
    ("default_value", .ofText? parameter.defaultValue), ("line", .int parameter.line),
    ("column", .int parameter.column)]

def Import.toValue (binding : Import) : Value :=
  .table [("source", .text binding.source), ("imported", .text binding.imported),
    ("alias", .ofText? binding.newName), ("kind", .text binding.kind.label),
    ("is_local", .bool binding.isLocal), ("line", .int binding.line)]

def Reference.toValue (reference : Reference) : Value :=
  .table [("identifier", .text reference.identifier), ("line", .int reference.line),
    ("column", .int reference.column), ("context", .text reference.context),
    ("qualifier", .ofText? reference.qualifier), ("kind", .text reference.kind.label),
    ("source", .ofText? reference.source), ("target_scope", .ofText? reference.targetScope),
    ("is_local_import", flagValue reference.isLocalImport),
    ("heritage", .ofText? (reference.heritage.map HeritageKind.label))]

def Variable.toValue (declared : Variable) : Value :=
  .table [("name", .text declared.name), ("type", .ofText? declared.type),
    ("kind", .text declared.kind), ("line", .int declared.line)]

def Member.toValue (member : Member) : Value :=
  .table [("name", .text member.name), ("member_type", .text member.memberKind.label),
    ("type", .ofText? member.type), ("accessibility", .ofText? member.accessibility),
    ("is_static", .bool member.isStatic), ("is_readonly", .bool member.isReadonly),
    ("signature", .ofText? member.signature), ("line", .int member.line)]

def GenericParameter.toValue (parameter : GenericParameter) : Value :=
  .table [("name", .text parameter.name), ("constraint", .ofText? parameter.constraint),
    ("default", .ofText? parameter.default)]

def HeritageClause.toValue (clause : HeritageClause) : Value :=
  .table [("clause", .text clause.clause.label), ("types", .ofTexts clause.types)]

def Decorator.toValue (decorator : Decorator) : Value :=
  .table [("name", .text decorator.name), ("arguments", .ofText? decorator.arguments),
    ("line", .int decorator.line)]

def EnumMember.toValue (member : EnumMember) : Value :=
  .table [("name", .text member.name), ("value", .ofText? member.value),
    ("line", .int member.line)]

def Scope.toValue (scope : Scope) : Value :=
  .table [("id", .text scope.id), ("name", .text scope.name), ("type", .text scope.kind.label),
    ("file_path", .text scope.filePath), ("start_line", .int scope.startLine),
    ("end_line", .int scope.endLine), ("signature", .ofText? scope.signature),
    ("parameters", .list (scope.parameters.map Parameter.toValue)),
    ("return_type", .ofText? scope.returnType), ("modifiers", .ofTexts scope.modifiers),
    ("generic_parameters", .list (scope.genericParameters.map GenericParameter.toValue)),
    ("heritage_clauses", .list (scope.heritageClauses.map HeritageClause.toValue)),
    ("content", .text scope.content), ("content_dedented", .text scope.contentDedented),
    ("members", .list (scope.members.map Member.toValue)),
    ("enum_members", .list (scope.enumMembers.map EnumMember.toValue)),
    ("variables", .list (scope.declaredVariables.map Variable.toValue)),
    ("identifier_references", .list (scope.references.map Reference.toValue)),
    ("import_references", .list (scope.imports.map Import.toValue)),
    ("dependencies", .ofTexts scope.dependencies), ("exports", .ofTexts scope.exports),
    ("decorators", .list (scope.decorators.map Decorator.toValue)),
    ("docstring", .ofText? scope.docstring), ("value", .ofText? scope.value),
    ("ast_valid", .bool scope.syntaxValid), ("ast_issues", .ofTexts scope.syntaxIssues),
    ("ast_notes", .ofTexts scope.notes), ("complexity", .int scope.complexity),
    ("lines_of_code", .int scope.linesOfCode), ("parent", .ofText? scope.parent),
    ("depth", .int scope.depth)]

def FileAnalysis.toValue (analysis : FileAnalysis) : Value :=
  .table [("file_path", .text analysis.filePath), ("language", .text analysis.language),
    ("scopes", .list (analysis.scopes.map Scope.toValue)),
    ("total_lines", .int analysis.totalLines), ("imports", .ofTexts analysis.importSources),
    ("exports", .ofTexts analysis.exports), ("dependencies", .ofTexts analysis.dependencies),
    ("import_references", .list (analysis.imports.map Import.toValue)),
    ("ast_valid", .bool analysis.syntaxValid), ("ast_issues", .ofTexts analysis.syntaxIssues),
    ("content_hash", .ofText? analysis.contentHash),
    ("total_scopes", .ofNat analysis.scopes.length)]

end ScopeAtlas
