import ScopeAtlas.Extraction.ModuleCode
import ScopeAtlas.Extraction.Walk

/-!
# The analysis of one file

Extraction never fails: syntax errors, constructs that cannot be read and a tree
that is nested too deeply are reported as issues of the file.
-/

namespace ScopeAtlas.Extraction

open ScopeAtlas.Data ScopeAtlas.Language ScopeAtlas.Syntax

/-- The issue reported when a tree is nested too deeply. -/
def truncationIssue : String := "Maximum nesting depth exceeded; nested scopes truncated"

/-- Scopes in the order of a file: by first line, then outer scopes first. -/
def sortScopes (scopes : List Scope) : List Scope :=
  scopes.mergeSort fun a b =>
    a.startLine < b.startLine || (a.startLine == b.startLine && a.depth ≤ b.depth)

/-- The file before its scopes are collected. -/
def prepare (profile : Profile) (strategy : Strategy) (stack : StackLimit) (filePath : String)
    (bytes : ByteArray) (root : Cursor) : Context :=
  let source := Source.ofBytes bytes
  { profile := profile
    source := source
    filePath := filePath
    stack := stack
    imports := strategy.imports source root
    problems := syntaxProblems source profile.nodes.errors root }

/-- Extracts a file.  With `includeModuleScopes`, code outside declarations gives scopes too. -/
def analyze (profile : Profile) (strategy : Strategy) (stack : StackLimit)
    (includeModuleScopes : Bool) (filePath language : String) (bytes : ByteArray) (tree : Node) :
    FileAnalysis :=
  let root := Cursor.root tree
  let ctx := prepare profile strategy stack filePath bytes root
  let found := harvest strategy ctx root
  let moduleCode :=
    if includeModuleScopes then moduleScopes ctx strategy.packageName found.scopes root else []
  let scopes := sortScopes (found.scopes ++ moduleCode)
  let issues :=
    ctx.problems.map (·.message) ++ found.issues ++
      (if found.truncated then [truncationIssue] else [])
  let outermost := scopes.filter fun scope => scope.parent.isNone
  let external := ctx.imports.filter fun binding => !binding.isLocal && !binding.source.isEmpty
  { filePath := filePath
    language := language
    scopes := scopes
    totalLines := ctx.source.lines.size
    importSources := distinct (ctx.imports.map (·.source))
    exports := distinct (outermost.flatMap (·.exports))
    dependencies := sortedSet (external.map fun binding => strategy.packageName binding.source)
    imports := ctx.imports
    syntaxValid := issues.isEmpty
    syntaxIssues := issues
    contentHash := some (Digest.hex bytes.data.toList) }

end ScopeAtlas.Extraction
