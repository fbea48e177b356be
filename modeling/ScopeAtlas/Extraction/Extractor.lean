import ScopeAtlas.Extraction.Analysis
import ScopeAtlas.Language.Registry
import ScopeAtlas.Reading.Strategies

/-!
# The extractor

Chooses the language of a file and extracts its syntax tree.  Parsing itself is
left to the caller, who provides the tree.
-/

namespace ScopeAtlas.Extraction

open ScopeAtlas.Language ScopeAtlas.Syntax

/-- What a parse yields beside the tree. -/
structure ParseSummary where
  rootKind : String
  language : String
  profileName : String
  /-- Number of error nodes and missing nodes. -/
  errorCount : Nat
  totalNodes : Nat
deriving Repr, DecidableEq

/-- Counts the nodes of a tree that was parsed as a language. -/
def summarizeParse (registry : Registry) (language : String) (tree : Node) :
    Except Error ParseSummary := do
  let profile ← registry.profile language
  let _ ← registry.load language
  let places := (Cursor.root tree).preorder
  return {
    rootKind := tree.kind
    language := language
    profileName := profile.name
    errorCount := (places.filter fun place => place.kind == "ERROR" || place.isMissing).length
    totalNodes := places.length }

/-- The language of a file: the given one, or the one of its path. -/
def chooseLanguage (registry : Registry) (path : String) (given : Option String) :
    Except Error String :=
  match given.bind nonEmpty? with
  | some language => .ok language
  | none => registry.languageForPath path

/-- Extracts the tree of a file as a language. -/
def extractTree (registry : Registry) (stack : StackLimit) (includeModuleScopes : Bool)
    (path language : String) (bytes : ByteArray) (tree : Node) : Except Error FileAnalysis := do
  let profile ← registry.profile language
  let _ ← registry.load language
  return analyze profile (Reading.strategyOf profile.family) stack includeModuleScopes path
    language bytes tree

end ScopeAtlas.Extraction
