import ScopeAtlas.Language.Profile

/-!
# Words shared by languages

Reserved words that languages with braces have in common.
-/

namespace ScopeAtlas.Language

/-- Reserved words of the languages that descend from the same syntax. -/
def commonStopWords : List String :=
  ["if", "for", "while", "return", "const", "let", "var", "function", "class", "extends",
   "implements", "import", "from", "export", "default", "new", "this", "super", "await", "async",
   "switch", "case", "break", "continue", "try", "catch", "finally", "throw", "true", "false",
   "null", "undefined", "typeof", "instanceof", "in", "of"]

end ScopeAtlas.Language
