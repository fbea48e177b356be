import ScopeAtlas.Reading.CFamily
import ScopeAtlas.Reading.CSharp
import ScopeAtlas.Reading.EcmaScript
import ScopeAtlas.Reading.Go
import ScopeAtlas.Reading.Python
import ScopeAtlas.Reading.Rust

/-!
# The reading of each family
-/

namespace ScopeAtlas.Reading

open ScopeAtlas.Extraction ScopeAtlas.Language

/-- How the languages of a family are read. -/
def strategyOf : Family → Strategy
  | .typescript => EcmaScript.strategy
  | .python => Python.strategy
  | .rust => Rust.strategy
  | .go => Go.strategy
  | .c => CFamily.cStrategy
  | .cpp => CFamily.cppStrategy
  | .csharp => CSharp.strategy

end ScopeAtlas.Reading
