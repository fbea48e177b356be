import ScopeAtlas.Data.Record
import ScopeAtlas.Syntax.Node

/-!
# Stored syntax trees

A tree is stored as the list of its rows, and a row as a list of six: the symbol,
the field or null, the flags, the two ends of the byte range, and the number of
children.  The flags are a sum: one for a named node, two for a missing one.
-/

namespace ScopeAtlas.Syntax

open ScopeAtlas.Data ScopeAtlas.Data.Record

namespace Node

namespace Row

/-- Reads a row. -/
def ofValue? : Value → Option Row
  | .list [.text kind, field, flags, start, stop, children] => do
      let field ← nullable? Value.text? field
      let flags ← count? flags
      let start ← count? start
      let stop ← count? stop
      let children ← count? children
      return {
        kind := kind
        field := field
        isNamed := flags % 2 == 1
        isMissing := flags / 2 % 2 == 1
        startByte := start
        endByte := stop
        childCount := children }
  | _ => none

end Row

/-- Reads a stored tree. -/
def ofValue? (value : Value) : Option Node := do
  let items ← value.list?
  let rows ← items.mapM Row.ofValue?
  ofRows rows

end Node

end ScopeAtlas.Syntax
