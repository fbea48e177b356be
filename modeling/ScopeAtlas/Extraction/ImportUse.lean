import ScopeAtlas.Data.Value
import ScopeAtlas.Scope.Basic
import ScopeAtlas.Text.Split

/-!
# Imports used by a scope

An import binds a local name; an import of a dotted module without an alias also
binds the first segment.  The first binding of a name counts.  A reference uses
the import bound to its qualifier, to the first segment of its qualifier, or to
its identifier, in this order.
-/

namespace ScopeAtlas.Extraction

open ScopeAtlas.Data ScopeAtlas.Text

/-- The names that an import binds. -/
def importedNames (binding : Import) : List String :=
  match binding.localName? with
  | none => []
  | some name =>
      if name.isEmpty then []
      else if binding.newName.isNone && contains "." name then [name, beforeFirst "." name]
      else [name]

/-- The imports of a file by local name; the first import that binds a name keeps it. -/
def importTable (imports : List Import) : List (String × Import) :=
  imports.foldl (fun table binding =>
    (importedNames binding).foldl (fun table name => putNewEntry name binding table) table) []

/-- The import that a reference uses. -/
def usedImport? (table : List (String × Import)) (reference : Reference) : Option Import :=
  let candidates :=
    match reference.qualifier with
    | none => [reference.identifier]
    | some qualifier =>
        if qualifier.isEmpty then [reference.identifier]
        else
          [qualifier, beforeFirst "." qualifier, beforeFirst "::" qualifier,
            beforeFirst "->" qualifier, reference.identifier]
  candidates.findSome? fun name => table.lookup name

/-- The imports that a list of references uses, each once, in the order of first use. -/
def usedImports (imports : List Import) (references : List Reference) : List Import :=
  let table := importTable imports
  references.foldl (fun used reference =>
    match usedImport? table reference with
    | some binding => if used.contains binding then used else used ++ [binding]
    | none => used) []

end ScopeAtlas.Extraction
