import ScopeAtlas.Extraction.References

/-!
# References to base types

A heritage clause lists types.  The first reference to the base name of each
listed type that has no tag yet is tagged with the clause.
-/

namespace ScopeAtlas.Extraction

/-- Adds references that stand for no identifier of the text, unless there is one of the same
identifier and tag. -/
def addSynthetic (references synthetic : List Reference) : List Reference :=
  synthetic.foldl (fun references added =>
    if references.any fun present =>
        present.identifier == added.identifier && present.heritage == added.heritage
    then references
    else references ++ [added]) references

/-- Tags the first untagged reference to a name. -/
def tagFirst (name : String) (clause : HeritageKind) : List Reference → List Reference
  | [] => []
  | reference :: rest =>
      if reference.identifier == name && reference.heritage.isNone then
        { reference with heritage := some clause } :: rest
      else reference :: tagFirst name clause rest

/-- Tags the references to the types of a clause. -/
def tagClause (references : List Reference) (clause : HeritageClause) : List Reference :=
  clause.types.foldl (fun references written =>
    tagFirst (baseTypeName written) clause.clause references) references

/-- Adds synthetic references, tags references to base types, and sorts by position. -/
def applyHeritage (references : List Reference) (clauses : List HeritageClause)
    (synthetic : List Reference) : List Reference :=
  sortReferences (clauses.foldl tagClause (addSynthetic references synthetic))

end ScopeAtlas.Extraction
