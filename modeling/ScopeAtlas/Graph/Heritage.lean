import ScopeAtlas.Extraction.Naming
import ScopeAtlas.Graph.Relation
import ScopeAtlas.Scope.Basic
import ScopeAtlas.Text.Letter

/-!
# The relation behind a reference

A reference to a base type is an inheritance.  A reference is taken for one when
it is marked so, when a heritage clause of the scope lists its name, or when a
keyword of inheritance stands before it in its line with no opening brace in
between; every other reference is a mere use.
-/

namespace ScopeAtlas.Graph

open ScopeAtlas.Extraction ScopeAtlas.Text

/-- The relation that a way to build on a type stands for; other ways than the two common ones
stand for none. -/
def heritageRelation? : HeritageKind → Option Relation
  | .extending => some .inheritsFrom
  | .implementing => some .implements
  | .other _ => none

/-- The character is there and belongs to a word. -/
def inWord : Option Char → Bool
  | some c => isWordChar c
  | none => false

/-- A word begins or ends between two characters. -/
def isBoundary (before after : Option Char) : Bool := inWord before != inWord after

/-- The word stands at the beginning of the text, between boundaries. -/
def wordHere (word : List Char) (before : Option Char) (text : List Char) : Bool :=
  let last := if word.isEmpty then before else word.getLast?
  word.isPrefixOf text && isBoundary before text.head? &&
    isBoundary last (text.drop word.length).head?

/-- The word stands somewhere before the next opening brace. -/
def wordAhead (word : List Char) (before : Option Char) : List Char → Bool
  | [] => wordHere word before []
  | c :: rest =>
      wordHere word before (c :: rest) || (c != '\x7b' && wordAhead word (some c) rest)

/-- The name stands after a keyword, with no opening brace in between. -/
def keywordBefore (keyword name : List Char) (before : Option Char) : List Char → Bool
  | [] => false
  | c :: rest =>
      (wordHere keyword before (c :: rest) &&
          wordAhead name keyword.getLast? ((c :: rest).drop keyword.length)) ||
        keywordBefore keyword name (some c) rest

/-- The line of a reference reads like an inheritance of the given kind. -/
def readsLike (kind : HeritageKind) (reference : Reference) : Bool :=
  keywordBefore kind.label.toList reference.identifier.toList none reference.context.toList

/-- The clause lists a type of the given name. -/
def HeritageClause.lists (clause : HeritageClause) (name : String) : Bool :=
  clause.types.any fun type => baseTypeName type == name

/-- The relation that a reference of a scope stands for; nothing when it builds on a type in a way
that is not known. -/
def relationOf? (scope : Scope) (reference : Reference) : Option Relation :=
  match reference.heritage with
  | some kind => heritageRelation? kind
  | none =>
      match scope.heritageClauses.find? (HeritageClause.lists · reference.identifier) with
      | some clause => heritageRelation? clause.clause
      | none =>
          if readsLike .extending reference then some .inheritsFrom
          else if readsLike .implementing reference then some .implements
          else some .consumes

end ScopeAtlas.Graph
