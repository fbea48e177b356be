import ScopeAtlas.Extraction.Context

/-!
# Declarators of C and C++

The name that a declaration introduces stands at the bottom of a chain of
pointer, array, function and other declarators.  Every question about the name
unwraps this chain; each step goes to a child, so that the chain ends.
-/

namespace ScopeAtlas.Reading.Declarator

open ScopeAtlas.Extraction ScopeAtlas.Syntax

/-- Declarators around another declarator. -/
def wrappers : List String :=
  ["pointer_declarator", "array_declarator", "parenthesized_declarator", "function_declarator",
   "reference_declarator", "init_declarator", "attributed_declarator"]

/-- Nodes that are a name. -/
def nameKinds : List String :=
  ["identifier", "field_identifier", "type_identifier", "destructor_name", "operator_name",
   "namespace_identifier"]

/-- The declarator inside another: the one in the declarator field, or else the first named child
that is neither a parameter list nor an attribute. -/
def inner? (place : Cursor) : Option Cursor :=
  match place.childByField? "declarator" with
  | some inner => some inner
  | none =>
      place.namedChildren.find? fun child =>
        !(["parameter_list", "attribute_specifier"].contains child.kind)

theorem inner?_size_lt {place inner : Cursor} (found : inner? place = some inner) :
    inner.node.size < place.node.size := by
  apply Cursor.size_lt_of_mem_children
  unfold inner? at found
  split at found
  · next child isField =>
      cases found
      exact Cursor.mem_children_of_childByField? isField
  · exact Cursor.mem_children_of_mem_namedChildren (List.mem_of_find?_eq_some found)

/-- The node at the bottom of a chain of declarators. -/
def innermost? (place : Cursor) : Option Cursor :=
  if wrappers.contains place.kind then
    match _found : inner? place with
    | some inner => innermost? inner
    | none => none
  else some place
termination_by place.node.size
decreasing_by exact inner?_size_lt _found

/-- The outermost function declarator of a chain. -/
def function? (place : Cursor) : Option Cursor :=
  if wrappers.contains place.kind then
    if place.kind == "function_declarator" then some place
    else
      match _found : inner? place with
      | some inner => function? inner
      | none => none
  else none
termination_by place.node.size
decreasing_by exact inner?_size_lt _found

/-- What a declarator introduces. -/
structure Name where
  text : String := ""
  /-- The node of the whole, possibly qualified, name. -/
  node : Option Cursor := none
  /-- The class or namespace that a qualified name names. -/
  qualifier : Option String := none

/-- What stands for a scope that is not there. -/
def absentScope : String := "None"

/-- Follows the names of nested qualified identifiers, collecting their scopes. -/
def qualifiedName (source : Source) (scope : Option String) (place : Option Cursor) :
    String × Option String :=
  match place with
  | none => ("", scope)
  | some name =>
      if name.kind == "qualified_identifier" then
        let longer := scope.getD absentScope ++ "::" ++
          (source.fieldText? name "scope").getD absentScope
        match _found : name.childByField? "name" with
        | none => ("", some longer)
        | some next => qualifiedName source (some longer) (some next)
      else (source.text name, scope)
termination_by (place.map fun place => place.node.size).getD 0
decreasing_by
  simpa using Cursor.size_lt_of_mem_children (Cursor.mem_children_of_childByField? _found)

/-- The name that a declarator introduces, empty when it has none. -/
def name (source : Source) (declarator : Option Cursor) : Name :=
  match declarator.bind innermost? with
  | none => {}
  | some target =>
      if target.kind == "qualified_identifier" then
        let read := qualifiedName source (source.fieldText? target "scope")
          (target.childByField? "name")
        { text := read.1, node := some target, qualifier := read.2 }
      else if nameKinds.contains target.kind then
        { text := source.text target, node := some target }
      else {}

/-- What a declaration of a function prototype declares, past pointers and attributes: a function
declarator whose own declarator is not in parentheses. -/
def isPrototype (place : Cursor) : Bool :=
  if ["pointer_declarator", "reference_declarator", "attributed_declarator"].contains place.kind then
    match _found : inner? place with
    | some inner => isPrototype inner
    | none => false
  else
    place.kind == "function_declarator" &&
      (place.childByField? "declarator").map (·.kind) != some "parenthesized_declarator"
termination_by place.node.size
decreasing_by exact inner?_size_lt _found

/-- The pointer and reference marks at the outside of a declarator. -/
def pointerMarks (place : Cursor) : String :=
  if ["pointer_declarator", "reference_declarator"].contains place.kind then
    (if place.kind == "pointer_declarator" then "*" else "&") ++
      (match _found : inner? place with
        | some inner => pointerMarks inner
        | none => "")
  else ""
termination_by place.node.size
decreasing_by exact inner?_size_lt _found

/-- The pointer marks of a declarator, none when there is no declarator. -/
def marksOf (place : Option Cursor) : String := (place.map pointerMarks).getD ""

end ScopeAtlas.Reading.Declarator
