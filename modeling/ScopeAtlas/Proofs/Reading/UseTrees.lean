import Mathlib.Data.List.Forall2
import ScopeAtlas.Proofs.Text.Cutting
import ScopeAtlas.Reading.Rust

/-!
# Use trees of Rust

A use tree names one thing for each of its leaves.  Its bindings are these leaves in their order.
The path of a leaf is put together from texts of the file, so blanks and comments that a file
sets around the `::` inside such a path stay in the binding, and exactly then the binding is not
the one that the segments of the path call for.
-/

namespace ScopeAtlas.Reading.Rust

open ScopeAtlas.Extraction ScopeAtlas.Syntax ScopeAtlas.Text

/-! ## Paths as they are written -/

/-- A segment of a path with what a file sets around the `::` in front of it. -/
structure Segment where
  name : String
  before : String := ""
  after : String := ""
deriving Repr, DecidableEq

/-- Nothing stands around the `::` in front of the segment. -/
def Segment.IsTight (segment : Segment) : Prop := segment.before = "" ∧ segment.after = ""
deriving Decidable

/-- A name is a text without colons. -/
def IsName (name : String) : Prop := name ≠ "" ∧ ':' ∉ name.toList
deriving Decidable

/-- The text of segments that follow others. -/
def writtenBehind : List Segment → String
  | [] => ""
  | segment :: rest =>
      segment.before ++ "::" ++ segment.after ++ segment.name ++ writtenBehind rest

/-- The text of a path. -/
def written : List Segment → String
  | [] => ""
  | segment :: rest => segment.name ++ writtenBehind rest

/-- The path that names make up. -/
def pathText (names : List String) : String := String.intercalate "::" names

theorem writtenBehind_append (path rest : List Segment) :
    writtenBehind (path ++ rest) = writtenBehind path ++ writtenBehind rest := by
  induction path with
  | nil => simp [writtenBehind]
  | cons segment path ih => simp [writtenBehind, ih, String.append_assoc]

theorem written_append {path : List Segment} (nonempty : path ≠ []) (rest : List Segment) :
    written (path ++ rest) = written path ++ writtenBehind rest := by
  cases path with
  | nil => contradiction
  | cons segment path => simp [written, writtenBehind_append, String.append_assoc]

/-- What stands around the `::` of segments, in characters. -/
def gapsOf : List Segment → Nat
  | [] => 0
  | segment :: rest => segment.before.length + segment.after.length + gapsOf rest

theorem gapsOf_eq_zero_iff {segments : List Segment} :
    gapsOf segments = 0 ↔ ∀ segment ∈ segments, segment.IsTight := by
  induction segments with
  | nil => simp [gapsOf]
  | cons segment rest ih =>
      simp only [gapsOf, Nat.add_eq_zero_iff, String.length_eq_zero_iff, List.forall_mem_cons]
      rw [ih, Segment.IsTight]

/-- A path is longer than its names make it by what stands around its `::`. -/
theorem length_written (path : List Segment) :
    (written path).length = (pathText (path.map (·.name))).length + gapsOf path.tail := by
  cases path with
  | nil => rfl
  | cons first rest =>
      induction rest generalizing first with
      | nil => simp [written, writtenBehind, pathText, gapsOf]
      | cons segment rest ih =>
          have behind := ih segment
          simp only [written, writtenBehind, pathText, gapsOf, List.map_cons, List.tail_cons,
            String.intercalate_cons_cons, String.length_append] at behind ⊢
          omega

/-- Without blanks and comments the text of a path is its names put together. -/
theorem written_eq_pathText {path : List Segment}
    (tight : ∀ segment ∈ path.tail, segment.IsTight) :
    written path = pathText (path.map (·.name)) := by
  cases path with
  | nil => rfl
  | cons first rest =>
      induction rest generalizing first with
      | nil => simp [written, writtenBehind, pathText]
      | cons segment rest ih =>
          rw [List.tail_cons, List.forall_mem_cons] at tight
          have behind := ih segment tight.2
          simp only [written, pathText, List.map_cons] at behind
          simp [written, writtenBehind, pathText, tight.1.1, tight.1.2,
            String.intercalate_cons_cons, ← behind, String.append_assoc]

theorem written_eq_pathText_iff {path : List Segment} :
    written path = pathText (path.map (·.name)) ↔ ∀ segment ∈ path.tail, segment.IsTight := by
  constructor
  · intro same
    have lengths := length_written path
    rw [same] at lengths
    exact gapsOf_eq_zero_iff.mp (by omega)
  · exact written_eq_pathText

/-- The segments of a path are names, and the first has no `::` in front. -/
structure IsWellFormed (path : List Segment) : Prop where
  names : ∀ segment ∈ path, IsName segment.name
  head : ∀ segment ∈ path.head?, segment.IsTight

theorem isWellFormed_nil : IsWellFormed [] := ⟨by simp, by simp⟩

theorem IsWellFormed.append {outer inner : List Segment} (outerFormed : IsWellFormed outer)
    (innerFormed : IsWellFormed inner) : IsWellFormed (outer ++ inner) where
  names := by
    intro segment member
    exact (List.mem_append.mp member).elim (outerFormed.names segment) (innerFormed.names segment)
  head := by
    cases outer with
    | nil => exact innerFormed.head
    | cons first rest => simpa using outerFormed.head

theorem written_ne_empty {path : List Segment} (formed : IsWellFormed path)
    (nonempty : path ≠ []) : written path ≠ "" := by
  cases path with
  | nil => contradiction
  | cons segment rest =>
      have named := (formed.names segment List.mem_cons_self).1
      simp [written, named]

theorem joinPath_of_ne_empty {outer inner : String} (outerText : outer ≠ "")
    (innerText : inner ≠ "") : joinPath outer inner = outer ++ "::" ++ inner := by
  simp [joinPath, outerText, innerText]

/-- One path below another is the text of both. -/
theorem joinPath_written {outer inner : List Segment} (outerFormed : IsWellFormed outer)
    (innerFormed : IsWellFormed inner) :
    joinPath (written outer) (written inner) = written (outer ++ inner) := by
  by_cases outerEmpty : outer = []
  · simp [outerEmpty, written, joinPath]
  have outerText := written_ne_empty outerFormed outerEmpty
  cases inner with
  | nil => simp [written, joinPath]
  | cons segment rest =>
      have innerText := written_ne_empty innerFormed (by simp)
      have tight := innerFormed.head segment rfl
      rw [joinPath_of_ne_empty outerText innerText, written_append outerEmpty]
      simp [writtenBehind, tight.1, tight.2, written, String.append_assoc]

/-! ## Use trees -/

/-- What a leaf of a use tree takes from its path. -/
inductive UseTarget where
  /-- An item of the path. -/
  | item (name : String)
  /-- The path itself. -/
  | itself
  /-- Everything in the path, with what a file sets around the last `::`. -/
  | everything (before after : String)
deriving Repr, DecidableEq

/-- A leaf of a use tree with its path. -/
structure UseLeaf where
  path : List Segment := []
  target : UseTarget
  newName : Option String := none
deriving Repr, DecidableEq

/-- A use tree: a leaf, or a list of use trees below a path. -/
inductive UseTree where
  | leaf (one : UseLeaf)
  | list (path : List Segment) (branches : List UseTree)

namespace UseTree

mutual

/-- The leaves of a use tree below a path, in their order. -/
def leaves (outer : List Segment) : UseTree → List UseLeaf
  | .leaf one => [{ one with path := outer ++ one.path }]
  | .list path branches => leavesOfAll (outer ++ path) branches

/-- The leaves of use trees below a path, in their order. -/
def leavesOfAll (outer : List Segment) : List UseTree → List UseLeaf
  | [] => []
  | tree :: rest => leaves outer tree ++ leavesOfAll outer rest

end

end UseTree

/-- What stands around the last `::` of a path, the whole path where that is nothing. -/
def aroundLast (path : String) : String × String :=
  let parts := (cutLast? "::" path).getD ("", path)
  ((nonEmpty? parts.1).getD path, (nonEmpty? parts.2).getD path)

namespace UseLeaf

/-- The names of the full path of a leaf. -/
def names (leaf : UseLeaf) : List String :=
  leaf.path.map (·.name) ++
    match leaf.target with
    | .item name => [name]
    | _ => []

/-- How a leaf binds. -/
def kind (leaf : UseLeaf) : ImportKind :=
  match leaf.target with
  | .everything _ _ => .wholeModule
  | _ => .named

/-- The source and the imported symbol that the names of a leaf call for. -/
def meant (leaf : UseLeaf) : String × String :=
  match leaf.target with
  | .everything _ _ => (pathText leaf.names, "*")
  | _ =>
      (pathText (if leaf.names.length = 1 then leaf.names else leaf.names.dropLast),
        leaf.names.getLast?.getD "")

/-- The source and the imported symbol as they are found in the text of the path. -/
def found (leaf : UseLeaf) : String × String :=
  match leaf.target with
  | .item name => ((nonEmpty? (written leaf.path)).getD name, name)
  | .itself => aroundLast (written leaf.path)
  | .everything before after =>
      (dropEnd "::" (written leaf.path ++ before ++ "::" ++ after), "*")

/-- The binding that the names of a leaf call for. -/
def binding (line : Nat) (leaf : UseLeaf) : Import :=
  { source := leaf.meant.1, imported := leaf.meant.2, newName := leaf.newName, kind := leaf.kind,
    isLocal := leaf.names.head?.any ["crate", "self", "super"].contains, line := line }

/-- The binding that is found in the text of the path of a leaf. -/
def read (line : Nat) (leaf : UseLeaf) : Import :=
  useBinding line leaf.found.1 leaf.found.2 leaf.newName leaf.kind

/-- Blanks or comments stand around a `::` inside the path of a leaf, or around the one in front
of a star. -/
def IsSpaced (leaf : UseLeaf) : Prop :=
  (∃ segment ∈ leaf.path.tail, ¬segment.IsTight) ∨
    match leaf.target with
    | .everything before after => before ≠ "" ∨ after ≠ ""
    | _ => False

/-- The path of a leaf and the item that it names are made of names. -/
structure IsWellFormed (leaf : UseLeaf) : Prop where
  path : Rust.IsWellFormed leaf.path
  item : ∀ name, leaf.target = .item name → IsName name

end UseLeaf

/-! ## Use trees in a file -/

/-- The place is a path with these segments. -/
inductive IsPath (source : Source) : Cursor → List Segment → Prop where
  | name {place : Cursor} {name : String}
      (kind : place.kind ∈ ["identifier", "crate", "super", "self", "metavariable"])
      (text : source.text place = name) (named : IsName name) :
      IsPath source place [{ name := name }]
  | under {place front last : Cursor} {path : List Segment} {name before after : String}
      (kind : place.kind = "scoped_identifier")
      (isFront : place.childByField? "path" = some front)
      (isLast : place.childByField? "name" = some last)
      (isPath : IsPath source front path)
      (lastText : source.text last = name) (named : IsName name)
      (text : source.text place = source.text front ++ before ++ "::" ++ after ++ name) :
      IsPath source place (path ++ [⟨name, before, after⟩])

/-- A comment, which may stand between the branches of a list. -/
def isComment (place : Cursor) : Bool := ["line_comment", "block_comment"].contains place.kind

/-- The place is a use tree with these leaves. -/
inductive IsUseTree (source : Source) : Cursor → UseTree → Prop where
  | item {place : Cursor} {name : String}
      (kind : place.kind ∈ ["identifier", "crate", "super", "metavariable"])
      (text : source.text place = name) (named : IsName name) :
      IsUseTree source place (.leaf { target := .item name })
  | itself {place : Cursor} (kind : place.kind = "self") :
      IsUseTree source place (.leaf { target := .itself })
  | under {place front last : Cursor} {path : List Segment} {name : String}
      (kind : place.kind = "scoped_identifier")
      (isFront : place.childByField? "path" = some front)
      (isLast : place.childByField? "name" = some last)
      (isPath : IsPath source front path)
      (lastText : source.text last = name) (named : IsName name) :
      IsUseTree source place (.leaf { path := path, target := .item name })
  | renamed {place inner given : Cursor} {leaf : UseLeaf} {newName : String}
      (kind : place.kind = "use_as_clause")
      (isInner : place.childByField? "path" = some inner)
      (isGiven : place.childByField? "alias" = some given)
      (isTree : IsUseTree source inner (.leaf leaf)) (single : leaf.kind = .named)
      (givenText : source.text given = newName) :
      IsUseTree source place (.leaf { leaf with newName := some newName })
  | everything {place front : Cursor} {path : List Segment} {before after : String}
      (kind : place.kind = "use_wildcard") (isFront : front ∈ place.namedChildren)
      (isPath : IsPath source front path)
      (text : source.text place = source.text front ++ before ++ "::" ++ after ++ "*") :
      IsUseTree source place (.leaf { path := path, target := .everything before after })
  | everythingHere {place : Cursor} (kind : place.kind = "use_wildcard")
      (text : source.text place = "*") :
      IsUseTree source place (.leaf { target := .everything "" "" })
  | scopedList {place front list : Cursor} {path : List Segment} {branches : List UseTree}
      (kind : place.kind = "scoped_use_list")
      (isFront : place.childByField? "path" = some front)
      (isList : place.childByField? "list" = some list)
      (isPath : IsPath source front path)
      (isTree : IsUseTree source list (.list [] branches)) :
      IsUseTree source place (.list path branches)
  | list {place : Cursor} {branches : List UseTree} (kind : place.kind = "use_list")
      (areTrees : List.Forall₂ (IsUseTree source)
        (place.namedChildren.filter fun child => !isComment child) branches) :
      IsUseTree source place (.list [] branches)

variable {source : Source} {place : Cursor} {path : List Segment}

theorem IsPath.text (isPath : IsPath source place path) :
    IsWellFormed path ∧ path ≠ [] ∧ source.text place = written path := by
  induction isPath with
  | name kind text named =>
      exact ⟨⟨by simpa using named, by simp [Segment.IsTight]⟩, by simp,
        by simp [written, writtenBehind, text]⟩
  | under kind isFront isLast isPath lastText named text ih =>
      obtain ⟨formed, nonempty, frontText⟩ := ih
      refine ⟨⟨?_, ?_⟩, by simp, ?_⟩
      · intro segment member
        cases List.mem_append.mp member with
        | inl inFront => exact formed.names segment inFront
        | inr isLast =>
            obtain rfl := List.mem_singleton.mp isLast
            exact named
      · rw [List.head?_append_of_ne_nil _ nonempty]
        exact formed.head
      · rw [text, frontText, written_append nonempty]
        simp [writtenBehind, String.append_assoc]

/-! ## Bindings of a use tree -/

/-- The binding is the one that is found in the text of the leaf. -/
def IsRead (line : Nat) (binding : Import) (leaf : UseLeaf) : Prop :=
  binding = leaf.read line ∧ leaf.IsWellFormed

theorem useBindings_of_isComment {place : Cursor} (comment : isComment place = true)
    (source : Source) (line fuel : Nat) (outer : String) :
    useBindings source line fuel outer place = [] := by
  cases fuel with
  | zero => rfl
  | succ fuel =>
      have kind : place.kind = "line_comment" ∨ place.kind = "block_comment" := by
        simpa [isComment] using comment
      cases kind with
      | inl kind => simp [useBindings, leafBindings, kind]
      | inr kind => simp [useBindings, leafBindings, kind]

/-- Branches that are read on their own are read together. -/
theorem forall₂_useBindings_branches (line fuel : Nat) (outer : List Segment)
    {places : List Cursor} {branches : List UseTree}
    (areTrees : List.Forall₂ (IsUseTree source)
      (places.filter fun place => !isComment place) branches)
    (readOne : ∀ place ∈ places, ∀ tree, IsUseTree source place tree →
      List.Forall₂ (IsRead line) (useBindings source line fuel (written outer) place)
        (tree.leaves outer)) :
    List.Forall₂ (IsRead line) (places.flatMap (useBindings source line fuel (written outer)))
      (UseTree.leavesOfAll outer branches) := by
  induction places generalizing branches with
  | nil =>
      cases areTrees
      simp [UseTree.leavesOfAll]
  | cons place rest ih =>
      rw [List.forall_mem_cons] at readOne
      rw [List.flatMap_cons]
      by_cases comment : isComment place = true
      · rw [List.filter_cons_of_neg (by simp [comment])] at areTrees
        rw [useBindings_of_isComment comment, List.nil_append]
        exact ih areTrees readOne.2
      · rw [List.filter_cons_of_pos (by simp [comment])] at areTrees
        cases areTrees with
        | cons isTree areTrees =>
            exact List.rel_append (readOne.1 _ isTree) (ih areTrees readOne.2)

theorem IsRead.renamed {line : Nat} {binding : Import} {leaf : UseLeaf}
    (isRead : IsRead line binding leaf) (single : leaf.kind = .named) (newName : Option String) :
    IsRead line (useBinding line binding.source binding.imported newName .named)
      { leaf with newName := newName } := by
  refine ⟨?_, isRead.2.path, isRead.2.item⟩
  rw [isRead.1]
  simp only [UseLeaf.read, useBinding, UseLeaf.found]
  rw [← single]
  rfl

/-- The path in front of a star, as the text of the star with its path gives it. -/
theorem joinPath_dropEnd_star {outer : List Segment} (outerFormed : IsWellFormed outer)
    (formed : IsWellFormed path) (nonempty : path ≠ []) (before after : String) :
    joinPath (written outer) (dropEnd "::" (written path ++ before ++ "::" ++ after)) =
      dropEnd "::" (written (outer ++ path) ++ before ++ "::" ++ after) := by
  by_cases outerEmpty : outer = []
  · simp [outerEmpty, written, joinPath]
  have outerText := written_ne_empty outerFormed outerEmpty
  have pathText := written_ne_empty formed nonempty
  have both : written (outer ++ path) = written outer ++ "::" ++ written path := by
    rw [← joinPath_written outerFormed formed, joinPath_of_ne_empty outerText pathText]
  have long : "::".length ≤ (before ++ "::" ++ after).length := by
    simp only [String.length_append]
    omega
  have cut (front : String) : dropEnd "::" (front ++ before ++ "::" ++ after) =
      front ++ dropEnd "::" (before ++ "::" ++ after) := by
    rw [← dropEnd_append front long]
    simp only [String.append_assoc]
  rw [cut, cut, both, joinPath_of_ne_empty outerText (by simp [pathText])]
  simp only [String.append_assoc]

/-- The bindings of a use tree below a path are read from its leaves, in their order. -/
theorem forall₂_useBindings {tree : UseTree} (isTree : IsUseTree source place tree)
    {outer : List Segment} (outerFormed : IsWellFormed outer) {fuel : Nat}
    (enough : place.node.size ≤ fuel) (line : Nat) :
    List.Forall₂ (IsRead line) (useBindings source line fuel (written outer) place)
      (tree.leaves outer) := by
  -- The recursion is on the fuel, which stays above the size of every child.
  induction fuel generalizing place tree outer with
  | zero =>
      rw [Node.size_eq] at enough
      omega
  | succ fuel ih =>
      have below {child : Cursor} (isChild : child ∈ place.children) :
          child.node.size ≤ fuel := by
        have smaller := Cursor.size_lt_of_mem_children isChild
        omega
      cases isTree with
      | item kind text named =>
          have bindings : useBindings source line (fuel + 1) (written outer) place =
              leafBindings source (written outer) line place := by
            rw [useBindings]
            simp only [List.mem_cons, List.not_mem_nil, or_false] at kind
            rcases kind with kind | kind | kind | kind <;> simp [kind]
          rw [bindings, leafBindings, if_pos (by simpa using kind), text]
          exact .cons ⟨by simp [UseLeaf.read, UseLeaf.found, UseLeaf.kind],
            by simpa using outerFormed, by simpa using named⟩ .nil
      | itself kind =>
          simp only [useBindings, leafBindings, kind]
          exact .cons ⟨by simp [UseLeaf.read, UseLeaf.found, UseLeaf.kind, aroundLast],
            by simpa using outerFormed, by simp⟩ .nil
      | under kind isFront isLast isPath lastText named =>
          obtain ⟨formed, nonempty, frontText⟩ := isPath.text
          have whole := written_ne_empty (outerFormed.append formed) (by simp [nonempty])
          simp only [useBindings, leafBindings, kind, Source.fieldText?, isFront, isLast,
            Option.map_some, Option.getD_some, frontText, lastText,
            joinPath_written outerFormed formed]
          exact .cons ⟨by simp [UseLeaf.read, UseLeaf.found, UseLeaf.kind, nonEmpty?, whole],
            outerFormed.append formed, by simpa using named⟩ .nil
      | renamed kind isInner isGiven isTree single givenText =>
          have inner := ih isTree outerFormed
            (below (Cursor.mem_children_of_childByField? isInner))
          obtain ⟨binding, rest, isRead, noMore, bindings⟩ := List.forall₂_cons_right_iff.mp inner
          obtain rfl := List.forall₂_nil_right_iff.mp noMore
          simp only [useBindings, kind, Source.fieldText?, isInner, isGiven, bindings,
            Option.map_some, givenText]
          exact .cons (isRead.renamed single _) .nil
      | everything kind isFront isPath text =>
          obtain ⟨formed, nonempty, frontText⟩ := isPath.text
          have star := joinPath_dropEnd_star outerFormed formed nonempty
          simp only [useBindings, leafBindings, kind, text, dropEnd_append_self, frontText, star]
          exact .cons ⟨by simp [UseLeaf.read, UseLeaf.found, UseLeaf.kind],
            outerFormed.append formed, by simp⟩ .nil
      | everythingHere kind text =>
          have alone : joinPath (written outer) (dropEnd "::" (dropEnd "*" "*")) =
              written outer := by
            rw [show dropEnd "::" (dropEnd "*" "*") = "" by decide]
            simp [joinPath]
          simp only [useBindings, leafBindings, kind, text, alone]
          exact .cons ⟨by simp [UseLeaf.read, UseLeaf.found, UseLeaf.kind, dropEnd_append_self],
            by simpa using outerFormed, by simp⟩ .nil
      | scopedList kind isFront isList isPath isTree =>
          obtain ⟨formed, nonempty, frontText⟩ := isPath.text
          have inner := ih isTree (outerFormed.append formed)
            (below (Cursor.mem_children_of_childByField? isList))
          simp only [useBindings, kind, Source.fieldText?, isFront, isList, Option.map_some,
            Option.getD_some, frontText, joinPath_written outerFormed formed]
          simpa [UseTree.leaves] using inner
      | list kind areTrees =>
          have inner := forall₂_useBindings_branches line fuel outer areTrees
            fun child isChild tree isTree =>
              ih isTree outerFormed (below (Cursor.mem_children_of_mem_namedChildren isChild))
          simp only [useBindings, kind]
          simpa [UseTree.leaves] using inner

/-! ## What the names of a leaf call for -/

/-- A path of names is local by its first name. -/
theorem isLocalSpecifier_pathText {names : List String} (named : ∀ name ∈ names, IsName name) :
    isLocalSpecifier (pathText names) = names.head?.any ["crate", "self", "super"].contains := by
  cases names with
  | nil => decide
  | cons first rest =>
      have free := (named first List.mem_cons_self).2
      have head : packageName (pathText (first :: rest)) = first := by
        rw [← String.toList_inj, packageName, toList_beforeFirst]
        cases rest with
        | nil => simpa [pathText] using beforeFirstChars_of_not_mem [':'] free
        | cons second rest =>
            rw [pathText, String.intercalate_cons_cons, String.append_assoc]
            simpa using beforeFirstChars_append_of_not_mem [':']
              (String.intercalate "::" (second :: rest)).toList free
      rw [isLocalSpecifier, head]
      rfl

theorem pathText_concat {names : List String} (nonempty : names ≠ []) (name : String) :
    pathText (names ++ [name]) = pathText names ++ "::" ++ name := by
  induction names with
  | nil => contradiction
  | cons first rest ih =>
      cases rest with
      | nil => simp [pathText, String.intercalate_cons_cons]
      | cons second rest =>
          have behind := ih (by simp)
          simp only [pathText, List.cons_append, String.intercalate_cons_cons] at behind ⊢
          simp only [behind, String.append_assoc]

theorem aroundLast_of_isName {name : String} (named : IsName name) :
    aroundLast name = (name, name) := by
  have single : cutLast? "::" name = none := by
    simp [cutLast?, cutLastChars_of_not_mem [':'] named.2]
  simp [aroundLast, single, nonEmpty?, named.1]

/-- A text that is longer than the two parts has them around its last `::` only if it holds
nothing else. -/
theorem aroundLast_eq_iff {path front last : String} (frontText : front ≠ "")
    (named : IsName last) (longer : front.length + last.length < path.length) :
    aroundLast path = (front, last) ↔ path = front ++ "::" ++ last := by
  constructor
  · intro around
    cases cut : cutLast? "::" path with
    | none =>
        have whole : path = front := by
          simp only [aroundLast, cut, Option.getD_none, Prod.mk.injEq] at around
          exact around.1
        rw [whole] at longer
        omega
    | some parts =>
        have whole := eq_append_of_cutLast? cut
        have isFront : (nonEmpty? parts.1).getD path = front := by simp_all [aroundLast]
        have isLast : (nonEmpty? parts.2).getD path = last := by simp_all [aroundLast]
        rw [nonEmpty?] at isFront isLast
        split at isFront
        case isTrue => rw [← isFront, Option.getD_none] at longer; omega
        case isFalse =>
          split at isLast
          case isTrue => rw [← isLast, Option.getD_none] at longer; omega
          case isFalse => rw [whole, ← isFront, ← isLast]; rfl
  · rintro rfl
    have double : "::".toList = [':', ':'] := by decide
    have cut := cutLast?_append_pair double front named.2
    simp [aroundLast, cut, nonEmpty?, frontText, named.1]

namespace UseLeaf

variable {leaf : UseLeaf}

theorem names_isName (formed : leaf.IsWellFormed) : ∀ name ∈ leaf.names, IsName name := by
  intro name member
  cases List.mem_append.mp member with
  | inl inPath =>
      obtain ⟨segment, isSegment, rfl⟩ := List.mem_map.mp inPath
      exact formed.path.names segment isSegment
  | inr isItem =>
      cases target : leaf.target with
      | item last =>
          obtain rfl : name = last := by simpa [target] using isItem
          exact formed.item name target
      | itself => simp [target] at isItem
      | everything => simp [target] at isItem

/-- What the source of a leaf is made of begins with the first name of its path. -/
theorem isLocalSpecifier_meant (formed : leaf.IsWellFormed) :
    isLocalSpecifier leaf.meant.1 =
      leaf.names.head?.any ["crate", "self", "super"].contains := by
  have named := leaf.names_isName formed
  have ofFront : isLocalSpecifier (pathText
      (if leaf.names.length = 1 then leaf.names else leaf.names.dropLast)) =
        leaf.names.head?.any ["crate", "self", "super"].contains := by
    split
    case isTrue => exact isLocalSpecifier_pathText named
    case isFalse several =>
      rw [isLocalSpecifier_pathText fun name member => named name (List.dropLast_subset _ member)]
      rcases shape : leaf.names with _ | ⟨first, _ | ⟨second, rest⟩⟩
      · rfl
      · simp [shape] at several
      · rfl
  rw [meant]
  split
  · exact isLocalSpecifier_pathText named
  · exact ofFront

/-- A leaf is bound as its names call for if its text gives their source and their symbol. -/
theorem read_eq_binding_iff (formed : leaf.IsWellFormed) (line : Nat) :
    leaf.read line = leaf.binding line ↔ leaf.found = leaf.meant := by
  simp only [read, binding, useBinding, Import.mk.injEq, and_true, true_and, Prod.ext_iff]
  constructor
  · exact fun same => ⟨same.1, same.2.1⟩
  · intro same
    exact ⟨same.1, same.2, by rw [same.1, isLocalSpecifier_meant formed]⟩

/-- An item is bound as its names call for unless its path is spaced. -/
theorem found_eq_meant_iff_of_item {name : String} (formed : leaf.IsWellFormed)
    (target : leaf.target = .item name) : leaf.found = leaf.meant ↔ ¬leaf.IsSpaced := by
  simp only [found, meant, names, IsSpaced, target, or_false, not_exists, not_and, not_not]
  rw [← written_eq_pathText_iff]
  by_cases empty : leaf.path = []
  · simp [empty, written, nonEmpty?, pathText]
  · have text := written_ne_empty formed.path empty
    simp [empty, nonEmpty?, text]

/-- Everything in a path is bound as its names call for unless the path or the star is spaced. -/
theorem found_eq_meant_iff_of_everything {before after : String}
    (target : leaf.target = .everything before after) :
    leaf.found = leaf.meant ↔ ¬leaf.IsSpaced := by
  simp only [found, meant, names, IsSpaced, target, List.append_nil, Prod.mk.injEq, and_true,
    not_or, not_exists, not_and, not_not]
  rw [← written_eq_pathText_iff]
  constructor
  · intro same
    -- Only the last `::` is dropped, so everything else is counted in the length.
    have kept := length_le_length_dropEnd_add "::" (written leaf.path ++ before ++ "::" ++ after)
    have gaps := length_written leaf.path
    rw [same] at kept
    simp only [String.length_append] at kept
    refine ⟨written_eq_pathText_iff.mpr (gapsOf_eq_zero_iff.mp (by omega)), ?_, ?_⟩
    · exact String.length_eq_zero_iff.mp (by omega)
    · exact String.length_eq_zero_iff.mp (by omega)
  · rintro ⟨same, rfl, rfl⟩
    simp [same, dropEnd_append_self]

/-- The path itself is bound as its names call for unless it is spaced. -/
theorem found_eq_meant_iff_of_itself (formed : leaf.IsWellFormed)
    (target : leaf.target = .itself) (enclosed : leaf.path ≠ []) :
    leaf.found = leaf.meant ↔ ¬leaf.IsSpaced := by
  obtain ⟨front, last, path⟩ := (List.eq_nil_or_concat leaf.path).resolve_left enclosed
  rw [List.concat_eq_append] at path
  have lastNamed : IsName last.name := formed.path.names last (by simp [path])
  have lengths := length_written leaf.path
  simp only [found, meant, names, IsSpaced, target, or_false, List.append_nil, not_exists,
    not_and, not_not]
  rw [← written_eq_pathText_iff]
  cases front with
  | nil => simp [path, written, writtenBehind, pathText, aroundLast_of_isName lastNamed]
  | cons first rest =>
      have firstNamed : IsName first.name := formed.path.names first (by simp [path])
      have frontText : pathText ((first :: rest).map (·.name)) ≠ "" := by
        cases rest <;> simp [pathText, String.intercalate_cons_cons, firstNamed.1]
      have nonempty : (first :: rest).map (·.name) ≠ [] := by simp
      have whole := pathText_concat nonempty last.name
      have all : leaf.path.map (·.name) = (first :: rest).map (·.name) ++ [last.name] := by
        simp [path]
      rw [all, whole] at lengths ⊢
      rw [if_neg (by simp), List.dropLast_concat, List.getLast?_concat, Option.getD_some,
        ← aroundLast_eq_iff frontText lastNamed]
      · simp only [String.length_append] at lengths
        have separator : "::".length = 2 := rfl
        omega

/-- A leaf is bound as its names call for unless it is spaced. -/
theorem read_eq_binding_iff_not_isSpaced (formed : leaf.IsWellFormed)
    (enclosed : leaf.target = .itself → leaf.path ≠ []) (line : Nat) :
    leaf.read line = leaf.binding line ↔ ¬leaf.IsSpaced := by
  rw [read_eq_binding_iff formed]
  cases target : leaf.target with
  | item name => exact found_eq_meant_iff_of_item formed target
  | itself => exact found_eq_meant_iff_of_itself formed target (enclosed target)
  | everything before after => exact found_eq_meant_iff_of_everything target

end UseLeaf

/-- A use tree gives one binding for each of its leaves, in their order.  Each is read from the
text of the leaf's path, and it is the one that the names of the path call for unless blanks or
comments stand around a `::` inside that path or in front of a star. -/
theorem use_leaves_bound_unless_spaced {tree : UseTree} (isTree : IsUseTree source place tree)
    (enclosed : ∀ leaf ∈ tree.leaves [], leaf.target = .itself → leaf.path ≠ [])
    {fuel : Nat} (enough : place.node.size ≤ fuel) (line : Nat) :
    List.Forall₂
      (fun binding leaf => binding = leaf.read line ∧
        (binding = leaf.binding line ↔ ¬leaf.IsSpaced))
      (useBindings source line fuel "" place) (tree.leaves []) := by
  have read := forall₂_useBindings isTree isWellFormed_nil enough line
  rw [written] at read
  have leaves := (List.forall₂_and_left _ _).mpr
    ⟨enclosed, List.Forall₂.flip (R := fun leaf binding => IsRead line binding leaf) read⟩
  refine List.Forall₂.flip (leaves.imp ?_)
  rintro leaf binding ⟨leafEnclosed, isRead, formed⟩
  refine ⟨isRead, ?_⟩
  rw [isRead]
  exact leaf.read_eq_binding_iff_not_isSpaced formed leafEnclosed line

/-- A node of a use tree. -/
def useNode (kind : String) (field : Option String) (start stop : Nat) (children : List Node) :
    Node :=
  .mk { index := start, kind, field, isNamed := true, isMissing := false, startByte := start,
        endByte := stop } children

/-- A use tree in which a module is renamed and everything in another one is bound. -/
def renamedSource : Source := .ofBytes "std::{self as core, io::*}".toUTF8

/-- The tree of the text. -/
def renamedNode : Node :=
  useNode "scoped_use_list" none 0 26
    [useNode "identifier" (some "path") 0 3 [],
      useNode "use_list" (some "list") 5 26
        [useNode "use_as_clause" none 6 18
          [useNode "self" (some "path") 6 10 [], useNode "identifier" (some "alias") 14 18 []],
          useNode "use_wildcard" none 20 25 [useNode "identifier" none 20 22 []]]]

/-- What the text names. -/
def renamedTree : UseTree :=
  .list [{ name := "std" }]
    [.leaf { target := .itself, newName := some "core" },
      .leaf { path := [{ name := "io" }], target := .everything "" "" }]

theorem isUseTree_renamedTree : IsUseTree renamedSource (.root renamedNode) renamedTree := by
  refine .scopedList (by decide) rfl rfl (.name (by decide) (by decide +kernel) (by decide))
    (.list (by decide) (.cons ?core (.cons ?star .nil)))
  case core =>
    exact @IsUseTree.renamed _ _ _ _ { target := .itself } _ (by decide) rfl rfl
      (.itself (by decide)) rfl (by decide +kernel)
  case star =>
    exact .everything (by decide) (List.mem_of_mem_head? rfl)
      (.name (by decide) (by decide +kernel) (by decide)) (by decide +kernel)

theorem renamed_module_and_star_bound :
    IsUseTree renamedSource (.root renamedNode) renamedTree ∧
      (∀ leaf ∈ renamedTree.leaves [], leaf.target = .itself → leaf.path ≠ []) ∧
      useBindings renamedSource 1 renamedNode.size "" (.root renamedNode) =
        (renamedTree.leaves []).map (UseLeaf.binding 1) := by
  have enclosed : ∀ leaf ∈ renamedTree.leaves [], leaf.target = .itself → leaf.path ≠ [] := by
    decide
  have tight : ∀ leaf ∈ renamedTree.leaves [], ¬leaf.IsSpaced := by
    simp [renamedTree, UseTree.leaves, UseTree.leavesOfAll, UseLeaf.IsSpaced, Segment.IsTight]
  refine ⟨isUseTree_renamedTree, enclosed, ?_⟩
  have bound := use_leaves_bound_unless_spaced isUseTree_renamedTree enclosed
    (Nat.le_refl renamedNode.size) 1
  have exactly := (List.forall₂_and_left _ _).mpr ⟨tight, List.Forall₂.flip
    (R := fun leaf binding => binding = leaf.read 1 ∧ (binding = leaf.binding 1 ↔ ¬leaf.IsSpaced))
    bound⟩
  rw [← List.forall₂_eq_eq_eq, List.forall₂_map_right_iff]
  exact List.Forall₂.flip (exactly.imp fun leaf binding ⟨notSpaced, _, bound⟩ =>
    bound.mpr notSpaced)

/-- A path with blanks around its `::`. -/
def spacedSource : Source := .ofBytes "crate :: models :: User".toUTF8

/-- The tree of the text. -/
def spacedNode : Node :=
  useNode "scoped_identifier" none 0 23
    [useNode "scoped_identifier" (some "path") 0 15
      [useNode "crate" (some "path") 0 5 [], useNode "identifier" (some "name") 9 15 []],
      useNode "identifier" (some "name") 19 23 []]

/-- What the text names. -/
def spacedLeaf : UseLeaf :=
  { path := [{ name := "crate" }, { name := "models", before := " ", after := " " }]
    target := .item "User" }

/-- The blanks stay in the source, and behind them the crate is not recognised. -/
theorem spaced_path_not_bound_by_names :
    IsUseTree spacedSource (.root spacedNode) (.leaf spacedLeaf) ∧
      useBindings spacedSource 1 spacedNode.size "" (.root spacedNode) =
        [{ source := "crate :: models", imported := "User", isLocal := false, line := 1 }] ∧
      spacedLeaf.binding 1 =
        { source := "crate::models", imported := "User", isLocal := true, line := 1 } := by
  refine ⟨?_, by decide +kernel, by decide +kernel⟩
  have front : IsPath spacedSource
      (.child (.root spacedNode) [] (spacedNode.children.headD spacedNode)) spacedLeaf.path :=
    @IsPath.under _ _ _ _ [{ name := "crate" }] _ _ _ (by decide) rfl rfl
      (.name (by decide) (by decide +kernel) (by decide)) (by decide +kernel) (by decide)
      (by decide +kernel)
  exact .under (by decide) rfl rfl front (by decide +kernel) (by decide)

end ScopeAtlas.Reading.Rust
