import Mathlib.Data.List.Nodup
import Mathlib.Data.List.Pairwise
import Mathlib.Logic.Relation
import ScopeAtlas.Syntax.Cursor

/-!
# Ways through a tree

A place lies within another when children lead down to it.  A cursor holds its whole way from the
root, so it is known which places it lies within: one at each level up to its own.  Hence subtrees
of different siblings share no place, and the list of all places below a cursor has no repetition.
Where siblings follow each other in the text, so do all places of which neither lies within the
other.  A search with a work list finds what stands at the places to which its own choice of
children leads, and nothing else.
-/

namespace ScopeAtlas.Syntax.Cursor

/-! ## Children -/

theorem mem_siblings_iff {parent child : Cursor} {before nodes : List Node} :
    child ∈ siblings parent before nodes ↔
      ∃ passed node rest, nodes = passed ++ node :: rest ∧
        child = .child parent (passed.reverse ++ before) node := by
  induction nodes generalizing before with
  | nil => simp [siblings]
  | cons first rest ih =>
      rw [siblings, List.mem_cons, ih]
      constructor
      · rintro (rfl | ⟨passed, node, later, rfl, rfl⟩)
        · exact ⟨[], first, rest, rfl, rfl⟩
        · exact ⟨first :: passed, node, later, rfl, by simp⟩
      · rintro ⟨passed, node, later, split, rfl⟩
        cases passed with
        | nil =>
            obtain ⟨rfl, rfl⟩ := List.cons.inj split
            exact Or.inl rfl
        | cons head passed =>
            obtain ⟨rfl, rfl⟩ := List.cons.inj split
            exact Or.inr ⟨passed, node, later, rfl, by simp⟩

/-- A child is a node of its parent together with the nodes before it. -/
theorem mem_children_iff {parent child : Cursor} :
    child ∈ parent.children ↔
      ∃ passed node rest, parent.node.children = passed ++ node :: rest ∧
        child = .child parent passed.reverse node := by
  simp [children, mem_siblings_iff]

theorem parent?_of_mem_children {parent child : Cursor} (member : child ∈ parent.children) :
    child.parent? = some parent := by
  obtain ⟨_, _, _, _, rfl⟩ := mem_children_iff.mp member
  rfl

theorem level_of_mem_children {parent child : Cursor} (member : child ∈ parent.children) :
    child.level = parent.level + 1 := by
  obtain ⟨_, _, _, _, rfl⟩ := mem_children_iff.mp member
  rfl

theorem nodup_siblings (parent : Cursor) (before nodes : List Node) :
    (siblings parent before nodes).Nodup := by
  induction nodes generalizing before with
  | nil => exact List.nodup_nil
  | cons node rest ih =>
      rw [siblings, List.nodup_cons]
      refine ⟨?_, ih (node :: before)⟩
      -- Every later sibling has passed more nodes.
      intro member
      obtain ⟨passed, _, _, _, same⟩ := mem_siblings_iff.mp member
      have lengths := congrArg List.length (Cursor.child.inj same).2.1
      simp at lengths
      omega

theorem nodup_children (parent : Cursor) : parent.children.Nodup :=
  nodup_siblings parent [] parent.node.children

/-- What holds of a place if it holds of its children holds of every place. -/
@[elab_as_elim]
theorem childInduction {motive : Cursor → Prop}
    (step : ∀ place, (∀ child ∈ place.children, motive child) → motive place) (place : Cursor) :
    motive place :=
  step place fun child _ => childInduction step child
termination_by place.node.size
decreasing_by
  rename_i isChild
  exact size_lt_of_mem_children isChild

/-! ## Lying within -/

/-- Children lead from the outer place down to the inner one. -/
def Within (outer inner : Cursor) : Prop :=
  Relation.ReflTransGen (fun parent child => child ∈ parent.children) outer inner

@[refl]
theorem Within.refl (place : Cursor) : place.Within place := Relation.ReflTransGen.refl

theorem Within.trans {first second third : Cursor} (outer : first.Within second)
    (inner : second.Within third) : first.Within third :=
  Relation.ReflTransGen.trans outer inner

theorem within_of_mem_children {parent child : Cursor} (member : child ∈ parent.children) :
    parent.Within child :=
  Relation.ReflTransGen.single member

theorem within_of_childByField? {parent child : Cursor} {field : String}
    (found : parent.childByField? field = some child) : parent.Within child :=
  within_of_mem_children (mem_children_of_childByField? found)

theorem Within.level_le {outer inner : Cursor} (within : outer.Within inner) :
    outer.level ≤ inner.level := by
  induction within with
  | refl => exact Nat.le_refl _
  | tail _ member ih =>
      rw [level_of_mem_children member]
      exact Nat.le_succ_of_le ih

/-- A place lies within nothing that is below it. -/
theorem not_within_of_mem_children {parent child : Cursor} (member : child ∈ parent.children) :
    ¬child.Within parent := by
  intro within
  have deeper := within.level_le
  rw [level_of_mem_children member] at deeper
  omega

/-- Among the places of one level, a place lies within one at most. -/
theorem Within.eq_of_level_eq {first second inner : Cursor} (inFirst : first.Within inner)
    (inSecond : second.Within inner) (level : first.level = second.level) : first = second := by
  induction inFirst with
  | refl =>
      rcases inSecond.cases_tail with same | ⟨parent, inParent, member⟩
      · exact same
      · have above := Within.level_le inParent
        rw [level_of_mem_children member] at level
        omega
  | @tail parent child inParent member ih =>
      rcases inSecond.cases_tail with rfl | ⟨other, inOther, otherMember⟩
      · have above := Within.level_le inParent
        rw [level_of_mem_children member] at level
        omega
      · have same := parent?_of_mem_children member
        rw [parent?_of_mem_children otherMember, Option.some.injEq] at same
        exact ih (same ▸ inOther)

/-- No place lies within both. -/
def Apart (first second : Cursor) : Prop := ∀ inner, first.Within inner → ¬second.Within inner

theorem apart_of_level_eq {first second : Cursor} (level : first.level = second.level)
    (differ : first ≠ second) : first.Apart second :=
  fun _ inFirst inSecond => differ (inFirst.eq_of_level_eq inSecond level)

/-- The subtrees of different siblings share no place. -/
theorem apart_of_mem_children {parent first second : Cursor} (firstMem : first ∈ parent.children)
    (secondMem : second ∈ parent.children) (differ : first ≠ second) : first.Apart second := by
  refine apart_of_level_eq ?_ differ
  rw [level_of_mem_children firstMem, level_of_mem_children secondMem]

theorem pairwise_apart_of_sublist_children {parent : Cursor} {places : List Cursor}
    (sublist : places.Sublist parent.children) : places.Pairwise Apart := by
  refine (sublist.nodup (nodup_children parent)).imp_of_mem ?_
  intro first second firstMem secondMem differ
  exact apart_of_mem_children (sublist.subset firstMem) (sublist.subset secondMem) differ

/-! ## All places below a cursor -/

theorem preorderAll_eq_flatMap (parent : Cursor) (before nodes : List Node) :
    preorderAll parent before nodes = (siblings parent before nodes).flatMap preorder := by
  induction nodes generalizing before with
  | nil => simp [preorderAll, siblings]
  | cons node rest ih => rw [preorderAll, siblings, List.flatMap_cons, ih, preorder]

theorem preorder_eq_cons (place : Cursor) :
    place.preorder = place :: place.children.flatMap preorder := by
  rw [children, ← preorderAll_eq_flatMap]
  cases place with
  | root node =>
      cases node
      simp only [preorder, preorderAt, Cursor.node, Node.children]
  | child parent before node =>
      cases node
      simp only [preorder, preorderAt, Cursor.node, Node.children]

/-- The places at and below a cursor are those that lie within it. -/
theorem mem_preorder_iff {outer inner : Cursor} : inner ∈ outer.preorder ↔ outer.Within inner := by
  constructor
  · intro member
    induction outer using childInduction with
    | step outer ih =>
        rw [preorder_eq_cons, List.mem_cons, List.mem_flatMap] at member
        rcases member with rfl | ⟨child, isChild, below⟩
        · exact Within.refl inner
        · exact .head isChild (ih child isChild below)
  · intro within
    induction within using Relation.ReflTransGen.head_induction_on with
    | refl =>
        rw [preorder_eq_cons]
        exact List.mem_cons_self
    | head isChild _ ih =>
        rw [preorder_eq_cons]
        exact List.mem_cons_of_mem _ (List.mem_flatMap.mpr ⟨_, isChild, ih⟩)

theorem nodup_preorder (place : Cursor) : place.preorder.Nodup := by
  induction place using childInduction with
  | step place ih =>
      rw [preorder_eq_cons, List.nodup_cons, List.nodup_flatMap]
      refine ⟨?_, ?_, ?_⟩
      · rw [List.mem_flatMap]
        rintro ⟨child, isChild, below⟩
        exact not_within_of_mem_children isChild (mem_preorder_iff.mp below)
      · exact ih
      · refine (pairwise_apart_of_sublist_children (List.Sublist.refl place.children)).imp ?_
        intro first second apart inner inFirst inSecond
        exact apart inner (mem_preorder_iff.mp inFirst) (mem_preorder_iff.mp inSecond)

/-! ## Order in the text -/

/-- Every node below a place covers its children, and its children follow each other. -/
structure InOrder (root : Cursor) : Prop where
  covers : ∀ parent, root.Within parent → ∀ child ∈ parent.children,
    parent.startByte ≤ child.startByte ∧ child.endByte ≤ parent.endByte
  follows : ∀ parent, root.Within parent →
    parent.children.Pairwise fun first second => first.endByte ≤ second.startByte

theorem inOrder_iff {root : Cursor} :
    root.InOrder ↔ ∀ parent ∈ root.preorder,
      (∀ child ∈ parent.children,
        parent.startByte ≤ child.startByte ∧ child.endByte ≤ parent.endByte) ∧
      parent.children.Pairwise fun first second => first.endByte ≤ second.startByte := by
  simp only [mem_preorder_iff]
  constructor
  · intro ordered parent within
    exact ⟨ordered.covers parent within, ordered.follows parent within⟩
  · intro each
    exact ⟨fun parent within => (each parent within).1, fun parent within => (each parent within).2⟩

instance (root : Cursor) : Decidable root.InOrder := decidable_of_iff _ inOrder_iff.symm

theorem InOrder.within {root inner : Cursor} (ordered : root.InOrder) (within : root.Within inner) :
    inner.InOrder where
  covers parent below := ordered.covers parent (within.trans below)
  follows parent below := ordered.follows parent (within.trans below)

theorem InOrder.covers_within {root inner : Cursor} (ordered : root.InOrder)
    (within : root.Within inner) :
    root.startByte ≤ inner.startByte ∧ inner.endByte ≤ root.endByte := by
  induction within with
  | refl => exact ⟨Nat.le_refl _, Nat.le_refl _⟩
  | @tail parent child below isChild ih =>
      have here := ordered.covers parent below child isChild
      omega

/-- Of two places, one lies within the other, or one ends before the other begins. -/
theorem InOrder.nested_or_apart {root first second : Cursor} (ordered : root.InOrder)
    (inFirst : root.Within first) (inSecond : root.Within second) :
    (first.Within second ∨ second.Within first) ∨
      first.endByte ≤ second.startByte ∨ second.endByte ≤ first.startByte := by
  induction inFirst using Relation.ReflTransGen.head_induction_on with
  | refl => exact Or.inl (Or.inl inSecond)
  | @head parent child isChild below ih =>
      rcases inSecond.cases_head with rfl | ⟨other, isOther, belowOther⟩
      · exact Or.inl (Or.inr (.head isChild below))
      · by_cases same : child = other
        · subst same
          exact ih (ordered.within (within_of_mem_children isChild)) belowOther
        · right
          -- The two places lie within different children of one node.
          have either : child.endByte ≤ other.startByte ∨ other.endByte ≤ child.startByte := by
            have pairwise : parent.children.Pairwise fun a b =>
                a.endByte ≤ b.startByte ∨ b.endByte ≤ a.startByte :=
              (ordered.follows parent (Within.refl parent)).imp Or.inl
            have : Std.Symm fun a b : Cursor =>
                a.endByte ≤ b.startByte ∨ b.endByte ≤ a.startByte := ⟨fun _ _ => Or.symm⟩
            exact pairwise.forall isChild isOther same
          have coversFirst :=
            (ordered.within (within_of_mem_children isChild)).covers_within below
          have coversSecond :=
            (ordered.within (within_of_mem_children isOther)).covers_within belowOther
          omega

/-! ## Searching -/

/-- The visitor puts the child on the work list when it visits the parent. -/
def Enters {α : Type} (visit : Cursor → List α × (Cursor → Bool)) (parent child : Cursor) : Prop :=
  child ∈ parent.children ∧ (visit parent).2 child = true

/-- A search finds exactly what its visitor finds at the places to which it is led. -/
theorem mem_explore_iff {α : Type} {visit : Cursor → List α × (Cursor → Bool)}
    {work : List Cursor} {item : α} :
    item ∈ explore visit work ↔
      ∃ start ∈ work, ∃ place, Relation.ReflTransGen (Enters visit) start place ∧
        item ∈ (visit place).1 := by
  fun_induction explore visit work with
  | case1 => simp
  | case2 place rest found ih =>
      rw [List.mem_append, ih]
      constructor
      · rintro (here | ⟨start, member, goal, leads, at_goal⟩)
        · exact ⟨place, List.mem_cons_self, place, .refl, here⟩
        · rcases List.mem_append.mp member with child | later
          · exact ⟨place, List.mem_cons_self, goal, .head (List.mem_filter.mp child) leads, at_goal⟩
          · exact ⟨start, List.mem_cons_of_mem _ later, goal, leads, at_goal⟩
      · rintro ⟨start, member, goal, leads, at_goal⟩
        rcases List.mem_cons.mp member with rfl | later
        · -- The way from the first place either ends there or goes on through an entered child.
          rcases leads.cases_head with rfl | ⟨child, enters, leads⟩
          · exact Or.inl at_goal
          · exact Or.inr ⟨child, List.mem_append_left _ (List.mem_filter.mpr enters), goal, leads,
              at_goal⟩
        · exact Or.inr ⟨start, List.mem_append_right _ later, goal, leads, at_goal⟩

/-- A work list of two parts is searched part by part. -/
theorem explore_append {α : Type} (visit : Cursor → List α × (Cursor → Bool))
    (first second : List Cursor) :
    explore visit (first ++ second) = explore visit first ++ explore visit second := by
  fun_induction explore visit first with
  | case1 => rfl
  | case2 place rest found ih =>
      rw [List.cons_append, explore, ← List.append_assoc, ih, ← List.append_assoc]

theorem explore_eq_flatMap {α : Type} (visit : Cursor → List α × (Cursor → Bool))
    (work : List Cursor) : explore visit work = work.flatMap fun place => explore visit [place] := by
  induction work with
  | nil => rw [explore, List.flatMap_nil]
  | cons place rest ih =>
      rw [List.flatMap_cons, ← ih, ← explore_append, List.singleton_append]

/-- A search from one place finds what is found there, and then what a search from each of the
entered children finds. -/
theorem explore_singleton {α : Type} (visit : Cursor → List α × (Cursor → Bool)) (place : Cursor) :
    explore visit [place] = (visit place).1 ++
      (place.children.filter (visit place).2).flatMap fun child => explore visit [child] := by
  rw [explore, List.append_nil, explore_eq_flatMap]

end ScopeAtlas.Syntax.Cursor
