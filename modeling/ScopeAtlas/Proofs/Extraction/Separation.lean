import ScopeAtlas.Proofs.Extraction.FileDrafts
import ScopeAtlas.Proofs.Syntax.Places

/-!
# A place for every draft

A step owns the places at which it can lead to a draft: its own place if it drafts a scope, and all
places within the node if it enters one.  Where the steps of every reading own nothing in common,
and nothing outside the construct that is read, no two drafts of a walk have the same place.  Some
readings draft twice at one place; the pairs of drafts for which they do are exempt throughout.
-/

namespace ScopeAtlas.Extraction

open ScopeAtlas.Language ScopeAtlas.Syntax

/-! ## Steps -/

/-- The step can lead to a draft at the place. -/
def Step.Owns : Step → Cursor → Prop
  | .scope draft, place => place = draft.place
  | .enter outer _ _, place => outer.Within place
  | .report _, _ => False

/-- The steps own no place in common, or they make a pair of drafts that is exempt. -/
def Step.Apart (exempt : Draft → Draft → Prop) (first second : Step) : Prop :=
  (∀ place, first.Owns place → ¬second.Owns place) ∨
    ∃ a b, first = .scope a ∧ second = .scope b ∧ exempt a b

/-- The steps own places within a node only, and are apart from each other. -/
structure Tidy (exempt : Draft → Draft → Prop) (outer : Cursor) (steps : List Step) : Prop where
  within : ∀ step ∈ steps, ∀ place, step.Owns place → outer.Within place
  apart : steps.Pairwise (Step.Apart exempt)

variable {exempt : Draft → Draft → Prop} {outer : Cursor} {depth : Nat} {parent : Option String}

@[simp]
theorem tidy_nil : Tidy exempt outer [] where
  within := by simp
  apart := .nil

theorem Tidy.mono {inner : Cursor} {steps : List Step} (inside : outer.Within inner)
    (tidy : Tidy exempt inner steps) : Tidy exempt outer steps where
  within step member place owns := inside.trans (tidy.within step member place owns)
  apart := tidy.apart

theorem tidy_append {first second : List Step} (firstTidy : Tidy exempt outer first)
    (secondTidy : Tidy exempt outer second)
    (across : ∀ a ∈ first, ∀ b ∈ second, Step.Apart exempt a b) :
    Tidy exempt outer (first ++ second) where
  within step member := by
    rcases List.mem_append.mp member with early | late
    · exact firstTidy.within step early
    · exact secondTidy.within step late
  apart := List.pairwise_append.mpr ⟨firstTidy.apart, secondTidy.apart, across⟩

/-- A scope, and steps that do not own its place. -/
theorem tidy_scope_cons {draft : Draft} {rest : List Step} (inside : outer.Within draft.place)
    (restTidy : Tidy exempt outer rest) (free : ∀ step ∈ rest, ¬step.Owns draft.place) :
    Tidy exempt outer (.scope draft :: rest) where
  within step member place owns := by
    rcases List.mem_cons.mp member with rfl | later
    · rw [show place = draft.place from owns]
      exact inside
    · exact restTidy.within step later place owns
  apart := by
    refine List.pairwise_cons.mpr ⟨?_, restTidy.apart⟩
    intro step member
    left
    rintro _ rfl
    exact free step member

theorem tidy_scope {draft : Draft} (inside : outer.Within draft.place) :
    Tidy exempt outer [.scope draft] :=
  tidy_scope_cons inside tidy_nil (by simp)

theorem tidy_map_scope {drafts : List Draft} (inside : ∀ draft ∈ drafts, outer.Within draft.place)
    (apart : drafts.Pairwise fun a b => a.place ≠ b.place ∨ exempt a b) :
    Tidy exempt outer (drafts.map .scope) where
  within step member place owns := by
    obtain ⟨draft, draftMem, rfl⟩ := List.mem_map.mp member
    rw [show place = draft.place from owns]
    exact inside draft draftMem
  apart := by
    refine List.pairwise_map.mpr (apart.imp ?_)
    rintro a b (differ | exempted)
    · left
      rintro _ rfl same
      exact differ same
    · exact Or.inr ⟨_, _, rfl, rfl, exempted⟩

theorem tidy_map_enter {places : List Cursor} (inside : ∀ place ∈ places, outer.Within place)
    (apart : places.Pairwise Cursor.Apart) :
    Tidy exempt outer (places.map fun place => .enter place depth parent) where
  within step member place owns := by
    obtain ⟨entered, enteredMem, rfl⟩ := List.mem_map.mp member
    exact (inside entered enteredMem).trans owns
  apart := List.pairwise_map.mpr (apart.imp Or.inl)

theorem tidy_enter {place : Cursor} (inside : outer.Within place) :
    Tidy exempt outer [.enter place depth parent] :=
  tidy_map_enter (by simpa using inside) (List.pairwise_singleton _ _)

/-- Reports own no place. -/
theorem tidy_map_report (issues : List String) :
    Tidy exempt outer (issues.map .report) where
  within step member place owns := by
    obtain ⟨issue, _, rfl⟩ := List.mem_map.mp member
    exact owns.elim
  apart := List.pairwise_map.mpr
    (List.pairwise_of_forall fun _ _ => Or.inl fun _ owns => owns.elim)

/-- Steps for items that belong to nodes with nothing in common. -/
theorem tidy_flatMap {α : Type} {items : List α} {steps : α → List Step} (base : α → Cursor)
    (inside : ∀ item ∈ items, outer.Within (base item))
    (apart : items.Pairwise fun a b => (base a).Apart (base b))
    (each : ∀ item ∈ items, Tidy exempt (base item) (steps item)) :
    Tidy exempt outer (items.flatMap steps) := by
  induction items with
  | nil => exact tidy_nil
  | cons item rest ih =>
      rw [List.forall_mem_cons] at inside each
      rw [List.pairwise_cons] at apart
      rw [List.flatMap_cons]
      refine tidy_append (each.1.mono inside.1) (ih inside.2 apart.2 each.2) ?_
      intro first firstMem second secondMem
      obtain ⟨other, otherMem, secondMem⟩ := List.mem_flatMap.mp secondMem
      left
      intro place ownsFirst ownsSecond
      exact apart.1 other otherMem place (each.1.within first firstMem place ownsFirst)
        ((each.2 other otherMem).within second secondMem place ownsSecond)

theorem tidy_enterChildren {place : Cursor} (inside : outer.Within place) :
    Tidy exempt outer (enterChildren place depth parent) := by
  refine tidy_map_enter ?_ (Cursor.pairwise_apart_of_sublist_children (List.Sublist.refl _))
  intro child isChild
  exact inside.trans (Cursor.within_of_mem_children isChild)

/-- A scope at the node, and children of a place within it. -/
theorem tidy_scope_map_enter {draft : Draft} {body : Cursor} {entered : List Cursor}
    (here : draft.place = outer) (inside : outer.Within body)
    (below : entered.Sublist body.children) :
    Tidy exempt outer (.scope draft :: entered.map fun child => .enter child depth parent) := by
  refine tidy_scope_cons (here ▸ Cursor.Within.refl _) (tidy_map_enter ?_ ?_) ?_
  · intro child member
    exact inside.trans (Cursor.within_of_mem_children (below.subset member))
  · exact Cursor.pairwise_apart_of_sublist_children below
  · -- The children are deeper than the body, and the body is not above the node.
    intro step member owns
    obtain ⟨child, isEntered, rfl⟩ := List.mem_map.mp member
    have deeper : child.level ≤ outer.level := here ▸ Cursor.Within.level_le owns
    have above := inside.level_le
    rw [Cursor.level_of_mem_children (below.subset isEntered)] at deeper
    omega

/-- The usual form of a reading: a scope at the node, and the children of a body below it. -/
theorem tidy_scope_enterBody {draft : Draft} {body : Option Cursor} (here : draft.place = outer)
    (inside : ∀ place ∈ body, outer.Within place) :
    Tidy exempt outer (.scope draft :: enterBody body depth parent) := by
  cases body with
  | none => exact tidy_scope (here ▸ Cursor.Within.refl _)
  | some body => exact tidy_scope_map_enter here (inside body rfl) (List.Sublist.refl _)

/-! ## The walk -/

/-- The drafts lie within a node, and no two have the same place unless they are exempt. -/
structure TidyDrafts (exempt : Draft → Draft → Prop) (outer : Cursor) (drafts : List Draft) :
    Prop where
  within : ∀ draft ∈ drafts, outer.Within draft.place
  apart : drafts.Pairwise fun a b => a.place ≠ b.place ∨ exempt a b

theorem Step.Apart.drafts {first second : Step} (apart : Step.Apart exempt first second)
    {a b : Draft} (ownsFirst : first.Owns a.place)
    (onlyFirst : ∀ other, first = .scope other → other = a) (ownsSecond : second.Owns b.place)
    (onlySecond : ∀ other, second = .scope other → other = b) :
    a.place ≠ b.place ∨ exempt a b := by
  rcases apart with disjoint | ⟨x, y, isFirst, isSecond, exempted⟩
  · left
    intro same
    exact disjoint _ ownsFirst (same ▸ ownsSecond)
  · right
    rw [← onlyFirst x isFirst, ← onlySecond y isSecond]
    exact exempted

section Walk

variable {enter : Cursor → Nat → Option String → Gathering}
  (entered : ∀ place depth parent, TidyDrafts exempt place (enter place depth parent).drafts)

include entered

/-- Every gathered draft comes from a step that owns its place. -/
theorem exists_owner_of_mem_gatherSteps {steps : List Step} {draft : Draft}
    (member : draft ∈ (gatherSteps enter steps).drafts) :
    ∃ step ∈ steps, step.Owns draft.place ∧ ∀ other, step = .scope other → other = draft := by
  induction steps with
  | nil => contradiction
  | cons step rest ih =>
      have later : draft ∈ (gatherSteps enter rest).drafts → ∃ owner ∈ step :: rest,
          owner.Owns draft.place ∧ ∀ other, owner = .scope other → other = draft := by
        intro member
        obtain ⟨owner, ownerMem, owns⟩ := ih member
        exact ⟨owner, List.mem_cons_of_mem _ ownerMem, owns⟩
      cases step with
      | scope first =>
          rcases List.mem_cons.mp member with rfl | member
          · exact ⟨_, List.mem_cons_self, rfl, fun _ same => (Step.scope.inj same).symm⟩
          · exact later member
      | enter place depth parent =>
          have here : draft ∈ (enter place depth parent).drafts → ∃ owner ∈
              Step.enter place depth parent :: rest,
              owner.Owns draft.place ∧ ∀ other, owner = .scope other → other = draft := by
            intro member
            exact ⟨_, List.mem_cons_self, (entered place depth parent).within draft member, by simp⟩
          simp only [gatherSteps] at member
          split at member
          · exact here member
          · rcases List.mem_append.mp member with member | member
            · exact here member
            · exact later member
      | report issue => exact later member

theorem tidyDrafts_gatherSteps {steps : List Step} (tidy : Tidy exempt outer steps) :
    TidyDrafts exempt outer (gatherSteps enter steps).drafts where
  within draft member := by
    obtain ⟨step, stepMem, owns, _⟩ := exists_owner_of_mem_gatherSteps entered member
    exact tidy.within step stepMem draft.place owns
  apart := by
    have apart := tidy.apart
    clear tidy
    induction steps with
    | nil => exact .nil
    | cons step rest ih =>
        obtain ⟨stepApart, restApart⟩ := List.pairwise_cons.mp apart
        -- What the step leads to is apart from what the later steps lead to.
        have across : ∀ a, step.Owns a.place → (∀ other, step = .scope other → other = a) →
            ∀ b ∈ (gatherSteps enter rest).drafts, a.place ≠ b.place ∨ exempt a b := by
          intro a ownsStep onlyStep b later
          obtain ⟨owner, ownerMem, owns, only⟩ := exists_owner_of_mem_gatherSteps entered later
          exact (stepApart owner ownerMem).drafts ownsStep onlyStep owns only
        cases step with
        | scope draft =>
            exact List.pairwise_cons.mpr
              ⟨across draft rfl fun _ same => (Step.scope.inj same).symm, ih restApart⟩
        | enter place depth parent =>
            simp only [gatherSteps]
            split
            · exact (entered place depth parent).apart
            · refine List.pairwise_append.mpr
                ⟨(entered place depth parent).apart, ih restApart, ?_⟩
              intro a here
              exact across a ((entered place depth parent).within a here) (by simp)
        | report issue => exact ih restApart

end Walk

theorem Tidy.sublist {steps fewer : List Step} (tidy : Tidy exempt outer steps)
    (sublist : fewer.Sublist steps) : Tidy exempt outer fewer where
  within step member := tidy.within step (sublist.subset member)
  apart := tidy.apart.sublist sublist

/-- The steps of every reading are tidy. -/
def Strategy.IsTidy (strategy : Strategy) (ctx : Context) (exempt : Draft → Draft → Prop) : Prop :=
  ∀ construct reading, strategy.reading? construct = some reading →
    ∀ place depth parent, Tidy exempt place (stepsOf (reading ctx place depth parent))

theorem tidy_stepsAt {strategy : Strategy} {ctx : Context} (tidy : strategy.IsTidy ctx exempt)
    (place : Cursor) (depth : Nat) (parent : Option String) :
    Tidy exempt place (stepsAt strategy ctx place depth parent) := by
  rcases stepsAt_cases strategy ctx place depth parent with
    ⟨construct, reading, steps, _, chosen, read, same⟩ | ⟨issues, same⟩
  · rw [same, ← stepsOf_ok steps, ← read]
    exact tidy construct reading chosen place depth parent
  · rw [same]
    exact tidy_append (tidy_map_report issues) (tidy_enterChildren (Cursor.Within.refl place))
      (by simp [Step.Apart, Step.Owns])

/-- No two drafts of a walk have the same place unless they are exempt. -/
theorem tidyDrafts_gather {strategy : Strategy} {ctx : Context}
    (tidy : strategy.IsTidy ctx exempt) (fuel : Nat) (place : Cursor) (depth : Nat)
    (parent : Option String) :
    TidyDrafts exempt place (gather strategy ctx fuel place depth parent).drafts := by
  induction fuel generalizing place depth parent with
  | zero => exact ⟨by simp [gather], .nil⟩
  | succ fuel ih =>
      exact tidyDrafts_gatherSteps ih
        ((tidy_stepsAt tidy place depth parent).sublist (ctx.room_sublist place _))

end ScopeAtlas.Extraction
