import Mathlib.Data.List.Perm.Subperm
import ScopeAtlas.Proofs.Extraction.Identity

/-!
# Scopes inside scopes

A reading drafts scopes at the depth and under the container it was called with, and enters nodes
either with the same depth and container or, inside a scope it has just drafted, one level deeper
and under the name of that scope.  Where all readings of a language do so, every draft of a walk
that names a container lies within a node of a draft of that name, one level up.

What lies within a node is on its lines, adds at most its branches and has at most its problems.
The last row of a scope needs care: a node that ends at the beginning of a row does not occupy it.
So a container surrounds the scopes inside it, and since it begins no later and is less deep, it is
listed before them.
-/

namespace ScopeAtlas.Syntax

/-! ## Rows -/

namespace Source

/-- Every offset before the beginning of a row is on an earlier row. -/
theorem row_point_lt {source : Source} {first second : Nat} (lt : first < second)
    (begins : (source.point second).column = 0) (below : 0 < (source.point second).row) :
    (source.point first).row < (source.point second).row := by
  rw [row_point] at below
  rw [row_point, row_point, source.takeWhile_lineFeeds (Nat.le_of_lt lt)]
  -- The last line feed before the row ends the row before, so it is not before the first offset.
  cases found : (source.lineFeeds.takeWhile (· < second)).getLast? with
  | none =>
      rw [List.getLast?_eq_none_iff] at found
      simp [found] at below
  | some lineFeed =>
      simp only [point, found] at begins
      obtain ⟨earlier, passed⟩ := List.getLast?_eq_some_iff.mp found
      have late : ¬lineFeed < first := by omega
      rw [passed]
      have stops : (earlier ++ [lineFeed]).takeWhile (· < first) = earlier.takeWhile (· < first) := by
        rw [List.takeWhile_append]
        split
        · rename_i whole
          rw [List.takeWhile_cons_of_neg (by simpa using late), List.append_nil]
          exact ((List.takeWhile_sublist _).eq_of_length whole).symm
        · rfl
      rw [stops, List.length_append, List.length_singleton]
      exact Nat.lt_succ_of_le (List.takeWhile_sublist _).length_le

/-- The last row of a byte range that it occupies. -/
def lastRow (source : Source) (startByte endByte : Nat) : Nat :=
  let stop := source.point endByte
  if stop.column == 0 && (source.point startByte).row < stop.row then stop.row - 1 else stop.row

theorem lastRow_le_row (source : Source) (startByte endByte : Nat) :
    source.lastRow startByte endByte ≤ (source.point endByte).row := by
  rw [lastRow]
  split
  · exact Nat.sub_le _ _
  · exact Nat.le_refl _

theorem row_le_lastRow (source : Source) {startByte endByte : Nat} (le : startByte ≤ endByte) :
    (source.point startByte).row ≤ source.lastRow startByte endByte := by
  rw [lastRow]
  split
  · rename_i adjusted
    simp only [Bool.and_eq_true, decide_eq_true_eq] at adjusted
    omega
  · exact source.row_point_le le

/-- A range that is not empty occupies no row after the last row of a range that ends later. -/
theorem lastRow_le_lastRow (source : Source) {outerStart outerEnd innerStart innerEnd : Nat}
    (occupied : innerStart < innerEnd) (ends : innerEnd ≤ outerEnd) :
    source.lastRow innerStart innerEnd ≤ source.lastRow outerStart outerEnd := by
  have bounded := source.lastRow_le_row innerStart innerEnd
  have ordered := source.row_point_le ends
  by_cases adjusted : (source.point outerEnd).column = 0 ∧
      (source.point outerStart).row < (source.point outerEnd).row
  · have outer : source.lastRow outerStart outerEnd = (source.point outerEnd).row - 1 := by
      simp [lastRow, adjusted]
    have below : 0 < (source.point outerEnd).row := by omega
    rw [outer]
    rcases Nat.lt_or_eq_of_le ends with earlier | same
    · have before := row_point_lt earlier adjusted.1 below
      omega
    · -- Both end at the same beginning of a row, and the inner range begins before it.
      subst same
      have before := row_point_lt occupied adjusted.1 below
      simp [lastRow, adjusted.1, before]
  · have outer : source.lastRow outerStart outerEnd = (source.point outerEnd).row := by
      rw [lastRow, if_neg]
      simpa using adjusted
    omega

end Source

end ScopeAtlas.Syntax

namespace ScopeAtlas.Extraction

open ScopeAtlas.Language ScopeAtlas.Syntax

/-! ## Drafts within nodes -/

/-- All nodes of the draft lie within the node: it has only one, or they are siblings there. -/
inductive Draft.LiesWithin (outer : Cursor) (draft : Draft) : Prop where
  | single (alone : draft.extent = []) (inside : outer.Within draft.place)
  | siblings (base : Cursor) (inside : outer.Within base)
      (listed : draft.places.Sublist base.children)

/-- The draft names the other as its container, is one level below it and lies within one of its
nodes. -/
structure Draft.Encloses (container draft : Draft) : Prop where
  named : draft.parent = some container.name
  level : draft.depth = container.depth + 1
  inside : ∃ home ∈ container.places, draft.LiesWithin home

namespace Draft

variable {root outer : Cursor} {draft container : Draft}

theorem lastPlace_mem_places (draft : Draft) : draft.lastPlace ∈ draft.places := by
  rw [lastPlace, places]
  cases found : draft.extent.getLast? with
  | none => exact List.mem_cons_self
  | some last => exact List.mem_cons_of_mem _ (List.mem_of_getLast? found)

theorem LiesWithin.mono {inner : Cursor} (inside : outer.Within inner)
    (lies : draft.LiesWithin inner) : draft.LiesWithin outer := by
  cases lies with
  | single alone within => exact .single alone (inside.trans within)
  | siblings base within listed => exact .siblings base (inside.trans within) listed

theorem LiesWithin.within (lies : draft.LiesWithin outer) :
    ∀ place ∈ draft.places, outer.Within place := by
  cases lies with
  | single alone inside => simpa [places, alone] using inside
  | siblings base inside listed =>
      intro place member
      exact inside.trans (Cursor.within_of_mem_children (listed.subset member))

theorem LiesWithin.pairwise_apart (lies : draft.LiesWithin outer) :
    draft.places.Pairwise Cursor.Apart := by
  cases lies with
  | single alone _ => simp [places, alone]
  | siblings base _ listed => exact Cursor.pairwise_apart_of_sublist_children listed

/-- No place of a draft is counted twice. -/
theorem LiesWithin.nodup_flatMap_preorder (lies : draft.LiesWithin outer) :
    (draft.places.flatMap Cursor.preorder).Nodup := by
  rw [List.nodup_flatMap]
  refine ⟨fun place _ => place.nodup_preorder, lies.pairwise_apart.imp ?_⟩
  intro first second apart place inFirst inSecond
  exact apart place (Cursor.mem_preorder_iff.mp inFirst) (Cursor.mem_preorder_iff.mp inSecond)

section Ranges

variable (ordered : root.InOrder)
  (forward : ∀ place ∈ root.preorder, place.startByte ≤ place.endByte)

include ordered forward

/-- A draft reaches from the beginning of its first node to the end of its last one. -/
theorem LiesWithin.covers (lies : draft.LiesWithin root) {place : Cursor}
    (member : place ∈ draft.places) :
    draft.place.startByte ≤ place.startByte ∧ place.endByte ≤ draft.lastPlace.endByte := by
  have forwardAt : ∀ place ∈ draft.places, place.startByte ≤ place.endByte := fun place member =>
    forward place (Cursor.mem_preorder_iff.mpr (lies.within place member))
  cases lies with
  | single alone _ =>
      obtain rfl : place = draft.place := by simpa [places, alone] using member
      simp [lastPlace, alone]
  | siblings base inside listed =>
      have follows := (ordered.follows base inside).sublist listed
      obtain ⟨first, rest⟩ := List.pairwise_cons.mp follows
      constructor
      · rcases List.mem_cons.mp member with rfl | later
        · exact Nat.le_refl _
        · exact Nat.le_trans (forwardAt _ List.mem_cons_self) (first place later)
      · cases found : draft.extent.getLast? with
        | none =>
            obtain rfl : place = draft.place := by
              simpa [places, List.getLast?_eq_none_iff.mp found] using member
            simp [lastPlace, found]
        | some last =>
            obtain ⟨earlier, split⟩ := List.getLast?_eq_some_iff.mp found
            have reaches : draft.lastPlace = last := by simp [lastPlace, found]
            have listed : draft.places = (draft.place :: earlier) ++ [last] := by
              simp [places, split]
            rw [listed, List.pairwise_append] at follows
            rw [reaches]
            rw [listed] at member forwardAt
            rcases List.mem_append.mp member with before | isLast
            · exact Nat.le_trans (follows.2.2 place before last (List.mem_singleton_self _))
                (forwardAt last (by simp))
            · rw [List.mem_singleton.mp isLast]

theorem LiesWithin.start_le_end (lies : draft.LiesWithin root) :
    draft.place.startByte ≤ draft.lastPlace.endByte := by
  have first : draft.place ∈ draft.places := List.mem_cons_self
  exact Nat.le_trans (forward _ (Cursor.mem_preorder_iff.mpr (lies.within _ first)))
    (lies.covers ordered forward first).2

/-- The range of a draft is within the range of a draft around it. -/
theorem Encloses.covers (encloses : container.Encloses draft) (lies : container.LiesWithin root) :
    container.place.startByte ≤ draft.place.startByte ∧
      draft.lastPlace.endByte ≤ container.lastPlace.endByte := by
  obtain ⟨home, isHome, inside⟩ := encloses.inside
  have reach := lies.covers ordered forward isHome
  have below := ordered.within (lies.within home isHome)
  have first := below.covers_within (inside.within draft.place List.mem_cons_self)
  have last := below.covers_within (inside.within draft.lastPlace draft.lastPlace_mem_places)
  omega

end Ranges

/-- A draft has at most the branches of a draft around it. -/
theorem Encloses.complexity_le (encloses : container.Encloses draft) (table : NodeTable) :
    complexity table draft.places ≤ complexity table container.places := by
  obtain ⟨home, isHome, inside⟩ := encloses.inside
  have subset : draft.places.flatMap Cursor.preorder ⊆ container.places.flatMap Cursor.preorder := by
    intro place below
    obtain ⟨start, startMem, below⟩ := List.mem_flatMap.mp below
    have within := (inside.within start startMem).trans (Cursor.mem_preorder_iff.mp below)
    exact List.mem_flatMap.mpr ⟨home, isHome, Cursor.mem_preorder_iff.mpr within⟩
  have fewer := (List.subperm_of_subset inside.nodup_flatMap_preorder subset).filter
    (isBranch table)
  rw [complexity, complexity]
  exact Nat.add_le_add_left fewer.length_le 1

end Draft

theorem mem_problemsWithin_mono {ctx : Context} {outerStart outerEnd innerStart innerEnd : Nat}
    (starts : outerStart ≤ innerStart) (ends : innerEnd ≤ outerEnd) {issue : String}
    (member : issue ∈ ctx.problemsWithin innerStart innerEnd) :
    issue ∈ ctx.problemsWithin outerStart outerEnd := by
  obtain ⟨problem, found, rfl⟩ := List.mem_map.mp member
  refine List.mem_map_of_mem (List.mem_filter.mpr ⟨(List.mem_filter.mp found).1, ?_⟩)
  have inside := (List.mem_filter.mp found).2
  simp only [Bool.and_eq_true, decide_eq_true_eq] at inside ⊢
  omega

/-! ## Steps -/

/-- The depth and the container with which a node is entered: no container, those of the reading, or
those inside a scope that was drafted before and has the node within it. -/
inductive Continues (depth : Nat) (parent : Option String) (made : List Draft) (place : Cursor) :
    Nat → Option String → Prop where
  | outermost (level : Nat) : Continues depth parent made place level none
  | alongside : Continues depth parent made place depth parent
  | inside (container : Draft) (drafted : container ∈ made) (home : Cursor)
      (isHome : home ∈ container.places) (within : home.Within place) :
      Continues depth parent made place (container.depth + 1) (some container.name)

/-- The draft lies within the node and has the depth and the container of the reading, unless it is
detached from them. -/
structure Fits (detached : Draft → Prop) (outer : Cursor) (depth : Nat) (parent : Option String)
    (draft : Draft) : Prop where
  lies : draft.LiesWithin outer
  attached : detached draft ∨ draft.depth = depth ∧ draft.parent = parent

/-- The steps draft what fits, and enter nodes within the outer one, alongside it or inside a scope
among those made before. -/
def Nested (detached : Draft → Prop) (outer : Cursor) (depth : Nat) (parent : Option String) :
    (made : List Draft) → List Step → Prop
  | _, [] => True
  | made, .scope draft :: rest =>
      Fits detached outer depth parent draft ∧
        Nested detached outer depth parent (draft :: made) rest
  | made, .enter place level owner :: rest =>
      (outer.Within place ∧ Continues depth parent made place level owner) ∧
        Nested detached outer depth parent made rest
  | made, .report _ :: rest => Nested detached outer depth parent made rest

variable {detached : Draft → Prop} {outer : Cursor} {depth : Nat} {parent : Option String}
  {made : List Draft}

/-- A draft of one node, with the depth and the container of the reading. -/
theorem Fits.single {draft : Draft} (alone : draft.extent = []) (inside : outer.Within draft.place)
    (level : draft.depth = depth) (owner : draft.parent = parent) :
    Fits detached outer depth parent draft where
  lies := .single alone inside
  attached := Or.inr ⟨level, owner⟩

theorem Continues.mono {earlier : List Draft} {place : Cursor} {level : Nat} {owner : Option String}
    (subset : earlier ⊆ made) (continues : Continues depth parent earlier place level owner) :
    Continues depth parent made place level owner := by
  cases continues with
  | outermost => exact .outermost level
  | alongside => exact .alongside
  | inside container drafted home isHome within =>
      exact .inside container (subset drafted) home isHome within

theorem Nested.mono {earlier : List Draft} {steps : List Step} (subset : earlier ⊆ made)
    (nested : Nested detached outer depth parent earlier steps) :
    Nested detached outer depth parent made steps := by
  induction steps generalizing earlier made with
  | nil => trivial
  | cons step rest ih =>
      cases step with
      | scope draft => exact ⟨nested.1, ih (List.cons_subset_cons draft subset) nested.2⟩
      | enter place level owner =>
          exact ⟨⟨nested.1.1, nested.1.2.mono subset⟩, ih subset nested.2⟩
      | report issue => exact ih subset nested

theorem Nested.widen {inner : Cursor} {steps : List Step} (inside : outer.Within inner)
    (nested : Nested detached inner depth parent made steps) :
    Nested detached outer depth parent made steps := by
  induction steps generalizing made with
  | nil => trivial
  | cons step rest ih =>
      cases step with
      | scope draft => exact ⟨⟨nested.1.lies.mono inside, nested.1.attached⟩, ih nested.2⟩
      | enter place level owner =>
          exact ⟨⟨inside.trans nested.1.1, nested.1.2⟩, ih nested.2⟩
      | report issue => exact ih nested

theorem nested_append {first second : List Step}
    (firstNested : Nested detached outer depth parent made first)
    (secondNested : Nested detached outer depth parent made second) :
    Nested detached outer depth parent made (first ++ second) := by
  induction first generalizing made with
  | nil => exact secondNested
  | cons step rest ih =>
      cases step with
      | scope draft =>
          refine ⟨firstNested.1, ih firstNested.2 ?_⟩
          exact secondNested.mono (List.subset_cons_self draft made)
      | enter place level owner => exact ⟨firstNested.1, ih firstNested.2 secondNested⟩
      | report issue => exact ih firstNested secondNested

theorem nested_flatMap {α : Type} {items : List α} {steps : α → List Step}
    (each : ∀ item ∈ items, Nested detached outer depth parent made (steps item)) :
    Nested detached outer depth parent made (items.flatMap steps) := by
  induction items with
  | nil => trivial
  | cons item rest ih =>
      rw [List.forall_mem_cons] at each
      rw [List.flatMap_cons]
      exact nested_append each.1 (ih each.2)

theorem nested_scope {draft : Draft} (fits : Fits detached outer depth parent draft) :
    Nested detached outer depth parent made [.scope draft] :=
  ⟨fits, trivial⟩

theorem nested_map_scope {α : Type} {items : List α} {draft : α → Draft}
    (fits : ∀ item ∈ items, Fits detached outer depth parent (draft item)) :
    Nested detached outer depth parent made (items.map fun item => .scope (draft item)) := by
  rw [List.map_eq_flatMap]
  exact nested_flatMap fun item member => nested_scope (fits item member)

theorem nested_map_enter {places : List Cursor} {level : Nat} {owner : Option String}
    (each : ∀ place ∈ places,
      outer.Within place ∧ Continues depth parent made place level owner) :
    Nested detached outer depth parent made
      (places.map fun place => .enter place level owner) := by
  rw [List.map_eq_flatMap]
  exact nested_flatMap fun place member => ⟨each place member, trivial⟩

/-- A node that is passed through. -/
theorem nested_enterChildren {place : Cursor} (inside : outer.Within place) :
    Nested detached outer depth parent made (enterChildren place depth parent) := by
  apply nested_map_enter
  intro child isChild
  exact ⟨inside.trans (Cursor.within_of_mem_children isChild), .alongside⟩

/-- Nodes within a scope that was drafted before. -/
theorem nested_map_enter_inside {draft : Draft} {entered : List Cursor} (drafted : draft ∈ made)
    (lies : draft.LiesWithin outer)
    (inside : ∀ place ∈ entered, ∃ home ∈ draft.places, home.Within place) :
    Nested detached outer depth parent made
      (entered.map fun place => .enter place (draft.depth + 1) (some draft.name)) := by
  apply nested_map_enter
  intro place member
  obtain ⟨home, isHome, within⟩ := inside place member
  exact ⟨(lies.within home isHome).trans within, .inside draft drafted home isHome within⟩

/-- A scope, and nodes within it. -/
theorem nested_scope_map_enter {draft : Draft} {entered : List Cursor}
    (fits : Fits detached outer depth parent draft)
    (inside : ∀ place ∈ entered, ∃ home ∈ draft.places, home.Within place) :
    Nested detached outer depth parent made
      (.scope draft :: entered.map fun place => .enter place (draft.depth + 1) (some draft.name)) :=
  ⟨fits, nested_map_enter_inside List.mem_cons_self fits.lies inside⟩

/-- The usual form of a reading: a scope, and the children of a body within its node. -/
theorem nested_scope_enterBody {draft : Draft} {body : Option Cursor}
    (fits : Fits detached outer depth parent draft)
    (inside : ∀ place ∈ body, draft.place.Within place) :
    Nested detached outer depth parent made
      (.scope draft :: enterBody body (draft.depth + 1) (some draft.name)) := by
  cases body with
  | none => exact nested_scope fits
  | some body =>
      apply nested_scope_map_enter fits
      intro child isChild
      exact ⟨draft.place, List.mem_cons_self,
        (inside body rfl).trans (Cursor.within_of_mem_children isChild)⟩

/-! ## The walk -/

/-- The draft lies within the node, and it is detached, or outermost, or has the depth and the
container of the walk, or one of the drafts encloses it. -/
structure Placed (detached : Draft → Prop) (outer : Cursor) (depth : Nat) (parent : Option String)
    (drafts : List Draft) (draft : Draft) : Prop where
  lies : draft.LiesWithin outer
  settled : detached draft ∨ draft.parent = none ∨ (draft.depth = depth ∧ draft.parent = parent) ∨
    ∃ container ∈ drafts, container.Encloses draft

theorem Placed.mono {drafts : List Draft} {draft : Draft} (subset : drafts ⊆ made)
    (placed : Placed detached outer depth parent drafts draft) :
    Placed detached outer depth parent made draft where
  lies := placed.lies
  settled := by
    rcases placed.settled with apart | outermost | same | ⟨container, member, encloses⟩
    · exact Or.inl apart
    · exact Or.inr (Or.inl outermost)
    · exact Or.inr (Or.inr (Or.inl same))
    · exact Or.inr (Or.inr (Or.inr ⟨container, subset member, encloses⟩))

/-- What is drafted below an entered node is settled around it. -/
theorem Placed.of_entered {drafts : List Draft} {draft : Draft} {place : Cursor} {level : Nat}
    {owner : Option String} (inside : outer.Within place)
    (continues : Continues depth parent made place level owner)
    (placed : Placed detached place level owner drafts draft) :
    Placed detached outer depth parent (made ++ drafts) draft where
  lies := placed.lies.mono inside
  settled := by
    rcases placed.settled with apart | outermost | ⟨sameDepth, sameParent⟩ | ⟨container, member, encloses⟩
    · exact Or.inl apart
    · exact Or.inr (Or.inl outermost)
    · right
      cases continues with
      | outermost => exact Or.inl sameParent
      | alongside => exact Or.inr (Or.inl ⟨sameDepth, sameParent⟩)
      | inside container drafted home isHome within =>
          right; right
          exact ⟨container, List.mem_append_left _ drafted, sameParent, sameDepth, home, isHome,
            placed.lies.mono within⟩
    · exact Or.inr (Or.inr (Or.inr ⟨container, List.mem_append_right _ member, encloses⟩))

theorem placed_gatherSteps {enter : Cursor → Nat → Option String → Gathering}
    (entered : ∀ place level owner, ∀ draft ∈ (enter place level owner).drafts,
      Placed detached place level owner (enter place level owner).drafts draft)
    {steps : List Step} (nested : Nested detached outer depth parent made steps) :
    ∀ draft ∈ (gatherSteps enter steps).drafts,
      Placed detached outer depth parent (made ++ (gatherSteps enter steps).drafts) draft := by
  induction steps generalizing made with
  | nil => intro draft member; contradiction
  | cons step rest ih =>
      intro draft member
      cases step with
      | scope first =>
          obtain ⟨fits, restNested⟩ := nested
          rcases List.mem_cons.mp member with rfl | later
          · refine ⟨fits.lies, ?_⟩
            rcases fits.attached with apart | same
            · exact Or.inl apart
            · exact Or.inr (Or.inr (Or.inl same))
          · -- The first draft moves from the drafts made before to those that are gathered.
            apply (ih restNested draft later).mono
            intro other
            simp only [gatherSteps, List.mem_append, List.mem_cons]
            tauto
      | enter place level owner =>
          obtain ⟨⟨inside, continues⟩, restNested⟩ := nested
          have here : draft ∈ (enter place level owner).drafts →
              Placed detached outer depth parent (made ++ (enter place level owner).drafts) draft :=
            fun found => (entered place level owner draft found).of_entered inside continues
          simp only [gatherSteps] at member ⊢
          split at member
          · rename_i given
            rw [if_pos given]
            exact here member
          · rename_i given
            rw [if_neg given]
            rcases List.mem_append.mp member with found | later
            · apply (here found).mono
              intro other
              simp only [List.mem_append]
              tauto
            · apply (ih restNested draft later).mono
              intro other
              simp only [List.mem_append]
              tauto
      | report issue => exact ih nested draft member

theorem Nested.take {steps : List Step} (nested : Nested detached outer depth parent made steps)
    (count : Nat) : Nested detached outer depth parent made (steps.take count) := by
  induction steps generalizing made count with
  | nil => simpa using nested
  | cons step rest ih =>
      cases count with
      | zero => trivial
      | succ count =>
          cases step with
          | scope draft => exact ⟨nested.1, ih nested.2 count⟩
          | enter place level owner => exact ⟨nested.1, ih nested.2 count⟩
          | report issue => exact ih nested count

theorem Nested.room {steps : List Step} (nested : Nested detached outer depth parent made steps)
    (ctx : Context) (place : Cursor) :
    Nested detached outer depth parent made (ctx.room place steps) := by
  rw [Context.room]
  split
  · exact nested
  · exact nested.take _

theorem nested_map_report_append {issues : List String} {steps : List Step}
    (nested : Nested detached outer depth parent made steps) :
    Nested detached outer depth parent made (issues.map .report ++ steps) := by
  induction issues with
  | nil => exact nested
  | cons issue rest ih => exact ih

/-- The steps of every reading are nested. -/
def Strategy.IsNested (strategy : Strategy) (ctx : Context) (detached : Draft → Prop) : Prop :=
  ∀ construct reading, strategy.reading? construct = some reading →
    ∀ place depth parent,
      Nested detached place depth parent [] (stepsOf (reading ctx place depth parent))

theorem nested_stepsAt {strategy : Strategy} {ctx : Context}
    (nested : strategy.IsNested ctx detached) (place : Cursor) (depth : Nat)
    (parent : Option String) :
    Nested detached place depth parent [] (stepsAt strategy ctx place depth parent) := by
  rcases stepsAt_cases strategy ctx place depth parent with
    ⟨construct, reading, steps, _, chosen, read, same⟩ | ⟨issues, same⟩
  · rw [same, ← stepsOf_ok steps, ← read]
    exact nested construct reading chosen place depth parent
  · rw [same]
    exact nested_map_report_append (nested_enterChildren (Cursor.Within.refl place))

theorem placed_gather {strategy : Strategy} {ctx : Context} (nested : strategy.IsNested ctx detached)
    (fuel : Nat) (place : Cursor) (depth : Nat) (parent : Option String) :
    ∀ draft ∈ (gather strategy ctx fuel place depth parent).drafts,
      Placed detached place depth parent (gather strategy ctx fuel place depth parent).drafts
        draft := by
  induction fuel generalizing place depth parent with
  | zero => intro draft member; contradiction
  | succ fuel ih =>
      exact placed_gatherSteps ih ((nested_stepsAt nested place depth parent).room ctx place)

/-! ## The drafts of a file -/

/-- Code outside the constructs has no container and lies at siblings below the root. -/
theorem placed_outsideDrafts {ctx : Context} {constructs drafts : List Draft} {root : Cursor} :
    ∀ draft ∈ outsideDrafts ctx constructs root, Placed detached root 0 none drafts draft := by
  intro draft member
  obtain ⟨number, first, later, stretch, rfl⟩ := exists_stretch_of_mem_moduleDrafts member
  have listed : (first :: later).Sublist root.children := by
    apply (List.sublist_flatten_of_mem stretch).trans
    apply (flatten_stretchesFrom_sublist ctx.nodes _ [] root.namedChildren).trans
    exact List.filter_sublist.trans List.filter_sublist
  exact ⟨.siblings root (Cursor.Within.refl root) listed, Or.inr (Or.inl rfl)⟩

theorem placed_fileDrafts {strategy : Strategy} {ctx : Context} {root : Cursor}
    (nested : strategy.IsNested ctx detached) (includeModuleScopes : Bool) :
    ∀ draft ∈ fileDrafts strategy ctx includeModuleScopes root,
      Placed detached root 0 none (fileDrafts strategy ctx includeModuleScopes root) draft := by
  intro draft member
  rcases List.mem_append.mp member with construct | outside
  · refine Placed.mono ?_ (placed_gather nested root.node.size root 0 none draft construct)
    exact List.subset_append_left _ _
  · split at outside
    · exact placed_outsideDrafts draft outside
    · contradiction

/-! ## Scopes -/

/-- The outer scope is the container that the inner one names, one level above it, and has its
lines, its branches and its syntax issues. -/
structure Surrounds (outer inner : Scope) : Prop where
  named : inner.parent = some outer.name
  level : outer.depth = inner.depth - 1
  begins : outer.startLine ≤ inner.startLine
  ends : inner.endLine ≤ outer.endLine
  complexity : inner.complexity ≤ outer.complexity
  issues : ∀ issue ∈ inner.syntaxIssues, issue ∈ outer.syntaxIssues

section Completion

variable {root : Cursor} {draft container : Draft} (ordered : root.InOrder)
  (forward : ∀ place ∈ root.preorder, place.startByte ≤ place.endByte)

include ordered forward

theorem Draft.LiesWithin.startLine_le_endLine (lies : draft.LiesWithin root) (ctx : Context)
    (packageName : String → String) :
    (draft.complete ctx packageName).startLine ≤ (draft.complete ctx packageName).endLine := by
  have rows := ctx.source.row_le_lastRow (lies.start_le_end ordered forward)
  exact Int.add_le_add_right (Int.ofNat_le.mpr rows) 1

/-- A draft around another that is not empty is completed to a scope around its scope. -/
theorem Draft.Encloses.surrounds (encloses : container.Encloses draft)
    (containerLies : container.LiesWithin root) (draftLies : draft.LiesWithin root)
    (occupied : draft.place.startByte < draft.place.endByte) (ctx : Context)
    (packageName : String → String) :
    Surrounds (container.complete ctx packageName) (draft.complete ctx packageName) := by
  obtain ⟨starts, stops⟩ := encloses.covers ordered forward containerLies
  have reaches := (draftLies.covers ordered forward List.mem_cons_self).2
  have lastRows : draft.endRow ctx ≤ container.endRow ctx :=
    ctx.source.lastRow_le_lastRow (Nat.lt_of_lt_of_le occupied reaches) stops
  constructor
  · exact encloses.named
  · have level : (draft.depth : Int) = container.depth + 1 := by exact_mod_cast encloses.level
    exact (Int.sub_eq_iff_eq_add.mpr level).symm
  · exact Int.add_le_add_right (Int.ofNat_le.mpr (ctx.source.row_point_le starts)) 1
  · exact Int.add_le_add_right (Int.ofNat_le.mpr lastRows) 1
  · exact Int.ofNat_le.mpr (encloses.complexity_le ctx.nodes)
  · intro issue member
    exact mem_problemsWithin_mono starts stops member

end Completion

/-- In the order of a file, a scope comes after those that begin earlier, and after those that
begin on its line and are not deeper. -/
theorem pairwise_sortScopes (scopes : List Scope) :
    (sortScopes scopes).Pairwise fun a b =>
      a.startLine < b.startLine ∨ a.startLine = b.startLine ∧ a.depth ≤ b.depth := by
  refine (List.pairwise_mergeSort ?_ ?_ scopes).imp ?_
  · intro a b c
    simp only [Bool.or_eq_true, Bool.and_eq_true, decide_eq_true_eq, beq_iff_eq]
    omega
  · intro a b
    simp only [Bool.or_eq_true, Bool.and_eq_true, decide_eq_true_eq, beq_iff_eq]
    omega
  · intro a b
    simp only [Bool.or_eq_true, Bool.and_eq_true, decide_eq_true_eq, beq_iff_eq]
    exact id

/-- A scope that surrounds another is listed before it. -/
theorem Surrounds.mem_before {scopes before after : List Scope} {outer inner : Scope}
    (surrounds : Surrounds outer inner) (member : outer ∈ scopes)
    (split : sortScopes scopes = before ++ inner :: after) : outer ∈ before := by
  have sorted := pairwise_sortScopes scopes
  rw [split] at sorted
  rw [← List.mem_mergeSort, ← sortScopes, split, List.mem_append, List.mem_cons] at member
  have level := surrounds.level
  rcases member with earlier | rfl | later
  · exact earlier
  · omega
  · have follows := (List.pairwise_cons.mp (List.pairwise_append.mp sorted).2.1).1 outer later
    have begins := surrounds.begins
    omega

end ScopeAtlas.Extraction
