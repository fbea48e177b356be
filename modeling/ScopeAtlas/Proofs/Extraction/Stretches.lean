import ScopeAtlas.Proofs.Extraction.Containment

/-!
# Stretches of code outside the constructs

A stretch is a run of neighbouring nodes below the root, none of which covers a row on which a
construct begins, and it is cut back to end as it begins, on code.  So every node of code that no
such row touches is in a stretch, and between two stretches stands a node that is covered.

Rows decide what is covered, and bytes decide what lies within what.  Two stretches are on different
rows, hence share no byte, and a covered node lies within none.  In the other direction nothing of
the kind holds: a construct that begins on a row of a node need not begin within the node.
-/

namespace ScopeAtlas.Extraction

open ScopeAtlas.Language ScopeAtlas.Syntax

/-! ## Runs of nodes -/

/-- Code, which a stretch can begin and end with. -/
def IsCode (table : NodeTable) (place : Cursor) : Prop := table.isImportOrComment place.kind = false

instance (table : NodeTable) (place : Cursor) : Decidable (IsCode table place) :=
  inferInstanceAs (Decidable (_ = _))

theorem IsCode.ne_true {table : NodeTable} {place : Cursor} (code : IsCode table place) :
    ¬table.isImportOrComment place.kind = true := by
  rw [show table.isImportOrComment place.kind = false from code]
  decide

variable {table : NodeTable} {covered : Cursor → Bool} {current nodes stretch : List Cursor}

/-- Closing a stretch cuts nodes off at its end only. -/
theorem closeStretch_isPrefix (table : NodeTable) (current : List Cursor) :
    closeStretch table current <+: current.reverse :=
  List.reverse_prefix.mpr (List.dropWhile_suffix _)

theorem mem_closeStretch {place : Cursor} (member : place ∈ current) (code : IsCode table place) :
    place ∈ closeStretch table current := by
  rw [closeStretch, List.mem_reverse]
  induction current with
  | nil => contradiction
  | cons last earlier ih =>
      rw [List.dropWhile_cons]
      split
      · rename_i cut
        rcases List.mem_cons.mp member with rfl | member
        · exact absurd cut code.ne_true
        · exact ih member
      · exact member

/-- A stretch that has begun on code is closed to one that begins and ends on code. -/
theorem ends_closeStretch {first : Cursor} (begins : current.getLast? = some first)
    (code : IsCode table first) :
    (closeStretch table current).head? = some first ∧
      ∃ last, (closeStretch table current).getLast? = some last ∧ IsCode table last := by
  rw [closeStretch, List.head?_reverse, List.getLast?_reverse]
  induction current with
  | nil => contradiction
  | cons last earlier ih =>
      rw [List.dropWhile_cons]
      split
      · rename_i cut
        cases earlier with
        | nil =>
            obtain rfl := Option.some.inj begins
            exact absurd cut code.ne_true
        | cons next rest => exact ih (by simpa using begins)
      · rename_i kept
        exact ⟨begins, last, rfl, by simpa [IsCode] using kept⟩

/-- A stretch is a run of neighbouring nodes. -/
theorem isInfix_of_mem_stretchesFrom
    (member : stretch ∈ stretchesFrom table covered current nodes) :
    stretch <:+: current.reverse ++ nodes := by
  have closed : ∀ current nodes : List Cursor,
      closeStretch table current <:+: current.reverse ++ nodes := by
    intro current nodes
    exact ((closeStretch_isPrefix table current).trans (List.prefix_append _ _)).isInfix
  have later : ∀ {stretch : List Cursor} (current : List Cursor) (place : Cursor)
      {rest : List Cursor}, stretch <:+: [].reverse ++ rest →
        stretch <:+: current.reverse ++ place :: rest := by
    intro stretch current place rest inRest
    refine List.IsInfix.trans inRest (List.IsSuffix.isInfix ?_)
    exact (List.suffix_cons place rest).trans (List.suffix_append _ _)
  fun_induction stretchesFrom table covered current nodes with
  | case1 => contradiction
  | case2 current =>
      rw [List.mem_singleton.mp member]
      exact closed current []
  | case3 current place rest _ _ ih => exact later current place (ih member)
  | case4 current place rest _ _ ih =>
      rcases List.mem_cons.mp member with rfl | member
      · exact closed current (place :: rest)
      · exact later current place (ih member)
  | case5 current place rest _ _ ih => exact later current place (ih member)
  | case6 current place rest _ _ ih =>
      have extended := ih member
      rwa [List.reverse_cons, List.append_assoc, List.singleton_append] at extended

/-- The nodes of a stretch are not covered. -/
theorem uncovered_of_mem_stretchesFrom (member : stretch ∈ stretchesFrom table covered [] nodes) :
    ∀ place ∈ stretch, covered place = false := by
  intro place inside
  have listed := (flatten_stretchesFrom_sublist table covered [] nodes).subset
    (List.mem_flatten_of_mem member inside)
  simpa using (List.mem_filter.mp listed).2

/-- No code is left out that is not covered. -/
theorem exists_mem_stretchesFrom {place : Cursor} (code : IsCode table place)
    (member : place ∈ current ∨ place ∈ nodes ∧ covered place = false) :
    ∃ stretch ∈ stretchesFrom table covered current nodes, place ∈ stretch := by
  fun_induction stretchesFrom table covered current nodes with
  | case1 current none => simp [List.isEmpty_iff.mp none] at member
  | case2 current =>
      have begun : place ∈ current := by simpa using member
      exact ⟨_, List.mem_singleton_self _, mem_closeStretch begun code⟩
  | case3 current next rest isCovered none ih =>
      apply ih
      right
      obtain ⟨listed, uncovered⟩ := member.resolve_left (by simp [List.isEmpty_iff.mp none])
      refine ⟨List.mem_of_ne_of_mem ?_ listed, uncovered⟩
      rintro rfl
      simp [uncovered] at isCovered
  | case4 current next rest isCovered _ ih =>
      rcases member with begun | ⟨listed, uncovered⟩
      · exact ⟨_, List.mem_cons_self, mem_closeStretch begun code⟩
      · have other : place ≠ next := by
          rintro rfl
          simp [uncovered] at isCovered
        obtain ⟨stretch, stretchMem, inside⟩ :=
          ih (Or.inr ⟨List.mem_of_ne_of_mem other listed, uncovered⟩)
        exact ⟨stretch, List.mem_cons_of_mem _ stretchMem, inside⟩
  | case5 current next rest _ skipped ih =>
      obtain ⟨side, none⟩ := Bool.and_eq_true_iff.mp skipped
      apply ih
      right
      obtain ⟨listed, uncovered⟩ := member.resolve_left (by simp [List.isEmpty_iff.mp none])
      refine ⟨List.mem_of_ne_of_mem ?_ listed, uncovered⟩
      rintro rfl
      exact code.ne_true side
  | case6 current next rest _ _ ih =>
      apply ih
      rcases member with begun | ⟨listed, uncovered⟩
      · exact Or.inl (List.mem_cons_of_mem _ begun)
      · rcases List.mem_cons.mp listed with rfl | listed
        · exact Or.inl List.mem_cons_self
        · exact Or.inr ⟨listed, uncovered⟩

/-- Every stretch begins and ends on code. -/
theorem ends_of_mem_stretchesFrom (begins : ∀ first ∈ current.getLast?, IsCode table first)
    (member : stretch ∈ stretchesFrom table covered current nodes) :
    (∃ first, stretch.head? = some first ∧ IsCode table first) ∧
      ∃ last, stretch.getLast? = some last ∧ IsCode table last := by
  have closed : ∀ current : List Cursor, ¬current.isEmpty = true →
      (∀ first ∈ current.getLast?, IsCode table first) →
      (∃ first, (closeStretch table current).head? = some first ∧ IsCode table first) ∧
        ∃ last, (closeStretch table current).getLast? = some last ∧ IsCode table last := by
    intro current begun begins
    have first := List.getLast?_eq_some_getLast (mt List.isEmpty_iff.mpr begun)
    obtain ⟨here, last⟩ := ends_closeStretch first (begins _ first)
    exact ⟨⟨_, here, begins _ first⟩, last⟩
  fun_induction stretchesFrom table covered current nodes with
  | case1 => contradiction
  | case2 current begun =>
      rw [List.mem_singleton.mp member]
      exact closed current begun begins
  | case3 current place rest _ _ ih => exact ih (by simp) member
  | case4 current place rest _ begun ih =>
      rcases List.mem_cons.mp member with rfl | member
      · exact closed current begun begins
      · exact ih (by simp) member
  | case5 current place rest _ _ ih => exact ih (by simp) member
  | case6 current place rest _ kept ih =>
      refine ih ?_ member
      cases current with
      | nil => simpa [IsCode] using kept
      | cons last earlier => simpa using begins

theorem ne_nil_of_mem_stretchesFrom (member : stretch ∈ stretchesFrom table covered [] nodes) :
    stretch ≠ [] := by
  obtain ⟨⟨first, here, _⟩, _⟩ := ends_of_mem_stretchesFrom (by simp) member
  rintro rfl
  contradiction

/-- Between the nodes of two stretches stands a node that is covered. -/
theorem pairwise_stretchesFrom {Apart : Cursor → Cursor → Prop}
    (separates : ∀ first between last, [first, between, last].Sublist (current.reverse ++ nodes) →
      covered first = false → covered between = true → covered last = false → Apart first last)
    (uncovered : ∀ place ∈ current, covered place = false) :
    (stretchesFrom table covered current nodes).Pairwise fun a b =>
      ∀ first ∈ a, ∀ last ∈ b, Apart first last := by
  have later : ∀ {places : List Cursor} (current : List Cursor) (place : Cursor)
      {rest : List Cursor}, places.Sublist ([].reverse ++ rest) →
        places.Sublist (current.reverse ++ place :: rest) := by
    intro places current place rest listed
    exact (listed.trans (List.sublist_cons_self place rest)).trans (List.sublist_append_right _ _)
  fun_induction stretchesFrom table covered current nodes with
  | case1 => exact .nil
  | case2 => exact List.pairwise_singleton _ _
  | case3 current place rest _ _ ih =>
      exact ih (fun _ _ _ listed => separates _ _ _ (later current place listed)) (by simp)
  | case4 current place rest isCovered _ ih =>
      refine List.pairwise_cons.mpr ⟨?_,
        ih (fun _ _ _ listed => separates _ _ _ (later current place listed)) (by simp)⟩
      intro other otherMem first firstMem last lastMem
      have firstListed := (closeStretch_sublist table current).subset firstMem
      have lastListed : last ∈ rest := by
        simpa using (isInfix_of_mem_stretchesFrom otherMem).subset lastMem
      apply separates first place last
      · exact (List.singleton_sublist.mpr firstListed).append
          ((List.singleton_sublist.mpr lastListed).cons_cons place)
      · exact uncovered first (List.mem_reverse.mp firstListed)
      · exact isCovered
      · exact uncovered_of_mem_stretchesFrom otherMem last lastMem
  | case5 current place rest _ _ ih =>
      exact ih (fun _ _ _ listed => separates _ _ _ (later current place listed)) (by simp)
  | case6 current place rest isUncovered _ ih =>
      refine ih ?_ ?_
      · intro first between last listed
        rw [List.reverse_cons, List.append_assoc, List.singleton_append] at listed
        exact separates first between last listed
      · intro node member
        rcases List.mem_cons.mp member with rfl | member
        · exact Bool.eq_false_iff.mpr isUncovered
        · exact uncovered node member

/-! ## Numbered drafts -/

/-- Stretches that hold nodes are drafted one for one. -/
theorem map_places_moduleDrafts (number : Nat) {stretches : List (List Cursor)}
    (occupied : ∀ stretch ∈ stretches, stretch ≠ []) :
    (moduleDrafts number stretches).map (·.places) = stretches := by
  fun_induction moduleDrafts number stretches with
  | case1 => rfl
  | case2 => exact absurd rfl (occupied [] List.mem_cons_self)
  | case3 number first later rest ih =>
      rw [List.map_cons, ih fun stretch member => occupied stretch (List.mem_cons_of_mem _ member)]
      rfl

/-- The drafts are numbered one after the other. -/
theorem map_name_moduleDrafts (number : Nat) {stretches : List (List Cursor)}
    (occupied : ∀ stretch ∈ stretches, stretch ≠ []) :
    (moduleDrafts number stretches).map (·.name) =
      (List.range' number stretches.length).map fun ordinal =>
        "file_scope_" ++ twoDigits ordinal := by
  fun_induction moduleDrafts number stretches with
  | case1 => rfl
  | case2 => exact absurd rfl (occupied [] List.mem_cons_self)
  | case3 number first later rest ih =>
      rw [List.map_cons, ih fun stretch member => occupied stretch (List.mem_cons_of_mem _ member)]
      rfl

/-! ## Rows and bytes -/

/-- The nodes follow each other in the text. -/
structure Sequential (places : List Cursor) : Prop where
  forward : ∀ place ∈ places, place.startByte ≤ place.endByte
  follows : places.Pairwise fun first second => first.endByte ≤ second.startByte

theorem sequential_iff {places : List Cursor} :
    Sequential places ↔ (∀ place ∈ places, place.startByte ≤ place.endByte) ∧
      places.Pairwise fun first second => first.endByte ≤ second.startByte :=
  ⟨fun sequential => ⟨sequential.forward, sequential.follows⟩, fun each => ⟨each.1, each.2⟩⟩

instance (places : List Cursor) : Decidable (Sequential places) :=
  decidable_of_iff _ sequential_iff.symm

theorem Sequential.sublist {places listed : List Cursor} (sequential : Sequential places)
    (sublist : listed.Sublist places) : Sequential listed where
  forward place member := sequential.forward place (sublist.subset member)
  follows := sequential.follows.sublist sublist

namespace Draft

/-- The node lies within the bytes of the scope. -/
def Spans (draft : Draft) (place : Cursor) : Prop :=
  draft.range.1 ≤ place.startByte ∧ place.endByte ≤ draft.range.2

/-- The scope begins within the bytes of the node. -/
def BeginsIn (draft : Draft) (place : Cursor) : Prop :=
  place.startByte ≤ draft.place.startByte ∧ draft.place.startByte < place.endByte

instance (draft : Draft) (place : Cursor) : Decidable (draft.Spans place) :=
  inferInstanceAs (Decidable (_ ∧ _))

instance (draft : Draft) (place : Cursor) : Decidable (draft.BeginsIn place) :=
  inferInstanceAs (Decidable (_ ∧ _))

/-- A scope reaches over each of its nodes. -/
theorem spans_of_mem_places {draft : Draft} (sequential : Sequential draft.places) {place : Cursor}
    (member : place ∈ draft.places) : draft.Spans place := by
  have forward := sequential.forward
  have follows := sequential.follows
  constructor
  · rcases List.mem_cons.mp member with rfl | later
    · exact Nat.le_refl _
    · have after := (List.pairwise_cons.mp follows).1 place later
      have first := forward draft.place List.mem_cons_self
      exact Nat.le_trans first after
  · obtain ⟨earlier, split⟩ : ∃ earlier, draft.places = earlier ++ [draft.lastPlace] := by
      rw [← List.getLast?_eq_some_iff, places, List.getLast?_cons]
      rfl
    rw [split] at member follows
    rcases List.mem_append.mp member with before | same
    · have after := (List.pairwise_append.mp follows).2.2 place before _ List.mem_cons_self
      have last := forward draft.lastPlace draft.lastPlace_mem_places
      exact Nat.le_trans after last
    · rw [List.mem_singleton.mp same]
      exact Nat.le_refl _

end Draft

section Rows

variable {source : Source} {rows : List Nat}

theorem coversRow_eq_true_iff {place : Cursor} :
    coversRow source rows place = true ↔
      ∃ row ∈ rows, (source.startPoint place).row ≤ row ∧ row ≤ (source.endPoint place).row := by
  simp [coversRow]

theorem coversRow_eq_false_iff {place : Cursor} :
    coversRow source rows place = false ↔
      ∀ row ∈ rows, (source.startPoint place).row ≤ row → (source.endPoint place).row < row := by
  simp [coversRow]

/-- Where a covered node stands between two others, these are on different rows. -/
theorem endRow_lt_startRow {first between last : Cursor}
    (sequential : Sequential [first, between, last]) (before : coversRow source rows first = false)
    (isCovered : coversRow source rows between = true)
    (after : coversRow source rows last = false) :
    (source.endPoint first).row < (source.startPoint last).row := by
  obtain ⟨forward, follows⟩ := sequential
  simp only [List.forall_mem_cons, List.not_mem_nil, false_implies, implies_true, and_true]
    at forward
  simp only [List.pairwise_cons, List.forall_mem_cons, List.not_mem_nil, false_implies,
    implies_true, and_true, List.Pairwise.nil] at follows
  obtain ⟨row, listed, above, below⟩ := coversRow_eq_true_iff.mp isCovered
  have startFirst : (source.startPoint first).row ≤ (source.startPoint between).row :=
    source.row_point_le (by omega)
  have endBetween : (source.endPoint between).row ≤ (source.endPoint last).row :=
    source.row_point_le (by omega)
  have endFirst := coversRow_eq_false_iff.mp before row listed (by omega)
  have startLast := mt (coversRow_eq_false_iff.mp after row listed) (by omega)
  omega

/-- A covered node that stands before or after an uncovered one reaches beyond it. -/
theorem not_covers_of_apart {place other : Cursor} (forward : other.startByte ≤ other.endByte)
    (isCovered : coversRow source rows place = true)
    (uncovered : coversRow source rows other = false) :
    (place.endByte ≤ other.startByte → ¬other.startByte ≤ place.startByte) ∧
      (other.endByte ≤ place.startByte → ¬place.endByte ≤ other.endByte) := by
  obtain ⟨row, listed, above, below⟩ := coversRow_eq_true_iff.mp isCovered
  have past := coversRow_eq_false_iff.mp uncovered row listed
  have rows : (source.startPoint other).row ≤ (source.endPoint other).row :=
    source.row_point_le forward
  constructor
  · intro before inside
    have starts : (source.startPoint other).row ≤ (source.startPoint place).row :=
      source.row_point_le inside
    have ends : (source.endPoint place).row ≤ (source.startPoint other).row :=
      source.row_point_le before
    have late := past (by omega)
    omega
  · intro after inside
    have starts : (source.endPoint other).row ≤ (source.startPoint place).row :=
      source.row_point_le after
    have ends : (source.endPoint place).row ≤ (source.endPoint other).row :=
      source.row_point_le inside
    have late := past (by omega)
    omega

end Rows

/-! ## The drafts outside the constructs -/

section Outside

variable {ctx : Context} {constructs : List Draft} {root : Cursor} {draft : Draft}

theorem exists_stretch_of_mem_outsideDrafts (member : draft ∈ outsideDrafts ctx constructs root) :
    draft.places ∈ stretchesFrom ctx.nodes (coversRow ctx.source (startRows ctx constructs)) []
      root.namedChildren := by
  obtain ⟨number, first, later, listed, rfl⟩ := exists_stretch_of_mem_moduleDrafts member
  exact listed

theorem map_places_outsideDrafts (ctx : Context) (constructs : List Draft) (root : Cursor) :
    (outsideDrafts ctx constructs root).map (·.places) =
      stretchesFrom ctx.nodes (coversRow ctx.source (startRows ctx constructs)) []
        root.namedChildren :=
  map_places_moduleDrafts 1 fun _ => ne_nil_of_mem_stretchesFrom

/-- The stretches of a file are numbered from one. -/
theorem map_name_outsideDrafts (ctx : Context) (constructs : List Draft) (root : Cursor) :
    (outsideDrafts ctx constructs root).map (·.name) =
      (List.range' 1 (outsideDrafts ctx constructs root).length).map fun number =>
        "file_scope_" ++ twoDigits number := by
  have lengths := congrArg List.length (map_places_outsideDrafts ctx constructs root)
  rw [List.length_map] at lengths
  rw [lengths]
  exact map_name_moduleDrafts 1 fun _ => ne_nil_of_mem_stretchesFrom

/-- A stretch begins and ends on top-level nodes that are neither imports nor comments. -/
theorem code_of_mem_outsideDrafts (member : draft ∈ outsideDrafts ctx constructs root) :
    ∀ place ∈ [draft.place, draft.lastPlace],
      place ∈ root.namedChildren ∧ IsCode ctx.nodes place := by
  have stretch := exists_stretch_of_mem_outsideDrafts member
  have listed := (isInfix_of_mem_stretchesFrom stretch).subset
  obtain ⟨⟨first, isFirst, firstCode⟩, last, isLast, lastCode⟩ :=
    ends_of_mem_stretchesFrom (by simp) stretch
  obtain rfl : draft.place = first := Option.some.inj isFirst
  obtain rfl : draft.lastPlace = last := by
    rw [Draft.places, List.getLast?_cons] at isLast
    exact Option.some.inj isLast
  rw [List.forall_mem_cons, List.forall_mem_singleton]
  exact ⟨⟨listed List.mem_cons_self, firstCode⟩, listed draft.lastPlace_mem_places, lastCode⟩

variable (sequential : Sequential root.namedChildren)

include sequential

/-- The stretches follow each other, each on later rows than the one before. -/
theorem pairwise_outsideDrafts :
    (outsideDrafts ctx constructs root).Pairwise fun a b =>
      (ctx.source.endPoint a.lastPlace).row < (ctx.source.startPoint b.place).row := by
  have apart : (stretchesFrom ctx.nodes (coversRow ctx.source (startRows ctx constructs)) []
      root.namedChildren).Pairwise fun a b => ∀ first ∈ a, ∀ last ∈ b,
        (ctx.source.endPoint first).row < (ctx.source.startPoint last).row := by
    refine pairwise_stretchesFrom ?_ (by simp)
    intro first between last listed
    exact endRow_lt_startRow (sequential.sublist listed)
  rw [← map_places_outsideDrafts, List.pairwise_map] at apart
  refine apart.imp ?_
  intro a b rows
  exact rows a.lastPlace a.lastPlace_mem_places b.place List.mem_cons_self

/-- Each stretch begins on a later row than the one before. -/
theorem pairwise_startRow_outsideDrafts :
    (outsideDrafts ctx constructs root).Pairwise fun a b =>
      (ctx.source.startPoint a.place).row < (ctx.source.startPoint b.place).row := by
  refine (pairwise_outsideDrafts sequential).imp_of_mem ?_
  intro a b member _ rows
  have listed := (isInfix_of_mem_stretchesFrom (exists_stretch_of_mem_outsideDrafts member)).sublist
  have reaches :=
    Draft.spans_of_mem_places (sequential.sublist listed) a.lastPlace_mem_places
  have forward := sequential.forward a.lastPlace (listed.subset a.lastPlace_mem_places)
  exact Nat.lt_of_le_of_lt (ctx.source.row_point_le (Nat.le_trans reaches.1 forward)) rows

/-- The stretches share no byte. -/
theorem pairwise_range_outsideDrafts :
    (outsideDrafts ctx constructs root).Pairwise fun a b => a.range.2 < b.range.1 := by
  refine (pairwise_outsideDrafts sequential).imp ?_
  intro a b rows
  refine Nat.lt_of_not_le fun le => ?_
  exact absurd (ctx.source.row_point_le le) (Nat.not_le_of_lt rows)

/-- A node that is not turned around lies within the bytes of one stretch at most. -/
theorem eq_of_spans {place : Cursor} (forward : place.startByte ≤ place.endByte) {other : Draft}
    (member : draft ∈ outsideDrafts ctx constructs root)
    (otherMem : other ∈ outsideDrafts ctx constructs root)
    (spans : draft.Spans place) (otherSpans : other.Spans place) : draft = other := by
  by_contra differ
  have apart : (outsideDrafts ctx constructs root).Pairwise fun a b =>
      a.range.2 < b.range.1 ∨ b.range.2 < a.range.1 :=
    (pairwise_range_outsideDrafts sequential).imp Or.inl
  have : Std.Symm fun a b : Draft => a.range.2 < b.range.1 ∨ b.range.2 < a.range.1 :=
    ⟨fun _ _ => Or.symm⟩
  have either := apart.forall member otherMem differ
  obtain ⟨starts, ends⟩ := spans
  obtain ⟨otherStarts, otherEnds⟩ := otherSpans
  omega

/-- A covered node lies within the bytes of no stretch. -/
theorem not_spans_of_covered {place : Cursor} (member : place ∈ root.namedChildren)
    (isCovered : coversRow ctx.source (startRows ctx constructs) place = true)
    (draftMem : draft ∈ outsideDrafts ctx constructs root) : ¬draft.Spans place := by
  rintro ⟨starts, ends⟩
  have stretch := exists_stretch_of_mem_outsideDrafts draftMem
  have uncovered := uncovered_of_mem_stretchesFrom stretch
  have run := isInfix_of_mem_stretchesFrom stretch
  have apart : ∀ other ∈ draft.places, _ := fun other otherMem =>
    not_covers_of_apart (sequential.forward other (run.subset otherMem)) isCovered
      (uncovered other otherMem)
  -- The stretch is a run, so the node stands before all of it or after all of it.
  obtain ⟨before, after, split⟩ := run
  rw [List.reverse_nil, List.nil_append] at split
  have follows := sequential.follows
  rw [← split, List.pairwise_append, List.pairwise_append] at follows
  obtain ⟨⟨_, _, earlier⟩, _, later⟩ := follows
  rw [← split, List.mem_append, List.mem_append] at member
  rcases member with (inBefore | inside) | inAfter
  · have ends := earlier place inBefore draft.place List.mem_cons_self
    exact (apart draft.place List.mem_cons_self).1 ends starts
  · rw [uncovered place inside] at isCovered
    contradiction
  · have listed := List.mem_append_right before draft.lastPlace_mem_places
    have begins := later draft.lastPlace listed place inAfter
    exact (apart draft.lastPlace draft.lastPlace_mem_places).2 begins ends

/-- A top-level node of code lies within the bytes of exactly one stretch if no construct begins on
one of its rows, and otherwise within none. -/
theorem existsUnique_spanning_iff {place : Cursor} (member : place ∈ root.namedChildren)
    (code : IsCode ctx.nodes place) :
    (∃! draft, draft ∈ outsideDrafts ctx constructs root ∧ draft.Spans place) ↔
      coversRow ctx.source (startRows ctx constructs) place = false := by
  constructor
  · rintro ⟨draft, ⟨draftMem, spans⟩, _⟩
    rw [← Bool.not_eq_true]
    intro isCovered
    exact not_spans_of_covered sequential member isCovered draftMem spans
  · intro uncovered
    obtain ⟨stretch, listed, inside⟩ :=
      exists_mem_stretchesFrom code (Or.inr ⟨member, uncovered⟩)
    rw [← map_places_outsideDrafts] at listed
    obtain ⟨draft, draftMem, rfl⟩ := List.mem_map.mp listed
    have run := isInfix_of_mem_stretchesFrom (exists_stretch_of_mem_outsideDrafts draftMem)
    have spans := Draft.spans_of_mem_places (sequential.sublist run.sublist) inside
    refine ⟨draft, ⟨draftMem, spans⟩, ?_⟩
    rintro other ⟨otherMem, otherSpans⟩
    exact eq_of_spans sequential (sequential.forward place member) otherMem draftMem otherSpans
      spans

end Outside

/-! ## Overshadowed nodes -/

/-- A construct begins on a row of the node, but none begins within its bytes. -/
def Overshadowed (ctx : Context) (constructs : List Draft) (place : Cursor) : Prop :=
  (∃ draft ∈ constructs,
    (ctx.source.startPoint place).row ≤ (ctx.source.startPoint draft.place).row ∧
      (ctx.source.startPoint draft.place).row ≤ (ctx.source.endPoint place).row) ∧
    ∀ draft ∈ constructs, ¬draft.BeginsIn place

instance (ctx : Context) (constructs : List Draft) (place : Cursor) :
    Decidable (Overshadowed ctx constructs place) :=
  inferInstanceAs (Decidable (_ ∧ _))

theorem coversRow_startRows_iff {ctx : Context} {constructs : List Draft} {place : Cursor} :
    coversRow ctx.source (startRows ctx constructs) place = true ↔ ∃ draft ∈ constructs,
      (ctx.source.startPoint place).row ≤ (ctx.source.startPoint draft.place).row ∧
        (ctx.source.startPoint draft.place).row ≤ (ctx.source.endPoint place).row := by
  simp [coversRow_eq_true_iff, startRows]

/-- A construct that begins within the bytes of a node begins on one of its rows. -/
theorem Draft.BeginsIn.coversRow {ctx : Context} {constructs : List Draft} {draft : Draft}
    {place : Cursor} (begins : draft.BeginsIn place) (member : draft ∈ constructs) :
    coversRow ctx.source (startRows ctx constructs) place = true :=
  coversRow_startRows_iff.mpr ⟨draft, member, ctx.source.row_point_le begins.1,
    ctx.source.row_point_le (Nat.le_of_lt begins.2)⟩

/-! ## In the order of a file -/

/-- Scopes that are listed on later and later lines keep their order among the scopes of a file. -/
theorem filter_sortScopes {scopes listed : List Scope} {keep : Scope → Bool}
    (kept : scopes.filter keep = listed)
    (later : listed.Pairwise fun a b => a.startLine < b.startLine) :
    (sortScopes scopes).filter keep = listed := by
  have perm : ((sortScopes scopes).filter keep).Perm listed := by
    rw [← kept]
    exact (List.mergeSort_perm _ _).filter keep
  have sorted : ((sortScopes scopes).filter keep).Pairwise fun a b => a.startLine ≤ b.startLine := by
    refine ((pairwise_sortScopes scopes).imp ?_).filter keep
    intro a b order
    omega
  refine perm.eq_of_pairwise ?_ sorted (later.imp Int.le_of_lt)
  intro a b aMem bMem forth back
  by_contra differ
  have apart : listed.Pairwise fun a b => a.startLine < b.startLine ∨ b.startLine < a.startLine :=
    later.imp Or.inl
  have : Std.Symm fun a b : Scope => a.startLine < b.startLine ∨ b.startLine < a.startLine :=
    ⟨fun _ _ => Or.symm⟩
  have either := apart.forall (perm.mem_iff.mp aMem) bMem differ
  omega

end ScopeAtlas.Extraction
