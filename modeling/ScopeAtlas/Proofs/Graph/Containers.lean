import ScopeAtlas.Proofs.Graph.Reordering

/-!
# The container that is found

A scope names its container, and the name is looked for among the scopes of the file.  In a list
that is ordered by first lines, the one found is the last namesake one level up that has the lines
of the scope; only if there is none, it is the first namesake one level up.  So a given namesake is
passed over in three cases and no others.  What is found for a scope is the one edge of nesting into
it.
-/

namespace ScopeAtlas.Data

/-- The last occurrence of a member. -/
theorem exists_last_occurrence {α : Type} {items : List α} {item : α} (member : item ∈ items) :
    ∃ before after, items = before ++ item :: after ∧ item ∉ after := by
  obtain ⟨after, before, split, fresh⟩ := List.eq_append_cons_of_mem (List.mem_reverse.mpr member)
  refine ⟨before.reverse, after.reverse, ?_, by simpa using fresh⟩
  have reversed := congrArg List.reverse split
  simpa using reversed

/-- Where only one member contributes, that contribution is made. -/
theorem flatMap_eq_of_only {α β : Type} {before after : List α} (item : α) (parts : α → List β)
    (others : ∀ other ∈ before ++ after, parts other = []) :
    (before ++ item :: after).flatMap parts = parts item := by
  have beforeSilent : before.flatMap parts = [] :=
    List.flatMap_eq_nil_iff.mpr fun other member => others other (List.mem_append_left _ member)
  have afterSilent : after.flatMap parts = [] :=
    List.flatMap_eq_nil_iff.mpr fun other member => others other (List.mem_append_right _ member)
  rw [List.flatMap_append, List.flatMap_cons, beforeSilent, afterSilent, List.nil_append,
    List.append_nil]

end ScopeAtlas.Data

namespace ScopeAtlas.Graph

open ScopeAtlas.Data ScopeAtlas.Files

/-! ## The search in an ordered list -/

/-- In the order of first lines the last scope is the innermost one. -/
theorem innermost?_eq_getLast? {scopes : List Scope}
    (sorted : scopes.Pairwise fun a b => a.startLine ≤ b.startLine) :
    innermost? none scopes = scopes.getLast? := by
  -- A scope that is held begins no later than those to come, and gives way to each of them.
  have held : ∀ (held : Scope) (scopes : List Scope),
      (held :: scopes).Pairwise (fun a b => a.startLine ≤ b.startLine) →
        innermost? (some held) scopes = (held :: scopes).getLast? := by
    intro held scopes
    induction scopes generalizing held with
    | nil => intro _; rfl
    | cons next rest ih =>
        intro sorted
        obtain ⟨first, restSorted⟩ := List.pairwise_cons.mp sorted
        rw [innermost?, if_pos (first next List.mem_cons_self), ih next restSorted,
          List.getLast?_cons_cons]
  cases scopes with
  | nil => rfl
  | cons first rest => exact held first rest sorted

/-- The namesakes of a container, one level up, that have the lines of the scope. -/
def spanningNamesakes (inner : Scope) (scopes : List Scope) : List Scope :=
  scopes.filter fun scope => mayContain inner scope && spans inner scope

theorem mem_spanningNamesakes_iff {inner scope : Scope} {scopes : List Scope} :
    scope ∈ spanningNamesakes inner scopes ↔
      scope ∈ scopes ∧ mayContain inner scope = true ∧ spans inner scope = true := by
  simp [spanningNamesakes]

theorem enclosing?_eq_or {inner : Scope} {scopes : List Scope}
    (sorted : scopes.Pairwise fun a b => a.startLine ≤ b.startLine) :
    enclosing? inner scopes =
      (spanningNamesakes inner scopes).getLast?.or (scopes.find? (mayContain inner)) := by
  have found := innermost?_eq_getLast?
    (sorted.sublist
      (List.filter_sublist (p := fun scope => mayContain inner scope && spans inner scope)))
  rw [enclosing?, found, ← spanningNamesakes]
  cases (spanningNamesakes inner scopes).getLast? <;> rfl

theorem mayContain_of_enclosing? {inner outer : Scope} {scopes : List Scope}
    (found : enclosing? inner scopes = some outer) : mayContain inner outer = true := by
  rw [enclosing?] at found
  split at found
  · rename_i scope chosen
    obtain rfl := Option.some.inj found
    rcases mem_of_innermost? chosen with none | member
    · contradiction
    · have candidate := List.of_mem_filter member
      exact (Bool.and_eq_true_iff.mp candidate).1
  · exact List.find?_some found

/-- Why a namesake of the container, one level up, is not found. -/
inductive Misplaced (scopes : List Scope) (outer inner : Scope) : Prop where
  /-- Another one that has the lines of the scope is listed after it. -/
  | rivalled {before after : List Scope} {rival : Scope}
      (split : scopes = before ++ outer :: after) (last : outer ∉ after) (listed : rival ∈ after)
      (namesake : mayContain inner rival = true) (spanning : spans inner rival = true)
  /-- It does not have the lines of the scope, and another one does. -/
  | displaced {rival : Scope} (misses : spans inner outer = false) (listed : rival ∈ scopes)
      (namesake : mayContain inner rival = true) (spanning : spans inner rival = true)
  /-- None has the lines of the scope, and another one is listed first. -/
  | preceded {rival : Scope} (none : spanningNamesakes inner scopes = [])
      (first : FirstWith (fun scope => mayContain inner scope = true) scopes rival)
      (differs : rival ≠ outer)

theorem Misplaced.not_selected {scopes : List Scope} {outer inner : Scope}
    (sorted : scopes.Pairwise fun a b => a.startLine ≤ b.startLine)
    (misplaced : Misplaced scopes outer inner) : enclosing? inner scopes ≠ some outer := by
  rw [enclosing?_eq_or sorted]
  intro selected
  cases misplaced with
  | @rivalled before after rival split last listed namesake spanning =>
      have candidate : rival ∈ spanningNamesakes inner after :=
        mem_spanningNamesakes_iff.mpr ⟨listed, namesake, spanning⟩
      have isLast := List.getLast?_eq_some_getLast (List.ne_nil_of_mem candidate)
      have behind : (spanningNamesakes inner scopes).getLast? =
          (spanningNamesakes inner after).getLast? := by
        have parts : spanningNamesakes inner scopes =
            spanningNamesakes inner (before ++ [outer]) ++ spanningNamesakes inner after := by
          rw [split, spanningNamesakes, spanningNamesakes, spanningNamesakes, ← List.filter_append,
            List.append_assoc, List.singleton_append]
        rw [parts, List.getLast?_append, isLast, Option.some_or]
      rw [behind, isLast, Option.some_or] at selected
      have chosen := List.mem_of_getLast? (isLast.trans selected)
      exact last (mem_spanningNamesakes_iff.mp chosen).1
  | displaced misses listed namesake spanning =>
      have candidate := mem_spanningNamesakes_iff.mpr ⟨listed, namesake, spanning⟩
      have isLast := List.getLast?_eq_some_getLast (List.ne_nil_of_mem candidate)
      rw [isLast, Option.some_or] at selected
      have chosen := List.mem_of_getLast? (isLast.trans selected)
      have spanned := (mem_spanningNamesakes_iff.mp chosen).2.2
      rw [misses] at spanned
      contradiction
  | preceded none first differs =>
      rw [← find?_eq_some_iff_firstWith] at first
      rw [none, first] at selected
      exact differs (Option.some.inj selected)

theorem Misplaced.of_pair_sublist {scopes : List Scope} {outer inner rival : Scope}
    (nodup : scopes.Nodup) (listed : [outer, rival].Sublist scopes)
    (namesake : mayContain inner rival = true) (spanning : spans inner rival = true) :
    Misplaced scopes outer inner := by
  obtain ⟨first, second, split, outerMem, rivalListed⟩ := List.cons_sublist_iff.mp listed
  obtain ⟨before, between, rfl⟩ := List.append_of_mem outerMem
  rw [List.append_assoc, List.cons_append] at split
  have once : outer ∉ between ++ second := by
    rw [split, List.nodup_append] at nodup
    exact (List.nodup_cons.mp nodup.2.1).1
  apply Misplaced.rivalled split once _ namesake spanning
  exact List.mem_append_right _ (List.singleton_sublist.mp rivalListed)

/-- A namesake of the container, one level up, is found unless it is misplaced. -/
theorem enclosing?_eq_some_iff_not_misplaced {scopes : List Scope} {outer inner : Scope}
    (sorted : scopes.Pairwise fun a b => a.startLine ≤ b.startLine) (member : outer ∈ scopes)
    (namesake : mayContain inner outer = true) :
    enclosing? inner scopes = some outer ↔ ¬Misplaced scopes outer inner := by
  constructor
  · intro selected misplaced
    exact misplaced.not_selected sorted selected
  · intro placed
    rw [enclosing?_eq_or sorted]
    cases isLast : (spanningNamesakes inner scopes).getLast? with
    | some found =>
        obtain ⟨listed, mayToo, spansToo⟩ :=
          mem_spanningNamesakes_iff.mp (List.mem_of_getLast? isLast)
        have spansOuter : spans inner outer = true := by
          by_contra misses
          exact placed (.displaced (by simpa using misses) listed mayToo spansToo)
        obtain ⟨before, after, split, last⟩ := exists_last_occurrence member
        have nothing : spanningNamesakes inner after = [] := by
          rw [List.eq_nil_iff_forall_not_mem]
          intro rival candidate
          obtain ⟨rivalMem, rivalMay, rivalSpans⟩ := mem_spanningNamesakes_iff.mp candidate
          exact placed (.rivalled split last rivalMem rivalMay rivalSpans)
        have parts :
            spanningNamesakes inner scopes = spanningNamesakes inner before ++ [outer] := by
          have rest : spanningNamesakes inner (outer :: after) = [outer] := by
            rw [spanningNamesakes, List.filter_cons_of_pos (by simp [namesake, spansOuter]),
              ← spanningNamesakes, nothing]
          rw [split, spanningNamesakes, List.filter_append, ← spanningNamesakes,
            ← spanningNamesakes, rest]
        rw [parts, List.getLast?_append] at isLast
        rw [Option.some_or, ← isLast]
        rfl
    | none =>
        rw [Option.none_or]
        cases found : scopes.find? (mayContain inner) with
        | none =>
            have absent := List.find?_eq_none.mp found outer member
            contradiction
        | some first =>
            by_contra differs
            have none := List.getLast?_eq_none_iff.mp isLast
            have isFirst := (find?_eq_some_iff_firstWith _ _ _).mp found
            exact placed (.preceded none isFirst fun same => differs (congrArg some same))

/-! ## The search in a classified file -/

/-- Two scopes have the same name, level, lines and container. -/
structure SamePosition (scope other : Scope) : Prop where
  name : scope.name = other.name
  parent : scope.parent = other.parent
  depth : scope.depth = other.depth
  startLine : scope.startLine = other.startLine
  endLine : scope.endLine = other.endLine

section Views

variable {view : Scope → Scope} (same : ∀ scope, SamePosition (view scope) scope)

include same

theorem mayContain_view (inner candidate : Scope) :
    mayContain (view inner) (view candidate) = mayContain inner candidate := by
  rw [mayContain, mayContain, (same inner).parent, (same inner).depth, (same candidate).name,
    (same candidate).depth]

theorem spans_view (inner candidate : Scope) :
    spans (view inner) (view candidate) = spans inner candidate := by
  rw [spans, spans, (same inner).startLine, (same inner).endLine, (same candidate).startLine,
    (same candidate).endLine]

theorem innermost?_map (best : Option Scope) (scopes : List Scope) :
    innermost? (best.map view) (scopes.map view) = (innermost? best scopes).map view := by
  induction scopes generalizing best with
  | nil => rfl
  | cons candidate rest ih =>
      cases best with
      | none => exact ih (some candidate)
      | some held =>
          rw [innermost?, ← ih, List.map_cons, Option.map_some, innermost?,
            (same held).startLine, (same candidate).startLine]
          split <;> rfl

/-- What does not change the position of scopes does not change their containers. -/
theorem enclosing?_map (inner : Scope) (scopes : List Scope) :
    enclosing? (view inner) (scopes.map view) = (enclosing? inner scopes).map view := by
  have candidates : ((scopes.map view).filter fun scope =>
      mayContain (view inner) scope && spans (view inner) scope) =
        (scopes.filter fun scope => mayContain inner scope && spans inner scope).map view := by
    rw [List.filter_map]
    congr 1
    apply List.filter_congr
    intro scope _
    exact congrArg₂ and (mayContain_view same inner scope) (spans_view same inner scope)
  have named : (scopes.map view).find? (mayContain (view inner)) =
      (scopes.find? (mayContain inner)).map view := by
    rw [List.find?_map]
    congr 1
    congr 1
    funext scope
    exact mayContain_view same inner scope
  have found := innermost?_map same none
    (scopes.filter fun scope => mayContain inner scope && spans inner scope)
  rw [Option.map_none] at found
  rw [enclosing?, enclosing?, candidates, found, named]
  cases innermost? none
    (scopes.filter fun scope => mayContain inner scope && spans inner scope) <;> rfl

end Views

theorem samePosition_classifyScope (locators : Locators) (analyses : List FileAnalysis)
    (file : FileAnalysis) (scope : Scope) :
    SamePosition (classifyScope locators analyses file scope) scope :=
  ⟨rfl, rfl, rfl, rfl, rfl⟩

/-- Classification changes no container, so the edge into a scope can be read off its file. -/
theorem nestingEdge?_classifyFile (locators : Locators) (analyses : List FileAnalysis)
    (file : FileAnalysis) (scope : Scope) :
    nestingEdge? (classifyFile locators analyses file)
        (classifyScope locators analyses file scope) =
      nestingEdge? file scope := by
  rw [nestingEdge?, nestingEdge?]
  change (if scope.parent.isNone = true then none else _) = _
  congr 1
  change (enclosing? (classifyScope locators analyses file scope)
    (file.scopes.map (classifyScope locators analyses file))).map _ = _
  rw [enclosing?_map (samePosition_classifyScope locators analyses file), Option.map_map]
  rfl

/-! ## The edge of nesting -/

/-- The edges by which the scope of an id is nested in another. -/
def nestingInto (edges : List Edge) (id : String) : List Edge :=
  edges.filter fun edge => edge.relation == .contains && edge.target.id == id

section Nesting

variable {options : Options} {root : Path} {locators : Locators} {analyses : List FileAnalysis}
  {file : FileAnalysis} {inner : Scope}

/-- An edge of nesting into a scope is emitted by a scope of its id. -/
theorem emitter_of_nestingInto {setting : Setting} {scope : Scope} {id : String} {edge : Edge}
    (emitted : edge ∈ nestingInto (scopeEdges options setting file scope) id) : scope.id = id := by
  obtain ⟨emitted, wanted⟩ := List.mem_filter.mp emitted
  simp only [Bool.and_eq_true, beq_iff_eq] at wanted
  rw [← emitterOf_key emitted, ← wanted.2]
  exact if_pos wanted.1

/-- Of the edges of a scope, the one of nesting is that from its container. -/
theorem nestingInto_scopeEdges (setting : Setting) (file : FileAnalysis) (scope : Scope)
    (wanted : options.includeContains = true) :
    nestingInto (scopeEdges options setting file scope) scope.id =
      (nestingEdge? file scope).toList := by
  have uses : nestingInto (scope.references.filterMap (referenceEdge? setting file scope))
      scope.id = [] := by
    rw [nestingInto, List.filter_eq_nil_iff]
    intro edge member
    obtain ⟨reference, _, found⟩ := List.mem_filterMap.mp member
    simp [(relation_of_referenceEdge? found).1]
  have decorations : nestingInto (if options.includeDecorators then
      scope.decorators.filterMap (decoratorEdge? setting file scope) else []) scope.id = [] := by
    rw [nestingInto, List.filter_eq_nil_iff]
    intro edge member
    split at member
    · obtain ⟨decorator, _, found⟩ := List.mem_filterMap.mp member
      simp [relation_of_decoratorEdge? found]
    · contradiction
  have nested : nestingInto (nestingEdge? file scope).toList scope.id =
      (nestingEdge? file scope).toList := by
    rw [nestingInto, List.filter_eq_self]
    intro edge member
    obtain ⟨outer, _, rfl⟩ :=
      (nestingEdge?_eq_some_iff file scope edge).mp (Option.mem_toList.mp member)
    simp [edgeBetween, Endpoint.ofScope]
  rw [scopeEdges, if_pos wanted, nestingInto, List.filter_append, List.filter_append,
    ← nestingInto, ← nestingInto, ← nestingInto, nested, uses, decorations]
  simp

/-- No other scope has the id of a given one, in its own file or in the others. -/
theorem id_ne_of_nodup {before after : List FileAnalysis} {earlier later : List Scope}
    (ids : (((before ++ file :: after).flatMap (·.scopes)).map (·.id)).Nodup)
    (split : file.scopes = earlier ++ inner :: later) :
    (∀ other ∈ before ++ after, ∀ scope ∈ other.scopes, scope.id ≠ inner.id) ∧
      ∀ scope ∈ earlier ++ later, scope.id ≠ inner.id := by
  have moved : ((before ++ file :: after).flatMap (·.scopes)).Perm
      (inner :: (earlier ++ later) ++ (before ++ after).flatMap (·.scopes)) := by
    apply (List.perm_middle.flatMap_right _).trans
    rw [List.flatMap_cons, split]
    exact List.perm_middle.append_right _
  have fresh := (List.nodup_cons.mp ((moved.map _).nodup_iff.mp ids)).1
  constructor
  · intro other otherMem scope scopeMem same
    apply fresh
    rw [← same]
    apply List.mem_map_of_mem
    exact List.mem_append_right _ (List.mem_flatMap.mpr ⟨other, otherMem, scopeMem⟩)
  · intro scope scopeMem same
    apply fresh
    rw [← same]
    exact List.mem_map_of_mem (List.mem_append_left _ scopeMem)

/-- What nests a scope, among all contributions, is what its file says. -/
theorem nestingInto_contributions (wanted : options.includeContains = true)
    (ids : ((analyses.flatMap (·.scopes)).map (·.id)).Nodup) (fileMem : file ∈ analyses)
    (innerMem : inner ∈ file.scopes) :
    nestingInto (contributions options (settingOf root locators analyses)) inner.id =
      (nestingEdge? file inner).toList.filter options.admits := by
  obtain ⟨before, after, project⟩ := List.append_of_mem fileMem
  obtain ⟨earlier, later, split⟩ := List.append_of_mem innerMem
  obtain ⟨elsewhere, beside⟩ := id_ne_of_nodup (project ▸ ids) split
  let parts : FileAnalysis → Scope → List Edge := fun file scope =>
    nestingInto (scopeEdges options (settingOf root locators analyses)
      (classifyFile locators analyses file) (classifyScope locators analyses file scope)) inner.id
  have silent : ∀ file scope, scope.id ≠ inner.id → parts file scope = [] := by
    intro file scope differs
    rw [List.eq_nil_iff_forall_not_mem]
    intro edge emitted
    have sameId : (classifyScope locators analyses file scope).id = inner.id :=
      emitter_of_nestingInto emitted
    exact differs sameId
  have emitted : nestingInto (contributions options (settingOf root locators analyses)) inner.id =
      (analyses.flatMap fun file => file.scopes.flatMap (parts file)).filter options.admits := by
    change List.filter _ (List.filter _ ((analyses.map (classifyFile locators analyses)).flatMap
      _)) = _
    rw [List.filter_comm, List.flatMap_map, List.filter_flatMap]
    congr 2
    funext file
    change List.filter _ ((file.scopes.map (classifyScope locators analyses file)).flatMap _) = _
    rw [List.flatMap_map, List.filter_flatMap]
    rfl
  have inFile : file.scopes.flatMap (parts file) = (nestingEdge? file inner).toList := by
    rw [split, flatMap_eq_of_only inner (parts file) fun scope member =>
      silent file scope (beside scope member)]
    exact (nestingInto_scopeEdges _ _ (classifyScope locators analyses file inner) wanted).trans
      (by rw [nestingEdge?_classifyFile])
  have overall : (analyses.flatMap fun file => file.scopes.flatMap (parts file)) =
      file.scopes.flatMap (parts file) := by
    conv_lhs => rw [project]
    apply flatMap_eq_of_only
    intro other otherMem
    exact List.flatMap_eq_nil_iff.mpr fun scope scopeMem =>
      silent other scope (elsewhere other otherMem scope scopeMem)
  rw [emitted, overall, inFile]

/-- The edges of nesting into a scope are that from its container, if one is found. -/
theorem nestingInto_forward (wanted : options.includeContains = true)
    (ids : ((analyses.flatMap (·.scopes)).map (·.id)).Nodup) (fileMem : file ∈ analyses)
    (innerMem : inner ∈ file.scopes)
    (onePath : ∀ scope ∈ file.scopes, scope.filePath = inner.filePath) :
    nestingInto (resolve options root locators analyses).forward inner.id =
      (nestingEdge? file inner).toList := by
  have admitted : (nestingEdge? file inner).toList.filter options.admits =
      (nestingEdge? file inner).toList := by
    rw [List.filter_eq_self]
    intro edge member
    obtain ⟨outer, encloses, rfl⟩ :=
      (nestingEdge?_eq_some_iff file inner edge).mp (Option.mem_toList.mp member)
    have outerMem := mem_of_enclosing? encloses
    rw [Options.admits_iff]
    constructor
    · intro sameId
      have fileIds : (file.scopes.map (·.id)).Nodup := by
        rw [List.map_flatMap, List.nodup_flatMap] at ids
        exact ids.1 file fileMem
      have same := List.inj_on_of_nodup_map fileIds outerMem innerMem sameId
      have level := mayContain_of_enclosing? encloses
      simp [mayContain, same] at level
    · exact Or.inl (onePath outer outerMem)
  have respects : ∀ a b : Edge, a.key = b.key →
      (a.relation == .contains && a.target.id == inner.id) =
        (b.relation == .contains && b.target.id == inner.id) := by
    intro a b same
    obtain ⟨_, rest⟩ := Prod.mk.inj same
    obtain ⟨targets, relations⟩ := Prod.mk.inj rest
    rw [targets, relations]
  have kept : Edge.keepFirst []
      (nestingInto (contributions options (settingOf root locators analyses)) inner.id) =
        nestingInto (forwardEdges options (settingOf root locators analyses)) inner.id :=
    Edge.keepFirst_filter (fun a _ b _ => respects a b) (fun _ _ _ => Iff.rfl)
  rw [forward_resolve, ← kept, nestingInto_contributions wanted ids fileMem innerMem, admitted]
  cases nestingEdge? file inner <;> rfl

end Nesting

end ScopeAtlas.Graph
