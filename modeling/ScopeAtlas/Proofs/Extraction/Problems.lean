import ScopeAtlas.Proofs.Extraction.Containment

/-!
# Syntax problems and their places

A tree is searched for problems with a work list that does not enter error nodes, and counted for
problems by a pass over all nodes.  Both come to the first problem of a tree, so they agree on which
trees are clean.  What the search reports is known by its places: the outermost error nodes and the
missing nodes outside of them, in the order of the text.

The other issues of a file are that a construct cannot be read and that its tree is nested too
deeply.  A walk that enters nothing but children comes to smaller nodes with each step, so a tree for
which the call stack has room is walked to its end, and where no reading fails nothing else is
reported.
-/

namespace ScopeAtlas.Syntax.Cursor

/-- A place lies within another exactly if it is that place or has it among its ancestors. -/
theorem Within.eq_or_mem_ancestors {outer inner : Cursor} (within : outer.Within inner) :
    inner = outer ∨ outer ∈ inner.ancestors := by
  induction within with
  | refl => exact Or.inl rfl
  | tail _ isChild ih =>
      obtain ⟨_, _, _, _, rfl⟩ := mem_children_iff.mp isChild
      rw [ancestors, List.mem_cons]
      exact Or.inr (ih.imp_left Eq.symm)

/-- A place is no larger than the one it lies within. -/
theorem Within.size_le {outer inner : Cursor} (within : outer.Within inner) :
    inner.node.size ≤ outer.node.size := by
  induction within with
  | refl => exact Nat.le_refl _
  | tail _ isChild ih => exact Nat.le_trans (Nat.le_of_lt (size_lt_of_mem_children isChild)) ih

end ScopeAtlas.Syntax.Cursor

namespace ScopeAtlas.Extraction

open ScopeAtlas.Language ScopeAtlas.Syntax

/-! ## The places of problems -/

/-- The place is an error node. -/
def isError (place : Cursor) : Bool := place.kind == "ERROR"

/-- The place is an error node or a missing node. -/
def isFaulty (place : Cursor) : Bool := isError place || place.isMissing

/-- The outermost error nodes of a tree and the missing nodes outside of them, in the order of the
text. -/
def problemPlaces (root : Cursor) : List Cursor :=
  root.preorder.filter fun place => isFaulty place && !place.ancestors.any isError

/-- What is said of a problem. -/
def problemMessage (source : Source) (place : Cursor) : String :=
  let point := source.startPoint place
  (if isError place then "Syntax error" else "Missing " ++ place.kind) ++
    (" at line " ++ toString (point.row + 1) ++ ":" ++ toString (point.column + 1))

/-- The problem at a place. -/
def problemAt (source : Source) (place : Cursor) : Problem :=
  ⟨place.startByte, place.endByte, problemMessage source place⟩

/-- What the search for problems finds at a place, and whether it enters the children. -/
def problemVisit (source : Source) (place : Cursor) : List Problem × (Cursor → Bool) :=
  (if isFaulty place then [problemAt source place] else [], fun _ => !isError place)

theorem syntaxProblems_eq_explore (source : Source) (root : Cursor) :
    syntaxProblems source ["ERROR"] root = Cursor.explore (problemVisit source) [root] := by
  rw [syntaxProblems]
  congr 1
  funext place
  have kind : ["ERROR"].contains place.kind = isError place := by
    rw [Bool.eq_iff_iff]
    simp [isError]
  rw [kind]
  cases error : isError place <;> cases missing : place.isMissing <;>
    simp [problemVisit, problemAt, problemMessage, isFaulty, error, missing, String.append_assoc]

/-- Outside of error nodes the search finds the problems at and below a place. -/
theorem explore_problemVisit (source : Source) {place : Cursor}
    (outside : place.ancestors.any isError = false) :
    Cursor.explore (problemVisit source) [place] =
      (problemPlaces place).map (problemAt source) := by
  induction place using Cursor.childInduction with
  | step place ih =>
      have ofChild {child : Cursor} (isChild : child ∈ place.children) :
          child.ancestors = place :: place.ancestors := by
        obtain ⟨_, _, _, _, rfl⟩ := Cursor.mem_children_iff.mp isChild
        rfl
      rw [Cursor.explore_singleton, problemPlaces, Cursor.preorder_eq_cons, List.filter_cons,
        outside, Bool.not_false, Bool.and_true]
      cases error : isError place with
      | true =>
          -- Everything below has the error node among its ancestors.
          have below : (place.children.flatMap Cursor.preorder).filter (fun inner =>
              isFaulty inner && !inner.ancestors.any isError) = [] := by
            rw [List.filter_eq_nil_iff]
            intro inner member
            obtain ⟨child, isChild, inChild⟩ := List.mem_flatMap.mp member
            have inside : child.Within inner := Cursor.mem_preorder_iff.mp inChild
            have among : place ∈ inner.ancestors := by
              refine (((Cursor.within_of_mem_children isChild).trans
                inside).eq_or_mem_ancestors).resolve_left ?_
              rintro rfl
              exact Cursor.not_within_of_mem_children isChild inside
            have covered : inner.ancestors.any isError = true :=
              List.any_eq_true.mpr ⟨place, among, error⟩
            simp [covered]
          have faulty : isFaulty place = true := by simp [isFaulty, error]
          have entered : place.children.filter (problemVisit source place).2 = [] := by
            simp [problemVisit, error]
          rw [entered, below]
          simp [problemVisit, faulty]
      | false =>
          have below : place.children.flatMap (fun child =>
              Cursor.explore (problemVisit source) [child]) =
                ((place.children.flatMap Cursor.preorder).filter (fun inner =>
                  isFaulty inner && !inner.ancestors.any isError)).map (problemAt source) := by
            rw [List.filter_flatMap, List.map_flatMap]
            refine List.flatMap_congr fun child isChild => ?_
            exact ih child isChild (by simp [ofChild isChild, error, outside])
          have entered : place.children.filter (problemVisit source place).2 = place.children := by
            simp [problemVisit, error]
          rw [entered, below]
          cases faulty : isFaulty place <;> simp [problemVisit, faulty]

/-- The problems of a tree are those at its outermost error nodes and at the missing nodes outside
of them. -/
theorem syntaxProblems_eq (source : Source) (tree : Node) :
    syntaxProblems source ["ERROR"] (.root tree) =
      (problemPlaces (.root tree)).map (problemAt source) := by
  rw [syntaxProblems_eq_explore]
  exact explore_problemVisit source rfl

theorem mem_problemPlaces {root place : Cursor} (within : root.Within place)
    (faulty : isFaulty place = true) (outside : place.ancestors.any isError = false) :
    place ∈ problemPlaces root :=
  List.mem_filter.mpr ⟨Cursor.mem_preorder_iff.mpr within, by rw [faulty, outside]; rfl⟩

/-- The first error node on the way to a place is a problem. -/
theorem problemPlaces_ne_nil_of_errors {tree : Node} {place : Cursor}
    (within : (Cursor.root tree).Within place)
    (errors : isError place = true ∨ place.ancestors.any isError = true) :
    problemPlaces (.root tree) ≠ [] := by
  induction within with
  | refl =>
      have error : isError (.root tree) = true := by simpa [Cursor.ancestors] using errors
      exact List.ne_nil_of_mem
        (mem_problemPlaces (Cursor.Within.refl _) (by simp [isFaulty, error]) rfl)
  | @tail parent child above isChild ih =>
      obtain ⟨_, _, _, _, rfl⟩ := Cursor.mem_children_iff.mp isChild
      by_cases around : isError parent = true ∨ parent.ancestors.any isError = true
      · exact ih around
      · have outside : (parent :: parent.ancestors).any isError = false := by simpa using around
        have error := errors.resolve_right fun inside => by
          rw [Cursor.ancestors, outside] at inside
          contradiction
        exact List.ne_nil_of_mem
          (mem_problemPlaces (above.tail isChild) (by simp [isFaulty, error]) outside)

/-- A tree has problems exactly if it has error nodes or missing nodes. -/
theorem problemPlaces_eq_nil_iff (tree : Node) :
    problemPlaces (.root tree) = [] ↔
      ∀ place ∈ (Cursor.root tree).preorder, isFaulty place = false := by
  constructor
  · intro none place member
    have within := Cursor.mem_preorder_iff.mp member
    by_contra faulty
    rw [Bool.not_eq_false] at faulty
    cases errors : place.ancestors.any isError with
    | true => exact problemPlaces_ne_nil_of_errors within (Or.inr errors) none
    | false => simpa [none] using mem_problemPlaces within faulty errors
  · intro clean
    rw [problemPlaces, List.filter_eq_nil_iff]
    intro place member
    simp [clean place member]

/-! ## Walking to the end -/

/-- The step enters at most a child of a node that lies within the place, and reports nothing. -/
def Step.GoesBelow (outer : Cursor) : Step → Prop
  | .scope _ => True
  | .enter place _ _ => ∃ above, outer.Within above ∧ place ∈ above.children
  | .report _ => False

/-- The steps enter only children of nodes that lie within the place, and report nothing. -/
def EntersBelow (outer : Cursor) (steps : List Step) : Prop :=
  ∀ step ∈ steps, step.GoesBelow outer

section EntersBelow

variable {outer : Cursor}

@[simp]
theorem entersBelow_nil : EntersBelow outer [] := by
  intro step member
  contradiction

@[simp]
theorem entersBelow_scope_cons (draft : Draft) (rest : List Step) :
    EntersBelow outer (.scope draft :: rest) ↔ EntersBelow outer rest := by
  simp [EntersBelow, Step.GoesBelow]

@[simp]
theorem entersBelow_append (first second : List Step) :
    EntersBelow outer (first ++ second) ↔ EntersBelow outer first ∧ EntersBelow outer second := by
  simp only [EntersBelow, List.mem_append, or_imp, forall_and]

@[simp]
theorem entersBelow_flatMap {α : Type} (items : List α) (steps : α → List Step) :
    EntersBelow outer (items.flatMap steps) ↔ ∀ item ∈ items, EntersBelow outer (steps item) := by
  simp only [EntersBelow, List.mem_flatMap]
  constructor
  · intro all item itemMem step member
    exact all step ⟨item, itemMem, member⟩
  · rintro all step ⟨item, itemMem, member⟩
    exact all item itemMem step member

@[simp]
theorem entersBelow_map_scope {α : Type} (items : List α) (draft : α → Draft) :
    EntersBelow outer (items.map fun item => .scope (draft item)) := by
  simp [EntersBelow, Step.GoesBelow]

theorem EntersBelow.widen {inner : Cursor} {steps : List Step} (inside : outer.Within inner)
    (below : EntersBelow inner steps) : EntersBelow outer steps := by
  intro step member
  have goes := below step member
  cases step with
  | scope draft => trivial
  | enter place depth parent =>
      obtain ⟨above, within, isChild⟩ := goes
      exact ⟨above, inside.trans within, isChild⟩
  | report issue => exact goes

/-- Children of a node are entered, or some of them. -/
theorem entersBelow_map_enter {above : Cursor} {places : List Cursor} {depth : Nat}
    {parent : Option String} (inside : outer.Within above) (areChildren : places ⊆ above.children) :
    EntersBelow outer (places.map fun place => .enter place depth parent) := by
  intro step member
  obtain ⟨child, listed, rfl⟩ := List.mem_map.mp member
  exact ⟨above, inside, areChildren listed⟩

theorem entersBelow_enterChildren {place : Cursor} (inside : outer.Within place) (depth : Nat)
    (parent : Option String) : EntersBelow outer (enterChildren place depth parent) :=
  entersBelow_map_enter inside (List.Subset.refl _)

theorem entersBelow_enterBody {body : Option Cursor} (inside : ∀ node ∈ body, outer.Within node)
    (depth : Nat) (parent : Option String) : EntersBelow outer (enterBody body depth parent) := by
  cases body with
  | none => exact entersBelow_nil
  | some node => exact entersBelow_enterChildren (inside node rfl) depth parent

end EntersBelow

/-- Every reading enters only what lies below its place, and reports nothing itself. -/
def Strategy.EntersBelow (strategy : Strategy) (ctx : Context) : Prop :=
  ∀ construct reading, strategy.reading? construct = some reading →
    ∀ place depth parent, Extraction.EntersBelow place (stepsOf (reading ctx place depth parent))

section Walk

variable {strategy : Strategy} {ctx : Context} {root : Cursor}

theorem entersBelow_stepsAt (below : strategy.EntersBelow ctx) (reads : strategy.NeverFails ctx)
    (place : Cursor) (depth : Nat) (parent : Option String) :
    EntersBelow place (stepsAt strategy ctx place depth parent) := by
  rw [stepsAt]
  split
  · exact entersBelow_enterChildren (Cursor.Within.refl place) depth parent
  · rename_i reading found
    obtain ⟨construct, opens, chosen⟩ := Option.bind_eq_some_iff.mp found
    obtain ⟨steps, read⟩ := reads place construct reading opens chosen depth parent
    rw [read]
    simpa [read] using below construct reading chosen place depth parent

/-- What came to its end without anything to report. -/
def Gathering.IsClean (gathering : Gathering) : Prop :=
  gathering.truncated = false ∧ gathering.issues = []

/-- Steps are carried out to the end where every entered node is. -/
theorem isClean_gatherSteps {enter : Cursor → Nat → Option String → Gathering} {outer : Cursor}
    {steps : List Step} (below : EntersBelow outer steps)
    (entered : ∀ place depth parent, Step.enter place depth parent ∈ steps →
      (enter place depth parent).IsClean) : (gatherSteps enter steps).IsClean := by
  induction steps with
  | nil => exact ⟨rfl, rfl⟩
  | cons step rest ih =>
      have later : (gatherSteps enter rest).IsClean :=
        ih (fun step member => below step (List.mem_cons_of_mem _ member))
          fun place depth parent member =>
            entered place depth parent (List.mem_cons_of_mem _ member)
      cases step with
      | scope draft => exact later
      | enter place depth parent =>
          obtain ⟨finished, silent⟩ := entered place depth parent List.mem_cons_self
          simp [Gathering.IsClean, gatherSteps, finished, silent, later.1, later.2]
      | report issue => exact (below _ List.mem_cons_self).elim

/-- A walk for which the call stack has room comes to its end. -/
theorem isClean_gather (below : strategy.EntersBelow ctx) (reads : strategy.NeverFails ctx)
    (room : ∀ place, root.Within place → ctx.stack place = none) {fuel : Nat} {place : Cursor}
    (inside : root.Within place) (enough : place.node.size ≤ fuel) (depth : Nat)
    (parent : Option String) : (gather strategy ctx fuel place depth parent).IsClean := by
  induction fuel generalizing place depth parent with
  | zero =>
      rw [Node.size_eq] at enough
      omega
  | succ fuel ih =>
      have steps := entersBelow_stepsAt below reads place depth parent
      have clean : (gatherSteps (gather strategy ctx fuel)
          (stepsAt strategy ctx place depth parent)).IsClean := by
        refine isClean_gatherSteps steps fun next level owner member => ?_
        obtain ⟨above, within, isChild⟩ := steps _ member
        have smaller := Cursor.size_lt_of_mem_children isChild
        have bounded := Cursor.Within.size_le within
        refine ih (inside.trans (within.trans (Cursor.within_of_mem_children isChild))) ?_ _ _
        omega
      rw [gather, Context.room, room place inside]
      exact ⟨by simp [clean.1], clean.2⟩

/-- A tree for which the call stack has room is walked to the end. -/
theorem harvest_eq_of_room (below : strategy.EntersBelow ctx) (reads : strategy.NeverFails ctx)
    (room : ∀ place ∈ root.preorder, ctx.stack place = none) :
    (harvest strategy ctx root).truncated = false ∧ (harvest strategy ctx root).issues = [] := by
  rw [harvest, walk_eq_complete_gather]
  have reached : ∀ place, root.Within place → ctx.stack place = none := fun place within =>
    room place (Cursor.mem_preorder_iff.mpr within)
  exact isClean_gather below reads reached (Cursor.Within.refl root) (Nat.le_refl _) 0 none

end Walk

/-! ## What is reported -/

/-- The scope begins with one node and ends with another. -/
structure HasSpan (source : Source) (scope : Scope) (first last : Cursor) : Prop where
  content : scope.content = source.slice first.startByte last.endByte
  id : scope.id = scopeId scope.filePath first.startByte last.endByte scope.content
  startLine : scope.startLine = (source.startPoint first).row + 1
  endLine : scope.endLine = source.lastRow first.startByte last.endByte + 1

theorem Draft.hasSpan_complete (draft : Draft) (ctx : Context) (packageName : String → String) :
    HasSpan ctx.source (draft.complete ctx packageName) draft.place draft.lastPlace where
  content := rfl
  id := rfl
  startLine := rfl
  endLine := rfl

/-- The issues of a file are what is wrong with its tree, and the issues of a scope are what of this
lies within the scope. -/
structure ReportsProblems (source : Source) (root : Cursor) (file : FileAnalysis) : Prop where
  valid : file.syntaxValid = true ↔
    ∀ place ∈ root.preorder, place.kind ≠ "ERROR" ∧ place.isMissing = false
  issues : file.syntaxIssues = (problemPlaces root).map (problemMessage source)
  scopes : ∀ scope ∈ file.scopes, ∃ first ∈ root.preorder, ∃ last ∈ root.preorder,
    HasSpan source scope first last ∧
      scope.syntaxIssues = ((problemPlaces root).filter fun place =>
        first.startByte ≤ place.startByte && place.endByte ≤ last.endByte).map
          (problemMessage source) ∧
      (scope.syntaxValid = true ↔ scope.syntaxIssues = [])

section Analysis

variable {profile : Profile} (strategy : Strategy) (stack : StackLimit) (filePath : String)
  (bytes : ByteArray) (tree : Node) (errors : profile.nodes.errors = ["ERROR"])

include errors

theorem problems_prepare :
    (prepare profile strategy stack filePath bytes (.root tree)).problems =
      (problemPlaces (.root tree)).map (problemAt (Source.ofBytes bytes)) := by
  rw [prepare, errors]
  exact syntaxProblems_eq _ tree

theorem problemsWithin_prepare (startByte endByte : Nat) :
    (prepare profile strategy stack filePath bytes (.root tree)).problemsWithin startByte endByte =
      ((problemPlaces (.root tree)).filter fun place =>
        startByte ≤ place.startByte && place.endByte ≤ endByte).map
          (problemMessage (Source.ofBytes bytes)) := by
  rw [Context.problemsWithin, problems_prepare strategy stack filePath bytes tree errors,
    List.filter_map, List.map_map]
  rfl

/-- The issues of a file are its problems, then what the walk reports, then that it was given up. -/
theorem syntaxIssues_analyze (includeModuleScopes : Bool) (language : String) :
    (analyze profile strategy stack includeModuleScopes filePath language bytes tree).syntaxIssues =
      let found := harvest strategy (prepare profile strategy stack filePath bytes (.root tree))
        (.root tree)
      (problemPlaces (.root tree)).map (problemMessage (Source.ofBytes bytes)) ++ found.issues ++
        if found.truncated then [truncationIssue] else [] := by
  simp only [analyze]
  rw [problems_prepare strategy stack filePath bytes tree errors, List.map_map]
  rfl

/-- An analysis reports the problems of a tree for which the call stack has room, if no reading
fails. -/
theorem reportsProblems_analyze (includeModuleScopes : Bool) (language : String)
    (below : strategy.EntersBelow (prepare profile strategy stack filePath bytes (.root tree)))
    (reads : strategy.NeverFails (prepare profile strategy stack filePath bytes (.root tree)))
    (lies : ∀ draft ∈ fileDrafts strategy
      (prepare profile strategy stack filePath bytes (.root tree)) includeModuleScopes (.root tree),
        draft.LiesWithin (.root tree))
    (room : ∀ place ∈ (Cursor.root tree).preorder, stack place = none) :
    ReportsProblems (Source.ofBytes bytes) (.root tree)
      (analyze profile strategy stack includeModuleScopes filePath language bytes tree) := by
  obtain ⟨finished, silent⟩ := harvest_eq_of_room below reads room
  have issues : (analyze profile strategy stack includeModuleScopes filePath language bytes
      tree).syntaxIssues =
        (problemPlaces (.root tree)).map (problemMessage (Source.ofBytes bytes)) := by
    rw [syntaxIssues_analyze strategy stack filePath bytes tree errors]
    simp [finished, silent]
  refine ⟨?_, issues, ?_⟩
  · have valid : (analyze profile strategy stack includeModuleScopes filePath language bytes
        tree).syntaxValid = (analyze profile strategy stack includeModuleScopes filePath language
          bytes tree).syntaxIssues.isEmpty := rfl
    rw [valid, issues, List.isEmpty_iff, List.map_eq_nil_iff, problemPlaces_eq_nil_iff]
    simp [isFaulty, isError]
  · intro scope member
    obtain ⟨draft, drafted, rfl⟩ := mem_scopes_analyze_iff.mp member
    have within := (lies draft drafted).within
    let ctx := prepare profile strategy stack filePath bytes (.root tree)
    refine ⟨draft.place, Cursor.mem_preorder_iff.mpr (within _ List.mem_cons_self),
      draft.lastPlace, Cursor.mem_preorder_iff.mpr (within _ draft.lastPlace_mem_places),
      draft.hasSpan_complete ctx strategy.packageName, ?_, ?_⟩
    · exact problemsWithin_prepare strategy stack filePath bytes tree errors _ _
    · exact List.isEmpty_iff

end Analysis

end ScopeAtlas.Extraction
