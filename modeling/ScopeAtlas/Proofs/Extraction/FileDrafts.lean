import Mathlib.Logic.Relation
import ScopeAtlas.Proofs.Extraction.Harvest

/-!
# The drafts of a file

The walk completes each draft as it meets it.  Nothing that the walk does later depends on a
completed scope, so the drafts can be gathered first and completed afterwards.  The list of all
drafts of a file is the form in which its scopes are compared with each other and with the tree:
a draft still knows its nodes, and a scope does not.
-/

namespace ScopeAtlas.Extraction

open ScopeAtlas.Language ScopeAtlas.Syntax

/-- What a walk drafted and reported, and whether it was given up. -/
structure Gathering where
  drafts : List Draft := []
  issues : List String := []
  truncated : Bool := false

/-- The harvest of a gathering: every draft completed. -/
def Gathering.complete (gathering : Gathering) (complete : Draft → Scope) : Harvest :=
  { scopes := gathering.drafts.map complete
    issues := gathering.issues
    truncated := gathering.truncated }

/-- The drafts that steps make, in order, until one gives up. -/
def gatherSteps (enter : Cursor → Nat → Option String → Gathering) : List Step → Gathering
  | [] => {}
  | .scope draft :: rest =>
      let later := gatherSteps enter rest
      { later with drafts := draft :: later.drafts }
  | .enter place depth parent :: rest =>
      let first := enter place depth parent
      if first.truncated then first
      else
        let later := gatherSteps enter rest
        { later with
          drafts := first.drafts ++ later.drafts
          issues := first.issues ++ later.issues }
  | .report issue :: rest =>
      let later := gatherSteps enter rest
      { later with issues := issue :: later.issues }

/-- The drafts of a tree, in the order of the walk. -/
def gather (strategy : Strategy) (ctx : Context) :
    (fuel : Nat) → Cursor → Nat → Option String → Gathering
  | 0, _, _, _ => { truncated := true }
  | fuel + 1, place, depth, parent =>
      let found := gatherSteps (gather strategy ctx fuel)
        (ctx.room place (stepsAt strategy ctx place depth parent))
      { found with truncated := found.truncated || (ctx.stack place).isSome }

theorem runSteps_eq_complete_gatherSteps (complete : Draft → Scope)
    (enter : Cursor → Nat → Option String → Gathering) (steps : List Step) :
    runSteps complete (fun place depth parent => (enter place depth parent).complete complete)
      steps = (gatherSteps enter steps).complete complete := by
  induction steps with
  | nil => rfl
  | cons step rest ih =>
      cases step with
      | scope draft =>
          rw [runSteps, ih]
          rfl
      | enter place depth parent =>
          simp only [runSteps, gatherSteps, ih]
          cases given : (enter place depth parent).truncated <;>
            simp [Gathering.complete, given]
      | report issue =>
          rw [runSteps, ih]
          rfl

/-- The walk harvests what is gathered. -/
theorem walk_eq_complete_gather (strategy : Strategy) (ctx : Context) (fuel : Nat)
    (place : Cursor) (depth : Nat) (parent : Option String) :
    walk strategy ctx fuel place depth parent =
      (gather strategy ctx fuel place depth parent).complete
        fun draft => draft.complete ctx strategy.packageName := by
  induction fuel generalizing place depth parent with
  | zero => rfl
  | succ fuel ih =>
      have entered : walk strategy ctx fuel = fun place depth parent =>
          (gather strategy ctx fuel place depth parent).complete
            fun draft => draft.complete ctx strategy.packageName := by
        funext place depth parent
        exact ih place depth parent
      rw [walk, gather, entered, runSteps_eq_complete_gatherSteps]
      rfl

/-- The drafts of the constructs of a tree. -/
def constructDrafts (strategy : Strategy) (ctx : Context) (root : Cursor) : List Draft :=
  (gather strategy ctx root.node.size root 0 none).drafts

/-- The rows on which drafts begin. -/
def startRows (ctx : Context) (drafts : List Draft) : List Nat :=
  drafts.map fun draft => (ctx.source.startPoint draft.place).row

/-- The drafts of the code outside the constructs of a tree. -/
def outsideDrafts (ctx : Context) (constructs : List Draft) (root : Cursor) : List Draft :=
  moduleDrafts 1
    (stretchesFrom ctx.nodes (coversRow ctx.source (startRows ctx constructs)) []
      root.namedChildren)

/-- All drafts of a file: those of its constructs, then those of the code outside them. -/
def fileDrafts (strategy : Strategy) (ctx : Context) (includeModuleScopes : Bool)
    (root : Cursor) : List Draft :=
  let constructs := constructDrafts strategy ctx root
  constructs ++ if includeModuleScopes then outsideDrafts ctx constructs root else []

theorem moduleScopes_eq_map_complete (strategy : Strategy) (ctx : Context) (root : Cursor) :
    moduleScopes ctx strategy.packageName (harvest strategy ctx root).scopes root =
      (outsideDrafts ctx (constructDrafts strategy ctx root) root).map
        fun draft => draft.complete ctx strategy.packageName := by
  -- A scope begins one row after the row of its node, and rows count from zero.
  have rows : ((harvest strategy ctx root).scopes.map fun scope => (scope.startLine - 1).toNat) =
      startRows ctx (constructDrafts strategy ctx root) := by
    rw [harvest, walk_eq_complete_gather, startRows, constructDrafts, Gathering.complete,
      List.map_map]
    refine List.map_congr_left ?_
    intro draft _
    simp [Draft.complete]
  rw [moduleScopes, rows, outsideDrafts]

/-- The scopes of a file are its completed drafts, put in order. -/
theorem scopes_analyze (profile : Profile) (strategy : Strategy) (stack : StackLimit)
    (includeModuleScopes : Bool) (filePath language : String) (bytes : ByteArray) (tree : Node) :
    (analyze profile strategy stack includeModuleScopes filePath language bytes tree).scopes =
      sortScopes ((fileDrafts strategy
          (prepare profile strategy stack filePath bytes (Cursor.root tree)) includeModuleScopes
          (Cursor.root tree)).map fun draft =>
        draft.complete (prepare profile strategy stack filePath bytes (Cursor.root tree))
          strategy.packageName) := by
  simp only [analyze, moduleScopes_eq_map_complete, fileDrafts, List.map_append]
  congr 2
  · rw [harvest, walk_eq_complete_gather]
    rfl
  · cases includeModuleScopes <;> rfl

/-- Every scope of a file completes one of its drafts. -/
theorem mem_scopes_analyze_iff {profile : Profile} {strategy : Strategy} {stack : StackLimit}
    {includeModuleScopes : Bool} {filePath language : String} {bytes : ByteArray} {tree : Node}
    {scope : Scope} :
    scope ∈
        (analyze profile strategy stack includeModuleScopes filePath language bytes tree).scopes ↔
      ∃ draft ∈ fileDrafts strategy
          (prepare profile strategy stack filePath bytes (Cursor.root tree)) includeModuleScopes
          (Cursor.root tree),
        scope = draft.complete (prepare profile strategy stack filePath bytes (Cursor.root tree))
          strategy.packageName := by
  rw [scopes_analyze, sortScopes, List.mem_mergeSort, List.mem_map]
  simp only [eq_comm]

/-! ## Places that the walk comes to -/

/-- A gathered draft comes from a step that makes it or from a node that a step enters. -/
theorem mem_gatherSteps {enter : Cursor → Nat → Option String → Gathering} {steps : List Step}
    {draft : Draft} (member : draft ∈ (gatherSteps enter steps).drafts) :
    Step.scope draft ∈ steps ∨ ∃ place depth parent, Step.enter place depth parent ∈ steps ∧
      draft ∈ (enter place depth parent).drafts := by
  induction steps with
  | nil => contradiction
  | cons step rest ih =>
      have later : draft ∈ (gatherSteps enter rest).drafts → Step.scope draft ∈ step :: rest ∨
          ∃ place depth parent, Step.enter place depth parent ∈ step :: rest ∧
            draft ∈ (enter place depth parent).drafts := by
        intro member
        rcases ih member with made | ⟨place, depth, parent, entered, member⟩
        · exact Or.inl (List.mem_cons_of_mem _ made)
        · exact Or.inr ⟨place, depth, parent, List.mem_cons_of_mem _ entered, member⟩
      cases step with
      | scope first =>
          rcases List.mem_cons.mp member with rfl | member
          · exact Or.inl List.mem_cons_self
          · exact later member
      | enter place depth parent =>
          simp only [gatherSteps] at member
          split at member
          · exact Or.inr ⟨place, depth, parent, List.mem_cons_self, member⟩
          · rcases List.mem_append.mp member with member | member
            · exact Or.inr ⟨place, depth, parent, List.mem_cons_self, member⟩
            · exact later member
      | report issue => exact later member

/-- Steps that are not given up make their own drafts and those of every node they enter. -/
theorem gatherSteps_complete {enter : Cursor → Nat → Option String → Gathering} {steps : List Step}
    (finished : (gatherSteps enter steps).truncated = false) :
    (∀ draft, Step.scope draft ∈ steps → draft ∈ (gatherSteps enter steps).drafts) ∧
      ∀ place depth parent, Step.enter place depth parent ∈ steps →
        (enter place depth parent).truncated = false ∧
          (enter place depth parent).drafts ⊆ (gatherSteps enter steps).drafts := by
  induction steps with
  | nil => simp
  | cons step rest ih =>
      cases step with
      | scope first =>
          obtain ⟨made, entered⟩ := ih finished
          refine ⟨fun draft member => ?_, fun place depth parent member => ?_⟩
          · rcases List.mem_cons.mp member with same | member
            · exact List.mem_cons.mpr (Or.inl (Step.scope.inj same))
            · exact List.mem_cons_of_mem _ (made draft member)
          · have later := List.mem_of_ne_of_mem (by simp) member
            obtain ⟨complete, kept⟩ := entered place depth parent later
            exact ⟨complete, fun draft member => List.mem_cons_of_mem _ (kept member)⟩
      | enter place depth parent =>
          cases first : (enter place depth parent).truncated with
          | true => simp [gatherSteps, first] at finished
          | false =>
              simp only [gatherSteps, first, Bool.false_eq_true, if_false] at finished ⊢
              obtain ⟨made, entered⟩ := ih finished
              refine ⟨fun draft member => ?_, fun next level owner member => ?_⟩
              · have later := List.mem_of_ne_of_mem (by simp) member
                exact List.mem_append_right _ (made draft later)
              · rcases List.mem_cons.mp member with same | member
                · obtain ⟨rfl, rfl, rfl⟩ := Step.enter.inj same
                  exact ⟨first, List.subset_append_left _ _⟩
                · obtain ⟨complete, kept⟩ := entered next level owner member
                  exact ⟨complete, fun draft member => List.mem_append_right _ (kept member)⟩
      | report issue =>
          obtain ⟨made, entered⟩ := ih finished
          exact ⟨fun draft member => made draft (List.mem_of_ne_of_mem (by simp) member),
            fun place depth parent member =>
              entered place depth parent (List.mem_of_ne_of_mem (by simp) member)⟩

/-- A place, with the depth and the container of what is found there. -/
abbrev Station := Cursor × Nat × Option String

/-- The walk goes from one station to another in one step. -/
def Strategy.Enters (strategy : Strategy) (ctx : Context) (here next : Station) : Prop :=
  Step.enter next.1 next.2.1 next.2.2 ∈ stepsAt strategy ctx here.1 here.2.1 here.2.2

/-- The walk of a tree comes to the place. -/
def Strategy.Visits (strategy : Strategy) (ctx : Context) (root place : Cursor) (depth : Nat)
    (parent : Option String) : Prop :=
  Relation.ReflTransGen (strategy.Enters ctx) (root, 0, none) (place, depth, parent)

section Stations

variable {strategy : Strategy} {ctx : Context} {draft : Draft}

/-- Every gathered draft is made at a station that the walk comes to. -/
theorem exists_station_of_mem_gather {fuel : Nat} (start : Station)
    (member : draft ∈ (gather strategy ctx fuel start.1 start.2.1 start.2.2).drafts) :
    ∃ station : Station, Relation.ReflTransGen (strategy.Enters ctx) start station ∧
      Step.scope draft ∈ stepsAt strategy ctx station.1 station.2.1 station.2.2 := by
  induction fuel generalizing start with
  | zero => contradiction
  | succ fuel ih =>
      rcases mem_gatherSteps member with made | ⟨place, depth, parent, entered, member⟩
      · exact ⟨start, .refl, ctx.room_subset start.1 _ made⟩
      · let next : Station := (place, depth, parent)
        have enters : strategy.Enters ctx start next := ctx.room_subset start.1 _ entered
        obtain ⟨station, way, made⟩ := ih next member
        exact ⟨station, .head enters way, made⟩

/-- A walk that is not given up has room for all steps. -/
theorem gather_of_finished {fuel : Nat} {place : Cursor} {depth : Nat} {parent : Option String}
    (finished : (gather strategy ctx fuel place depth parent).truncated = false) :
    ∃ fewer, fuel = fewer + 1 ∧ gather strategy ctx fuel place depth parent =
      gatherSteps (gather strategy ctx fewer) (stepsAt strategy ctx place depth parent) := by
  cases fuel with
  | zero => contradiction
  | succ fewer =>
      refine ⟨fewer, rfl, ?_⟩
      rw [gather] at finished ⊢
      obtain ⟨_, room⟩ := Bool.or_eq_false_iff.mp finished
      have unused := Option.isSome_eq_false_iff.mp room
      simp [Context.room, Option.isNone_iff_eq_none.mp unused]

/-- A walk that is not given up gathers what is made at every station it comes to. -/
theorem mem_gather_of_station {start : Station} (station : Station)
    (way : Relation.ReflTransGen (strategy.Enters ctx) start station)
    (made : Step.scope draft ∈ stepsAt strategy ctx station.1 station.2.1 station.2.2) {fuel : Nat}
    (finished : (gather strategy ctx fuel start.1 start.2.1 start.2.2).truncated = false) :
    draft ∈ (gather strategy ctx fuel start.1 start.2.1 start.2.2).drafts := by
  induction way using Relation.ReflTransGen.head_induction_on generalizing fuel with
  | refl =>
      obtain ⟨fewer, rfl, whole⟩ := gather_of_finished finished
      rw [whole] at finished ⊢
      exact (gatherSteps_complete finished).1 draft made
  | head entered _ ih =>
      obtain ⟨fewer, rfl, whole⟩ := gather_of_finished finished
      rw [whole] at finished ⊢
      obtain ⟨complete, kept⟩ := (gatherSteps_complete finished).2 _ _ _ entered
      exact kept (ih complete)

/-- The drafts of the constructs of a tree are made at places that the walk comes to, and a walk that
is not given up makes all of them. -/
theorem mem_constructDrafts {root : Cursor}
    (member : draft ∈ constructDrafts strategy ctx root) :
    ∃ place depth parent, strategy.Visits ctx root place depth parent ∧
      Step.scope draft ∈ stepsAt strategy ctx place depth parent := by
  obtain ⟨⟨place, depth, parent⟩, way, made⟩ :=
    exists_station_of_mem_gather (root, 0, none) member
  exact ⟨place, depth, parent, way, made⟩

theorem mem_constructDrafts_of_visits {root place : Cursor} {depth : Nat} {parent : Option String}
    (visited : strategy.Visits ctx root place depth parent)
    (made : Step.scope draft ∈ stepsAt strategy ctx place depth parent)
    (finished : (harvest strategy ctx root).truncated = false) :
    draft ∈ constructDrafts strategy ctx root := by
  rw [harvest, walk_eq_complete_gather] at finished
  exact mem_gather_of_station (place, depth, parent) visited made finished

end Stations

/-! ## What holds of all drafts -/

/-- The draft of a numbered stretch of code outside the constructs. -/
def stretchDraft (number : Nat) (first : Cursor) (later : List Cursor) : Draft :=
  { place := first, extent := later, name := "file_scope_" ++ twoDigits number,
    kind := .moduleCode, depth := 0, parent := none }

theorem exists_stretch_of_mem_moduleDrafts {draft : Draft} {number : Nat}
    {stretches : List (List Cursor)} (member : draft ∈ moduleDrafts number stretches) :
    ∃ ordinal first later, first :: later ∈ stretches ∧
      draft = stretchDraft ordinal first later := by
  fun_induction moduleDrafts number stretches with
  | case1 => contradiction
  | case2 number rest ih =>
      obtain ⟨ordinal, first, later, stretch, same⟩ := ih member
      exact ⟨ordinal, first, later, List.mem_cons_of_mem _ stretch, same⟩
  | case3 number first later rest ih =>
      rcases List.mem_cons.mp member with rfl | member
      · exact ⟨number, first, later, List.mem_cons_self, rfl⟩
      · obtain ⟨ordinal, first, later, stretch, same⟩ := ih member
        exact ⟨ordinal, first, later, List.mem_cons_of_mem _ stretch, same⟩

/-- What holds of the drafts made at every place and of all stretches holds of every draft of a
file. -/
theorem of_mem_fileDrafts_of_stepsAt {holds : Draft → Prop} {strategy : Strategy} {ctx : Context}
    {includeModuleScopes : Bool} {root : Cursor}
    (made : ∀ place depth parent, EveryDraft holds (stepsAt strategy ctx place depth parent))
    (stretches : ∀ number first later, holds (stretchDraft number first later)) {draft : Draft}
    (member : draft ∈ fileDrafts strategy ctx includeModuleScopes root) : holds draft := by
  rcases List.mem_append.mp member with construct | outside
  · obtain ⟨place, depth, parent, _, step⟩ := mem_constructDrafts construct
    exact made place depth parent draft step
  · split at outside
    · obtain ⟨ordinal, first, later, _, rfl⟩ := exists_stretch_of_mem_moduleDrafts outside
      exact stretches ordinal first later
    · contradiction

/-- What holds of the drafts of the readings and of all stretches holds of every draft of a file. -/
theorem of_mem_fileDrafts {holds : Draft → Prop} {strategy : Strategy} {ctx : Context}
    {includeModuleScopes : Bool} {root : Cursor} (drafts : strategy.Drafts ctx holds)
    (stretches : ∀ number first later, holds (stretchDraft number first later)) {draft : Draft}
    (member : draft ∈ fileDrafts strategy ctx includeModuleScopes root) : holds draft :=
  of_mem_fileDrafts_of_stepsAt (everyDraft_stepsAt drafts) stretches member

end ScopeAtlas.Extraction
