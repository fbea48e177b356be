import ScopeAtlas.Extraction.Analysis

/-!
# What is collected from a tree

Every scope of a file completes a draft, either one that a reading of the language made or one of a
stretch of code outside declarations.  What holds of all these drafts is therefore known of every
scope of the file, however deep the walk went and wherever it was given up.
-/

namespace ScopeAtlas.Extraction

open ScopeAtlas.Language ScopeAtlas.Syntax

/-! ## Readings that may fail -/

/-- The steps of a reading; one that fails has none. -/
def stepsOf (result : Except ReadingFault (List Step)) : List Step := result.toOption.getD []

@[simp]
theorem stepsOf_ok (steps : List Step) : stepsOf (.ok steps) = steps := rfl

@[simp]
theorem stepsOf_error (fault : ReadingFault) : stepsOf (.error fault) = [] := rfl

@[simp]
theorem stepsOf_always (reading : TotalReading) (ctx : Context) (place : Cursor) (depth : Nat)
    (parent : Option String) :
    stepsOf (Reading.always reading ctx place depth parent) = reading ctx place depth parent := rfl

/-- What is added to the steps of a reading is added unless it fails. -/
theorem of_stepsOf_map_append (holds : List Step → Prop)
    {result : Except ReadingFault (List Step)} {later : List Step} (none : holds [])
    (added : holds (stepsOf result ++ later)) :
    holds (stepsOf (result.map fun steps => steps ++ later)) := by
  cases result with
  | error fault => exact none
  | ok steps => exact added

/-- The reading came to steps. -/
def Succeeds (result : Except ReadingFault (List Step)) : Prop := ∃ steps, result = .ok steps

@[simp]
theorem succeeds_map_iff {result : Except ReadingFault (List Step)}
    (extend : List Step → List Step) : Succeeds (result.map extend) ↔ Succeeds result := by
  cases result <;> simp [Succeeds, Except.map]

/-- No reading fails at a construct of the language. -/
def Strategy.NeverFails (strategy : Strategy) (ctx : Context) : Prop :=
  ∀ place construct reading, ctx.nodes.construct? place.kind = some construct →
    strategy.reading? construct = some reading →
      ∀ depth parent, Succeeds (reading ctx place depth parent)

/-- Every reading takes every node as it is. -/
def Strategy.IsTotal (strategy : Strategy) : Prop :=
  ∀ construct reading, strategy.reading? construct = some reading →
    ∃ total : TotalReading, reading = .always total

theorem Strategy.IsTotal.neverFails {strategy : Strategy} (total : strategy.IsTotal)
    (ctx : Context) : strategy.NeverFails ctx := by
  intro place construct reading _ chosen depth parent
  obtain ⟨total, rfl⟩ := total construct reading chosen
  exact ⟨_, rfl⟩

/-- A construct is read as its language does, or else passed through, and reported if reading it
failed. -/
theorem stepsAt_cases (strategy : Strategy) (ctx : Context) (place : Cursor) (depth : Nat)
    (parent : Option String) :
    (∃ construct reading steps, ctx.nodes.construct? place.kind = some construct ∧
      strategy.reading? construct = some reading ∧ reading ctx place depth parent = .ok steps ∧
      stepsAt strategy ctx place depth parent = steps) ∨
    ∃ issues : List String, stepsAt strategy ctx place depth parent =
      issues.map .report ++ enterChildren place depth parent := by
  rw [stepsAt]
  split
  · exact Or.inr ⟨[], rfl⟩
  · rename_i reading found
    obtain ⟨construct, opens, chosen⟩ := Option.bind_eq_some_iff.mp found
    cases read : reading ctx place depth parent with
    | ok steps => exact Or.inl ⟨construct, reading, steps, opens, chosen, read, rfl⟩
    | error fault => exact Or.inr ⟨[failureIssue ctx place fault], rfl⟩

/-! ## Drafts among steps -/

/-- All drafts among the steps have a property. -/
def EveryDraft (holds : Draft → Prop) (steps : List Step) : Prop :=
  ∀ draft, Step.scope draft ∈ steps → holds draft

variable {holds : Draft → Prop}

@[simp]
theorem everyDraft_nil : EveryDraft holds [] := by
  intro draft member
  contradiction

@[simp]
theorem everyDraft_scope_cons (draft : Draft) (rest : List Step) :
    EveryDraft holds (.scope draft :: rest) ↔ holds draft ∧ EveryDraft holds rest := by
  simp [EveryDraft]

@[simp]
theorem everyDraft_enter_cons (place : Cursor) (depth : Nat) (parent : Option String)
    (rest : List Step) :
    EveryDraft holds (.enter place depth parent :: rest) ↔ EveryDraft holds rest := by
  simp [EveryDraft]

@[simp]
theorem everyDraft_report_cons (issue : String) (rest : List Step) :
    EveryDraft holds (.report issue :: rest) ↔ EveryDraft holds rest := by
  simp [EveryDraft]

@[simp]
theorem everyDraft_append (first second : List Step) :
    EveryDraft holds (first ++ second) ↔ EveryDraft holds first ∧ EveryDraft holds second := by
  simp only [EveryDraft, List.mem_append, or_imp, forall_and]

@[simp]
theorem everyDraft_flatMap {α : Type} (items : List α) (steps : α → List Step) :
    EveryDraft holds (items.flatMap steps) ↔ ∀ item ∈ items, EveryDraft holds (steps item) := by
  simp only [EveryDraft, List.mem_flatMap]
  constructor
  · intro all item itemMem draft draftMem
    exact all draft ⟨item, itemMem, draftMem⟩
  · rintro all draft ⟨item, itemMem, draftMem⟩
    exact all item itemMem draft draftMem

@[simp]
theorem everyDraft_map {α : Type} (items : List α) (step : α → Step) :
    EveryDraft holds (items.map step) ↔ ∀ item ∈ items, EveryDraft holds [step item] := by
  rw [List.map_eq_flatMap, everyDraft_flatMap]

@[simp]
theorem everyDraft_enterChildren (place : Cursor) (depth : Nat) (parent : Option String) :
    EveryDraft holds (enterChildren place depth parent) := by
  simp [enterChildren]

@[simp]
theorem everyDraft_enterBody (body : Option Cursor) (depth : Nat) (parent : Option String) :
    EveryDraft holds (enterBody body depth parent) := by
  cases body <;> simp [enterBody]

/-- All readings of a strategy make only drafts with a property. -/
def Strategy.Drafts (strategy : Strategy) (ctx : Context) (holds : Draft → Prop) : Prop :=
  ∀ construct reading, strategy.reading? construct = some reading →
    ∀ place depth parent, EveryDraft holds (stepsOf (reading ctx place depth parent))

/-! ## The walk -/

/-- What the reading of the construct at a place gives to its drafts holds of all steps there. -/
theorem everyDraft_stepsAt_of_construct {strategy : Strategy} {ctx : Context} {place : Cursor}
    {depth : Nat} {parent : Option String}
    (drafts : ∀ construct reading, ctx.nodes.construct? place.kind = some construct →
      strategy.reading? construct = some reading →
      EveryDraft holds (stepsOf (reading ctx place depth parent))) :
    EveryDraft holds (stepsAt strategy ctx place depth parent) := by
  rcases stepsAt_cases strategy ctx place depth parent with
    ⟨construct, reading, steps, opens, chosen, read, same⟩ | ⟨issues, same⟩
  · rw [same, ← stepsOf_ok steps, ← read]
    exact drafts construct reading opens chosen
  · rw [same]
    simp

theorem everyDraft_stepsAt {strategy : Strategy} {ctx : Context}
    (drafts : strategy.Drafts ctx holds) (place : Cursor) (depth : Nat) (parent : Option String) :
    EveryDraft holds (stepsAt strategy ctx place depth parent) :=
  everyDraft_stepsAt_of_construct fun construct reading _ chosen =>
    drafts construct reading chosen place depth parent

/-- A collected scope comes from a step that drafts it or from a node that is entered. -/
theorem mem_runSteps {complete : Draft → Scope} {enter : Cursor → Nat → Option String → Harvest}
    {steps : List Step} {scope : Scope} (collected : scope ∈ (runSteps complete enter steps).scopes) :
    (∃ draft, Step.scope draft ∈ steps ∧ scope = complete draft) ∨
      ∃ place depth parent, scope ∈ (enter place depth parent).scopes := by
  induction steps with
  | nil => contradiction
  | cons step rest ih =>
      have later : scope ∈ (runSteps complete enter rest).scopes →
          (∃ draft, Step.scope draft ∈ step :: rest ∧ scope = complete draft) ∨
            ∃ place depth parent, scope ∈ (enter place depth parent).scopes := by
        intro member
        rcases ih member with ⟨draft, draftMem, same⟩ | entered
        · exact Or.inl ⟨draft, List.mem_cons_of_mem _ draftMem, same⟩
        · exact Or.inr entered
      cases step with
      | scope draft =>
          rcases List.mem_cons.mp collected with same | member
          · exact Or.inl ⟨draft, List.mem_cons_self, same⟩
          · exact later member
      | enter place depth parent =>
          simp only [runSteps] at collected
          split at collected
          · exact Or.inr ⟨place, depth, parent, collected⟩
          · rcases List.mem_append.mp collected with member | member
            · exact Or.inr ⟨place, depth, parent, member⟩
            · exact later member
      | report issue => exact later collected

theorem Context.room_sublist (ctx : Context) (place : Cursor) (steps : List Step) :
    (ctx.room place steps).Sublist steps := by
  rw [room]
  split
  · exact List.Sublist.refl _
  · exact List.take_sublist _ _

theorem Context.room_subset (ctx : Context) (place : Cursor) (steps : List Step) :
    ctx.room place steps ⊆ steps :=
  (ctx.room_sublist place steps).subset

theorem exists_draft_of_mem_walk {strategy : Strategy} {ctx : Context}
    (drafts : strategy.Drafts ctx holds) (fuel : Nat) {place : Cursor} {depth : Nat}
    {parent : Option String} {scope : Scope}
    (collected : scope ∈ (walk strategy ctx fuel place depth parent).scopes) :
    ∃ draft, holds draft ∧ scope = draft.complete ctx strategy.packageName := by
  induction fuel generalizing place depth parent with
  | zero => contradiction
  | succ fuel ih =>
      rcases mem_runSteps collected with ⟨draft, drafted, same⟩ | ⟨_, _, _, entered⟩
      · have made := ctx.room_subset place _ drafted
        exact ⟨draft, everyDraft_stepsAt drafts place depth parent draft made, same⟩
      · exact ih entered

/-! ## The scopes of a file -/

/-- Code outside declarations builds on nothing. -/
theorem plain_of_mem_moduleDrafts {draft : Draft} {number : Nat} {stretches : List (List Cursor)}
    (member : draft ∈ moduleDrafts number stretches) :
    draft.heritageClauses = [] ∧ draft.synthetic = [] := by
  fun_induction moduleDrafts number stretches with
  | case1 => contradiction
  | case2 number rest ih => exact ih member
  | case3 number first later rest ih =>
      rcases List.mem_cons.mp member with rfl | member
      · exact ⟨rfl, rfl⟩
      · exact ih member

/-- Every scope of a file completes a draft with a property, if all drafts of the language and all
that build on nothing have it. -/
theorem exists_draft_of_mem_analyze {profile : Profile} {strategy : Strategy} {stack : StackLimit}
    {includeModuleScopes : Bool} {filePath language : String} {bytes : ByteArray} {tree : Node}
    (drafts : ∀ ctx, strategy.Drafts ctx holds)
    (plain : ∀ draft : Draft, draft.heritageClauses = [] ∧ draft.synthetic = [] → holds draft)
    {scope : Scope}
    (collected : scope ∈
      (analyze profile strategy stack includeModuleScopes filePath language bytes tree).scopes) :
    ∃ ctx draft, holds draft ∧ scope = draft.complete ctx strategy.packageName := by
  simp only [analyze, sortScopes, List.mem_mergeSort, List.mem_append] at collected
  rcases collected with harvested | outside
  · obtain ⟨draft, property, same⟩ := exists_draft_of_mem_walk (drafts _) _ harvested
    exact ⟨_, draft, property, same⟩
  · split at outside
    · obtain ⟨draft, drafted, same⟩ := List.mem_map.mp outside
      exact ⟨_, draft, plain draft (plain_of_mem_moduleDrafts drafted), same.symm⟩
    · contradiction

end ScopeAtlas.Extraction
