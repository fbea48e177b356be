import ScopeAtlas.Graph.Recollection
import ScopeAtlas.Proofs.Graph.Endings

/-!
# A project that grows

Files that are added after the others change what is known of the names that no earlier file bears,
and nothing else.  A reference that uses an import, or names a scope of the earlier files, is
classified as before; one that was unknown or dropped stays so or names a scope of the added files.

The pass that remembers the answers of locators classifies as the plain pass does when locators of
one name give the same answers; and even when they do not, what it remembers does not depend on the
names that the project bears, so that growth changes it no more than the plain pass.
-/

namespace ScopeAtlas.Data

/-! ## Lists read side by side -/

/-- The lists have the same length, and what stands at the same place in them is related. -/
inductive Aligned {α β γ : Type} (related : α → β → γ → Prop) :
    List α → List β → List γ → Prop where
  | nil : Aligned related [] [] []
  | cons {a : α} {b : β} {c : γ} {as : List α} {bs : List β} {cs : List γ}
      (here : related a b c) (rest : Aligned related as bs cs) :
      Aligned related (a :: as) (b :: bs) (c :: cs)

section Threads

variable {σ α β : Type} (step other : σ → α → β × σ)

theorem threaded_append (state : σ) (first second : List α) :
    threaded step state (first ++ second) =
      ((threaded step state first).1 ++ (threaded step (threaded step state first).2 second).1,
        (threaded step (threaded step state first).2 second).2) := by
  induction first generalizing state with
  | nil => rfl
  | cons item rest ih => simp only [List.cons_append, threaded, ih]

/-- Two threads whose steps hand on the same states give related results. -/
theorem aligned_threaded {related : α → β → β → Prop} {items : List α}
    (together : ∀ item ∈ items, ∀ state, (step state item).2 = (other state item).2 ∧
      related item (step state item).1 (other state item).1) (state : σ) :
    (threaded step state items).2 = (threaded other state items).2 ∧
      Aligned related items (threaded step state items).1 (threaded other state items).1 := by
  induction items generalizing state with
  | nil => exact ⟨rfl, .nil⟩
  | cons item rest ih =>
      obtain ⟨sameState, here⟩ := together item List.mem_cons_self state
      obtain ⟨sameLast, later⟩ :=
        ih (fun next member => together next (List.mem_cons_of_mem _ member)) (step state item).2
      simp only [threaded, ← sameState]
      exact ⟨sameLast, .cons here later⟩

/-- A thread whose steps ignore the state, as long as the invariant holds, maps the list. -/
theorem threaded_eq_map {invariant : σ → Prop} (value : α → β) {items : List α}
    (steps : ∀ item ∈ items, ∀ state, invariant state →
      (step state item).1 = value item ∧ invariant (step state item).2)
    {state : σ} (holds : invariant state) :
    (threaded step state items).1 = items.map value ∧
      invariant (threaded step state items).2 := by
  induction items generalizing state with
  | nil => exact ⟨rfl, holds⟩
  | cons item rest ih =>
      obtain ⟨here, holdsNext⟩ := steps item List.mem_cons_self state holds
      obtain ⟨later, holdsLast⟩ :=
        ih (fun next member => steps next (List.mem_cons_of_mem _ member)) holdsNext
      simp only [threaded, here, later, List.map_cons]
      exact ⟨trivial, holdsLast⟩

end Threads

end ScopeAtlas.Data

namespace ScopeAtlas.Graph

open ScopeAtlas.Data

/-- The entries of the first pass, read off the classified files: one for each reference of which
nothing is known. -/
def unknownEntries (files : List FileAnalysis) : List Unresolved :=
  files.flatMap fun file => file.scopes.flatMap fun scope =>
    (scope.references.filter fun reference => reference.kind == .unknown).map fun reference =>
      .ofReference scope reference .noLocalScope

/-! ## Remembering does not show -/

/-- Locators of one name answer alike. -/
def NamesDecideAnswers (locators : String → Option NamedLocator) : Prop :=
  ∀ language other named namedToo, locators language = some named →
    locators other = some namedToo → named.name = namedToo.name →
      named.locator.isLocal = namedToo.locator.isLocal

/-- What is remembered is what the locators would answer. -/
def Faithful (locators : String → Option NamedLocator) (answers : Answers) : Prop :=
  ∀ language named source answer, locators language = some named →
    answers.lookup (named.name, source) = some answer → answer = named.locator.isLocal source

/-- The locators without their names. -/
def unnamed (locators : String → Option NamedLocator) : Locators :=
  fun language => (locators language).map (·.locator)

section Faithfulness

variable {locators : String → Option NamedLocator} {analyses : List FileAnalysis}
  {file : FileAnalysis} {answers : Answers}

theorem recalledIsLocal_of_faithful (decide : NamesDecideAnswers locators)
    (faithful : Faithful locators answers) (language : String) (binding : Import) :
    (recalledIsLocal (locators language) answers binding).1 =
        isLocalImport (unnamed locators language) binding ∧
      Faithful locators (recalledIsLocal (locators language) answers binding).2 := by
  unfold recalledIsLocal isLocalImport unnamed
  cases known : locators language with
  | none => exact ⟨rfl, faithful⟩
  | some named =>
      dsimp only [Option.map_some]
      cases remembered : answers.lookup (named.name, binding.source) with
      | some answer => exact ⟨faithful language named _ answer known remembered, faithful⟩
      | none =>
          constructor
          · rfl
          · intro other namedToo source answer knownToo found
            rw [List.lookup_cons] at found
            split at found
            · rename_i same
              obtain ⟨sameName, rfl⟩ := Prod.mk.inj (eq_of_beq same)
              rw [← Option.some.inj found, decide language other named namedToo known knownToo
                sameName.symm]
            · exact faithful other namedToo source answer knownToo found

theorem recalledReference_of_faithful (decide : NamesDecideAnswers locators)
    (faithful : Faithful locators answers) (reference : Reference) :
    (recalledReference locators analyses file answers reference).1 =
        settled? (unnamed locators) analyses file reference ∧
      Faithful locators (recalledReference locators analyses file answers reference).2 := by
  unfold recalledReference recalledFate settled? fate
  cases boundImport? (bindingTable file.imports) reference with
  | none => exact ⟨rfl, faithful⟩
  | some binding =>
      obtain ⟨same, stays⟩ := recalledIsLocal_of_faithful decide faithful file.language binding
      dsimp only
      rw [same]
      exact ⟨rfl, stays⟩

theorem recalledScope_of_faithful (decide : NamesDecideAnswers locators)
    (faithful : Faithful locators answers) (scope : Scope) :
    (recalledScope locators analyses file answers scope).1 =
        classifyScope (unnamed locators) analyses file scope ∧
      Faithful locators (recalledScope locators analyses file answers scope).2 := by
  obtain ⟨same, stays⟩ := threaded_eq_map (recalledReference locators analyses file)
    (settled? (unnamed locators) analyses file)
    (fun reference (_ : reference ∈ scope.references) _ holds =>
      recalledReference_of_faithful decide holds reference) faithful
  constructor
  · simp only [recalledScope, classifyScope, same, List.filterMap_map]
    rfl
  · exact stays

theorem recalledFile_of_faithful (decide : NamesDecideAnswers locators)
    (faithful : Faithful locators answers) (file : FileAnalysis) :
    (recalledFile locators analyses answers file).1 =
        classifyFile (unnamed locators) analyses file ∧
      Faithful locators (recalledFile locators analyses answers file).2 := by
  obtain ⟨same, stays⟩ := threaded_eq_map (recalledScope locators analyses file)
    (classifyScope (unnamed locators) analyses file)
    (fun scope (_ : scope ∈ file.scopes) _ holds =>
      recalledScope_of_faithful decide holds scope) faithful
  constructor
  · simp only [recalledFile, classifyFile, same]
  · exact stays

/-- A pass that remembers classifies as the plain one does, if the names of locators decide their
answers. -/
theorem recallingClassify_eq_classify (decide : NamesDecideAnswers locators)
    (analyses : List FileAnalysis) :
    recallingClassify locators analyses = classify (unnamed locators) analyses := by
  have nothing : Faithful locators [] := by
    intro _ _ _ _ _ found
    contradiction
  exact (threaded_eq_map (recalledFile locators analyses)
    (classifyFile (unnamed locators) analyses)
    (fun file _ _ holds => recalledFile_of_faithful decide holds file) nothing).1

end Faithfulness

/-- The plain pass as one that remembers, each locator under the name of its language. -/
theorem classify_eq_recallingClassify (locators : Locators) (analyses : List FileAnalysis) :
    classify locators analyses =
      recallingClassify (fun language => (locators language).map (NamedLocator.mk language))
        analyses := by
  have decide : NamesDecideAnswers fun language =>
      (locators language).map (NamedLocator.mk language) := by
    intro language other named namedToo known knownToo same
    obtain ⟨locator, found, rfl⟩ := Option.map_eq_some_iff.mp known
    obtain ⟨locatorToo, foundToo, rfl⟩ := Option.map_eq_some_iff.mp knownToo
    obtain rfl : language = other := same
    obtain rfl := Option.some.inj (found.symm.trans foundToo)
    rfl
  have plain : unnamed (fun language => (locators language).map (NamedLocator.mk language)) =
      locators := by
    funext language
    simp [unnamed, Option.map_map, Function.comp_def]
  rw [recallingClassify_eq_classify decide, plain]

/-- The entries of the first pass are those read off the classified files. -/
theorem unknownLedger_eq_unknownEntries (locators : Locators) (analyses : List FileAnalysis) :
    unknownLedger locators analyses = unknownEntries (classify locators analyses) := by
  have kinds : ∀ file reference, ((settled? locators analyses file reference).filter
      fun kept => kept.kind == .unknown) =
        if fate locators analyses file reference = .isUnknown then
          some { reference with kind := .unknown } else none := by
    intro file reference
    unfold settled?
    cases fate locators analyses file reference <;> simp [Fate.apply]
  rw [unknownLedger, unknownEntries, classify, List.flatMap_map]
  congr 1
  funext file
  rw [classifyFile, List.flatMap_map]
  congr 1
  funext scope
  change _ = ((scope.references.filterMap (settled? locators analyses file)).filter _).map _
  rw [unknownReferences, List.filter_filterMap, List.map_filterMap, ← List.filterMap_eq_map,
    List.filterMap_filter]
  congr 1
  funext reference
  rw [kinds]
  split <;> rename_i unknown <;> simp_all [Unresolved.ofReference, classifyScope]

/-! ## What growth changes -/

/-- The reference, with a scope of the given files that bears its name as its target. -/
def NamesScopeOf (files : List FileAnalysis) (reference kept : Reference) : Prop :=
  ∃ target ∈ namedScopes files, target.name = reference.identifier ∧
    kept = { reference with kind := .localScope, targetScope := some target.pointer }

/-- What is kept of a reference, before and after files were added. -/
inductive GrownReference (added : List FileAnalysis) (language : String) (reference : Reference) :
    Option Reference → Option Reference → Prop where
  /-- It stays as it is, whatever it is. -/
  | kept {kept : Reference} (same : Reclassifies reference kept) :
      GrownReference added language reference (some kept) (some kept)
  | dropped (builtin : reference.identifier ∈ builtinsOf language) :
      GrownReference added language reference none none
  | unknownNamed {kept : Reference} (named : NamesScopeOf added reference kept) :
      GrownReference added language reference (some { reference with kind := .unknown }) (some kept)
  | droppedNamed {kept : Reference} (builtin : reference.identifier ∈ builtinsOf language)
      (named : NamesScopeOf added reference kept) :
      GrownReference added language reference none (some kept)

/-- A classified scope, before and after files were added: only references differ. -/
structure GrownScope (added : List FileAnalysis) (language : String) (scope before after : Scope) :
    Prop where
  others : after = { before with references := after.references }
  references : ∃ keptBefore keptAfter,
    Aligned (GrownReference added language) scope.references keptBefore keptAfter ∧
      before.references = keptBefore.filterMap id ∧ after.references = keptAfter.filterMap id

structure GrownFile (added : List FileAnalysis) (file before after : FileAnalysis) : Prop where
  others : after = { before with scopes := after.scopes }
  scopes : Aligned (GrownScope added file.language) file.scopes before.scopes after.scopes

/-- The classified files of a project and their ledger, before and after files were added at its
end. -/
def StableUnder (added old before : List FileAnalysis) (ledger : List Unresolved)
    (after : List FileAnalysis) (ledgerAfter : List Unresolved) : Prop :=
  ∃ grown rest, after = grown ++ rest ∧ Aligned (GrownFile added) old before grown ∧
    ledgerAfter = unknownEntries grown ++ unknownEntries rest ∧
      (unknownEntries grown).Sublist ledger

section Growth

variable (locators : String → Option NamedLocator) (old new : List FileAnalysis)

theorem bearers_append (name : String) :
    bearers (old ++ new) name = bearers old name ++ bearers new name := by
  simp [bearers, namedScopes]

/-- One reference: what is remembered does not depend on the names of the project, and more names
change only the fate of a reference whose name none bore before. -/
theorem grownReference (file : FileAnalysis) (answers : Answers) (reference : Reference) :
    (recalledReference locators old file answers reference).2 =
        (recalledReference locators (old ++ new) file answers reference).2 ∧
      GrownReference new file.language reference
        (recalledReference locators old file answers reference).1
        (recalledReference locators (old ++ new) file answers reference).1 := by
  unfold recalledReference recalledFate
  cases bound : boundImport? (bindingTable file.imports) reference with
  | some binding => exact ⟨rfl, .kept rfl⟩
  | none =>
      refine ⟨rfl, ?_⟩
      dsimp only
      simp only [fate, bound, bearers_append]
      cases bearers old reference.identifier with
      | cons target rest => exact .kept rfl
      | nil =>
          rw [List.nil_append]
          by_cases builtin : reference.identifier ∈ builtinsOf file.language
          · cases found : bearers new reference.identifier with
            | nil => simpa [builtin, Fate.apply] using .dropped builtin
            | cons target rest =>
                have bearer : target ∈ bearers new reference.identifier := by simp [found]
                have named := (mem_bearers_iff new _ target).mp bearer
                simpa [builtin, Fate.apply] using
                  GrownReference.droppedNamed builtin ⟨target, named.1, named.2, rfl⟩
          · cases found : bearers new reference.identifier with
            | nil => simpa [builtin, Fate.apply] using .kept rfl
            | cons target rest =>
                have bearer : target ∈ bearers new reference.identifier := by simp [found]
                have named := (mem_bearers_iff new _ target).mp bearer
                simpa [builtin, Fate.apply] using
                  GrownReference.unknownNamed ⟨target, named.1, named.2, rfl⟩

theorem grownScope (file : FileAnalysis) (answers : Answers) (scope : Scope) :
    (recalledScope locators old file answers scope).2 =
        (recalledScope locators (old ++ new) file answers scope).2 ∧
      GrownScope new file.language scope (recalledScope locators old file answers scope).1
        (recalledScope locators (old ++ new) file answers scope).1 := by
  obtain ⟨sameAnswers, aligned⟩ := aligned_threaded (recalledReference locators old file)
    (recalledReference locators (old ++ new) file)
    (fun reference (_ : reference ∈ scope.references) answers =>
      grownReference locators old new file answers reference) answers
  exact ⟨sameAnswers, rfl, _, _, aligned, rfl, rfl⟩

theorem grownFile (answers : Answers) (file : FileAnalysis) :
    (recalledFile locators old answers file).2 =
        (recalledFile locators (old ++ new) answers file).2 ∧
      GrownFile new file (recalledFile locators old answers file).1
        (recalledFile locators (old ++ new) answers file).1 := by
  obtain ⟨sameAnswers, aligned⟩ := aligned_threaded (recalledScope locators old file)
    (recalledScope locators (old ++ new) file)
    (fun scope (_ : scope ∈ file.scopes) answers =>
      grownScope locators old new file answers scope) answers
  exact ⟨sameAnswers, rfl, aligned⟩

end Growth

/-! ## The ledger under growth -/

section Ledger

variable {added : List FileAnalysis} {language : String}

/-- A reference that is unknown afterwards was unknown before, and was the same. -/
theorem sublist_unknown_of_aligned {references : List Reference}
    {before after : List (Option Reference)}
    (aligned : Aligned (GrownReference added language) references before after) :
    ((after.filterMap id).filter fun reference => reference.kind == .unknown).Sublist
      ((before.filterMap id).filter fun reference => reference.kind == .unknown) := by
  induction aligned with
  | nil => exact List.Sublist.slnil
  | cons here _ ih =>
      cases here with
      | @kept kept same =>
          simp only [List.filterMap_cons, id, List.filter_cons]
          split
          · exact ih.cons_cons kept
          · exact ih
      | dropped => exact ih
      | unknownNamed named =>
          obtain ⟨target, _, _, rfl⟩ := named
          simpa using ih.cons _
      | droppedNamed _ named =>
          obtain ⟨target, _, _, rfl⟩ := named
          simpa using ih

theorem GrownScope.sublist_entries {scope before after : Scope}
    (grown : GrownScope added language scope before after) :
    ((after.references.filter fun reference => reference.kind == .unknown).map fun reference =>
        Unresolved.ofReference after reference .noLocalScope).Sublist
      ((before.references.filter fun reference => reference.kind == .unknown).map fun reference =>
        Unresolved.ofReference before reference .noLocalScope) := by
  obtain ⟨keptBefore, keptAfter, aligned, beforeEq, afterEq⟩ := grown.references
  have sameEntry : ∀ reference, Unresolved.ofReference after reference .noLocalScope =
      Unresolved.ofReference before reference .noLocalScope := by
    intro reference
    rw [grown.others]
    rfl
  rw [funext sameEntry, beforeEq, afterEq]
  exact (sublist_unknown_of_aligned aligned).map _

/-- Parts that grow into parts of the same or fewer entries grow into a whole of such. -/
theorem sublist_flatMap_of_aligned {α β γ : Type} {related : α → β → β → Prop}
    {entries : β → List γ}
    (fewer : ∀ a before after, related a before after → (entries after).Sublist (entries before))
    {items : List α} {before after : List β} (aligned : Aligned related items before after) :
    (after.flatMap entries).Sublist (before.flatMap entries) := by
  induction aligned with
  | nil => exact List.Sublist.slnil
  | cons here _ ih =>
      rw [List.flatMap_cons, List.flatMap_cons]
      exact (fewer _ _ _ here).append ih

theorem sublist_unknownEntries {old before after : List FileAnalysis}
    (aligned : Aligned (GrownFile added) old before after) :
    (unknownEntries after).Sublist (unknownEntries before) := by
  apply sublist_flatMap_of_aligned _ aligned
  intro file before after grown
  apply sublist_flatMap_of_aligned _ grown.scopes
  intro scope before after grown
  exact grown.sublist_entries

end Ledger

/-! ## The whole pass -/

theorem recallingClassify_stable (locators : String → Option NamedLocator)
    (old new : List FileAnalysis) :
    StableUnder new old (recallingClassify locators old)
      (unknownEntries (recallingClassify locators old)) (recallingClassify locators (old ++ new))
      (unknownEntries (recallingClassify locators (old ++ new))) := by
  have aligned := (aligned_threaded (recalledFile locators old) (recalledFile locators (old ++ new))
    (fun file (_ : file ∈ old) answers => grownFile locators old new answers file) []).2
  have split := congrArg Prod.fst (threaded_append (recalledFile locators (old ++ new)) [] old new)
  refine ⟨_, _, split, aligned, ?_, sublist_unknownEntries aligned⟩
  rw [recallingClassify, split, unknownEntries, List.flatMap_append]
  rfl

/-- Files that are added to a project, after the others, leave the earlier files stable.  A
reference of theirs that uses an import or names a scope stays exactly what it was; one that was
unknown or dropped stays so, or names a scope of the added files; nothing else of the files changes;
and the entries of the earlier files are some of the former ledger, in their order.  This holds of
the plain pass, and of every pass that remembers what its locators answer, under whatever names. -/
theorem earlier_files_stable_under_growth (old new : List FileAnalysis) :
    (∀ locators : Locators,
      StableUnder new old (classify locators old) (unknownLedger locators old)
        (classify locators (old ++ new)) (unknownLedger locators (old ++ new))) ∧
    ∀ locators : String → Option NamedLocator,
      StableUnder new old (recallingClassify locators old)
        (unknownEntries (recallingClassify locators old))
        (recallingClassify locators (old ++ new))
        (unknownEntries (recallingClassify locators (old ++ new))) := by
  constructor
  · intro locators
    simp only [unknownLedger_eq_unknownEntries, classify_eq_recallingClassify]
    exact recallingClassify_stable _ old new
  · intro locators
    exact recallingClassify_stable locators old new

end ScopeAtlas.Graph
