import ScopeAtlas.Proofs.Graph.NameIndex

/-!
# How references end

A project is resolved in two passes.  The first classifies every reference by the imports of its
file and the names of the project; the second looks the classified references up again, by
import, by pointer and by name.  The passes agree: each reference of the input ends in exactly
one way, and the ledger has one entry for each reference that leads nowhere, those of the first
pass before those of the second, and no others.
-/

namespace ScopeAtlas.Graph

open ScopeAtlas.Data

/-- How a reference of the input ends when its project is resolved. -/
inductive Ending where
  | dropped
  | unknown
  | namesScope
  /-- It uses an import, and the import or the name leads to a scope. -/
  | reachesScope
  /-- It uses an import, of the project or not, and nothing leads to a scope. -/
  | leadsNowhere (isLocal : Bool)
deriving Repr, DecidableEq

/-- Why a reference that ends so is entered in the ledger. -/
def Ending.reason? : Ending → Option Reason
  | .unknown => some .noLocalScope
  | .leadsNowhere true => some .noImportTarget
  | .leadsNowhere false | .dropped | .namesScope | .reachesScope => none

/-- The reference is the same use of the same name, classified anew. -/
def Reclassifies (reference kept : Reference) : Prop :=
  kept = { reference with
    kind := kept.kind
    source := kept.source
    targetScope := kept.targetScope
    isLocalImport := kept.isLocalImport }

/-- What each ending means for a reference of a file: what the classified file keeps of it, and
what the second pass finds for that. -/
inductive Ends (setting : Setting) (file : FileAnalysis) (reference : Reference) :
    Option Reference → Ending → Prop where
  | dropped (unbound : boundImport? (bindingTable file.imports) reference = none)
      (unnamed : setting.index.lookup reference.identifier = none)
      (builtin : reference.identifier ∈ builtinsOf file.language) :
      Ends setting file reference none .dropped
  | unknown {kept : Reference} (same : Reclassifies reference kept) (kind : kept.kind = .unknown) :
      Ends setting file reference (some kept) .unknown
  | namesScope {kept : Reference} {pointer : String} {target : Scope}
      (same : Reclassifies reference kept) (kind : kept.kind = .localScope)
      (pointed : kept.targetScope = some pointer)
      (found : setting.atPointer? pointer = some target) :
      Ends setting file reference (some kept) .namesScope
  | reachesScope {kept : Reference} {binding : Import} {target : Scope × Bool}
      (same : Reclassifies reference kept) (kind : kept.kind = .imported)
      (bound : boundImport? (bindingTable file.imports) kept = some binding)
      (found : importTarget? setting file binding kept = some target) :
      Ends setting file reference (some kept) .reachesScope
  | leadsNowhere {kept : Reference} {binding : Import} {isLocal : Bool}
      (same : Reclassifies reference kept) (kind : kept.kind = .imported)
      (bound : boundImport? (bindingTable file.imports) kept = some binding)
      (lost : importTarget? setting file binding kept = none)
      (origin : kept.isLocalImport = some isLocal) :
      Ends setting file reference (some kept) (.leadsNowhere isLocal)

/-- How a reference ends, read off what the classified file keeps of it. -/
def endingFrom (setting : Setting) (file : FileAnalysis) : Option Reference → Ending
  | none => .dropped
  | some kept =>
      match kept.kind with
      | .imported =>
          if ((boundImport? (bindingTable file.imports) kept).bind fun binding =>
              importTarget? setting file binding kept).isSome then .reachesScope
          else .leadsNowhere (kept.isLocalImport == some true)
      | .localScope => .namesScope
      | _ => .unknown

/-- What is kept of a reference decides how it ends. -/
theorem Ends.eq_endingFrom {setting : Setting} {file : FileAnalysis} {reference : Reference}
    {settled : Option Reference} {ending : Ending}
    (ends : Ends setting file reference settled ending) :
    ending = endingFrom setting file settled := by
  cases ends with
  | dropped => rfl
  | unknown _ kind => simp [endingFrom, kind]
  | namesScope _ kind => simp [endingFrom, kind]
  | reachesScope _ kind bound found => simp [endingFrom, kind, bound, found]
  | leadsNowhere _ kind bound lost origin => simp [endingFrom, kind, bound, lost, origin]

theorem Ends.reclassifies {setting : Setting} {file : FileAnalysis} {reference kept : Reference}
    {ending : Ending} (ends : Ends setting file reference (some kept) ending) :
    Reclassifies reference kept := by
  cases ends <;> assumption

/-! ## The first pass -/

/-- The conditions of the four fates, the first that applies being taken. -/
theorem fate_cases (locators : Locators) (analyses : List FileAnalysis) (file : FileAnalysis)
    (reference : Reference) :
    (∃ binding, boundImport? (bindingTable file.imports) reference = some binding ∧
      fate locators analyses file reference =
        .usesImport binding (isLocalImport (locators file.language) binding)) ∨
    (boundImport? (bindingTable file.imports) reference = none ∧
      ((∃ target rest, bearers analyses reference.identifier = target :: rest ∧
        fate locators analyses file reference = .namesScope target) ∨
      (bearers analyses reference.identifier = [] ∧
        ((reference.identifier ∈ builtinsOf file.language ∧
          fate locators analyses file reference = .isBuiltin) ∨
        (reference.identifier ∉ builtinsOf file.language ∧
          fate locators analyses file reference = .isUnknown))))) := by
  unfold fate
  cases bound : boundImport? (bindingTable file.imports) reference with
  | some binding => exact Or.inl ⟨binding, rfl, rfl⟩
  | none =>
      refine Or.inr ⟨rfl, ?_⟩
      cases named : bearers analyses reference.identifier with
      | cons target rest => exact Or.inl ⟨target, rest, rfl, rfl⟩
      | nil =>
          refine Or.inr ⟨rfl, ?_⟩
          by_cases builtin : reference.identifier ∈ builtinsOf file.language
          · exact Or.inl ⟨builtin, by simp [builtin]⟩
          · exact Or.inr ⟨builtin, by simp [builtin]⟩

/-- The reference as the classified files hold it. -/
def settled? (locators : Locators) (analyses : List FileAnalysis) (file : FileAnalysis)
    (reference : Reference) : Option Reference :=
  (fate locators analyses file reference).apply reference

/-! ## The second pass -/

/-- Every reference of a project ends in the way that is read off what is kept of it. -/
theorem ends_settled? (root : Files.Path) (locators : Locators) (analyses : List FileAnalysis)
    (file : FileAnalysis) (reference : Reference) :
    Ends (settingOf root locators analyses) file reference
      (settled? locators analyses file reference)
      (endingFrom (settingOf root locators analyses) file
        (settled? locators analyses file reference)) := by
  -- It is enough to find some ending, because what is kept determines it.
  suffices exists_ending : ∃ ending, Ends (settingOf root locators analyses) file reference
      (settled? locators analyses file reference) ending by
    obtain ⟨ending, ends⟩ := exists_ending
    rw [← ends.eq_endingFrom]
    exact ends
  unfold settled?
  rcases fate_cases locators analyses file reference with
    ⟨binding, bound, fated⟩ | ⟨unbound, ⟨target, rest, named, fated⟩ | ⟨unnamed, last⟩⟩
  · rw [fated]
    cases found : importTarget? (settingOf root locators analyses) file binding
        { reference with
          kind := .imported
          source := some binding.source
          isLocalImport := some (isLocalImport (locators file.language) binding) } with
    | some target => exact ⟨_, .reachesScope rfl rfl bound found⟩
    | none => exact ⟨_, .leadsNowhere rfl rfl bound found rfl⟩
  · rw [fated]
    have bearer : target ∈ bearers analyses reference.identifier := by simp [named]
    have indexed := ((mem_bearers_iff _ _ _).mp bearer).1
    obtain ⟨denoted, found⟩ := exists_atPointer?_eq_some root locators indexed
    exact ⟨_, .namesScope rfl rfl rfl found⟩
  · rcases last with ⟨builtin, fated⟩ | ⟨_, fated⟩
    · rw [fated]
      refine ⟨_, .dropped unbound ?_ builtin⟩
      change (nameIndex analyses).lookup reference.identifier = none
      rw [lookup_nameIndex, if_pos unnamed]
    · rw [fated]
      exact ⟨_, .unknown rfl rfl⟩

/-- How a reference of a file ends when its project is resolved. -/
def endingOf (root : Files.Path) (locators : Locators) (analyses : List FileAnalysis)
    (file : FileAnalysis) (reference : Reference) : Ending :=
  endingFrom (settingOf root locators analyses) file (settled? locators analyses file reference)

/-! ## The ledger -/

/-- One entry for each reference that ends for the given reason, by file, scope and reference in
the order of the input. -/
def entriesFor (ending : FileAnalysis → Reference → Ending) (reason : Reason)
    (analyses : List FileAnalysis) : List Unresolved :=
  analyses.flatMap fun file => file.scopes.flatMap fun scope =>
    (scope.references.filter fun reference => (ending file reference).reason? = some reason).map
      fun reference => .ofReference scope reference reason

theorem isUnknown_iff_reason (root : Files.Path) (locators : Locators)
    (analyses : List FileAnalysis) (file : FileAnalysis) (reference : Reference) :
    fate locators analyses file reference = .isUnknown ↔
      (endingOf root locators analyses file reference).reason? = some .noLocalScope := by
  unfold endingOf settled?
  cases fate locators analyses file reference with
  | usesImport binding isLocal =>
      simp only [Fate.apply, endingFrom, reduceCtorEq, false_iff]
      split
      · simp [Ending.reason?]
      · cases isLocal <;> simp [Ending.reason?]
  | namesScope target => simp [Fate.apply, endingFrom, Ending.reason?]
  | isBuiltin => simp [Fate.apply, endingFrom, Ending.reason?]
  | isUnknown => simp [Fate.apply, endingFrom, Ending.reason?]

/-- The first pass enters the references of which nothing is known. -/
theorem unknownLedger_eq_entriesFor (root : Files.Path) (locators : Locators)
    (analyses : List FileAnalysis) :
    unknownLedger locators analyses =
      entriesFor (endingOf root locators analyses) .noLocalScope analyses := by
  unfold unknownLedger entriesFor
  congr 1
  funext file
  congr 1
  funext scope
  unfold unknownReferences
  congr 1
  apply List.filter_congr
  intro reference _
  rw [Bool.eq_iff_iff, beq_iff_eq, decide_eq_true_iff]
  exact isUnknown_iff_reason root locators analyses file reference

/-- The second pass finds a reference lost exactly when it was imported from the project and leads
nowhere. -/
theorem isLost_iff_reason (setting : Setting) (file : FileAnalysis) {reference kept : Reference}
    {ending : Ending} (ends : Ends setting file reference (some kept) ending) :
    isLost setting file kept = true ↔ ending.reason? = some .noImportTarget := by
  cases ends with
  | unknown _ kind => simp [isLost, kind, Ending.reason?]
  | namesScope _ kind => simp [isLost, kind, Ending.reason?]
  | reachesScope _ kind bound found => simp [isLost, bound, found, Ending.reason?]
  | @leadsNowhere _ _ isLocal _ kind bound lost origin =>
      cases isLocal <;> simp [isLost, kind, bound, lost, origin, Ending.reason?]

/-- An entry tells of a reference what classification does not change. -/
theorem ofReference_classifyScope (locators : Locators) (analyses : List FileAnalysis)
    (file : FileAnalysis) (scope : Scope) {reference kept : Reference}
    (same : Reclassifies reference kept) (reason : Reason) :
    Unresolved.ofReference (classifyScope locators analyses file scope) kept reason =
      Unresolved.ofReference scope reference reason := by
  rw [same]
  rfl

/-- What the second pass enters for one reference of the input. -/
theorem lostEntry_eq (root : Files.Path) (locators : Locators) (analyses : List FileAnalysis)
    (file : FileAnalysis) (scope : Scope) (reference : Reference) :
    ((settled? locators analyses file reference).filter
        (isLost (settingOf root locators analyses) file)).map (fun kept =>
          Unresolved.ofReference (classifyScope locators analyses file scope) kept
            .noImportTarget) =
      if (endingOf root locators analyses file reference).reason? = some .noImportTarget then
        some (.ofReference scope reference .noImportTarget)
      else none := by
  have ends := ends_settled? root locators analyses file reference
  unfold endingOf
  cases kept? : settled? locators analyses file reference with
  | none => simp [endingFrom, Ending.reason?]
  | some kept =>
      rw [kept?] at ends
      have same := ends.reclassifies
      by_cases lost : isLost (settingOf root locators analyses) file kept = true
      · rw [if_pos ((isLost_iff_reason _ _ ends).mp lost)]
        simp [Option.filter, lost, ofReference_classifyScope locators analyses file scope same]
      · rw [if_neg fun reason => lost ((isLost_iff_reason _ _ ends).mpr reason)]
        simp [Option.filter, lost]

/-- The second pass enters the references that were imported from the project and lead nowhere. -/
theorem lostLedger_eq_entriesFor (root : Files.Path) (locators : Locators)
    (analyses : List FileAnalysis) :
    lostLedger (settingOf root locators analyses) =
      entriesFor (endingOf root locators analyses) .noImportTarget analyses := by
  unfold lostLedger entriesFor
  change (analyses.map (classifyFile locators analyses)).flatMap _ = _
  rw [List.flatMap_map]
  congr 1
  funext file
  change (file.scopes.map (classifyScope locators analyses file)).flatMap _ = _
  rw [List.flatMap_map]
  congr 1
  funext scope
  change ((scope.references.filterMap (settled? locators analyses file)).filter
    (isLost (settingOf root locators analyses) file)).map _ = _
  rw [List.filter_filterMap, List.map_filterMap, ← List.filterMap_eq_map, List.filterMap_filter]
  congr 1
  funext reference
  rw [lostEntry_eq]
  simp

/-! ## Both passes -/

/-- For every project, each reference of the input ends in exactly one of the five ways, the
classified files hold what is kept of each in the order of the input, and the ledger has one entry
for each reference of which nothing is known, then one for each that was imported from the project
and leads nowhere, and no others. -/
theorem resolve_ends_every_reference (options : Options) (root : Files.Path) (locators : Locators)
    (analyses : List FileAnalysis) :
    ∃ (settled : FileAnalysis → Reference → Option Reference)
      (ending : FileAnalysis → Reference → Ending),
      (∀ file reference outcome,
        Ends (settingOf root locators analyses) file reference (settled file reference) outcome ↔
          outcome = ending file reference) ∧
      ((resolve options root locators analyses).analyses.map fun file =>
          file.scopes.map (·.references)) =
        (analyses.map fun file =>
          file.scopes.map fun scope => scope.references.filterMap (settled file)) ∧
      (resolve options root locators analyses).unresolved =
        entriesFor ending .noLocalScope analyses ++ entriesFor ending .noImportTarget analyses ∧
      (resolve options root locators analyses).statistics.unresolved =
        (resolve options root locators analyses).unresolved.length := by
  refine ⟨settled? locators analyses, endingOf root locators analyses, ?_, ?_, ?_, rfl⟩
  · intro file reference outcome
    constructor
    · intro ends
      exact ends.eq_endingFrom
    · rintro rfl
      exact ends_settled? root locators analyses file reference
  · simp only [resolve, settingOf, classify, List.map_map]
    congr 1
    funext file
    simp only [Function.comp, classifyFile, List.map_map]
    rfl
  · rw [← unknownLedger_eq_entriesFor, ← lostLedger_eq_entriesFor]
    rfl

end ScopeAtlas.Graph
