import ScopeAtlas.Proofs.Graph.Tagging
import ScopeAtlas.Workspace.Asking

/-!
# A pass that asks

Classification goes through a project once, and asks the rules of a language whether an import is
one of the project.  An answer is remembered under the name of the rules and the source of the
import, and languages of one family ask rules of one name, each having loaded its own.  The rules
may refuse a source, and then the pass ends.

What is remembered is what the rules would answer, because rules of one name that were loaded for
one root are the same.  So the pass is refused where some import that is used has a source that the
rules refuse, and otherwise classifies every file by itself.
-/

namespace ScopeAtlas.Workspace

open ScopeAtlas.Data ScopeAtlas.Files ScopeAtlas.Graph ScopeAtlas.Language ScopeAtlas.Location

/-! ## Rules of one name -/

/-- Languages whose rules have one name have the same rules, loaded alike. -/
def NamesDecideHomes (homes : List (String × Home)) : Prop :=
  ∀ language other home homeToo, homes.lookup language = some home →
    homes.lookup other = some homeToo → rulesOf? language = rulesOf? other → home = homeToo

theorem ofFamily_eq_of_rulesName_eq {family other : Family}
    (same : rulesName family = rulesName other) :
    Ecosystem.ofFamily family = Ecosystem.ofFamily other := by
  cases family <;> cases other <;> first | exact absurd same (by decide) | rfl

/-- What is loaded for a language are the rules of its family, with the manifest of the root. -/
theorem exists_load_of_lookup {files : FileTree} {root : Path} {languages : List String}
    {homes : List (String × Home)} (loaded : loadHomes files root languages = .ok homes)
    {language : String} {home : Home} (known : homes.lookup language = some home) :
    ∃ profile, profile? language = some profile ∧
      home.ecosystem = Ecosystem.ofFamily profile.family ∧
      home.ecosystem.load { files := files, root := root } none none = (home.project, none) := by
  induction languages generalizing homes with
  | nil =>
      obtain rfl := Except.ok.inj loaded
      cases known
  | cons first rest ih =>
      rw [loadHomes] at loaded
      split at loaded
      · exact ih loaded known
      · rename_i profile named
        dsimp only at loaded
        split at loaded
        · cases loaded
        · rename_i project manifest
          cases later : loadHomes files root rest with
          | error fault => simp [later, bind, Except.bind] at loaded
          | ok others =>
              obtain rfl :
                  (first, ⟨Ecosystem.ofFamily profile.family, project⟩) :: others = homes := by
                simpa [later, bind, Except.bind, pure, Except.pure] using loaded
              rw [List.lookup_cons] at known
              split at known
              · rename_i same
                obtain rfl := eq_of_beq same
                obtain rfl := Option.some.inj known
                exact ⟨profile, named, rfl, manifest⟩
              · exact ih later known

theorem namesDecideHomes_of_loadHomes {files : FileTree} {root : Path} {languages : List String}
    {homes : List (String × Home)} (loaded : loadHomes files root languages = .ok homes) :
    NamesDecideHomes homes := by
  intro language other home homeToo known knownToo same
  obtain ⟨profile, named, rules, manifest⟩ := exists_load_of_lookup loaded known
  obtain ⟨profileToo, namedToo, rulesToo, manifestToo⟩ := exists_load_of_lookup loaded knownToo
  have sameName : rulesName profile.family = rulesName profileToo.family := by
    simpa [rulesOf?, named, namedToo] using same
  have sameRules : home.ecosystem = homeToo.ecosystem := by
    rw [rules, rulesToo, ofFamily_eq_of_rulesName_eq sameName]
  have sameProject : home.project = homeToo.project := by
    rw [sameRules, manifestToo] at manifest
    exact (Prod.mk.inj manifest).1.symm
  cases home
  cases homeToo
  exact congrArg₂ Home.mk sameRules sameProject

/-! ## What a part of a pass comes to -/

theorem findSome?_cons_eq_or {α β : Type} (value? : α → Option β) (item : α) (rest : List α) :
    (item :: rest).findSome? value? = (value? item).or (rest.findSome? value?) := by
  rw [List.findSome?_cons]
  cases value? item <;> rfl

theorem findSome?_flatMap {α β γ : Type} (value? : β → Option γ) (list : α → List β)
    (items : List α) :
    (items.flatMap list).findSome? value? = items.findSome? fun item =>
      (list item).findSome? value? := by
  induction items with
  | nil => rfl
  | cons item rest ih =>
      rw [List.flatMap_cons, List.findSome?_append, ih, findSome?_cons_eq_or]

/-- What is remembered is what the rules answer. -/
def Truthful (homes : List (String × Home))
    (answers : List ((Option String × String) × Bool)) : Prop :=
  ∀ language home source answer, homes.lookup language = some home →
    answers.lookup (rulesOf? language, source) = some answer →
      home.ecosystem.isLocal home.project source = .ok answer

/-- Whatever is truly remembered, the action is refused, or has a value and adds entries to the
ledger, and what is remembered stays true. -/
def Delivers {α : Type} (homes : List (String × Home)) (action : Pass α)
    (refusal : Option LinkFault) (value : α) (entries : List Unresolved) : Prop :=
  ∀ memory, Truthful homes memory.answers →
    (∃ fault, refusal = some fault ∧ action memory = .error fault) ∨
    (refusal = none ∧ ∃ answers, Truthful homes answers ∧
      action memory = .ok (value, { answers, ledger := memory.ledger ++ entries }))

namespace Delivers

variable {homes : List (String × Home)} {α β : Type}

theorem pure (value : α) : Delivers homes (pure value) none value [] := by
  intro memory truthful
  refine Or.inr ⟨rfl, memory.answers, truthful, ?_⟩
  rw [List.append_nil]
  rfl

theorem bind {first : Pass α} {next : α → Pass β} {refusal later : Option LinkFault} {value : α}
    {result : β} {entries more : List Unresolved}
    (here : Delivers homes first refusal value entries)
    (after : Delivers homes (next value) later result more) :
    Delivers homes (first >>= next) (refusal.or later) result (entries ++ more) := by
  intro memory truthful
  have steps : (first >>= next) memory = first memory >>= fun made => next made.1 made.2 := rfl
  rw [steps]
  rcases here memory truthful with ⟨fault, rfl, ran⟩ | ⟨rfl, answers, stillTruthful, ran⟩
  · exact Or.inl ⟨fault, rfl, by rw [ran]; rfl⟩
  · rw [ran, ← List.append_assoc, Option.none_or]
    exact after _ stillTruthful

theorem map {first : Pass α} {refusal : Option LinkFault} {value : α} {entries : List Unresolved}
    (here : Delivers homes first refusal value entries) (result : α → β) :
    Delivers homes (first >>= fun made => Pure.pure (result made)) refusal (result value)
      entries := by
  rw [← Option.or_none (o := refusal), ← List.append_nil entries]
  exact here.bind (pure (result value))

theorem foldlM {σ ι : Type} {step : σ → ι → Pass σ} {refusal : ι → Option LinkFault}
    {value : σ → ι → σ} {entries : ι → List Unresolved} {items : List ι}
    (each : ∀ item ∈ items, ∀ state,
      Delivers homes (step state item) (refusal item) (value state item) (entries item))
    (start : σ) :
    Delivers homes (items.foldlM step start) (items.findSome? refusal) (items.foldl value start)
      (items.flatMap entries) := by
  induction items generalizing start with
  | nil => exact pure start
  | cons item rest ih =>
      have later := ih (fun other member => each other (List.mem_cons_of_mem _ member))
        (value start item)
      rw [List.foldlM_cons, findSome?_cons_eq_or, List.foldl_cons, List.flatMap_cons]
      exact (each item List.mem_cons_self start).bind later

theorem mapM {ι : Type} {step : ι → Pass β} {refusal : ι → Option LinkFault} {value : ι → β}
    {entries : ι → List Unresolved} {items : List ι}
    (each : ∀ item ∈ items, Delivers homes (step item) (refusal item) (value item) (entries item)) :
    Delivers homes (items.mapM step) (items.findSome? refusal) (items.map value)
      (items.flatMap entries) := by
  induction items with
  | nil => exact pure []
  | cons item rest ih =>
      have later := ih fun other member => each other (List.mem_cons_of_mem _ member)
      rw [List.mapM_cons, findSome?_cons_eq_or, List.map_cons, List.flatMap_cons]
      exact (each item List.mem_cons_self).bind (later.map (value item :: ·))

end Delivers

/-! ## What the pass comes to -/

section Coming

variable {homes : List (String × Home)} (analyses : List FileAnalysis) (file : FileAnalysis)

/-- Why the import that a reference uses is refused. -/
def refusal? (homes : List (String × Home)) (file : FileAnalysis) (reference : Reference) :
    Option LinkFault :=
  (homes.lookup file.language).bind fun home =>
    (boundImport? (bindingTable file.imports) reference).bind fun binding =>
      faultOf? (home.ecosystem.classify home.project binding.source)

theorem Truthful.remember {answers : List ((Option String × String) × Bool)}
    (truthful : Truthful homes answers) (decide : NamesDecideHomes homes) {language : String}
    {home : Home} (known : homes.lookup language = some home) {source : String} {answer : Bool}
    (given : home.ecosystem.isLocal home.project source = .ok answer) :
    Truthful homes (((rulesOf? language, source), answer) :: answers) := by
  intro other homeToo sourceToo answerToo knownToo found
  rw [List.lookup_cons] at found
  split at found
  · rename_i same
    obtain ⟨sameRules, rfl⟩ := Prod.mk.inj (eq_of_beq same)
    obtain rfl := Option.some.inj found
    rw [decide other language homeToo home knownToo known sameRules, given]
  · exact truthful other homeToo sourceToo answerToo knownToo found

theorem delivers_askIsLocal (decide : NamesDecideHomes homes) (language : String)
    (binding : Import) :
    Delivers homes (askIsLocal homes language binding)
      ((homes.lookup language).bind fun home =>
        faultOf? (home.ecosystem.classify home.project binding.source))
      (isLocalImport (locatorsOf homes language) binding) [] := by
  intro memory truthful
  unfold askIsLocal isLocalImport locatorsOf
  rw [List.append_nil]
  cases known : homes.lookup language with
  | none => exact Or.inr ⟨rfl, memory.answers, truthful, rfl⟩
  | some home =>
      have asked : home.ecosystem.isLocal home.project binding.source =
          (home.ecosystem.classify home.project binding.source).map ImportClass.isLocal := rfl
      have recalled := truthful language home binding.source
      dsimp only [Option.bind_some, Option.map_some, Home.locator]
      cases accepted : home.ecosystem.classify home.project binding.source with
      | error fault =>
          have refused : home.ecosystem.isLocal home.project binding.source = .error fault := by
            rw [asked, accepted]
            rfl
          rw [refused] at recalled ⊢
          cases remembered : memory.answers.lookup (rulesOf? language, binding.source) with
          | some answer => cases recalled answer known remembered
          | none => exact Or.inl ⟨.followed fault, rfl, rfl⟩
      | ok importClass =>
          have given : home.ecosystem.isLocal home.project binding.source =
              .ok importClass.isLocal := by
            rw [asked, accepted]
            rfl
          have remembers := truthful.remember decide known given
          rw [given] at recalled ⊢
          cases remembered : memory.answers.lookup (rulesOf? language, binding.source) with
          | some answer =>
              obtain rfl := Except.ok.inj (recalled answer known remembered)
              exact Or.inr ⟨rfl, memory.answers, truthful, rfl⟩
          | none => exact Or.inr ⟨rfl, _, remembers, rfl⟩

theorem delivers_askFate (decide : NamesDecideHomes homes) (reference : Reference) :
    Delivers homes (askFate homes analyses file reference) (refusal? homes file reference)
      (fate (locatorsOf homes) analyses file reference) [] := by
  unfold askFate fate refusal?
  cases boundImport? (bindingTable file.imports) reference with
  | some binding =>
      exact (delivers_askIsLocal decide file.language binding).map (Fate.usesImport binding)
  | none =>
      dsimp only [Option.bind_none]
      rw [Option.bind_fun_none, lookup_nameIndex]
      cases named : bearers analyses reference.identifier with
      | nil => exact .pure _
      | cons target rest => exact .pure _

theorem delivers_enter (scope : Scope) (reference : Reference) :
    Delivers homes (enter scope reference) none ()
      [.ofReference scope reference .noLocalScope] := fun memory truthful =>
  Or.inr ⟨rfl, memory.answers, truthful, rfl⟩

theorem usedBy?_fate (locators : Locators) (reference : Reference) :
    usedBy? (fate locators analyses file reference) =
      boundImport? (bindingTable file.imports) reference := by
  rcases fate_cases locators analyses file reference with
    ⟨binding, bound, fated⟩ | ⟨unbound, ⟨_, _, _, fated⟩ | ⟨_, ⟨_, fated⟩ | ⟨_, fated⟩⟩⟩
  · rw [fated, bound]
    rfl
  · rw [fated, unbound]
    rfl
  · rw [fated, unbound]
    rfl
  · rw [fated, unbound]
    rfl

/-- What is kept after one reference more. -/
def keepOne (locators : Locators) (analyses : List FileAnalysis) (file : FileAnalysis)
    (kept : List Reference × List Import) (reference : Reference) :
    List Reference × List Import :=
  (kept.1 ++ (settled? locators analyses file reference).toList,
    (boundImport? (bindingTable file.imports) reference).toList.foldl addImport kept.2)

/-- The entry of a reference, if nothing is known of it. -/
def entryOf (locators : Locators) (analyses : List FileAnalysis) (file : FileAnalysis)
    (scope : Scope) (reference : Reference) : List Unresolved :=
  if fate locators analyses file reference = .isUnknown then
    [.ofReference scope reference .noLocalScope]
  else []

theorem delivers_askReference (decide : NamesDecideHomes homes) (scope : Scope)
    (kept : List Reference × List Import) (reference : Reference) :
    Delivers homes (askReference homes analyses file scope kept reference)
      (refusal? homes file reference) (keepOne (locatorsOf homes) analyses file kept reference)
      (entryOf (locatorsOf homes) analyses file scope reference) := by
  have asked := delivers_askFate analyses file decide reference
  rw [keepOne, ← usedBy?_fate analyses file (locatorsOf homes), settled?, entryOf]
  unfold askReference
  generalize fate (locatorsOf homes) analyses file reference = outcome at asked ⊢
  have after : Delivers homes (do
      if outcome = .isUnknown then enter scope reference
      return (kept.1 ++ (outcome.apply reference).toList,
        (usedBy? outcome).toList.foldl addImport kept.2)) none
      (kept.1 ++ (outcome.apply reference).toList,
        (usedBy? outcome).toList.foldl addImport kept.2)
      (if outcome = .isUnknown then [.ofReference scope reference .noLocalScope] else []) := by
    by_cases unknown : outcome = .isUnknown
    · simp only [if_pos unknown]
      exact (delivers_enter scope reference).bind (.pure _)
    · simp only [if_neg unknown]
      exact .pure _
  rw [← Option.or_none (o := refusal? homes file reference), ← List.nil_append (ite _ _ _)]
  exact asked.bind after

theorem foldl_keepOne (locators : Locators) (references : List Reference)
    (kept : List Reference × List Import) :
    references.foldl (keepOne locators analyses file) kept =
      (kept.1 ++ references.filterMap (settled? locators analyses file),
        (references.filterMap (boundImport? (bindingTable file.imports))).foldl addImport
          kept.2) := by
  induction references generalizing kept with
  | nil => simp
  | cons reference rest ih =>
      rw [List.foldl_cons, ih, keepOne, List.filterMap_cons, List.filterMap_cons]
      cases settled? locators analyses file reference <;>
        cases boundImport? (bindingTable file.imports) reference <;> simp

theorem delivers_askScope (decide : NamesDecideHomes homes) (scope : Scope) :
    Delivers homes (askScope homes analyses file scope)
      (scope.references.findSome? (refusal? homes file))
      (classifyScope (locatorsOf homes) analyses file scope)
      (scope.references.flatMap (entryOf (locatorsOf homes) analyses file scope)) := by
  have passed := Delivers.foldlM (fun reference (_ : reference ∈ scope.references) kept =>
    delivers_askReference analyses file decide scope kept reference) ([], scope.imports)
  rw [foldl_keepOne] at passed
  exact passed.map fun kept => { scope with references := kept.1, imports := kept.2 }

theorem delivers_askFile (decide : NamesDecideHomes homes) :
    Delivers homes (askFile homes analyses file)
      (file.scopes.findSome? fun scope => scope.references.findSome? (refusal? homes file))
      (classifyFile (locatorsOf homes) analyses file)
      (file.scopes.flatMap fun scope =>
        scope.references.flatMap (entryOf (locatorsOf homes) analyses file scope)) := by
  have passed := Delivers.mapM fun scope (_ : scope ∈ file.scopes) =>
    delivers_askScope analyses file decide scope
  exact passed.map fun scopes => { file with scopes := scopes }

/-- The first refused source, reference by reference. -/
theorem classFault?_eq_findSome? :
    classFault? homes analyses = analyses.findSome? fun file =>
      file.scopes.findSome? fun scope => scope.references.findSome? (refusal? homes file) := by
  unfold classFault? refusal?
  congr 1
  funext file
  cases homes.lookup file.language with
  | none =>
      exact (List.findSome?_eq_none_iff.mpr fun scope _ =>
        List.findSome?_eq_none_iff.mpr fun _ _ => rfl).symm
  | some home => exact findSome?_flatMap _ _ _

theorem unknownLedger_eq_flatMap (locators : Locators) :
    unknownLedger locators analyses = analyses.flatMap fun file => file.scopes.flatMap fun scope =>
      scope.references.flatMap (entryOf locators analyses file scope) := by
  unfold unknownLedger unknownReferences
  congr 1
  funext file
  congr 1
  funext scope
  rw [← List.filterMap_eq_map, List.filterMap_filter, List.filterMap_eq_flatMap_toList]
  congr 1
  funext reference
  rw [entryOf]
  by_cases unknown : fate locators analyses file reference = .isUnknown <;> simp [unknown]

/-- A pass that asks is refused at the first refused source, and otherwise is the plain pass. -/
theorem askingClassify_eq (decide : NamesDecideHomes homes) :
    askingClassify homes analyses =
      match classFault? homes analyses with
      | some fault => .error fault
      | none => .ok (classify (locatorsOf homes) analyses,
          unknownLedger (locatorsOf homes) analyses) := by
  have nothing : Truthful homes [] := by
    intro _ _ _ _ _ found
    cases found
  have passed := Delivers.mapM (fun file (_ : file ∈ analyses) =>
    delivers_askFile analyses file decide) { answers := [], ledger := [] } nothing
  rw [← classFault?_eq_findSome?, ← unknownLedger_eq_flatMap] at passed
  unfold askingClassify
  rcases passed with ⟨fault, refused, ran⟩ | ⟨accepted, answers, _, ran⟩
  · rw [refused, StateT.run, ran]
    rfl
  · rw [accepted, StateT.run, ran]
    rfl

/-- A refusal comes from an import that some reference uses. -/
theorem exists_of_classFault? {fault : LinkFault}
    (refused : classFault? homes analyses = some fault) :
    ∃ file ∈ analyses, ∃ scope ∈ file.scopes, ∃ reference ∈ scope.references, ∃ binding home reason,
      UsesImport file.imports reference binding ∧ homes.lookup file.language = some home ∧
        home.ecosystem.isLocal home.project binding.source = .error reason ∧
        fault = .followed reason := by
  rw [classFault?_eq_findSome?] at refused
  obtain ⟨file, fileMem, refused⟩ := List.exists_of_findSome?_eq_some refused
  obtain ⟨scope, scopeMem, refused⟩ := List.exists_of_findSome?_eq_some refused
  obtain ⟨reference, referenceMem, refused⟩ := List.exists_of_findSome?_eq_some refused
  obtain ⟨home, known, refused⟩ := Option.bind_eq_some_iff.mp refused
  obtain ⟨binding, bound, refused⟩ := Option.bind_eq_some_iff.mp refused
  refine ⟨file, fileMem, scope, scopeMem, reference, referenceMem, binding, home, ?_⟩
  rw [Ecosystem.isLocal]
  cases classed : home.ecosystem.classify home.project binding.source with
  | ok _ =>
      rw [classed] at refused
      cases refused
  | error reason =>
      rw [classed] at refused
      exact ⟨reason, boundImport?_eq_some_iff.mp bound, known, rfl, (Option.some.inj refused).symm⟩

/-- The answer of a language for an import: that of its rules for the source, and without rules that
of the import itself. -/
def AnswersLocal (homes : List (String × Home)) (language : String) (binding : Import)
    (isLocal : Bool) : Prop :=
  match homes.lookup language with
  | some home => home.ecosystem.isLocal home.project binding.source = .ok isLocal
  | none => isLocal = binding.isLocal

theorem answers_of_accepted {analyses : List FileAnalysis} {file : FileAnalysis}
    (accepted : classFault? homes analyses = none) (fileMem : file ∈ analyses) {scope : Scope}
    (scopeMem : scope ∈ file.scopes) {reference : Reference}
    (referenceMem : reference ∈ scope.references) {binding : Import}
    (uses : UsesImport file.imports reference binding) :
    AnswersLocal homes file.language binding
      (isLocalImport (locatorsOf homes file.language) binding) := by
  rw [classFault?_eq_findSome?] at accepted
  have kept := List.findSome?_eq_none_iff.mp (List.findSome?_eq_none_iff.mp
    (List.findSome?_eq_none_iff.mp accepted file fileMem) scope scopeMem) reference referenceMem
  unfold AnswersLocal isLocalImport locatorsOf
  cases known : homes.lookup file.language with
  | none => rfl
  | some home =>
      rw [refusal?, known, boundImport?_eq_some_iff.mpr uses] at kept
      dsimp only [Option.map_some, Home.locator]
      rw [Ecosystem.isLocal]
      dsimp only [Option.bind_some] at kept
      cases classed : home.ecosystem.classify home.project binding.source with
      | ok _ => rfl
      | error _ =>
          rw [classed] at kept
          cases kept

end Coming

/-- Let the rules of some languages be loaded for one root.  Over any project, the pass that asks
them and remembers their answers is refused only where they refuse the source of an import that some
reference uses.  Otherwise it classifies as the plain pass does, and every file, scope and reference
is kept or dropped and tagged as it should be, with the answer that the language of the file gives
for the import. -/
theorem asking_tags_every_reference {files : FileTree} {root : Path} {languages : List String}
    {homes : List (String × Home)} (loaded : loadHomes files root languages = .ok homes)
    (analyses : List FileAnalysis) :
    (∃ fault, askingClassify homes analyses = .error (.followed fault) ∧
      classFault? homes analyses = some (.followed fault) ∧
      ∃ file ∈ analyses, ∃ scope ∈ file.scopes, ∃ reference ∈ scope.references, ∃ binding home,
        UsesImport file.imports reference binding ∧ homes.lookup file.language = some home ∧
          home.ecosystem.isLocal home.project binding.source = .error fault) ∨
    (classFault? homes analyses = none ∧
      askingClassify homes analyses = .ok (classify (locatorsOf homes) analyses,
        unknownLedger (locatorsOf homes) analyses) ∧
      List.Forall₂ (fun file kept =>
          TaggedFile analyses file (AnswersLocal homes file.language) kept)
        analyses (classify (locatorsOf homes) analyses)) := by
  have comes := askingClassify_eq analyses (namesDecideHomes_of_loadHomes loaded)
  cases refused : classFault? homes analyses with
  | some fault =>
      obtain ⟨file, fileMem, scope, scopeMem, reference, referenceMem, binding, home, reason, uses,
        known, answered, rfl⟩ := exists_of_classFault? analyses refused
      rw [refused] at comes
      exact Or.inl ⟨reason, comes, rfl, file, fileMem, scope, scopeMem, reference, referenceMem,
        binding, home, uses, known, answered⟩
  | none =>
      rw [refused] at comes
      refine Or.inr ⟨rfl, comes, ?_⟩
      rw [classify, List.forall₂_map_right_iff, List.forall₂_same]
      exact fun file fileMem => taggedFile_classifyFile
        fun scope scopeMem reference referenceMem binding uses =>
          answers_of_accepted refused fileMem scopeMem referenceMem uses

/-- A function of a file that uses the one import of the file. -/
def importingFile (path language : String) : FileAnalysis :=
  { filePath := path
    language := language
    imports := [{ source := "@/store", imported := "load" }]
    scopes :=
      [{ id := path, name := "main", kind := .function, filePath := path, startLine := 2,
         endLine := 4
         references :=
          [{ identifier := "load", line := 3, column := 2, context := "load()" }] }] }

/-- The disk of an empty project. -/
def emptyProjectDisk : FileTree := { top := [("p", .directory [])], here := ⟨.root, []⟩ }

/-- The rules of two languages of one family are loaded, and in a file of each the use of an import
is tagged with what they answer, which the import itself does not say. -/
theorem files_of_one_family_are_tagged :
    let project : Project := { files := emptyProjectDisk, root := ⟨.root, ["p"]⟩ }
    let homes := [("tsx", ⟨.ecmaScript, project⟩), ("typescript", ⟨.ecmaScript, project⟩)]
    let analyses := [importingFile "a.ts" "typescript", importingFile "b.tsx" "tsx"]
    loadHomes emptyProjectDisk ⟨.root, ["p"]⟩ ["tsx", "typescript"] = .ok homes ∧
      askingClassify homes analyses = .ok (classify (locatorsOf homes) analyses, []) ∧
      List.Forall₂ (fun file kept =>
          TaggedFile analyses file (AnswersLocal homes file.language) kept)
        analyses (classify (locatorsOf homes) analyses) ∧
      (classify (locatorsOf homes) analyses).map (fun file =>
          file.scopes.map fun scope => scope.references.map (·.isLocalImport)) =
        [[[some true]], [[some true]]] := by
  intro project homes analyses
  have loaded : loadHomes emptyProjectDisk ⟨.root, ["p"]⟩ ["tsx", "typescript"] = .ok homes := rfl
  have accepted : classFault? homes analyses = none := by decide +kernel
  have known : unknownLedger (locatorsOf homes) analyses = [] := by decide +kernel
  rcases asking_tags_every_reference loaded analyses with ⟨_, _, refused, _⟩ | ⟨_, asked, tagged⟩
  · rw [accepted] at refused
    cases refused
  · rw [known] at asked
    exact ⟨loaded, asked, tagged, by decide +kernel⟩

end ScopeAtlas.Workspace
