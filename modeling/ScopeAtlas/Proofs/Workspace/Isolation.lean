import Mathlib.Data.List.Forall2
import ScopeAtlas.Proofs.Workspace.Outcomes
import ScopeAtlas.Proofs.Workspace.Reports

/-!
# Files that fail

A survey reads its files one by one, and what it reports of a file is what reading that file alone
gives.  Where the sources are told apart by the paths of their reports, each is reported once: with
its analysis, with its error, or as too large.  The graph is built from the analyses alone.  Hence a
survey that is given the files without some that fail differs in the errors of these files and in
nothing else.
-/

namespace ScopeAtlas.Workspace

open ScopeAtlas.Data ScopeAtlas.Extraction ScopeAtlas.Files ScopeAtlas.Graph ScopeAtlas.Language

/-! ## Surveys that search -/

theorem mapM_eq_ok {ε α β : Type} {f : α → Except ε β} {g : α → β} {items : List α}
    (same : ∀ item ∈ items, f item = .ok (g item)) : items.mapM f = .ok (items.map g) := by
  induction items with
  | nil => rfl
  | cons item rest ih =>
      obtain ⟨first, later⟩ := List.forall_mem_cons.mp same
      rw [List.mapM_cons, first, ih later]
      rfl

/-- What a survey finds when it is given no files. -/
def Request.found (request : Request) (system : FileSystem) (registry : Registry) (root : Path) :
    Discovery :=
  discover system registry root request.excludedDirs (.ofInt request.maxFileSizeKb)

/-- The outcome of a file, under the path by which it is reported. -/
def Request.outcome (request : Request) (system : FileSystem) (engine : Engine)
    (registry : Registry) (root path : Path) : String × Except Error FileAnalysis :=
  (reported system root path,
    surveyFile system engine registry request.includeModuleScopes path (reported system root path))

/-- What a survey finds of files. -/
def Request.findings (request : Request) (system : FileSystem) (engine : Engine)
    (registry : Registry) (root : Path) (chosen : Discovery) : Findings :=
  let results := chosen.files.map (request.outcome system engine registry root)
  { analyses := analysesOf results
    errors := errorsOf results
    skipped := chosen.oversized.map (reported system root) }

/-- A survey fails where the graph of its analyses cannot be built. -/
theorem survey_of_readFiles {system : FileSystem} {engine : Engine} {registry : Registry}
    {root : Path} {request : Request} {findings : Findings}
    (read : readFiles system engine registry root request = .ok findings)
    (build : List FileAnalysis → Except LinkFault Resolution) :
    survey system engine registry build root request =
      ((build (findings.analyses.map (·.2))).mapError .unlinked).map fun resolution =>
        { findings with resolution := resolution } := by
  rw [survey, read]
  simp only [Except.mapError, bind, Except.bind]
  cases build (findings.analyses.map (·.2)) <;> rfl

section Surveys

variable {system : FileSystem} {engine : Engine} {registry : Registry} {root : Path}
  {request : Request} (rooted : system.IsRoot root)
  (apart : TellsApart system registry root request.excludedDirs)
include rooted apart

/-- What a survey finds of files that a search finds. -/
theorem readFiles_eq (engine : Engine) (chosen : Request)
    (same : chosen.includeModuleScopes = request.includeModuleScopes)
    (found : (filesOf system registry root chosen).paths ⊆
      (request.found system registry root).paths) :
    readFiles system engine registry root chosen =
      .ok (request.findings system engine registry root (filesOf system registry root chosen)) := by
  rw [readFiles, same]
  generalize filesOf system registry root chosen = files at found
  have skipped : files.oversized.mapM (shownPath system root) =
      .ok (files.oversized.map (reported system root)) :=
    mapM_eq_ok fun path member =>
      (reported_spec rooted apart (found (List.mem_append_right _ member))).1
  have read : outcomes system engine registry request.includeModuleScopes root files.files =
      .ok (files.files.map (request.outcome system engine registry root)) :=
    mapM_eq_ok fun path member => by
      rw [(reported_spec rooted apart (found (List.mem_append_left _ member))).1]
      rfl
  simp only [skipped, read]
  rfl

/-- A survey that searches fails where the graph of its analyses cannot be built. -/
theorem survey_searched_eq (engine : Engine) (searched : request.paths = none)
    (build : List FileAnalysis → Except LinkFault Resolution) :
    survey system engine registry build root request =
      ((build ((request.findings system engine registry root
        (request.found system registry root)).analyses.map (·.2))).mapError .unlinked).map
        fun resolution =>
          { request.findings system engine registry root (request.found system registry root) with
            resolution := resolution } := by
  have chosen : filesOf system registry root request = request.found system registry root := by
    rw [filesOf, searched, Request.found]
  have read := readFiles_eq rooted apart engine request rfl (chosen ▸ List.Subset.refl _)
  rw [chosen] at read
  exact survey_of_readFiles read build

/-- What is reported of a file that is found is what comes of reading it alone. -/
theorem outcome_eq (engine : Engine) {path : Path}
    (found : path ∈ (request.found system registry root).paths) :
    (request.outcome system engine registry root path).2 =
      (analyzeFile system engine registry request.includeModuleScopes path
        (some (reported system root path))).mapError (Failure.toError (reported system root path)) := by
  have nonempty := (reported_spec rooted apart found).2
  obtain ⟨names, item, source, rfl⟩ := mem_discover_iff.mp found
  exact source.surveyFile_eq rooted engine request.includeModuleScopes nonempty

omit apart in
theorem nodup_files : (request.found system registry root).files.Nodup :=
  (nodup_discover rooted).sublist (List.sublist_append_left _ _)

theorem nodup_keys_results (engine : Engine) :
    (((request.found system registry root).files.map
      (request.outcome system engine registry root)).map (·.1)).Nodup := by
  rw [List.map_map]
  refine (nodup_files rooted).map_on fun first isFirst second isSecond same => ?_
  exact reported_inj rooted apart (List.mem_append_left _ isFirst)
    (List.mem_append_left _ isSecond) same

end Surveys

/-! ## What a search reports -/

/-- The paths under which files are reported: with an analysis, with an error, or as too large. -/
def Findings.paths (findings : Findings) : List String :=
  findings.analyses.map (·.1) ++ findings.errors.map (·.1) ++ findings.skipped

/-- What a survey that searched a directory reports of its files, of which it analysed these. -/
structure Findings.SharesOut (system : FileSystem) (engine : Engine) (registry : Registry)
    (root : Path) (request : Request) (findings : Findings) (analysed : List Path) : Prop where
  /-- No path is reported twice, neither in one of the lists nor in two of them. -/
  separate : findings.paths.Nodup
  /-- The paths that are reported are those of the sources. -/
  complete : ∀ shown, shown ∈ findings.paths ↔
    ∃ names item, IsSource system registry root request.excludedDirs names item ∧
      shownPath system root (root.along names) = .ok shown
  /-- The path of a source is made of the names that lead to it, unless it is a link. -/
  named : ∀ names item, IsSource system registry root request.excludedDirs names item →
    (∀ target, item ≠ .link target) →
    shownPath system root (root.along names) = .ok (Path.render ⟨.relative, names⟩)
  /-- The sources that are too large are skipped. -/
  large : ∀ shown, shown ∈ findings.skipped ↔
    ∃ names item, IsSource system registry root request.excludedDirs names item ∧
      isOversized (.ofInt request.maxFileSizeKb) (.at system (root.along names) item) = true ∧
      shownPath system root (root.along names) = .ok shown
  /-- The analysed files are in the order in which they were found. -/
  ordered : analysed.Sublist (request.found system registry root).files
  /-- The analyses are theirs in this order, and each is what comes of reading the file alone. -/
  alone : List.Forall₂ (fun path entry => shownPath system root path = .ok entry.1 ∧
      analyzeFile system engine registry request.includeModuleScopes path (some entry.1) =
        .ok entry.2) analysed findings.analyses
  /-- The errors are those of the other files, and each is what comes of reading the file alone. -/
  failed : ∀ entry ∈ findings.errors, ∃ path ∈ (request.found system registry root).files,
    path ∉ analysed ∧ shownPath system root path = .ok entry.1 ∧
      ∃ failure, analyzeFile system engine registry request.includeModuleScopes path
        (some entry.1) = .error failure ∧ entry.2 = (failure.toError entry.1).message

theorem mapError_eq_ok_iff {ε ε' α : Type} {f : ε → ε'} {result : Except ε α} {value : α} :
    result.mapError f = .ok value ↔ result = .ok value := by
  cases result <;> simp [Except.mapError]

theorem mapError_eq_error_iff {ε ε' α : Type} {f : ε → ε'} {result : Except ε α} {fault : ε'} :
    result.mapError f = .error fault ↔ ∃ reason, result = .error reason ∧ f reason = fault := by
  cases result <;> simp [Except.mapError]

/-- The files that a survey finds and analyses. -/
def Request.analysed (request : Request) (system : FileSystem) (engine : Engine)
    (registry : Registry) (root : Path) : List Path :=
  (request.found system registry root).files.filter fun path =>
    (request.outcome system engine registry root path).2.toOption.isSome

section SharesOut

variable {system : FileSystem} {registry : Registry} {root : Path}
  {request : Request} (rooted : system.IsRoot root)
  (apart : TellsApart system registry root request.excludedDirs)
include rooted apart

theorem forall₂_analysed (engine : Engine) {files : List Path}
    (found : files ⊆ (request.found system registry root).paths) :
    List.Forall₂ (fun path entry => shownPath system root path = .ok entry.1 ∧
        analyzeFile system engine registry request.includeModuleScopes path (some entry.1) =
          .ok entry.2)
      (files.filter fun path =>
        (request.outcome system engine registry root path).2.toOption.isSome)
      (valuesOf Except.toOption (files.map (request.outcome system engine registry root))) := by
  induction files with
  | nil => exact .nil
  | cons path rest ih =>
      obtain ⟨here, later⟩ := List.cons_subset.mp found
      have outcome := outcome_eq rooted apart engine here
      rw [valuesOf, List.map_cons, List.filterMap_cons, List.filter_cons]
      cases made : (request.outcome system engine registry root path).2 with
      | error error => exact ih later
      | ok analysis =>
          rw [made] at outcome
          refine .cons ⟨(reported_spec rooted apart here).1, ?_⟩ (ih later)
          exact mapError_eq_ok_iff.mp outcome.symm

theorem shown_iff_of_found {path : Path} {shown : String}
    (found : path ∈ (request.found system registry root).paths) :
    shownPath system root path = .ok shown ↔ reported system root path = shown := by
  rw [(reported_spec rooted apart found).1, Except.ok.injEq]

theorem sharesOut_findings (engine : Engine) :
    (request.findings system engine registry root (request.found system registry root)).SharesOut
      system engine registry root request (request.analysed system engine registry root) := by
  have within : (request.found system registry root).files ⊆
      (request.found system registry root).paths := List.subset_append_left _ _
  have everything : (request.found system registry root).paths.Nodup := nodup_discover rooted
  have distinct := nodup_keys_results rooted apart engine
  have reports : (request.findings system engine registry root
      (request.found system registry root)).paths.Perm
      ((request.found system registry root).paths.map (reported system root)) := by
    have keys := keys_perm distinct
    rw [List.map_map] at keys
    rw [Discovery.paths, List.map_append]
    exact keys.append_right _
  constructor
  case separate =>
    refine reports.nodup_iff.mpr (everything.map_on fun first isFirst second isSecond same => ?_)
    exact reported_inj rooted apart isFirst isSecond same
  case complete =>
    intro shown
    rw [reports.mem_iff, List.mem_map]
    constructor
    · rintro ⟨path, found, same⟩
      obtain ⟨names, item, source, rfl⟩ := mem_discover_iff.mp found
      exact ⟨names, item, source, (shown_iff_of_found rooted apart found).mpr same⟩
    · rintro ⟨names, item, source, isShown⟩
      have found : root.along names ∈ (request.found system registry root).paths :=
        mem_discover_iff.mpr ⟨names, item, source, rfl⟩
      exact ⟨_, found, (shown_iff_of_found rooted apart found).mp isShown⟩
  case named => exact fun names item source plain => source.shownPath_eq rooted plain
  case large =>
    intro shown
    rw [Request.findings, List.mem_map]
    constructor
    · rintro ⟨path, found, same⟩
      have among := List.mem_append_right (request.found system registry root).files found
      obtain ⟨names, item, source, large, rfl⟩ := mem_oversized_iff.mp found
      exact ⟨names, item, source, large, (shown_iff_of_found rooted apart among).mpr same⟩
    · rintro ⟨names, item, source, large, isShown⟩
      have found := mem_oversized_iff.mpr ⟨names, item, source, large, rfl⟩
      have among := List.mem_append_right (request.found system registry root).files found
      exact ⟨_, found, (shown_iff_of_found rooted apart among).mp isShown⟩
  case ordered => exact List.filter_sublist
  case alone =>
    rw [Request.findings, analysesOf_eq_valuesOf distinct]
    exact forall₂_analysed rooted apart engine within
  case failed =>
    rintro ⟨shown, message⟩ member
    obtain ⟨error, there, rfl⟩ := (mem_errorsOf_iff distinct).mp member
    obtain ⟨path, found, made⟩ := List.mem_map.mp there
    obtain rfl : reported system root path = shown := congrArg (·.1) made
    have failed : (request.outcome system engine registry root path).2 = .error error :=
      congrArg (·.2) made
    have outcome := outcome_eq rooted apart engine (within found)
    rw [failed] at outcome
    obtain ⟨failure, alone, rfl⟩ := mapError_eq_error_iff.mp outcome.symm
    refine ⟨path, found, ?_, (reported_spec rooted apart (within found)).1, failure, alone, rfl⟩
    intro analysed
    rw [Request.analysed, List.mem_filter, failed] at analysed
    cases analysed.2

end SharesOut

/-! ## Surveys without failing files -/

/-- Reading the file alone fails. -/
def FailsAlone (system : FileSystem) (engine : Engine) (registry : Registry) (root : Path)
    (request : Request) (path : Path) : Prop :=
  ∃ shown failure, shownPath system root path = .ok shown ∧
    analyzeFile system engine registry request.includeModuleScopes path (some shown) =
      .error failure

/-- One of the given files is reported under the path. -/
def isGiven (system : FileSystem) (root : Path) (given : List Path) (shown : String) : Bool :=
  (given.map root.join).any fun path => (shownPath system root path).toOption == some shown

theorem eq_filter_of_sublist {α : Type} [DecidableEq α] {part whole : List α}
    (sublist : part.Sublist whole) (distinct : whole.Nodup) :
    part = whole.filter (· ∈ part) := by
  have kept : part.Sublist (whole.filter (· ∈ part)) := by
    have filtered := sublist.filter (· ∈ part)
    rwa [List.filter_eq_self.mpr (by simp)] at filtered
  have same : part.Perm (whole.filter (· ∈ part)) := by
    rw [List.perm_ext_iff_of_nodup (distinct.sublist sublist) (distinct.filter _)]
    intro item
    rw [List.mem_filter, decide_eq_true_iff]
    exact ⟨fun member => ⟨sublist.subset member, member⟩, fun found => found.2⟩
  exact kept.eq_of_length same.length_eq

section Given

variable {system : FileSystem} {engine : Engine} {registry : Registry} {root : Path}
  {request : Request} {given : List Path} (rooted : system.IsRoot root)
  (apart : TellsApart system registry root request.excludedDirs)
  (part : (given.map root.join).Sublist (request.found system registry root).files)
include rooted apart part

theorem isGiven_reported_iff {path : Path}
    (found : path ∈ (request.found system registry root).paths) :
    isGiven system root given (reported system root path) = true ↔ path ∈ given.map root.join := by
  have within : given.map root.join ⊆ (request.found system registry root).paths :=
    List.Subset.trans part.subset (List.subset_append_left _ _)
  rw [isGiven, List.any_eq_true]
  constructor
  · rintro ⟨other, member, same⟩
    rw [(reported_spec rooted apart (within member)).1] at same
    have shown : reported system root other = reported system root path := by
      simpa [Except.toOption] using same
    rwa [← reported_inj rooted apart (within member) found shown]
  · intro member
    exact ⟨path, member, by simp [(reported_spec rooted apart found).1, Except.toOption]⟩

/-- The outcomes of some of the files that were found are some of the outcomes. -/
theorem outcomes_given_eq :
    (given.map root.join).map (request.outcome system engine registry root) =
      ((request.found system registry root).files.map
        (request.outcome system engine registry root)).filter (isGiven system root given ·.1) := by
  rw [List.filter_map]
  congr 1
  refine (eq_filter_of_sublist part (nodup_files rooted)).trans (List.filter_congr fun path found => ?_)
  have known := isGiven_reported_iff rooted apart part (List.mem_append_left _ found)
  rw [Bool.eq_iff_iff, decide_eq_true_iff]
  exact known.symm

/-- The files that are not given fail, so their outcomes hold no analysis. -/
theorem analysesOf_given_eq
    (others : ∀ path ∈ (request.found system registry root).files,
      path ∉ given.map root.join → FailsAlone system engine registry root request path) :
    analysesOf ((given.map root.join).map (request.outcome system engine registry root)) =
      analysesOf ((request.found system registry root).files.map
        (request.outcome system engine registry root)) := by
  have within : (request.found system registry root).files ⊆
      (request.found system registry root).paths := List.subset_append_left _ _
  have distinct := nodup_keys_results rooted apart engine
  rw [outcomes_given_eq rooted apart part]
  apply analysesOf_filter distinct
  intro outcome member left
  obtain ⟨path, found, rfl⟩ := List.mem_map.mp member
  have isShown := (reported_spec rooted apart (within found)).1
  have notGiven : path ∉ given.map root.join := fun isGivenPath => by
    rw [← isGiven_reported_iff rooted apart part (within found)] at isGivenPath
    exact absurd isGivenPath (Bool.not_eq_true _ ▸ left)
  obtain ⟨shown, failure, sameShown, fails⟩ := others path found notGiven
  obtain rfl : reported system root path = shown := by simpa [isShown] using sameShown
  rw [outcome_eq rooted apart engine (within found), fails]
  rfl

/-- A survey of the files that were found, without some of those that fail, has the same analyses
and the same graph, and the errors of the files that it was given. -/
theorem survey_given_eq (searched : request.paths = none)
    (build : List FileAnalysis → Except LinkFault Resolution)
    (others : ∀ path ∈ (request.found system registry root).files,
      path ∉ given.map root.join → FailsAlone system engine registry root request path) :
    survey system engine registry build root { request with paths := some given } =
      (survey system engine registry build root request).map fun whole =>
        { whole with
          errors := whole.errors.filter (isGiven system root given ·.1)
          skipped := [] } := by
  have distinct := nodup_keys_results rooted apart engine
  have chosen : filesOf system registry root { request with paths := some given } =
      { files := given.map root.join, oversized := [] } := rfl
  have within : (Discovery.mk (given.map root.join) []).paths ⊆
      (request.found system registry root).paths := by
    rw [Discovery.paths, List.append_nil]
    exact List.Subset.trans part.subset (List.subset_append_left _ _)
  have read := readFiles_eq rooted apart engine { request with paths := some given } rfl
    (chosen ▸ within)
  rw [survey_of_readFiles read, survey_searched_eq rooted apart engine searched]
  have analyses := analysesOf_given_eq rooted apart part others
  have errors := errorsOf_filter distinct (isGiven system root given)
  rw [← outcomes_given_eq rooted apart part] at errors
  simp only [chosen, Request.findings, List.map_nil, analyses, errors]
  cases build _ <;> rfl

omit part in
/-- The analysed files are those that do not fail. -/
theorem failsAlone_of_not_analysed {path : Path}
    (found : path ∈ (request.found system registry root).files)
    (left : path ∉ request.analysed system engine registry root) :
    FailsAlone system engine registry root request path := by
  have within : path ∈ (request.found system registry root).paths := List.mem_append_left _ found
  have outcome := outcome_eq rooted apart engine within
  cases read : analyzeFile system engine registry request.includeModuleScopes path
      (some (reported system root path)) with
  | error failure => exact ⟨_, failure, (reported_spec rooted apart within).1, read⟩
  | ok analysis =>
      rw [read] at outcome
      refine absurd (List.mem_filter.mpr ⟨found, ?_⟩) left
      rw [outcome]
      rfl

/-- A survey of the files that are analysed has no errors. -/
theorem survey_analysed_eq (searched : request.paths = none)
    (build : List FileAnalysis → Except LinkFault Resolution)
    (same : given.map root.join = request.analysed system engine registry root) :
    survey system engine registry build root { request with paths := some given } =
      (survey system engine registry build root request).map fun whole =>
        { whole with errors := [], skipped := [] } := by
  have shares := sharesOut_findings rooted apart engine
  have none : (request.findings system engine registry root
      (request.found system registry root)).errors.filter (isGiven system root given ·.1) = [] := by
    rw [List.filter_eq_nil_iff]
    intro entry failed isGivenEntry
    obtain ⟨path, found, left, isShown, _⟩ := shares.failed entry failed
    have within : path ∈ (request.found system registry root).paths := List.mem_append_left _ found
    rw [← (shown_iff_of_found rooted apart within).mp isShown,
      isGiven_reported_iff rooted apart part within, same] at isGivenEntry
    exact left isGivenEntry
  have others : ∀ path ∈ (request.found system registry root).files,
      path ∉ given.map root.join → FailsAlone system engine registry root request path :=
    fun path found left => failsAlone_of_not_analysed rooted apart found (same ▸ left)
  rw [survey_given_eq rooted apart part searched build others,
    survey_searched_eq rooted apart engine searched]
  cases build _ with
  | error fault => rfl
  | ok resolution => simp only [Except.mapError, Except.map, none]

end Given

/-- A survey that searches a directory shares its sources out, and a file that fails changes nothing
but its own error: the files that are analysed give the same survey without errors, and leaving out
any files that fail leaves out their errors only. -/
theorem failing_files_stay_isolated {system : FileSystem} {root : Path}
    (rooted : system.IsRoot root) (engine : Engine) (registry : Registry)
    (build : List FileAnalysis → Except LinkFault Resolution) {request : Request}
    (searched : request.paths = none)
    (apart : TellsApart system registry root request.excludedDirs) :
    ∃ findings analysed,
      Findings.SharesOut system engine registry root request findings analysed ∧
      survey system engine registry build root request =
        ((build (findings.analyses.map (·.2))).mapError .unlinked).map
          (fun resolution => { findings with resolution := resolution }) ∧
      (∀ given, given.map root.join = analysed →
        survey system engine registry build root { request with paths := some given } =
          (survey system engine registry build root request).map fun whole =>
            { whole with errors := [], skipped := [] }) ∧
      ∀ given, (given.map root.join).Sublist (request.found system registry root).files →
        (∀ path ∈ (request.found system registry root).files,
          path ∉ given.map root.join → FailsAlone system engine registry root request path) →
        survey system engine registry build root { request with paths := some given } =
          (survey system engine registry build root request).map fun whole =>
            { whole with
              errors := whole.errors.filter (isGiven system root given ·.1)
              skipped := [] } := by
  have shares := sharesOut_findings rooted apart engine
  refine ⟨_, _, shares, survey_searched_eq rooted apart engine searched build,
    fun given same => ?_, fun given part others => ?_⟩
  · exact survey_analysed_eq rooted apart (same ▸ shares.ordered) searched build same
  · exact survey_given_eq rooted apart part searched build others

/-- A project with a file of each fate: one that fails, one that is analysed, one that is too large
and one in a directory that is excluded. -/
def mixedEntries : List (String × Item) :=
  [("bad.py", .file ⟨#[40]⟩), ("good.py", .file ⟨#[]⟩),
   ("huge.py", .file ⟨Array.replicate 1025 10⟩),
   ("venv", .directory [("lib.py", .file ⟨#[]⟩)])]

/-- The disk of the project, which is reached through a link as well. -/
def mixedDisk : FileSystem :=
  { top := [("proj", .directory mixedEntries), ("work", .link (some ["proj"]))]
    here := ⟨.root, []⟩ }

def mixedRoot : Path := ⟨.root, ["proj"]⟩

/-- An engine that knows the empty file only. -/
def emptyFileEngine : Engine where
  parse _ content :=
    if content.size = 0 then .ok (.mk ⟨0, "module", none, true, false, 0, 0⟩ [])
    else .error "parser crashed"
  stack := .ofCalls 1000

def mixedRequest : Request := { excludedDirs := ["venv"], maxFileSizeKb := 1 }

theorem unlinked_mixed : (Item.directory mixedEntries).Unlinked := by
  have file : ∀ content, (Item.file content).Unlinked := .file
  have venv : (Item.directory [("lib.py", .file ⟨#[]⟩)]).Unlinked := .directory (by simp [file])
  exact .directory (by simp [mixedEntries, file, venv])

theorem isRoot_mixedRoot : mixedDisk.IsRoot mixedRoot := by
  have file : ∀ content, (Item.file content).WellNamed := .file
  have venv : (Item.directory [("lib.py", .file ⟨#[]⟩)]).WellNamed :=
    .directory (by decide +kernel) (by decide +kernel) (by simp [file])
  have proj : (Item.directory mixedEntries).WellNamed :=
    .directory (by decide +kernel) (by decide +kernel) (by simp [mixedEntries, file, venv])
  have disk : (Item.directory mixedDisk.top).WellNamed :=
    .directory (by decide +kernel) (by decide +kernel) (by simp [mixedDisk, proj, Item.WellNamed.link])
  refine ⟨⟨disk, ?_⟩, ⟨.root, ["work"]⟩, rfl⟩
  intro names target found
  rcases names with _ | ⟨name, rest⟩
  · cases found
  rw [FileSystem.at?, Item.at?_directory_cons] at found
  obtain ⟨inner, there, below⟩ := Option.bind_eq_some_iff.mp found
  have member := mem_of_lookup there
  simp only [mixedDisk, List.mem_cons, Prod.mk.injEq, List.not_mem_nil, or_false] at member
  rcases member with ⟨_, rfl⟩ | ⟨_, rfl⟩
  · exact absurd rfl ((unlinked_mixed.of_at? below).ne_link (some target))
  · cases rest with
    | cons name rest => cases below
    | nil =>
        cases below
        have directory : mixedDisk.at? ["proj"] = some (.directory mixedEntries) := rfl
        exact ⟨by decide +kernel, FileSystem.settled_of_at? disk directory (by simp)⟩

theorem tellsApart_mixed :
    TellsApart mixedDisk .standard mixedRoot mixedRequest.excludedDirs :=
  tellsApart_of_unlinked isRoot_mixedRoot rfl unlinked_mixed

theorem found_mixed : mixedRequest.found mixedDisk .standard mixedRoot =
    { files := [mixedRoot.child "bad.py", mixedRoot.child "good.py"]
      oversized := [mixedRoot.child "huge.py"] } := by
  have top : mixedDisk.item? mixedRoot = some (.directory mixedEntries) := rfl
  rw [Request.found, discover, top, Option.map_some, Option.getD_some,
    walk_directory_eq rfl (by decide +kernel) (by decide +kernel)]
  decide +kernel

/-- The project as the resolution of its imports sees it. -/
def mixedTree : FileTree :=
  { top := [("proj", .directory [("bad.py", .file ⟨#[40]⟩), ("good.py", .file ⟨#[]⟩)])]
    here := ⟨.root, []⟩ }

/-- What is found of the files. -/
def mixedFindings : Findings :=
  mixedRequest.findings mixedDisk emptyFileEngine .standard mixedRoot
    { files := [mixedRoot.child "bad.py", mixedRoot.child "good.py"]
      oversized := [mixedRoot.child "huge.py"] }

theorem linked_mixed :
    (link mixedRequest.options mixedTree mixedRoot
      (mixedFindings.analyses.map (·.2))).toOption.isSome = true := by
  have spoken : (mixedFindings.analyses.map (·.2)).map (·.language) = ["python"] := by
    decide +kernel
  have languages : sortedSet ((mixedFindings.analyses.map (·.2)).map (·.language)) =
      ["python"] := by
    rw [spoken]
    exact List.mergeSort_singleton "python"
  rw [link, languages]
  decide +kernel

theorem findings_mixed : mixedFindings.analyses.map (·.1) = ["good.py"] ∧
    mixedFindings.errors.map (·.1) = ["bad.py"] ∧ mixedFindings.skipped = ["huge.py"] := by
  decide +kernel

/-- One file fails, one is analysed and one is skipped; the analysed file alone gives the same
graph. -/
theorem failing_file_beside_analysed_one :
    let build := link mixedRequest.options mixedTree mixedRoot
    mixedDisk.IsRoot mixedRoot ∧ mixedRequest.paths = none ∧
    TellsApart mixedDisk .standard mixedRoot mixedRequest.excludedDirs ∧
    ∃ whole analysed,
      survey mixedDisk emptyFileEngine .standard build mixedRoot mixedRequest = .ok whole ∧
      whole.toFindings.SharesOut mixedDisk emptyFileEngine .standard mixedRoot mixedRequest analysed ∧
      whole.analyses.map (·.1) = ["good.py"] ∧ whole.errors.map (·.1) = ["bad.py"] ∧
      whole.skipped = ["huge.py"] ∧
      ∀ given, given.map mixedRoot.join = analysed →
        survey mixedDisk emptyFileEngine .standard build mixedRoot
            { mixedRequest with paths := some given } =
          .ok { whole with errors := [], skipped := [] } := by
  intro build
  refine ⟨isRoot_mixedRoot, rfl, tellsApart_mixed, ?_⟩
  obtain ⟨findings, analysed, shares, surveyed, alone, _⟩ :=
    failing_files_stay_isolated isRoot_mixedRoot emptyFileEngine .standard build rfl tellsApart_mixed
  have searched := survey_searched_eq isRoot_mixedRoot tellsApart_mixed emptyFileEngine rfl build
  rw [found_mixed, ← mixedFindings] at searched
  cases built : build (mixedFindings.analyses.map (·.2)) with
  | error fault =>
      have linked := linked_mixed
      rw [show link mixedRequest.options mixedTree mixedRoot _ = _ from built] at linked
      contradiction
  | ok resolution =>
      rw [built] at searched
      rw [searched] at surveyed
      cases again : build (findings.analyses.map (·.2)) with
      | error fault =>
          rw [again] at surveyed
          cases surveyed
      | ok other =>
          rw [again] at surveyed
          obtain rfl : mixedFindings = findings :=
            congrArg Survey.toFindings (Except.ok.inj surveyed)
          refine ⟨_, analysed, searched, shares, findings_mixed.1, findings_mixed.2.1,
            findings_mixed.2.2, fun given same => ?_⟩
          rw [alone given same, searched]
          rfl

/-- A project with a link to one of its files, and with a directory that may be listed or not. -/
def linkedEntries : List (String × Item) :=
  [("a.py", .file ⟨#[]⟩), ("b.py", .link (some ["proj", "a.py"])),
   ("locked", .directory [("c.py", .file ⟨#[]⟩)])]

def linkedDisk (guarded : Bool) : FileSystem :=
  { top := [("proj", .directory linkedEntries)]
    here := ⟨.root, []⟩
    refusals := { listing := fun path => guarded && path == mixedRoot.child "locked" } }

theorem filesOf_linked : filesOf (linkedDisk true) .standard mixedRoot {} =
    { files := [mixedRoot.child "a.py", mixedRoot.child "b.py"], oversized := [] } := by
  have top : (linkedDisk true).item? mixedRoot = some (.directory linkedEntries) := rfl
  rw [filesOf, discover, top, Option.map_some, Option.getD_some,
    walk_directory_eq rfl (by decide +kernel) (by decide +kernel)]
  decide +kernel

/-- A project whose manifest lists its dependencies as a number. -/
def numberedEntries : List (String × Entry) :=
  [("app.ts", .file ⟨#[]⟩), ("package.json", .file "\x7b\"dependencies\": 5\x7d".toUTF8)]

def numberedTree : FileTree :=
  { top := [("proj", .directory numberedEntries)], here := ⟨.root, []⟩ }

theorem filesOf_numbered : filesOf numberedTree.system .standard mixedRoot {} =
    { files := [mixedRoot.child "app.ts"], oversized := [] } := by
  have top : numberedTree.system.item? mixedRoot =
      some (.directory (Entry.items numberedEntries)) := rfl
  rw [filesOf, discover, top, Option.map_some, Option.getD_some,
    walk_directory_eq (by decide +kernel) (by decide +kernel) (by decide +kernel)]
  decide +kernel

/-- Of a file, a link to it and a file in a directory that is not listed, one path is reported.  Of a
project whose manifest is not well formed nothing is. -/
theorem sources_go_unreported :
    IsSource (linkedDisk true) .standard mixedRoot [] ["b.py"] (.link (some ["proj", "a.py"])) ∧
    IsSource (linkedDisk false) .standard mixedRoot [] ["locked", "c.py"] (.file ⟨#[]⟩) ∧
    (readFiles (linkedDisk true) emptyFileEngine .standard mixedRoot {}).toOption.map
      Findings.paths = some ["a.py"] ∧
    (surveyTree numberedTree emptyFileEngine .standard mixedRoot {}).toOption.isNone = true := by
  have linkSource : IsSource (linkedDisk true) .standard mixedRoot [] ["b.py"]
      (.link (some ["proj", "a.py"])) :=
    ⟨.directory linkedEntries, rfl, .own rfl (List.mem_of_getElem? (i := 1) rfl) rfl,
      by decide +kernel⟩
  have lockedSource : IsSource (linkedDisk false) .standard mixedRoot [] ["locked", "c.py"]
      (.file ⟨#[]⟩) :=
    ⟨.directory linkedEntries, rfl, .inner rfl (List.mem_of_getElem? (i := 2) rfl) (by simp)
      (.own rfl List.mem_cons_self rfl), by decide +kernel⟩
  refine ⟨linkSource, lockedSource, ?_, ?_⟩
  · rw [readFiles, filesOf_linked]
    decide +kernel
  · rw [surveyTree, survey, readFiles, filesOf_numbered]
    decide +kernel

end ScopeAtlas.Workspace
