import Mathlib.Data.List.Perm.Basic
import ScopeAtlas.Proofs.Graph.Attribution
import ScopeAtlas.Proofs.Graph.Endings
import ScopeAtlas.Proofs.Graph.Restriction

/-!
# The order of the files

Where a name leads to several scopes the first of them is taken, in the order of the files.  Nothing
else in the graph of a project depends on that order.  If two orders differ only between files that
share no name which is mentioned anywhere, then every look-up finds the same, every scope emits the
same edges, and the two graphs have the same edges and the same ledger.

For the edges this is not yet the end, because of those that say the same the first is kept.  All of
them are emitted by one scope, so they stand in one file and keep their order.
-/

namespace ScopeAtlas.Data

/-! ## Lists in two orders -/

section Orders

variable {α β : Type} {first second : List α}

/-- In a list without repetitions only one of two members comes first. -/
theorem eq_of_pair_sublist {a b : α} (nodup : first.Nodup) (forth : [a, b].Sublist first)
    (back : [b, a].Sublist first) : a = b := by
  induction first with
  | nil => contradiction
  | cons head rest ih =>
      obtain ⟨fresh, restNodup⟩ := List.nodup_cons.mp nodup
      have later : ∀ {x y : α}, [x, y].Sublist rest → head ≠ x ∧ head ≠ y := by
        intro x y pair
        constructor <;> rintro rfl <;> exact fresh (pair.subset (by simp))
      cases forth with
      | cons _ forth =>
          cases back with
          | cons _ back => exact ih restNodup forth back
          | cons_cons _ _ => exact absurd rfl (later forth).2
      | cons_cons _ _ =>
          cases back with
          | cons _ back => exact absurd rfl (later back).2
          | cons_cons _ _ => rfl

/-- Two orders of a list select the same when they agree on what is selected. -/
theorem filter_eq_of_order (nodup : first.Nodup) (perm : first.Perm second) (keep : α → Bool)
    (order : ∀ a b, keep a = true → keep b = true → [a, b].Sublist first →
      [a, b].Sublist second) :
    first.filter keep = second.filter keep := by
  have kept : ∀ {a b : α}, [a, b].Sublist (first.filter keep) → keep a = true ∧ keep b = true := by
    intro a b pair
    exact ⟨List.of_mem_filter (pair.subset (by simp)), List.of_mem_filter (pair.subset (by simp))⟩
  have firstInOrder : (first.filter keep).Pairwise fun a b => [a, b].Sublist second := by
    rw [List.pairwise_iff_forall_sublist]
    intro a b pair
    obtain ⟨aKept, bKept⟩ := kept pair
    exact order a b aKept bKept (pair.trans List.filter_sublist)
  have secondInOrder : (second.filter keep).Pairwise fun a b => [a, b].Sublist second := by
    rw [List.pairwise_iff_forall_sublist]
    intro a b pair
    exact pair.trans List.filter_sublist
  apply List.Perm.eq_of_pairwise _ firstInOrder secondInOrder (perm.filter keep)
  intro a b _ _ forth back
  exact eq_of_pair_sublist (perm.nodup_iff.mp nodup) forth back

/-- Two orders of a list make the same of it when they agree on the members that contribute. -/
theorem flatMap_eq_of_order (nodup : first.Nodup) (perm : first.Perm second) (parts : α → List β)
    (order : ∀ a b, parts a ≠ [] → parts b ≠ [] → [a, b].Sublist first → [a, b].Sublist second) :
    first.flatMap parts = second.flatMap parts := by
  have contributing : ∀ items : List α, items.flatMap parts =
      (items.filter fun item => !(parts item).isEmpty).flatMap parts := by
    intro items
    induction items with
    | nil => rfl
    | cons item rest ih =>
        rw [List.flatMap_cons, ih, List.filter_cons]
        cases empty : parts item with
        | nil => simp
        | cons part others => simp [empty]
  rw [contributing first, contributing second, filter_eq_of_order nodup perm]
  intro a b aKept bKept
  exact order a b (by simpa using aKept) (by simpa using bKept)

/-- A search that only one member can satisfy finds the same in every order. -/
theorem find?_eq_of_perm (nodup : first.Nodup) (perm : first.Perm second) (test : α → Bool)
    (unique : ∀ a ∈ first, ∀ b ∈ first, test a = true → test b = true → a = b) :
    first.find? test = second.find? test := by
  rw [← List.head?_filter, ← List.head?_filter, filter_eq_of_order nodup perm]
  intro a b aHolds bHolds pair
  obtain rfl := unique a (pair.subset (by simp)) b (pair.subset (by simp)) aHolds bHolds
  exact absurd pair (List.nodup_iff_sublist.mp nodup a)

end Orders

end ScopeAtlas.Data

namespace ScopeAtlas.Graph

open ScopeAtlas.Data ScopeAtlas.Files

/-! ## Orders that differ where it does not matter -/

/-- The project mentions the name: a reference uses it, an import asks for it, or it is the last
segment of a decorator. -/
inductive Mentioned (analyses : List FileAnalysis) (name : String) : Prop where
  | used {file : FileAnalysis} {scope : Scope} {reference : Reference} (fileMem : file ∈ analyses)
      (scopeMem : scope ∈ file.scopes) (referenceMem : reference ∈ scope.references)
      (same : reference.identifier = name)
  | imported {file : FileAnalysis} {binding : Import} (fileMem : file ∈ analyses)
      (bindingMem : binding ∈ file.imports) (same : binding.imported = name)
  | decorating {file : FileAnalysis} {scope : Scope} {decorator : Decorator}
      (fileMem : file ∈ analyses) (scopeMem : scope ∈ file.scopes)
      (decoratorMem : decorator ∈ scope.decorators)
      (same : (decoratorReference decorator).identifier = name)

/-- The second list has the files of the first, and any two files that bear a mentioned name in
common stand in it in the same order. -/
structure Reorders (first second : List FileAnalysis) : Prop where
  perm : first.Perm second
  order : ∀ name, Mentioned first name → ∀ a b, Borne a.scopes name → Borne b.scopes name →
    [a, b].Sublist first → [a, b].Sublist second

/-- The scopes of a project are told apart by their ids, its files by their absolute paths, and a
pointer tells the file and the name of a scope. -/
structure Unambiguous (root : Path) (analyses : List FileAnalysis) : Prop where
  ids : ((analyses.flatMap (·.scopes)).map (·.id)).Nodup
  paths : (analyses.map fun file => Path.resolved root (Path.ofString file.filePath)).Nodup
  pointers : ∀ a ∈ analyses, ∀ b ∈ analyses, ∀ scope ∈ a.scopes, ∀ other ∈ b.scopes,
    scope.pointer = other.pointer → a = b ∧ scope.name = other.name

theorem Unambiguous.nodup {root : Path} {analyses : List FileAnalysis}
    (unambiguous : Unambiguous root analyses) : analyses.Nodup :=
  unambiguous.paths.of_map

/-- Only one file of a project has a scope of a given id. -/
theorem file_eq_of_id_eq {analyses : List FileAnalysis}
    (ids : ((analyses.flatMap (·.scopes)).map (·.id)).Nodup) {a b : FileAnalysis}
    (aMem : a ∈ analyses) (bMem : b ∈ analyses) {scope other : Scope} (scopeMem : scope ∈ a.scopes)
    (otherMem : other ∈ b.scopes) (same : scope.id = other.id) : a = b := by
  rw [List.map_flatMap, List.nodup_flatMap] at ids
  by_contra differ
  have symmetric : Std.Symm (Function.onFun List.Disjoint fun file : FileAnalysis =>
      file.scopes.map (·.id)) := ⟨fun _ _ disjoint => disjoint.symm⟩
  apply ids.2.forall aMem bMem differ (List.mem_map_of_mem scopeMem)
  rw [same]
  exact List.mem_map_of_mem otherMem

/-- Classification keeps the ids of scopes. -/
theorem ids_classify (locators : Locators) (analyses : List FileAnalysis) :
    (((classify locators analyses).flatMap (·.scopes)).map (·.id)) =
      (analyses.flatMap (·.scopes)).map (·.id) := by
  have same := congrArg (List.map Endpoint.id) (projectEndpoints_classify locators analyses)
  simp only [projectEndpoints, List.map_map] at same
  exact same

section Reordered

variable {root : Path} {first second : List FileAnalysis}

/-! ## Classification -/

/-- A mentioned name has the same scopes in both orders. -/
theorem Reorders.bearers_eq (reorders : Reorders first second) (nodup : first.Nodup)
    {name : String} (mentioned : Mentioned first name) :
    bearers first name = bearers second name := by
  have byFile : ∀ analyses, bearers analyses name = analyses.flatMap fun file =>
      (file.scopes.filter fun scope => !scope.name.isEmpty).filter fun scope =>
        scope.name == name := by
    intro analyses
    rw [bearers, namedScopes, List.filter_flatMap, List.filter_flatMap]
  have borne : ∀ file : FileAnalysis,
      (file.scopes.filter fun scope => !scope.name.isEmpty).filter
        (fun scope => scope.name == name) ≠ [] → Borne file.scopes name := by
    intro file some
    obtain ⟨scope, member⟩ := List.exists_mem_of_ne_nil _ some
    exact ⟨scope, List.mem_of_mem_filter (List.mem_of_mem_filter member),
      by simpa using List.of_mem_filter member⟩
  rw [byFile first, byFile second]
  apply flatMap_eq_of_order nodup reorders.perm
  intro a b aBears bBears
  exact reorders.order name mentioned a b (borne a aBears) (borne b bBears)

theorem Reorders.fate_eq (reorders : Reorders first second) (nodup : first.Nodup)
    (locators : Locators) (file : FileAnalysis) {reference : Reference}
    (mentioned : Mentioned first reference.identifier) :
    fate locators first file reference = fate locators second file reference := by
  rw [fate, fate, reorders.bearers_eq nodup mentioned]

theorem Reorders.classifyFile_eq (reorders : Reorders first second) (nodup : first.Nodup)
    (locators : Locators) {file : FileAnalysis} (fileMem : file ∈ first) :
    classifyFile locators first file = classifyFile locators second file := by
  rw [classifyFile, classifyFile]
  congr 1
  apply List.map_congr_left
  intro scope scopeMem
  rw [classifyScope, classifyScope]
  congr 1
  apply List.filterMap_congr
  intro reference referenceMem
  rw [reorders.fate_eq nodup locators file (.used fileMem scopeMem referenceMem rfl)]

/-- Both orders classify the files alike. -/
theorem Reorders.classify_perm (reorders : Reorders first second) (nodup : first.Nodup)
    (locators : Locators) : (classify locators first).Perm (classify locators second) := by
  have alike : classify locators first = first.map (classifyFile locators second) := by
    apply List.map_congr_left
    intro file fileMem
    exact reorders.classifyFile_eq nodup locators fileMem
  rw [alike]
  exact reorders.perm.map _

/-- Classification keeps the path of a file. -/
theorem paths_classify (locators : Locators) (analyses : List FileAnalysis) :
    ((classify locators analyses).map fun file =>
        Path.resolved root (Path.ofString file.filePath)) =
      analyses.map fun file => Path.resolved root (Path.ofString file.filePath) := by
  rw [classify, List.map_map]
  rfl

/-- Two settings answer alike: about every path, about the names that are mentioned, and about the
pointers of scopes that have such a name. -/
structure Setting.Agrees (mentioned : String → Prop) (setting other : Setting) : Prop where
  root : setting.root = other.root
  locators : setting.locators = other.locators
  analysisAt? : ∀ path, setting.analysisAt? path = other.analysisAt? path
  lookup : ∀ name, mentioned name → setting.index.lookup name = other.index.lookup name
  atPointer? : ∀ name scopes, mentioned name → setting.index.lookup name = some scopes →
    ∀ scope ∈ scopes, setting.atPointer? scope.pointer = other.atPointer? scope.pointer

/-- A pointer that tells the name of a scope is looked for among the scopes of that name. -/
theorem atPointer?_settingOf_eq_find? (unambiguous : Unambiguous root first) (locators : Locators)
    {scope : Scope} (named : scope ∈ namedScopes first) :
    (settingOf root locators first).atPointer? scope.pointer =
      (bearers first scope.name).find? fun other => other.pointer == scope.pointer := by
  have indexed : (settingOf root locators first).index.flatMap (·.2) =
      (distinct ((namedScopes first).map (·.name))).flatMap (bearers first) := by
    rw [settingOf, nameIndex, List.flatMap_map]
  rw [Setting.atPointer?, indexed, List.find?_flatMap]
  apply findSome?_eq_of_only
  · rw [mem_distinct]
    exact List.mem_map_of_mem named
  · intro name _
    rw [List.find?_eq_none]
    by_cases same : name = scope.name
    · exact Or.inl same
    · right
      intro other bearer pointed
      obtain ⟨otherNamed, rfl⟩ := (mem_bearers_iff first name other).mp bearer
      obtain ⟨a, aMem, scopeMem⟩ := List.mem_flatMap.mp (List.mem_of_mem_filter named)
      obtain ⟨b, bMem, otherMem⟩ := List.mem_flatMap.mp (List.mem_of_mem_filter otherNamed)
      have samePointer : other.pointer = scope.pointer := by simpa using pointed
      exact same (unambiguous.pointers b bMem a aMem other otherMem scope scopeMem samePointer).2

theorem Unambiguous.of_perm (unambiguous : Unambiguous root first) (perm : first.Perm second) :
    Unambiguous root second where
  ids := ((perm.flatMap_right _).map _).nodup_iff.mp unambiguous.ids
  paths := (perm.map _).nodup_iff.mp unambiguous.paths
  pointers := by
    intro a aMem b bMem
    exact unambiguous.pointers a (perm.mem_iff.mpr aMem) b (perm.mem_iff.mpr bMem)

/-- The settings of the two orders answer alike. -/
theorem Reorders.agrees (reorders : Reorders first second) (unambiguous : Unambiguous root first)
    (locators : Locators) :
    (settingOf root locators first).Agrees (Mentioned first) (settingOf root locators second) where
  root := rfl
  locators := rfl
  analysisAt? := by
    intro path
    have paths : ((classify locators first).map fun file =>
        Path.resolved root (Path.ofString file.filePath)).Nodup := by
      rw [paths_classify]
      exact unambiguous.paths
    apply find?_eq_of_perm (List.nodup_reverse.mpr paths.of_map)
    · have perm := reorders.classify_perm unambiguous.nodup locators
      exact (List.reverse_perm _).trans (perm.trans (List.reverse_perm _).symm)
    · intro a aMem b bMem aThere bThere
      apply List.inj_on_of_nodup_map paths (List.mem_reverse.mp aMem) (List.mem_reverse.mp bMem)
      exact (eq_of_beq aThere).trans (eq_of_beq bThere).symm
  lookup := by
    intro name mentioned
    change (nameIndex first).lookup name = (nameIndex second).lookup name
    rw [lookup_nameIndex, lookup_nameIndex, reorders.bearers_eq unambiguous.nodup mentioned]
  atPointer? := by
    intro name scopes mentioned found scope member
    change (nameIndex first).lookup name = some scopes at found
    rw [lookup_nameIndex] at found
    have bearer : scope ∈ bearers first name := by
      split at found
      · contradiction
      · rw [Option.some.inj found]
        exact member
    obtain ⟨named, rfl⟩ := (mem_bearers_iff first name scope).mp bearer
    rw [reorders.bearers_eq unambiguous.nodup mentioned] at bearer
    have namedToo := ((mem_bearers_iff second scope.name scope).mp bearer).1
    rw [atPointer?_settingOf_eq_find? unambiguous locators named,
      atPointer?_settingOf_eq_find? (unambiguous.of_perm reorders.perm) locators namedToo,
      reorders.bearers_eq unambiguous.nodup mentioned]

end Reordered

/-! ## Where references and decorators lead -/

section Agreement

variable {mentioned : String → Prop} {setting other : Setting} {file : FileAnalysis}

theorem Setting.Agrees.locatedTarget?_eq (agrees : setting.Agrees mentioned other)
    (binding : Import) (reference : Reference) :
    locatedTarget? setting file binding reference =
      locatedTarget? other file binding reference := by
  simp only [locatedTarget?, Setting.absolute, agrees.root, agrees.locators, agrees.analysisAt?]

theorem Setting.Agrees.firstNamed?_eq (agrees : setting.Agrees mentioned other) {name : String}
    (known : mentioned name) : setting.firstNamed? name = other.firstNamed? name := by
  rw [Setting.firstNamed?, Setting.firstNamed?, agrees.lookup name known]

/-- The names under which an import is looked for are the one that it asks for and the one that is
used. -/
theorem eq_or_eq_of_mem_importNames {binding : Import} {reference : Reference} {name : String}
    (member : name ∈ importNames binding reference) :
    name = binding.imported ∨ name = reference.identifier := by
  unfold importNames at member
  dsimp only at member
  split at member
  · rw [mem_distinct] at member
    simpa using member
  · right
    simpa using member

theorem Setting.Agrees.importTarget?_eq (agrees : setting.Agrees mentioned other)
    {binding : Import} {reference : Reference} (asked : mentioned binding.imported)
    (used : mentioned reference.identifier) :
    importTarget? setting file binding reference = importTarget? other file binding reference := by
  have named : setting.firstOfNames? (importNames binding reference) =
      other.firstOfNames? (importNames binding reference) := by
    rw [Setting.firstOfNames?, Setting.firstOfNames?, ← List.head?_filterMap,
      ← List.head?_filterMap]
    congr 1
    apply List.filterMap_congr
    intro name member
    rcases eq_or_eq_of_mem_importNames member with rfl | rfl
    · exact agrees.firstNamed?_eq asked
    · exact agrees.firstNamed?_eq used
  rw [importTarget?, importTarget?, agrees.locatedTarget?_eq, named]

theorem Setting.Agrees.decoratorTarget?_eq (agrees : setting.Agrees mentioned other)
    (scope : Scope) {decorator : Decorator}
    (known : mentioned (decoratorReference decorator).identifier) :
    decoratorTarget? setting file scope decorator =
      decoratorTarget? other file scope decorator := by
  unfold decoratorTarget?
  generalize decoratorReference decorator = reference at known ⊢
  simp only [agrees.locatedTarget?_eq, agrees.lookup _ known]

/-- What classification leaves of a file: its imports ask for mentioned names, its scopes use and
are decorated by mentioned names, and a reference that names a scope points to one of its name. -/
structure Setting.Classified (mentioned : String → Prop) (setting : Setting) (file : FileAnalysis) :
    Prop where
  imported : ∀ binding ∈ file.imports, mentioned binding.imported
  used : ∀ scope ∈ file.scopes, ∀ reference ∈ scope.references, mentioned reference.identifier
  decorating : ∀ scope ∈ file.scopes, ∀ decorator ∈ scope.decorators,
    mentioned (decoratorReference decorator).identifier
  pointing : ∀ scope ∈ file.scopes, ∀ reference ∈ scope.references,
    reference.kind = .localScope → ∃ scopes target,
      setting.index.lookup reference.identifier = some scopes ∧ target ∈ scopes ∧
        reference.targetScope = some target.pointer

/-- The import that a reference uses is one of its file. -/
theorem mem_of_boundImport? {imports : List Import} {reference : Reference} {binding : Import}
    (bound : boundImport? (bindingTable imports) reference = some binding) : binding ∈ imports := by
  obtain ⟨name, _, found⟩ := List.exists_of_findSome?_eq_some bound
  rw [bindingTable_eq_tableBy, lookup_tableBy_eq_some_iff] at found
  exact found.mem

variable {scope : Scope}

theorem Setting.Agrees.referenceTarget?_eq (agrees : setting.Agrees mentioned other)
    (classified : setting.Classified mentioned file) (scopeMem : scope ∈ file.scopes)
    {reference : Reference} (referenceMem : reference ∈ scope.references) :
    referenceTarget? setting file reference = referenceTarget? other file reference := by
  have used := classified.used scope scopeMem reference referenceMem
  unfold referenceTarget?
  split
  · cases bound : boundImport? (bindingTable file.imports) reference with
    | none => rfl
    | some binding =>
        have asked := classified.imported binding (mem_of_boundImport? bound)
        rw [Option.bind_some, Option.bind_some, agrees.importTarget?_eq asked used]
  · rename_i kind
    obtain ⟨scopes, target, found, member, pointed⟩ :=
      classified.pointing scope scopeMem reference referenceMem kind
    rw [pointed, Option.getD_some, agrees.atPointer? _ scopes used found target member]
  · rfl

theorem Setting.Agrees.referenceEdge?_eq (agrees : setting.Agrees mentioned other)
    (classified : setting.Classified mentioned file) (scopeMem : scope ∈ file.scopes)
    {reference : Reference} (referenceMem : reference ∈ scope.references) :
    referenceEdge? setting file scope reference = referenceEdge? other file scope reference := by
  apply Option.ext
  intro edge
  rw [referenceEdge?_eq_some_iff, referenceEdge?_eq_some_iff,
    agrees.referenceTarget?_eq classified scopeMem referenceMem]

end Agreement

/-- The id of the scope that emits an edge, read off its key: what nests it is emitted by the inner
scope, everything else by the scope that the edge goes out from. -/
def emitterOf (key : String × String × Relation) : String :=
  if key.2.2 = .contains then key.2.1 else key.1

theorem emitterOf_key {options : Options} {setting : Setting} {file : FileAnalysis} {scope : Scope}
    {edge : Edge} (emitted : edge ∈ scopeEdges options setting file scope) :
    emitterOf edge.key = scope.id := by
  rw [mem_scopeEdges_iff] at emitted
  rcases emitted with ⟨_, nested⟩ | ⟨reference, _, uses⟩ | ⟨_, decorator, _, decorates⟩
  · obtain ⟨outer, _, rfl⟩ := (nestingEdge?_eq_some_iff file scope edge).mp nested
    rfl
  · have relation := (relation_of_referenceEdge? uses).1
    obtain ⟨target, evidence, found, _, _, rfl⟩ :=
      (referenceEdge?_eq_some_iff setting file scope reference edge).mp uses
    exact if_neg relation
  · obtain ⟨target, _, rfl⟩ := Option.map_eq_some_iff.mp decorates
    rfl

section Reordered

variable {root : Path} {first second : List FileAnalysis}

end Reordered

end ScopeAtlas.Graph

namespace ScopeAtlas.Workspace

open ScopeAtlas.Data ScopeAtlas.Files ScopeAtlas.Graph

/-! ## Whole runs -/

section Faults

variable {mentioned : String → Prop} {setting other : Setting} {file : FileAnalysis}

end Faults

end ScopeAtlas.Workspace
