import ScopeAtlas.Proofs.Graph.Attribution
import ScopeAtlas.Proofs.Graph.Endings

/-!
# What classification writes

A classified file is the file that was read, with a tag on every reference that is kept and with
more imports on its scopes.  The tag of a reference is said here without tables: which import it
uses, and otherwise which scope bears its name.  So are the imports that a scope gains: those that
its references use and that it has not yet, each where it is first used.
-/

namespace ScopeAtlas.Graph

open ScopeAtlas.Data ScopeAtlas.Extraction ScopeAtlas.Language

/-! ## The import that a reference uses -/

/-- The names under which the import of a reference is looked for, in order: its qualifier with dots
for double colons, the first segment of that, and its identifier. -/
def namesInOrder (reference : Reference) : List String :=
  reference.qualifier.elim [] bindingSpellings ++ [reference.identifier]

/-- The import is the first of a file that binds the first bound name of the reference. -/
def UsesImport (imports : List Import) (reference : Reference) (binding : Import) : Prop :=
  ∃ name, FirstWith (Bound imports) (namesInOrder reference) name ∧
    FirstWith (Binds · name) imports binding

theorem lookup_bindingTable_eq_some_iff {imports : List Import} {name : String}
    {binding : Import} :
    (bindingTable imports).lookup name = some binding ↔
      FirstWith (Binds · name) imports binding := by
  rw [bindingTable_eq_tableBy, lookup_tableBy_eq_some_iff]
  simp only [mem_boundNames_iff]

/-- An empty qualifier need not be set apart, because no import binds the empty name. -/
theorem boundImport?_eq_findSome? (imports : List Import) (reference : Reference) :
    boundImport? (bindingTable imports) reference =
      (namesInOrder reference).findSome? fun name => (bindingTable imports).lookup name := by
  have unbound : (bindingTable imports).lookup "" = none := by
    rw [← Option.not_isSome_iff_eq_none, isSome_lookup_bindingTable_iff]
    rintro ⟨_, _, _, nonempty⟩
    exact nonempty rfl
  rw [boundImport?, bindingNames_eq, namesInOrder, List.findSome?_append, List.findSome?_append]
  congr 1
  cases reference.qualifier with
  | none => rfl
  | some qualifier =>
      by_cases empty : qualifier = ""
      · subst qualifier
        have spellings : bindingSpellings "" = ["", ""] := by decide
        simp [spellings, nonEmpty?, unbound]
      · simp [nonEmpty?, empty]

theorem boundImport?_eq_some_iff {imports : List Import} {reference : Reference}
    {binding : Import} :
    boundImport? (bindingTable imports) reference = some binding ↔
      UsesImport imports reference binding := by
  rw [boundImport?_eq_findSome?, findSome?_eq_some_iff_firstWith]
  simp only [isSome_lookup_bindingTable_iff, lookup_bindingTable_eq_some_iff, UsesImport]

/-! ## The first scope of a name -/

/-- The scope has the name, which is one. -/
def Bears (scope : Scope) (name : String) : Prop := scope.name = name ∧ name ≠ ""

instance (scope : Scope) (name : String) : Decidable (Bears scope name) :=
  inferInstanceAs (Decidable (_ ∧ _))

/-- All scopes of a project, file by file. -/
def projectScopes (analyses : List FileAnalysis) : List Scope := analyses.flatMap (·.scopes)

theorem bearers_eq_filter (analyses : List FileAnalysis) (name : String) :
    bearers analyses name =
      (projectScopes analyses).filter fun scope => decide (Bears scope name) := by
  rw [bearers, namedScopes, List.filter_filter]
  refine List.filter_congr fun scope _ => ?_
  rw [Bool.eq_iff_iff, decide_eq_true_iff, Bears]
  simp only [Bool.and_eq_true, beq_iff_eq, Bool.not_eq_true', String.isEmpty_eq_false_iff]
  exact and_congr_right fun same => by rw [same]

theorem head?_bearers_eq_some_iff {analyses : List FileAnalysis} {name : String}
    {target : Scope} :
    (bearers analyses name).head? = some target ↔
      FirstWith (Bears · name) (projectScopes analyses) target := by
  rw [bearers_eq_filter, List.head?_filter, find?_eq_some_iff_firstWith]
  simp only [decide_eq_true_eq]

theorem bearers_eq_nil_iff {analyses : List FileAnalysis} {name : String} :
    bearers analyses name = [] ↔ ∀ scope ∈ projectScopes analyses, ¬Bears scope name := by
  rw [bearers_eq_filter, List.filter_eq_nil_iff]
  simp only [decide_eq_true_eq]

/-! ## Tags -/

section Tags

variable (analyses : List FileAnalysis) (file : FileAnalysis) (answer : Import → Bool → Prop)

/-- What is kept of a reference of a file, where it is known which imports are of the project.  The
four cases exclude each other. -/
inductive Tagged (reference : Reference) : Option Reference → Prop where
  | imported {binding : Import} {isLocal : Bool}
      (uses : UsesImport file.imports reference binding) (answered : answer binding isLocal) :
      Tagged reference (some { reference with
        kind := .imported, source := some binding.source, isLocalImport := some isLocal })
  | localScope {target : Scope} (unbound : ∀ binding, ¬UsesImport file.imports reference binding)
      (first : FirstWith (Bears · reference.identifier) (projectScopes analyses) target) :
      Tagged reference
        (some { reference with kind := .localScope, targetScope := some target.pointer })
  | dropped (unbound : ∀ binding, ¬UsesImport file.imports reference binding)
      (unborne : ∀ scope ∈ projectScopes analyses, ¬Bears scope reference.identifier)
      (builtin : reference.identifier ∈ builtinsOf file.language) :
      Tagged reference none
  | unknown (unbound : ∀ binding, ¬UsesImport file.imports reference binding)
      (unborne : ∀ scope ∈ projectScopes analyses, ¬Bears scope reference.identifier)
      (foreign : reference.identifier ∉ builtinsOf file.language) :
      Tagged reference (some { reference with kind := .unknown })

/-- The imports are the former ones, and after them those of the used ones that are new, each once
and in the order of first use. -/
def GainsUsed (former used result : List Import) : Prop :=
  ∃ added, result = former ++ added ∧ added.Nodup ∧
    (∀ binding, binding ∈ added ↔ binding ∈ used ∧ binding ∉ former) ∧
    added.Pairwise fun first second =>
      ∃ before after, used = before ++ second :: after ∧ first ∈ before ∧ second ∉ before

/-- The scope is kept as it is, but for the references and the imports. -/
structure TaggedScope (scope kept : Scope) : Prop where
  same : kept = { scope with references := kept.references, imports := kept.imports }
  references : ∃ outcomes, List.Forall₂ (Tagged analyses file answer) scope.references outcomes ∧
    kept.references = outcomes.reduceOption
  imports : ∃ used : List (Option Import),
    List.Forall₂ (fun reference use => ∀ binding,
      use = some binding ↔ UsesImport file.imports reference binding) scope.references used ∧
    GainsUsed scope.imports used.reduceOption kept.imports

/-- The file is kept as it is, but for its scopes. -/
structure TaggedFile (kept : FileAnalysis) : Prop where
  same : kept = { file with scopes := kept.scopes }
  scopes : List.Forall₂ (TaggedScope analyses file answer) file.scopes kept.scopes

end Tags

/-! ## Classification writes these tags -/

theorem gainsUsed_foldl_addImport (former used : List Import) :
    GainsUsed former used (used.foldl addImport former) := by
  induction used using List.reverseRecOn with
  | nil => exact ⟨[], by simp⟩
  | append_singleton rest last ih =>
      obtain ⟨added, split, distinct, isNew, inOrder⟩ := ih
      have inOrderStill : added.Pairwise fun first second => ∃ before after,
          rest ++ [last] = before ++ second :: after ∧ first ∈ before ∧ second ∉ before :=
        inOrder.imp fun ⟨before, after, uses, earlier, first⟩ =>
          ⟨before, after ++ [last], by simp [uses], earlier, first⟩
      rw [List.foldl_append, List.foldl_cons, List.foldl_nil, addImport, split]
      by_cases known : last ∈ former ++ added
      · rw [if_pos (List.contains_iff_mem.mpr known)]
        refine ⟨added, rfl, distinct, fun binding => ?_, inOrderStill⟩
        rw [isNew, List.mem_append, List.mem_singleton, or_and_right, iff_self_or]
        rintro ⟨rfl, unlisted⟩
        exact (isNew binding).mp ((List.mem_append.mp known).resolve_left unlisted)
      · rw [if_neg (mt List.contains_iff_mem.mp known)]
        obtain ⟨unlisted, unadded⟩ : last ∉ former ∧ last ∉ added := by
          simpa [List.mem_append, not_or] using known
        have unused : last ∉ rest := fun member => unadded ((isNew last).mpr ⟨member, unlisted⟩)
        refine ⟨added ++ [last], by simp, ?_, fun binding => ?_, ?_⟩
        · exact List.nodup_append_comm.mp (List.nodup_cons.mpr ⟨unadded, distinct⟩)
        · rw [List.mem_append, isNew, List.mem_append, List.mem_singleton, or_and_right]
          exact or_congr_right ⟨fun is => ⟨is, is ▸ unlisted⟩, And.left⟩
        · refine List.pairwise_append.mpr
            ⟨inOrderStill, List.pairwise_singleton _ _, fun first firstMem second isLast => ?_⟩
          obtain rfl := List.mem_singleton.mp isLast
          exact ⟨rest, [], rfl, ((isNew first).mp firstMem).1, unused⟩

section Classification

variable {locators : Locators} {analyses : List FileAnalysis} {file : FileAnalysis}
  {answer : Import → Bool → Prop}

theorem tagged_settled? {reference : Reference}
    (answered : ∀ binding, UsesImport file.imports reference binding →
      answer binding (isLocalImport (locators file.language) binding)) :
    Tagged analyses file answer reference (settled? locators analyses file reference) := by
  rw [settled?]
  rcases fate_cases locators analyses file reference with
    ⟨binding, bound, fated⟩ | ⟨unbound, ⟨target, rest, named, fated⟩ | ⟨unnamed, last⟩⟩
  · rw [fated]
    have uses := boundImport?_eq_some_iff.mp bound
    exact .imported uses (answered binding uses)
  · rw [fated]
    refine .localScope (fun binding uses => ?_) (head?_bearers_eq_some_iff.mp (by rw [named]; rfl))
    rw [← boundImport?_eq_some_iff, unbound] at uses
    contradiction
  · have unused : ∀ binding, ¬UsesImport file.imports reference binding := by
      intro binding uses
      rw [← boundImport?_eq_some_iff, unbound] at uses
      contradiction
    have unborne := bearers_eq_nil_iff.mp unnamed
    rcases last with ⟨builtin, fated⟩ | ⟨foreign, fated⟩
    · rw [fated]
      exact .dropped unused unborne builtin
    · rw [fated]
      exact .unknown unused unborne foreign

theorem taggedScope_classifyScope {scope : Scope}
    (answered : ∀ reference ∈ scope.references, ∀ binding,
      UsesImport file.imports reference binding →
        answer binding (isLocalImport (locators file.language) binding)) :
    TaggedScope analyses file answer scope (classifyScope locators analyses file scope) where
  same := rfl
  references := by
    refine ⟨scope.references.map (settled? locators analyses file), ?_, ?_⟩
    · rw [List.forall₂_map_right_iff, List.forall₂_same]
      exact fun reference member => tagged_settled? (answered reference member)
    · change _ = (scope.references.map _).filterMap id
      rw [List.filterMap_map]
      rfl
  imports := by
    refine ⟨scope.references.map (boundImport? (bindingTable file.imports)), ?_, ?_⟩
    · rw [List.forall₂_map_right_iff, List.forall₂_same]
      exact fun reference _ binding => boundImport?_eq_some_iff
    · change GainsUsed _ ((scope.references.map _).filterMap id) _
      rw [List.filterMap_map]
      exact gainsUsed_foldl_addImport _ _

theorem taggedFile_classifyFile
    (answered : ∀ scope ∈ file.scopes, ∀ reference ∈ scope.references, ∀ binding,
      UsesImport file.imports reference binding →
        answer binding (isLocalImport (locators file.language) binding)) :
    TaggedFile analyses file answer (classifyFile locators analyses file) where
  same := rfl
  scopes := by
    rw [classifyFile, List.forall₂_map_right_iff, List.forall₂_same]
    exact fun scope member => taggedScope_classifyScope (answered scope member)

end Classification

end ScopeAtlas.Graph
