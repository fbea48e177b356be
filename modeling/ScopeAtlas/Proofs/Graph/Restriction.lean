import ScopeAtlas.Proofs.Graph.Listings
import ScopeAtlas.Workspace.Linking

/-!
# Runs with fewer options

The options choose which edges are wanted; they decide nothing about what a reference is or where it
leads.  A run with fewer options therefore has the edges of the fuller run that it still wants, with
the same evidence and in the same order.  This needs an argument, because of edges that say the same
only the first is kept: were the first of them unwanted and a later one wanted, the later one would
take its place.  Whether an edge is wanted is decided by its key, as soon as the id of a scope
decides its file.
-/

namespace ScopeAtlas.Graph

open ScopeAtlas.Files

/-! ## Options -/

/-- What the first choice wants of the edges found in the source, the second wants too. -/
structure Options.Narrows (narrow wide : Options) : Prop where
  contains : narrow.includeContains = true → wide.includeContains = true
  decorators : narrow.includeDecorators = true → wide.includeDecorators = true
  crossFile : narrow.crossFile = true → wide.crossFile = true

/-- The relation of the edge is wanted. -/
def Options.wants (options : Options) (edge : Edge) : Bool :=
  (options.includeContains || edge.relation != .contains) &&
    (options.includeDecorators || edge.relation != .decoratedBy)

/-- The relation of the edge is wanted, and it joins scopes that may be joined. -/
def Options.keeps (options : Options) (edge : Edge) : Bool :=
  options.wants edge && (options.crossFile || edge.source.file == edge.target.file)

/-- The graph of a narrower choice beside that of a wider one: the same files and the same ledger,
and of the edges those that are still wanted, as they are and in their order. -/
structure Resolution.Restricts (options : Options) (narrow wide : Resolution) : Prop where
  analyses : narrow.analyses = wide.analyses
  unresolved : narrow.unresolved = wide.unresolved
  forward : narrow.forward = wide.forward.filter options.keeps

/-! ## Emission -/

theorem relation_of_referenceEdge? {setting : Setting} {file : FileAnalysis} {scope : Scope}
    {reference : Reference} {edge : Edge}
    (uses : referenceEdge? setting file scope reference = some edge) :
    edge.relation ≠ .contains ∧ edge.relation ≠ .decoratedBy := by
  obtain ⟨target, evidence, relation, _, known, rfl⟩ :=
    (referenceEdge?_eq_some_iff setting file scope reference edge).mp uses
  rcases relationOf?_cases known with rfl | rfl | rfl <;> simp [edgeBetween]

/-- An optional part of the emission, of a relation of its own, is kept whole or dropped whole. -/
theorem filter_optional_eq {wanted wantedToo : Bool} {edges : List Edge} {keep : Edge → Bool}
    (implies : wanted = true → wantedToo = true) (decides : ∀ edge ∈ edges, keep edge = wanted) :
    (if wantedToo then edges else []).filter keep = if wanted then edges else [] := by
  cases wanted with
  | true =>
      rw [implies rfl, if_pos rfl, List.filter_eq_self.mpr decides]
  | false =>
      have dropped : edges.filter keep = [] := by
        rw [List.filter_eq_nil_iff]
        intro edge member
        simp [decides edge member]
      cases wantedToo <;> simp [dropped]

/-- A scope emits the edges whose relation is wanted, and its other edges do not depend on that. -/
theorem scopeEdges_eq_filter {narrow wide : Options} (narrows : narrow.Narrows wide)
    (setting : Setting) (file : FileAnalysis) (scope : Scope) :
    scopeEdges narrow setting file scope =
      (scopeEdges wide setting file scope).filter narrow.wants := by
  have nesting : ∀ edge ∈ (nestingEdge? file scope).toList,
      narrow.wants edge = narrow.includeContains := by
    intro edge member
    have relation := relation_of_nestingEdge? (Option.mem_toList.mp member)
    simp [Options.wants, relation]
  have uses : ∀ edge ∈ scope.references.filterMap (referenceEdge? setting file scope),
      narrow.wants edge = true := by
    intro edge member
    obtain ⟨reference, _, found⟩ := List.mem_filterMap.mp member
    obtain ⟨noNesting, noDecoration⟩ := relation_of_referenceEdge? found
    simp [Options.wants, noNesting, noDecoration]
  have decorations : ∀ edge ∈ scope.decorators.filterMap (decoratorEdge? setting file scope),
      narrow.wants edge = narrow.includeDecorators := by
    intro edge member
    obtain ⟨decorator, _, found⟩ := List.mem_filterMap.mp member
    have relation := relation_of_decoratorEdge? found
    simp [Options.wants, relation]
  rw [scopeEdges, scopeEdges, List.filter_append, List.filter_append,
    filter_optional_eq narrows.contains nesting, List.filter_eq_self.mpr uses,
    filter_optional_eq narrows.decorators decorations]

theorem admits_eq_and {narrow wide : Options} (narrows : narrow.Narrows wide) (edge : Edge) :
    (narrow.admits edge && narrow.wants edge) = (wide.admits edge && narrow.keeps edge) := by
  have joins := narrows.crossFile
  rw [Options.admits, Options.admits, Options.keeps]
  cases narrowJoins : narrow.crossFile with
  | true => simp [joins narrowJoins]
  | false =>
      cases edge.source.file == edge.target.file <;> cases wide.crossFile <;>
        cases narrow.wants edge <;> simp

/-- A narrower choice leaves contributions out and changes none. -/
theorem contributions_eq_filter {narrow wide : Options} (narrows : narrow.Narrows wide)
    (setting : Setting) :
    contributions narrow setting = (contributions wide setting).filter narrow.keeps := by
  have emitted : (setting.analyses.flatMap fun file =>
      file.scopes.flatMap (scopeEdges narrow setting file)) =
        (setting.analyses.flatMap fun file =>
          file.scopes.flatMap (scopeEdges wide setting file)).filter narrow.wants := by
    rw [List.filter_flatMap]
    congr 1
    funext file
    rw [List.filter_flatMap]
    congr 1
    funext scope
    exact scopeEdges_eq_filter narrows setting file scope
  rw [contributions, contributions, emitted, List.filter_filter, List.filter_filter]
  apply List.filter_congr
  intro edge _
  rw [admits_eq_and narrows, Bool.and_comm]

/-! ## Keeping the first of what is wanted -/

/-- If edges that say the same are wanted together, it makes no difference whether the unwanted ones
are left out before or after the first of each key is kept.  The keys met before may differ in those
of unwanted edges. -/
theorem Edge.keepFirst_filter {keep : Edge → Bool} {edges : List Edge}
    (respects : ∀ a ∈ edges, ∀ b ∈ edges, a.key = b.key → keep a = keep b)
    {fewer seen : List (String × String × Relation)}
    (agree : ∀ edge ∈ edges, keep edge = true → (edge.key ∈ fewer ↔ edge.key ∈ seen)) :
    keepFirst fewer (edges.filter keep) = (keepFirst seen edges).filter keep := by
  induction edges generalizing fewer seen with
  | nil => rfl
  | cons edge rest ih =>
      have restRespects : ∀ a ∈ rest, ∀ b ∈ rest, a.key = b.key → keep a = keep b :=
        fun a aMem b bMem =>
          respects a (List.mem_cons_of_mem _ aMem) b (List.mem_cons_of_mem _ bMem)
      have restAgree : ∀ other ∈ rest, keep other = true →
          (other.key ∈ fewer ↔ other.key ∈ seen) := fun other member =>
        agree other (List.mem_cons_of_mem _ member)
      cases wanted : keep edge with
      | true =>
          rw [List.filter_cons_of_pos wanted, keepFirst, keepFirst]
          have here := agree edge List.mem_cons_self wanted
          by_cases known : edge.key ∈ seen
          · rw [if_pos (by simpa using here.mpr known), if_pos (by simpa using known)]
            exact ih restRespects restAgree
          · rw [if_neg (by simpa using fun met => known (here.mp met)),
              if_neg (by simpa using known), List.filter_cons_of_pos wanted]
            congr 1
            apply ih restRespects
            intro other member otherWanted
            rw [List.mem_cons, List.mem_cons, restAgree other member otherWanted]
      | false =>
          rw [List.filter_cons_of_neg (by simp [wanted]), keepFirst]
          by_cases known : edge.key ∈ seen
          · rw [if_pos (by simpa using known)]
            exact ih restRespects restAgree
          · rw [if_neg (by simpa using known), List.filter_cons_of_neg (by simp [wanted])]
            apply ih restRespects
            intro other member otherWanted
            -- No wanted edge has the key of the unwanted one.
            have differs : other.key ≠ edge.key := by
              intro same
              have both :=
                respects other (List.mem_cons_of_mem _ member) edge List.mem_cons_self same
              rw [otherWanted, wanted] at both
              contradiction
            rw [List.mem_cons, restAgree other member otherWanted]
            simp [differs]

/-- The id of a scope decides its file. -/
def IdsDecideFiles (analyses : List FileAnalysis) : Prop :=
  ∀ a ∈ analyses.flatMap (·.scopes), ∀ b ∈ analyses.flatMap (·.scopes),
    a.id = b.id → a.filePath = b.filePath

theorem IdsDecideFiles.file_eq {analyses : List FileAnalysis} (decide : IdsDecideFiles analyses)
    {first second : Endpoint} (firstMem : first ∈ projectEndpoints analyses)
    (secondMem : second ∈ projectEndpoints analyses) (same : first.id = second.id) :
    first.file = second.file := by
  obtain ⟨a, aMem, rfl⟩ := List.mem_map.mp firstMem
  obtain ⟨b, bMem, rfl⟩ := List.mem_map.mp secondMem
  exact decide a aMem b bMem same

/-- Contributions that say the same are wanted together. -/
theorem keeps_eq_of_key_eq (options : Options) {root : Path} {locators : Locators}
    {analyses : List FileAnalysis} (decide : IdsDecideFiles analyses) {wide : Options} {a b : Edge}
    (aMem : a ∈ contributions wide (settingOf root locators analyses))
    (bMem : b ∈ contributions wide (settingOf root locators analyses)) (same : a.key = b.key) :
    options.keeps a = options.keeps b := by
  have ends : ∀ edge ∈ contributions wide (settingOf root locators analyses),
      edge.source ∈ projectEndpoints analyses ∧ edge.target ∈ projectEndpoints analyses := by
    intro edge member
    rw [mem_contributions_iff, exists_mem_scopeEdges_iff] at member
    obtain ⟨⟨source, target, relation, evidence, rfl, contributes⟩, _⟩ := member
    exact contributes.mem_projectEndpoints
  obtain ⟨sources, rest⟩ := Prod.mk.inj same
  obtain ⟨targets, relations⟩ := Prod.mk.inj rest
  have sourceFiles := decide.file_eq (ends a aMem).1 (ends b bMem).1 sources
  have targetFiles := decide.file_eq (ends a aMem).2 (ends b bMem).2 targets
  rw [Options.keeps, Options.keeps, Options.wants, Options.wants, relations, sourceFiles,
    targetFiles]

theorem resolve_restricts {narrow wide : Options} (narrows : narrow.Narrows wide) (root : Path)
    (locators : Locators) {analyses : List FileAnalysis} (decide : IdsDecideFiles analyses) :
    (resolve narrow root locators analyses).Restricts narrow
      (resolve wide root locators analyses) where
  analyses := rfl
  unresolved := rfl
  forward := by
    rw [forward_resolve, forward_resolve, forwardEdges, forwardEdges,
      contributions_eq_filter narrows]
    apply Edge.keepFirst_filter
    · intro a aMem b bMem same
      exact keeps_eq_of_key_eq narrow decide aMem bMem same
    · intro edge _ _
      exact Iff.rfl

end ScopeAtlas.Graph

namespace ScopeAtlas.Workspace

open ScopeAtlas.Data ScopeAtlas.Files ScopeAtlas.Graph

/-! ## Whole runs -/

/-- A project is linked when its manifests can be loaded and no use of an import or of a base type
is refused. -/
theorem link_eq_ok_iff (options : Options) (files : FileTree) (root : Path)
    (analyses : List FileAnalysis) (graph : Resolution) :
    link options files root analyses = .ok graph ↔
      ∃ homes, loadHomes files root (sortedSet (analyses.map (·.language))) = .ok homes ∧
        classFault? homes analyses = none ∧ pathFault? analyses = none ∧
        useFault? options homes (settingOf root (locatorsOf homes) analyses) = none ∧
        graph = resolve options root (locatorsOf homes) analyses := by
  unfold link
  cases loaded : loadHomes files root (sortedSet (analyses.map (·.language))) with
  | error fault => simp [Except.mapError, bind, Except.bind]
  | ok homes =>
      simp only [Except.mapError, bind, Except.bind, Except.ok.injEq, exists_eq_left']
      cases classFault? homes analyses with
      | some fault => simp [throw, throwThe, MonadExceptOf.throw]
      | none =>
          cases pathFault? analyses with
          | some fault => simp [throw, throwThe, MonadExceptOf.throw]
          | none =>
              cases useFault? options homes (settingOf root (locatorsOf homes) analyses) with
              | some fault => simp [throw, throwThe, MonadExceptOf.throw]
              | none => simp [pure, Except.pure, eq_comm]

/-- A run that looks at fewer decorators refuses nothing more. -/
theorem useFault?_eq_none_of_narrows {narrow wide : Options} (narrows : narrow.Narrows wide)
    {homes : List (String × Home)} {setting : Setting}
    (accepted : useFault? wide homes setting = none) :
    useFault? narrow homes setting = none := by
  unfold useFault? at accepted ⊢
  rw [List.findSome?_eq_none_iff] at accepted ⊢
  intro file fileMem
  have fileAccepted := accepted file fileMem
  rw [List.findSome?_eq_none_iff] at fileAccepted ⊢
  intro scope scopeMem
  have scopeAccepted := fileAccepted scope scopeMem
  simp only [Option.orElse_eq_or, Option.or_eq_none_iff] at scopeAccepted ⊢
  refine ⟨scopeAccepted.1, ?_⟩
  cases wanted : narrow.includeDecorators with
  | false => rfl
  | true => simpa [narrows.decorators wanted] using scopeAccepted.2

/-- A narrower run succeeds where a wider one does. -/
theorem link_restricts {narrow wide : Options} (narrows : narrow.Narrows wide) {files : FileTree}
    {root : Path} {analyses : List FileAnalysis} (decide : IdsDecideFiles analyses)
    {graph : Resolution} (linked : link wide files root analyses = .ok graph) :
    ∃ restricted, link narrow files root analyses = .ok restricted ∧
      restricted.Restricts narrow graph := by
  obtain ⟨homes, loaded, classes, paths, uses, rfl⟩ :=
    (link_eq_ok_iff wide files root analyses graph).mp linked
  refine ⟨resolve narrow root (locatorsOf homes) analyses, ?_, ?_⟩
  · rw [link_eq_ok_iff]
    exact ⟨homes, loaded, classes, paths, useFault?_eq_none_of_narrows narrows uses, rfl⟩
  · exact resolve_restricts narrows root (locatorsOf homes) decide

/-- Let the id of a scope decide its file.  Two runs over the same project that differ in their
options classify the same files alike and enter the same references in the ledger; and a run with a
narrower choice succeeds where one with a wider choice does, with the edges of the wider run that it
still wants, in the same order and with the same evidence. -/
theorem options_only_select_edges (root : Path) {analyses : List FileAnalysis}
    (decide : IdsDecideFiles analyses) :
    (∀ locators (first second : Options),
      (resolve first root locators analyses).analyses =
          (resolve second root locators analyses).analyses ∧
        (resolve first root locators analyses).unresolved =
          (resolve second root locators analyses).unresolved) ∧
    (∀ locators (narrow wide : Options), narrow.Narrows wide →
      (resolve narrow root locators analyses).Restricts narrow
        (resolve wide root locators analyses)) ∧
    ∀ files (first second : Options) graph, link second files root analyses = .ok graph →
      (∀ other, link first files root analyses = .ok other →
        other.analyses = graph.analyses ∧ other.unresolved = graph.unresolved) ∧
      (first.Narrows second → ∃ restricted, link first files root analyses = .ok restricted ∧
        restricted.Restricts first graph) := by
  refine ⟨?_, ?_, ?_⟩
  · intro locators first second
    exact ⟨rfl, rfl⟩
  · intro locators narrow wide narrows
    exact resolve_restricts narrows root locators decide
  · intro files first second graph linked
    constructor
    · intro other linkedToo
      obtain ⟨homes, loaded, _, _, _, rfl⟩ := (link_eq_ok_iff _ _ _ _ _).mp linked
      obtain ⟨homesToo, loadedToo, _, _, _, rfl⟩ := (link_eq_ok_iff _ _ _ _ _).mp linkedToo
      obtain rfl := Except.ok.inj (loaded.symm.trans loadedToo)
      exact ⟨rfl, rfl⟩
    · intro narrows
      exact link_restricts narrows decide linked

/-- A class with a decorated method, and the names that the method uses, in two files. -/
def decoratedProject : List FileAnalysis :=
  [{ filePath := "a.py"
     language := "python"
     scopes :=
      [{ id := "store", name := "Store", kind := .classLike, filePath := "a.py", startLine := 1,
         endLine := 4 },
       { id := "load", name := "load", kind := .method, filePath := "a.py", startLine := 3,
         endLine := 4, parent := some "Store", depth := 1,
         decorators := [{ name := "@cached", line := 2 }],
         references :=
          [{ identifier := "decode", line := 4, column := 8, context := "decode(Record)" },
           { identifier := "Record", line := 4, column := 15, context := "decode(Record)" }] },
       { id := "decode", name := "decode", kind := .function, filePath := "a.py",
         startLine := 6, endLine := 7 }] },
   { filePath := "b.py"
     language := "python"
     scopes :=
      [{ id := "record", name := "Record", kind := .classLike, filePath := "b.py",
         startLine := 1, endLine := 2 },
       { id := "cached", name := "cached", kind := .function, filePath := "b.py", startLine := 4,
         endLine := 5 }] }]

/-- Of the four edges of the project one is left when nesting, decorators and other files are not
wanted. -/
theorem decorated_project_restricted :
    let narrow : Options :=
      { includeContains := false, includeDecorators := false, crossFile := false }
    let narrowGraph := resolve narrow (Path.ofString "/p") (fun _ => none) decoratedProject
    let wideGraph := resolve {} (Path.ofString "/p") (fun _ => none) decoratedProject
    IdsDecideFiles decoratedProject ∧ narrow.Narrows {} ∧ narrowGraph.Restricts narrow wideGraph ∧
      wideGraph.forward.length = 4 ∧ narrowGraph.forward.length = 1 := by
  have decides : IdsDecideFiles decoratedProject := by
    unfold IdsDecideFiles
    decide +kernel
  have narrows : Options.Narrows
      { includeContains := false, includeDecorators := false, crossFile := false } {} := by
    constructor <;> decide
  refine ⟨decides, narrows, ?_, by decide +kernel, by decide +kernel⟩
  exact (options_only_select_edges (Path.ofString "/p") decides).2.1 (fun _ => none) _ _ narrows

end ScopeAtlas.Workspace
