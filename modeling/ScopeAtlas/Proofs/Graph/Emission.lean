import ScopeAtlas.Graph.Query

/-!
# Where edges come from

Every edge found in the source has one of three origins: the nesting of a scope, one of its
references, or one of its decorators.  The statements here say once what each of them can emit
and which of the emitted edges are kept, so that no later argument has to open the emission
itself.
-/

namespace ScopeAtlas.Graph

/-! ## Keeping the first edge of a key -/

namespace Edge

theorem keepFirst_sublist (seen : List (String × String × Relation)) (edges : List Edge) :
    (keepFirst seen edges).Sublist edges := by
  induction edges generalizing seen with
  | nil => exact List.Sublist.slnil
  | cons edge rest ih =>
      rw [keepFirst]
      split
      · exact (ih seen).cons edge
      · exact (ih (edge.key :: seen)).cons_cons edge

/-- A key is kept exactly when some edge has it and it was not met before. -/
theorem key_mem_keepFirst_iff (seen : List (String × String × Relation)) (edges : List Edge)
    (wanted : String × String × Relation) :
    wanted ∈ (keepFirst seen edges).map key ↔ wanted ∈ edges.map key ∧ wanted ∉ seen := by
  induction edges generalizing seen with
  | nil => simp [keepFirst]
  | cons edge rest ih =>
      rw [keepFirst]
      by_cases known : edge.key ∈ seen
      · rw [if_pos (by simpa using known), ih, List.map_cons, List.mem_cons]
        constructor
        · rintro ⟨later, fresh⟩
          exact ⟨Or.inr later, fresh⟩
        · rintro ⟨rfl | later, fresh⟩
          · exact absurd known fresh
          · exact ⟨later, fresh⟩
      · rw [if_neg (by simpa using known), List.map_cons, List.mem_cons, ih, List.map_cons,
          List.mem_cons, List.mem_cons]
        by_cases same : wanted = edge.key
        · subst wanted
          simp [known]
        · simp [same]

/-- No two kept edges have equal keys. -/
theorem nodup_keys_keepFirst (seen : List (String × String × Relation)) (edges : List Edge) :
    ((keepFirst seen edges).map key).Nodup := by
  induction edges generalizing seen with
  | nil => exact List.nodup_nil
  | cons edge rest ih =>
      rw [keepFirst]
      split
      · exact ih seen
      · rw [List.map_cons, List.nodup_cons]
        refine ⟨?_, ih (edge.key :: seen)⟩
        intro again
        have fresh := ((key_mem_keepFirst_iff _ rest edge.key).mp again).2
        exact fresh List.mem_cons_self

end Edge

/-! ## The three origins -/

/-- The scope that a classified reference leads to, and what an edge to it rests on. -/
def referenceTarget? (setting : Setting) (file : FileAnalysis) (reference : Reference) :
    Option (Scope × Evidence) :=
  match reference.kind with
  | .imported =>
      (boundImport? (bindingTable file.imports) reference).bind fun binding =>
        (importTarget? setting file binding reference).map fun target =>
          (target.1, .importedUse reference.line reference.identifier reference.context
            binding.source target.2)
  | .localScope =>
      (setting.atPointer? (reference.targetScope.getD "")).map fun target =>
        (target, .use reference.line reference.identifier reference.context)
  | _ => none

/-- A reference contributes an edge when it leads to a scope and its relation is known. -/
theorem referenceEdge?_eq_some_iff (setting : Setting) (file : FileAnalysis) (scope : Scope)
    (reference : Reference) (edge : Edge) :
    referenceEdge? setting file scope reference = some edge ↔
      ∃ target evidence relation,
        referenceTarget? setting file reference = some (target, evidence) ∧
          relationOf? scope reference = some relation ∧
          edge = edgeBetween relation scope target evidence := by
  unfold referenceEdge? referenceTarget?
  cases reference.kind with
  | imported =>
      simp only [Option.bind_eq_some_iff, Option.map_eq_some_iff, Prod.mk.injEq]
      constructor
      · rintro ⟨binding, bound, target, found, relation, known, rfl⟩
        exact ⟨_, _, relation, ⟨binding, bound, target, found, rfl, rfl⟩, known, rfl⟩
      · rintro ⟨_, _, relation, ⟨binding, bound, target, found, rfl, rfl⟩, known, rfl⟩
        exact ⟨binding, bound, target, found, relation, known, rfl⟩
  | localScope =>
      simp only [Option.bind_eq_some_iff, Option.map_eq_some_iff, Prod.mk.injEq]
      constructor
      · rintro ⟨target, found, relation, known, rfl⟩
        exact ⟨_, _, relation, ⟨target, found, rfl, rfl⟩, known, rfl⟩
      · rintro ⟨_, _, relation, ⟨target, found, rfl, rfl⟩, known, rfl⟩
        exact ⟨target, found, relation, known, rfl⟩
  | unknown => simp
  | builtin => simp
  | other label => simp

theorem mem_scopeEdges_iff (options : Options) (setting : Setting) (file : FileAnalysis)
    (scope : Scope) (edge : Edge) :
    edge ∈ scopeEdges options setting file scope ↔
      (options.includeContains = true ∧ nestingEdge? file scope = some edge) ∨
      (∃ reference ∈ scope.references, referenceEdge? setting file scope reference = some edge) ∨
      (options.includeDecorators = true ∧
        ∃ decorator ∈ scope.decorators, decoratorEdge? setting file scope decorator = some edge) := by
  unfold scopeEdges
  rw [List.mem_append, List.mem_append, List.mem_filterMap, or_assoc]
  apply or_congr
  · by_cases wanted : options.includeContains = true
    · simp [wanted, eq_comm]
    · simp [wanted]
  · apply or_congr Iff.rfl
    by_cases wanted : options.includeDecorators = true
    · simp [wanted]
    · simp [wanted]

theorem Options.admits_iff (options : Options) (edge : Edge) :
    options.admits edge = true ↔
      edge.source.id ≠ edge.target.id ∧
        (edge.source.file = edge.target.file ∨ options.crossFile = true) := by
  simp [Options.admits, or_comm]

theorem mem_contributions_iff (options : Options) (setting : Setting) (edge : Edge) :
    edge ∈ contributions options setting ↔
      (∃ file ∈ setting.analyses, ∃ scope ∈ file.scopes,
        edge ∈ scopeEdges options setting file scope) ∧
        options.admits edge = true := by
  simp [contributions]

theorem mem_contributions_of_mem_forwardEdges {options : Options} {setting : Setting} {edge : Edge}
    (found : edge ∈ forwardEdges options setting) : edge ∈ contributions options setting :=
  (Edge.keepFirst_sublist [] (contributions options setting)).subset found

/-! ## Relations of emitted edges -/

/-- The relations that references can stand for. -/
theorem relationOf?_cases {scope : Scope} {reference : Reference} {relation : Relation}
    (known : relationOf? scope reference = some relation) :
    relation = .inheritsFrom ∨ relation = .implements ∨ relation = .consumes := by
  have heritage : ∀ kind, heritageRelation? kind = some relation →
      relation = .inheritsFrom ∨ relation = .implements ∨ relation = .consumes := by
    intro kind stands
    cases kind with
    | extending => exact Or.inl (Option.some.inj stands).symm
    | implementing => exact Or.inr (Or.inl (Option.some.inj stands).symm)
    | other label => contradiction
  unfold relationOf? at known
  split at known
  · exact heritage _ known
  · split at known
    · exact heritage _ known
    · split at known
      · exact Or.inl (Option.some.inj known).symm
      · split at known
        · exact Or.inr (Or.inl (Option.some.inj known).symm)
        · exact Or.inr (Or.inr (Option.some.inj known).symm)

/-- The five relations that are found in the source. -/
def Relation.found : List Relation :=
  [.consumes, .inheritsFrom, .implements, .contains, .decoratedBy]

theorem Relation.mem_found_iff (relation : Relation) :
    relation ∈ Relation.found ↔ relation.isInverse = false := by
  cases relation <;> decide

theorem relation_of_nestingEdge? {file : FileAnalysis} {scope : Scope} {edge : Edge}
    (nested : nestingEdge? file scope = some edge) : edge.relation = .contains := by
  unfold nestingEdge? at nested
  split at nested
  · contradiction
  · obtain ⟨outer, _, rfl⟩ := Option.map_eq_some_iff.mp nested
    rfl

theorem relation_of_decoratorEdge? {setting : Setting} {file : FileAnalysis} {scope : Scope}
    {decorator : Decorator} {edge : Edge}
    (decorates : decoratorEdge? setting file scope decorator = some edge) :
    edge.relation = .decoratedBy := by
  obtain ⟨target, _, rfl⟩ := Option.map_eq_some_iff.mp decorates
  rfl

theorem relation_mem_found_of_mem_scopeEdges {options : Options} {setting : Setting}
    {file : FileAnalysis} {scope : Scope} {edge : Edge}
    (emitted : edge ∈ scopeEdges options setting file scope) : edge.relation ∈ Relation.found := by
  rw [mem_scopeEdges_iff] at emitted
  rcases emitted with ⟨_, nested⟩ | ⟨reference, _, uses⟩ | ⟨_, decorator, _, decorates⟩
  · simp [relation_of_nestingEdge? nested, Relation.found]
  · rw [referenceEdge?_eq_some_iff] at uses
    obtain ⟨target, evidence, relation, _, known, rfl⟩ := uses
    rcases relationOf?_cases known with rfl | rfl | rfl <;> simp [edgeBetween, Relation.found]
  · simp [relation_of_decoratorEdge? decorates, Relation.found]

theorem relation_mem_found_of_mem_forwardEdges {options : Options} {setting : Setting}
    {edge : Edge} (found : edge ∈ forwardEdges options setting) :
    edge.relation ∈ Relation.found := by
  have contributed := mem_contributions_of_mem_forwardEdges found
  rw [mem_contributions_iff] at contributed
  obtain ⟨⟨file, _, scope, _, emitted⟩, _⟩ := contributed
  exact relation_mem_found_of_mem_scopeEdges emitted

/-- Mirror images never count as found in the source, so that part of a resolution is what the
emission kept. -/
theorem forward_resolve (options : Options) (root : Files.Path) (locators : Locators)
    (analyses : List FileAnalysis) :
    (resolve options root locators analyses).forward =
      forwardEdges options (settingOf root locators analyses) := by
  have isForward : ∀ edge ∈ forwardEdges options (settingOf root locators analyses),
      edge.relation.isInverse = false := by
    intro edge found
    exact (Relation.mem_found_iff _).mp (relation_mem_found_of_mem_forwardEdges found)
  have kept : (forwardEdges options (settingOf root locators analyses)).filter
      (fun edge => !edge.relation.isInverse) =
        forwardEdges options (settingOf root locators analyses) := by
    rw [List.filter_eq_self]
    intro edge found
    simp [isForward edge found]
  unfold Resolution.forward resolve allEdges
  by_cases wanted : options.includeInverse = true
  · have gone : ((forwardEdges options (settingOf root locators analyses)).map
        Edge.inverted).filter (fun edge => !edge.relation.isInverse) = [] := by
      rw [List.filter_eq_nil_iff]
      intro mirror member
      obtain ⟨edge, found, rfl⟩ := List.mem_map.mp member
      simp [Edge.inverted, isForward edge found]
    simp [wanted, kept, gone]
  · simp [wanted, kept]

end ScopeAtlas.Graph
