import Mathlib.Data.List.Induction
import ScopeAtlas.Proofs.Extraction.Harvest
import ScopeAtlas.Proofs.Syntax.Places

/-!
# Where the tags of references come from

A reference is collected without a tag.  It gets one from a heritage clause that lists its name, or
it was added with its tag for a clause that does.  So every tag of a scope is backed by a clause of
the scope.
-/

namespace ScopeAtlas.Extraction

open ScopeAtlas.Language ScopeAtlas.Syntax

/-- Every tag is the kind of a clause that lists a type of the tagged name. -/
def TagsListed (clauses : List HeritageClause) (references : List Reference) : Prop :=
  ∀ reference ∈ references, ∀ kind, reference.heritage = some kind →
    ∃ clause ∈ clauses, clause.clause = kind ∧
      ∃ type ∈ clause.types, baseTypeName type = reference.identifier

/-! ## Tagging -/

theorem mem_tagFirst {name : String} {kind : HeritageKind} {references : List Reference}
    {reference : Reference} (member : reference ∈ tagFirst name kind references) :
    reference ∈ references ∨ (reference.identifier = name ∧ reference.heritage = some kind) := by
  induction references with
  | nil => contradiction
  | cons first rest ih =>
      rw [tagFirst] at member
      split at member
      · rename_i chosen
        rw [Bool.and_eq_true, beq_iff_eq] at chosen
        rcases List.mem_cons.mp member with rfl | old
        · exact Or.inr ⟨chosen.1, rfl⟩
        · exact Or.inl (List.mem_cons_of_mem _ old)
      · rcases List.mem_cons.mp member with rfl | later
        · exact Or.inl List.mem_cons_self
        · rcases ih later with old | tagged
          · exact Or.inl (List.mem_cons_of_mem _ old)
          · exact Or.inr tagged

theorem tagsListed_tagFirst {clauses : List HeritageClause} {references : List Reference}
    (listed : TagsListed clauses references) {clause : HeritageClause} {written : String}
    (clauseMem : clause ∈ clauses) (typeMem : written ∈ clause.types) :
    TagsListed clauses (tagFirst (baseTypeName written) clause.clause references) := by
  intro reference member kind tag
  rcases mem_tagFirst member with old | ⟨named, tagged⟩
  · exact listed reference old kind tag
  · refine ⟨clause, clauseMem, ?_, written, typeMem, named.symm⟩
    exact Option.some.inj (tagged.symm.trans tag)

theorem tagsListed_tagClause {clauses : List HeritageClause} {references : List Reference}
    (listed : TagsListed clauses references) {clause : HeritageClause}
    (clauseMem : clause ∈ clauses) : TagsListed clauses (tagClause references clause) := by
  refine List.foldlRecOn clause.types _ listed ?_
  intro tagged tagsListed written typeMem
  exact tagsListed_tagFirst tagsListed clauseMem typeMem

theorem tagsListed_addSynthetic {clauses : List HeritageClause}
    {references synthetic : List Reference} (listed : TagsListed clauses references)
    (added : TagsListed clauses synthetic) :
    TagsListed clauses (addSynthetic references synthetic) := by
  refine List.foldlRecOn synthetic _ listed ?_
  intro extended tagsListed extra extraMem
  split
  · exact tagsListed
  · intro reference member
    rcases List.mem_append.mp member with old | new
    · exact tagsListed reference old
    · rw [List.mem_singleton.mp new]
      exact added extra extraMem

theorem tagsListed_applyHeritage {clauses : List HeritageClause}
    {references synthetic : List Reference} (listed : TagsListed clauses references)
    (added : TagsListed clauses synthetic) :
    TagsListed clauses (applyHeritage references clauses synthetic) := by
  have tagged : TagsListed clauses
      (clauses.foldl tagClause (addSynthetic references synthetic)) := by
    refine List.foldlRecOn clauses _ (tagsListed_addSynthetic listed added) ?_
    intro extended tagsListed clause clauseMem
    exact tagsListed_tagClause tagsListed clauseMem
  intro reference member
  rw [applyHeritage, sortReferences, List.mem_mergeSort] at member
  exact tagged reference member

/-! ## Collecting each reference once -/

/-- What makes references the same: the identifier, where it stands, and its qualifier. -/
def referenceKey (reference : Reference) : String × Int × Int × Option String :=
  (reference.identifier, reference.line, reference.column, reference.qualifier)

theorem coincide_iff (first second : Reference) :
    coincide first second = true ↔ referenceKey first = referenceKey second := by
  simp [coincide, referenceKey, and_assoc]

/-- One reference more is added at the end, unless one that coincides with it is there. -/
theorem firstOccurrences_append_singleton (references : List Reference) (last : Reference) :
    firstOccurrences (references ++ [last]) =
      if (firstOccurrences references).any (coincide last) then firstOccurrences references
      else firstOccurrences references ++ [last] := by
  simp [firstOccurrences]

theorem mem_of_mem_firstOccurrences {references : List Reference} {reference : Reference}
    (member : reference ∈ firstOccurrences references) : reference ∈ references := by
  have kept : ∀ kept ∈ firstOccurrences references, kept ∈ references := by
    refine List.foldlRecOn references _ (motive := fun kept => ∀ item ∈ kept, item ∈ references)
      (by simp) ?_
    intro kept within next nextMem
    split
    · exact within
    · intro item itemMem
      rcases List.mem_append.mp itemMem with old | new
      · exact within item old
      · rw [List.mem_singleton.mp new]
        exact nextMem
  exact kept reference member

theorem pairwise_firstOccurrences (references : List Reference) :
    (firstOccurrences references).Pairwise fun first second =>
      referenceKey first ≠ referenceKey second := by
  induction references using List.reverseRecOn with
  | nil => exact List.Pairwise.nil
  | append_singleton rest last ih =>
      rw [firstOccurrences_append_singleton]
      split
      · exact ih
      · rename_i new
        rw [List.pairwise_append]
        refine ⟨ih, List.pairwise_singleton _ _, fun kept keptMem other isLast same => new ?_⟩
        rw [List.mem_singleton] at isLast
        subst isLast
        exact List.any_eq_true.mpr ⟨kept, keptMem, (coincide_iff _ _).mpr same.symm⟩

/-- Where a reference is left out, one of the same key was kept. -/
theorem exists_mem_firstOccurrences {references : List Reference} {reference : Reference}
    (member : reference ∈ references) :
    ∃ kept ∈ firstOccurrences references, referenceKey kept = referenceKey reference := by
  induction references using List.reverseRecOn with
  | nil => cases member
  | append_singleton rest last ih =>
      rw [firstOccurrences_append_singleton]
      rcases List.mem_append.mp member with old | new
      · obtain ⟨kept, keptMem, same⟩ := ih old
        refine ⟨kept, ?_, same⟩
        split
        · exact keptMem
        · exact List.mem_append_left _ keptMem
      · obtain rfl := List.mem_singleton.mp new
        split
        · rename_i covered
          obtain ⟨kept, keptMem, same⟩ := List.any_eq_true.mp covered
          exact ⟨kept, keptMem, ((coincide_iff _ _).mp same).symm⟩
        · exact ⟨reference, by simp, rfl⟩

/-- The search for references finds them without tags. -/
theorem untagged_of_mem_visit {ctx : Context} {exclusions : List String} {skip : List Cursor}
    {place : Cursor} {reference : Reference}
    (found : reference ∈ (ctx.visitForReferences exclusions skip place).1) :
    reference.heritage = none := by
  rw [Context.visitForReferences] at found
  split at found
  · contradiction
  · split at found
    · rw [Option.mem_toList, Context.memberReference?] at found
      split at found
      · contradiction
      · rw [← Option.some.inj found]
        rfl
    · split at found
      · rw [Option.mem_toList, Context.identifierReference?] at found
        repeat' split at found
        all_goals first
          | contradiction
          | rw [← Option.some.inj found]; rfl
      · contradiction

/-! ## Drafts -/

/-- The references that a draft adds have tags of its own clauses. -/
def Draft.Backed (draft : Draft) : Prop := TagsListed draft.heritageClauses draft.synthetic

theorem Draft.backed_of_synthetic_eq_nil {draft : Draft} (none : draft.synthetic = []) :
    draft.Backed := by
  rw [Draft.Backed, none]
  intro reference member
  contradiction

/-- Every tag of a scope is backed by a clause of the scope. -/
theorem Draft.Backed.tagsListed_complete {draft : Draft} (backed : draft.Backed) (ctx : Context)
    (packageName : String → String) :
    TagsListed (draft.complete ctx packageName).heritageClauses
      (draft.complete ctx packageName).references := by
  have collected : TagsListed draft.heritageClauses
      (ctx.collectReferences draft.places (draft.exclusions ctx)
        (draft.skip ++ draft.nameNode.toList)) := by
    intro reference member kind tag
    rw [Context.collectReferences, sortReferences, List.mem_mergeSort] at member
    obtain ⟨_, _, place, _, found⟩ :=
      Cursor.mem_explore_iff.mp (mem_of_mem_firstOccurrences member)
    rw [untagged_of_mem_visit found] at tag
    contradiction
  exact tagsListed_applyHeritage collected backed

end ScopeAtlas.Extraction
