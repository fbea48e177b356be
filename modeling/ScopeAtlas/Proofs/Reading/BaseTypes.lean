import ScopeAtlas.Proofs.Reading.OwnNames

/-!
# References to base types

The types of a heritage clause are pieces of text, and references come from the tree.  The two are
joined by name: each listed type tags one reference to its bare name, the first that has no tag.  A
type is left without a reference where the search finds none of that name, or where earlier types of
the same name have taken all of them.
-/

namespace ScopeAtlas.Extraction

open ScopeAtlas.Language ScopeAtlas.Syntax

/-! ## Tags are taken in order -/

/-- A reference to the name has the tag. -/
def Tagged (name : String) (kind : HeritageKind) (references : List Reference) : Prop :=
  ∃ reference ∈ references, reference.identifier = name ∧ reference.heritage = some kind

/-- The number of references to the name that have no tag. -/
def untagged (name : String) (references : List Reference) : Nat :=
  references.countP fun reference => reference.identifier == name && reference.heritage.isNone

variable {name : String} {kind : HeritageKind} {references : List Reference}

theorem tagged_cons_iff {first : Reference} :
    Tagged name kind (first :: references) ↔
      (first.identifier = name ∧ first.heritage = some kind) ∨ Tagged name kind references := by
  simp [Tagged]

theorem untagged_cons (name : String) (first : Reference) (references : List Reference) :
    untagged name (first :: references) =
      untagged name references +
        if first.identifier = name ∧ first.heritage = none then 1 else 0 := by
  simp [untagged, List.countP_cons]

/-- One more reference has a tag, unless there was none left. -/
theorem untagged_tagFirst (name other : String) (kind : HeritageKind) (references : List Reference) :
    untagged name (tagFirst other kind references) =
      untagged name references - if other = name then 1 else 0 := by
  induction references with
  | nil => simp [tagFirst, untagged]
  | cons first rest ih =>
      rw [tagFirst]
      by_cases chosen : first.identifier = other ∧ first.heritage = none
      · rw [if_pos (by simpa using chosen), untagged_cons, untagged_cons]
        simp [chosen]
      · rw [if_neg (by simpa using chosen), untagged_cons, untagged_cons, ih]
        by_cases same : other = name
        · subst same
          simp [chosen]
        · simp [same]

/-- The tag is there already, or there is a reference left for it. -/
theorem tagged_tagFirst_iff {other : String} {added : HeritageKind} :
    Tagged name kind (tagFirst other added references) ↔
      Tagged name kind references ∨ other = name ∧ added = kind ∧ 0 < untagged name references := by
  induction references with
  | nil => simp [tagFirst, Tagged, untagged]
  | cons first rest ih =>
      rw [tagFirst]
      by_cases chosen : first.identifier = other ∧ first.heritage = none
      · rw [if_pos (by simpa using chosen), tagged_cons_iff, tagged_cons_iff, untagged_cons]
        obtain ⟨isOther, noTag⟩ := chosen
        by_cases same : other = name
        · simp [isOther, noTag, same, or_comm]
        · simp [isOther, same]
      · rw [if_neg (by simpa using chosen), tagged_cons_iff, tagged_cons_iff, ih, untagged_cons,
          or_assoc]
        by_cases same : other = name
        · subst same
          simp [chosen]
        · simp [same]

/-- The types that clauses list, by bare name, with the kinds of their clauses. -/
def listings (clauses : List HeritageClause) : List (String × HeritageKind) :=
  clauses.flatMap fun clause => clause.types.map fun written => (baseTypeName written, clause.clause)

/-- The kinds under which a name is listed, in order. -/
def kindsOf (name : String) (listed : List (String × HeritageKind)) : List HeritageKind :=
  (listed.filter fun entry => entry.1 == name).map (·.2)

/-- Tags a reference for one listed type. -/
def tagListed (references : List Reference) (entry : String × HeritageKind) : List Reference :=
  tagFirst entry.1 entry.2 references

theorem foldl_tagClause_eq (clauses : List HeritageClause) (references : List Reference) :
    clauses.foldl tagClause references = (listings clauses).foldl tagListed references := by
  rw [listings, List.foldl_flatMap]
  refine List.foldl_ext _ _ _ fun tagged clause _ => ?_
  rw [tagClause, List.foldl_map]
  rfl

/-- The first listed types of a name get the references there are. -/
theorem tagged_foldl_iff {listed : List (String × HeritageKind)} :
    Tagged name kind (listed.foldl tagListed references) ↔
      Tagged name kind references ∨
        kind ∈ (kindsOf name listed).take (untagged name references) := by
  induction listed generalizing references with
  | nil => simp [kindsOf]
  | cons entry rest ih =>
      obtain ⟨other, added⟩ := entry
      rw [List.foldl_cons, ih, tagListed, tagged_tagFirst_iff, untagged_tagFirst]
      by_cases same : other = name
      · subst same
        have kinds : kindsOf other ((other, added) :: rest) = added :: kindsOf other rest := by
          simp [kindsOf]
        rw [kinds]
        cases untagged other references with
        | zero => simp
        | succ left => simp [or_assoc, eq_comm]
      · have kinds : kindsOf name ((other, added) :: rest) = kindsOf name rest := by
          simp [kindsOf, same]
        rw [kinds]
        simp [same]

theorem tagged_addSynthetic_iff {synthetic : List Reference} :
    Tagged name kind (addSynthetic references synthetic) ↔
      Tagged name kind references ∨ Tagged name kind synthetic := by
  induction synthetic using List.reverseRecOn with
  | nil => simp [addSynthetic, Tagged]
  | append_singleton earlier added ih =>
      have listed : Tagged name kind (earlier ++ [added]) ↔ Tagged name kind earlier ∨
          (added.identifier = name ∧ added.heritage = some kind) := by
        simp [Tagged, or_and_right, exists_or]
      rw [addSynthetic_append_singleton, listed, ← or_assoc, ← ih]
      split
      · -- What is already there has the same name and tag.
        rename_i present
        obtain ⟨reference, member, same⟩ := List.any_eq_true.mp present
        simp only [Bool.and_eq_true, beq_iff_eq] at same
        refine (or_iff_left_of_imp ?_).symm
        rintro ⟨named, tag⟩
        exact ⟨reference, member, same.1.trans named, same.2.trans tag⟩
      · simp [Tagged, or_and_right, exists_or]

/-- Added references that have tags leave the others as they are. -/
theorem untagged_addSynthetic {synthetic : List Reference}
    (tags : ∀ added ∈ synthetic, added.heritage ≠ none) :
    untagged name (addSynthetic references synthetic) = untagged name references := by
  induction synthetic using List.reverseRecOn with
  | nil => rfl
  | append_singleton earlier added ih =>
      have rest := ih fun other member => tags other (List.mem_append_left _ member)
      rw [addSynthetic_append_singleton]
      split
      · exact rest
      · have tag : added.heritage.isNone = false := by
          simpa [Option.isNone_eq_false_iff, Option.isSome_iff_ne_none] using
            tags added (List.mem_append_right _ (List.mem_singleton_self _))
        rw [untagged, List.countP_append, ← untagged, rest]
        simp [tag]

/-! ## Tags of a scope -/

namespace Draft

variable (draft : Draft) (ctx : Context)

/-- The references that the search finds in the scope. -/
def collected : List Reference :=
  ctx.collectReferences draft.places (draft.exclusions ctx) (draft.skip ++ draft.nameNode.toList)

/-- The number of references to a name that the search finds in the scope. -/
def usesFound (name : String) : Nat := (draft.collected ctx).countP (·.identifier == name)

/-- Somewhere in the scope an identifier or a member of the name is used, where the search comes
to. -/
def Uses (name : String) : Prop :=
  ∃ root ∈ draft.places,
    ctx.UsesMember (draft.skip ++ draft.nameNode.toList) root name ∨
      ctx.UsesName (draft.exclusions ctx) (draft.skip ++ draft.nameNode.toList) root name

variable {draft ctx}

theorem heritage_of_mem_collected {reference : Reference} (found : reference ∈ draft.collected ctx) :
    reference.heritage = none := by
  rw [collected, Context.collectReferences, sortReferences, List.mem_mergeSort] at found
  obtain ⟨_, _, place, _, found⟩ := Cursor.mem_explore_iff.mp (mem_of_mem_firstOccurrences found)
  exact untagged_of_mem_visit found

theorem not_tagged_collected : ¬Tagged name kind (draft.collected ctx) := by
  rintro ⟨reference, found, _, tag⟩
  rw [heritage_of_mem_collected found] at tag
  contradiction

theorem untagged_collected : untagged name (draft.collected ctx) = draft.usesFound ctx name := by
  refine List.countP_congr fun reference found => ?_
  simp [heritage_of_mem_collected found]

theorem usesFound_pos_iff : 0 < draft.usesFound ctx name ↔ draft.Uses ctx name := by
  rw [Uses, ← Context.mem_identifiers_explore, ← mem_identifiers_firstOccurrences,
    ← mem_identifiers_sortReferences, mem_identifiers_iff, usesFound, List.countP_pos_iff]
  simp only [beq_iff_eq]
  rfl

/-- A scope has the tag exactly if its draft adds it, or there are enough references for the types
of that name up to one of that kind. -/
theorem tagged_references_iff (tags : ∀ added ∈ draft.synthetic, added.heritage ≠ none) :
    Tagged name kind (draft.references ctx) ↔
      Tagged name kind draft.synthetic ∨
        kind ∈ (kindsOf name (listings draft.heritageClauses)).take (draft.usesFound ctx name) := by
  have sorted : Tagged name kind (draft.references ctx) ↔
      Tagged name kind (draft.heritageClauses.foldl tagClause
        (addSynthetic (draft.collected ctx) draft.synthetic)) := by
    simp only [Tagged, references, applyHeritage, sortReferences, List.mem_mergeSort, collected]
  rw [sorted, foldl_tagClause_eq, tagged_foldl_iff, tagged_addSynthetic_iff,
    untagged_addSynthetic tags, untagged_collected, or_iff_right not_tagged_collected]

/-- Why no reference to a listed name has the tag of its clause. -/
inductive Lost (draft : Draft) (ctx : Context) (name : String) (kind : HeritageKind) : Prop where
  /-- The search comes to no identifier and no member of that name. -/
  | unfound (unadded : ¬Tagged name kind draft.synthetic) (unused : ¬draft.Uses ctx name)
  /-- All references to the name have gone to types of that name that other clauses list. -/
  | taken (unadded : ¬Tagged name kind draft.synthetic) (used : draft.Uses ctx name)
      (others : kind ∉
        (kindsOf name (listings draft.heritageClauses)).take (draft.usesFound ctx name))

theorem tagged_iff_not_lost (tags : ∀ added ∈ draft.synthetic, added.heritage ≠ none) :
    Tagged name kind (draft.references ctx) ↔ ¬draft.Lost ctx name kind := by
  rw [tagged_references_iff tags]
  constructor
  · rintro (added | reached) (⟨unadded, unused⟩ | ⟨unadded, _, others⟩)
    · exact unadded added
    · exact unadded added
    · have none : draft.usesFound ctx name = 0 :=
        Nat.eq_zero_of_not_pos (mt usesFound_pos_iff.mp unused)
      rw [none, List.take_zero] at reached
      contradiction
    · exact others reached
  · intro kept
    by_contra missing
    rw [not_or] at missing
    by_cases used : draft.Uses ctx name
    · exact kept (.taken missing.1 used missing.2)
    · exact kept (.unfound missing.1 used)

end Draft

end ScopeAtlas.Extraction

namespace ScopeAtlas.Reading

open ScopeAtlas.Extraction ScopeAtlas.Language ScopeAtlas.Syntax

/-- Every reference that a draft adds has a tag. -/
theorem heritage_of_mem_synthetic (family : Family) (ctx : Context) :
    (strategyOf family).Drafts ctx fun draft =>
      ∀ added ∈ draft.synthetic, added.heritage ≠ none := by
  refine strategyOf_drafts_of_plain (fun draft none => ?_) ?_
  · rw [none]
    simp
  · rintro - place depth parent
    rw [Rust.readImplementation, everyDraft_scope_cons]
    refine ⟨?_, everyDraft_enterBody _ _ _⟩
    intro added member
    obtain ⟨trait, _, rfl⟩ := List.mem_map.mp member
    simp [Rust.traitReference]

/-- Each type that a clause of a scope lists has a reference of the scope that is tagged with the
clause, unless the search finds no use of its bare name, or earlier types of that name take all that
it finds. -/
theorem base_types_tagged_unless_lost (profile : Profile) (stack : StackLimit)
    (includeModuleScopes : Bool) (filePath language : String) (bytes : ByteArray) (tree : Node) :
    let strategy := strategyOf profile.family
    let ctx := prepare profile strategy stack filePath bytes (Cursor.root tree)
    let drafts := fileDrafts strategy ctx includeModuleScopes (Cursor.root tree)
    (analyze profile strategy stack includeModuleScopes filePath language bytes tree).scopes =
        sortScopes (drafts.map fun draft => draft.complete ctx strategy.packageName) ∧
      ∀ draft ∈ drafts, ∀ clause ∈ (draft.complete ctx strategy.packageName).heritageClauses,
        ∀ type ∈ clause.types,
          (∃ reference ∈ (draft.complete ctx strategy.packageName).references,
              reference.identifier = baseTypeName type ∧
                reference.heritage = some clause.clause) ↔
            ¬draft.Lost ctx (baseTypeName type) clause.clause := by
  intro strategy ctx drafts
  refine ⟨scopes_analyze profile strategy stack includeModuleScopes filePath language bytes tree, ?_⟩
  intro draft drafted clause _ type _
  exact Draft.tagged_iff_not_lost
    (of_mem_fileDrafts (heritage_of_mem_synthetic profile.family ctx)
      (fun _ _ _ _ added => absurd added List.not_mem_nil) drafted)

/-- The text of a record whose base is a qualified generic type. -/
def qualifiedBaseText : ByteArray := "struct A : ns::Box<User> \x7b\x7d;".toUTF8

/-- The tree of the record. -/
def qualifiedBaseTree : Node :=
  let node (index : Nat) (kind : String) (field : Option String) (start stop : Nat)
      (children : List Node) : Node :=
    .mk { index, kind, field, isNamed := true, isMissing := false, startByte := start,
          endByte := stop } children
  let argument := node 9 "type_descriptor" none 19 23 [node 10 "type_identifier" "type" 19 23 []]
  let generic := node 6 "template_type" "name" 15 24
    [node 7 "type_identifier" "name" 15 18 [],
      node 8 "template_argument_list" "arguments" 18 24 [argument]]
  let base := node 4 "qualified_identifier" none 11 24
    [node 5 "namespace_identifier" "scope" 11 13 [], generic]
  node 0 "translation_unit" none 0 28
    [node 1 "struct_specifier" none 0 27
      [node 2 "type_identifier" "name" 7 8 [], node 3 "base_class_clause" none 9 24 [base],
        node 11 "field_declaration_list" "body" 25 27 []]]

/-- The file of the record before its scopes are collected. -/
def qualifiedBaseContext : Context :=
  prepare cpp CFamily.cppStrategy .unlimited "a.cpp" qualifiedBaseText
    (Cursor.root qualifiedBaseTree)

/-- No reference of the record is tagged for its base, whose bare name is neither reserved nor built
in nor a name of the record itself. -/
theorem qualified_generic_base_untagged :
    ∃ draft ∈ fileDrafts CFamily.cppStrategy qualifiedBaseContext true
        (Cursor.root qualifiedBaseTree),
      ∃ clause ∈ draft.heritageClauses, ∃ type ∈ clause.types,
        baseTypeName type = "Box" ∧ "Box" ∉ cpp.stopWords ∧ "Box" ∉ cpp.builtins ∧
          "Box" ∉ draft.exclusions qualifiedBaseContext ∧
          ∀ reference ∈ (draft.complete qualifiedBaseContext
              CFamily.cppStrategy.packageName).references,
            ¬(reference.identifier = "Box" ∧ reference.heritage = some clause.clause) := by
  have found : ∃ draft ∈ fileDrafts CFamily.cppStrategy qualifiedBaseContext true
      (Cursor.root qualifiedBaseTree),
      ∃ clause ∈ draft.heritageClauses, ∃ type ∈ clause.types,
        baseTypeName type = "Box" ∧ "Box" ∉ draft.exclusions qualifiedBaseContext ∧
          ∀ reference ∈ draft.references qualifiedBaseContext,
            ¬(reference.identifier = "Box" ∧ reference.heritage = some clause.clause) := by
    decide +kernel
  obtain ⟨draft, drafted, clause, isClause, type, isListed, isBox, kept, untagged⟩ := found
  exact ⟨draft, drafted, clause, isClause, type, isListed, isBox, by decide, by decide, kept,
    untagged⟩

end ScopeAtlas.Reading
