import ScopeAtlas.Proofs.Extraction.Coverage
import ScopeAtlas.Proofs.Reading.Drafts

/-!
# References of a scope to its own names

A scope is not to refer to itself, to its parameters or to the receiver of its language.  The search
for references leaves these names out where it meets an identifier.  It does not where a member of
an access has the same name, and not in the reference that the implementation of a trait adds.  So
a scope refers to one of its own names exactly when it uses a member of that name or implements a
trait of that name.
-/

namespace ScopeAtlas.Extraction

open ScopeAtlas.Language ScopeAtlas.Syntax

/-! ## The identifiers of references -/

/-- The identifiers of references, in order. -/
def identifiers (references : List Reference) : List String := references.map (·.identifier)

theorem mem_identifiers_iff {references : List Reference} {name : String} :
    name ∈ identifiers references ↔ ∃ reference ∈ references, reference.identifier = name :=
  List.mem_map

theorem mem_identifiers_sortReferences {references : List Reference} {name : String} :
    name ∈ identifiers (sortReferences references) ↔ name ∈ identifiers references := by
  simp only [mem_identifiers_iff, sortReferences, List.mem_mergeSort]

theorem mem_identifiers_firstOccurrences {references : List Reference} {name : String} :
    name ∈ identifiers (firstOccurrences references) ↔ name ∈ identifiers references := by
  rw [mem_identifiers_iff, mem_identifiers_iff]
  constructor
  · rintro ⟨reference, kept, named⟩
    exact ⟨reference, mem_of_mem_firstOccurrences kept, named⟩
  · rintro ⟨reference, member, named⟩
    obtain ⟨kept, keptMem, sameName, _⟩ :=
      reportedAt_firstOccurrences ⟨reference, member, named, rfl, rfl⟩
    exact ⟨kept, keptMem, sameName⟩

/-- Tags change no identifier. -/
theorem identifiers_tagFirst (name : String) (kind : HeritageKind) (references : List Reference) :
    identifiers (tagFirst name kind references) = identifiers references := by
  induction references with
  | nil => rfl
  | cons reference rest ih =>
      rw [tagFirst]
      split
      · rfl
      · exact congrArg (reference.identifier :: ·) ih

theorem identifiers_tagClause (clause : HeritageClause) (references : List Reference) :
    identifiers (tagClause references clause) = identifiers references := by
  rw [tagClause]
  induction clause.types generalizing references with
  | nil => rfl
  | cons written rest ih => rw [List.foldl_cons, ih, identifiers_tagFirst]

theorem identifiers_foldl_tagClause (clauses : List HeritageClause) (references : List Reference) :
    identifiers (clauses.foldl tagClause references) = identifiers references := by
  induction clauses generalizing references with
  | nil => rfl
  | cons clause rest ih => rw [List.foldl_cons, ih, identifiers_tagClause]

theorem addSynthetic_append_singleton (references earlier : List Reference) (added : Reference) :
    addSynthetic references (earlier ++ [added]) =
      if (addSynthetic references earlier).any fun present =>
          present.identifier == added.identifier && present.heritage == added.heritage
      then addSynthetic references earlier
      else addSynthetic references earlier ++ [added] := by
  simp [addSynthetic]

theorem mem_identifiers_addSynthetic {references synthetic : List Reference} {name : String} :
    name ∈ identifiers (addSynthetic references synthetic) ↔
      name ∈ identifiers references ∨ name ∈ identifiers synthetic := by
  induction synthetic using List.reverseRecOn with
  | nil => simp [addSynthetic, identifiers]
  | append_singleton earlier added ih =>
      have listed : name ∈ identifiers (earlier ++ [added]) ↔
          name ∈ identifiers earlier ∨ name = added.identifier := by
        simp [identifiers]
      rw [addSynthetic_append_singleton, listed, ← or_assoc, ← ih]
      split
      · -- What is already there names the same.
        rename_i present
        obtain ⟨reference, member, same⟩ := List.any_eq_true.mp present
        simp only [Bool.and_eq_true, beq_iff_eq] at same
        constructor
        · exact Or.inl
        · rintro (member | rfl)
          · exact member
          · exact mem_identifiers_iff.mpr ⟨reference, member, same.1⟩
      · simp [identifiers]

/-- The identifiers of a scope are those that the search finds and those that the draft adds. -/
theorem mem_identifiers_references_iff (draft : Draft) (ctx : Context) (name : String) :
    name ∈ identifiers (draft.references ctx) ↔
      name ∈ identifiers (Cursor.explore (ctx.visitForReferences (draft.exclusions ctx)
        (draft.skip ++ draft.nameNode.toList)) draft.places) ∨
      name ∈ identifiers draft.synthetic := by
  rw [Draft.references, applyHeritage, mem_identifiers_sortReferences,
    identifiers_foldl_tagClause, mem_identifiers_addSynthetic, Context.collectReferences,
    mem_identifiers_sortReferences, mem_identifiers_firstOccurrences]

/-! ## Excluded names -/

namespace Context

/-- The search for references goes from the parent to the child: the parent is not left out, and
either the child is the object of a member access or the parent is neither an access nor a name. -/
def Searches (ctx : Context) (skip : List Cursor) (parent child : Cursor) : Prop :=
  child ∈ parent.children ∧ ctx.leftOut skip parent = false ∧
    match ctx.accessParts? parent with
    | some (object, _) => child.same object = true
    | none => ctx.nodes.isIdentifier parent.kind = false

/-- A member of the name is used at a place that the search comes to. -/
structure MemberUse (ctx : Context) (skip : List Cursor) (name : String)
    (access object member : Cursor) : Prop where
  shown : ctx.leftOut skip access = false
  parts : ctx.accessParts? access = some (object, member)
  spelled : ctx.text member = name
  nonempty : name ≠ ""
  free : name ∉ ctx.profile.stopWords
  /-- The first segment of the object is not the name of something built in. -/
  foreign : qualifierRoot (ctx.qualifierOf object) ∉ ctx.profile.builtins

/-- An identifier of the name is used at a place that the search comes to. -/
structure NameUse (ctx : Context) (exclusions : List String) (skip : List Cursor) (name : String)
    (place : Cursor) : Prop where
  shown : ctx.leftOut skip place = false
  noAccess : ctx.accessParts? place = none
  isName : ctx.nodes.isIdentifier place.kind = true
  spelled : ctx.text place = name
  nonempty : name ≠ ""
  free : name ∉ ctx.profile.stopWords
  kept : name ∉ exclusions
  isUse : isDefinition ctx.nodes place = false
  foreign : name ∈ ctx.profile.builtins → inTypePosition ctx.nodes place = true

/-- Below the root the search meets a use of an identifier of the name. -/
def UsesName (ctx : Context) (exclusions : List String) (skip : List Cursor) (root : Cursor)
    (name : String) : Prop :=
  ∃ place, Relation.ReflTransGen (ctx.Searches skip) root place ∧
    ctx.NameUse exclusions skip name place

/-- Below the root the search meets a use of a member of the name. -/
def UsesMember (ctx : Context) (skip : List Cursor) (root : Cursor) (name : String) : Prop :=
  ∃ access object member, Relation.ReflTransGen (ctx.Searches skip) root access ∧
    ctx.MemberUse skip name access object member

variable {ctx : Context} {skip : List Cursor} {exclusions : List String}

theorem enters_visitForReferences_iff {parent child : Cursor} :
    Cursor.Enters (ctx.visitForReferences exclusions skip) parent child ↔
      ctx.Searches skip parent child := by
  rw [Cursor.Enters, Searches, and_congr_right_iff]
  intro _
  cases shown : ctx.leftOut skip parent with
  | true =>
      rw [leftOut] at shown
      simp [visitForReferences, shown]
  | false =>
      cases parts : ctx.accessParts? parent with
      | some pair => simp [visit_of_access shown parts]
      | none =>
          by_cases isName : ctx.nodes.isIdentifier parent.kind = true
          · simp [visit_of_name shown parts isName, isName]
          · simp [visit_of_other shown parts isName, isName]

theorem mem_identifiers_memberReference?_iff {name : String} {object member : Cursor} :
    name ∈ identifiers (ctx.memberReference? object member).toList ↔
      ctx.text member = name ∧ name ≠ "" ∧ name ∉ ctx.profile.stopWords ∧
        qualifierRoot (ctx.qualifierOf object) ∉ ctx.profile.builtins := by
  rw [mem_identifiers_iff]
  simp only [Option.mem_toList, memberReference?]
  constructor
  · rintro ⟨reference, found, rfl⟩
    split at found
    · contradiction
    · rename_i kept
      obtain rfl := Option.some.inj found
      simp only [Bool.or_eq_true, not_or, List.contains_iff_mem, String.isEmpty_iff] at kept
      exact ⟨rfl, kept.1.1, kept.1.2, kept.2⟩
  · rintro ⟨rfl, nonempty, free, foreign⟩
    refine ⟨ctx.referenceAt member (ctx.text member) (ctx.qualifierOf object), ?_, rfl⟩
    simp [nonempty, free, foreign]

theorem mem_identifiers_identifierReference?_iff {name : String} {place : Cursor} :
    name ∈ identifiers (ctx.identifierReference? exclusions place).toList ↔
      ctx.text place = name ∧ name ≠ "" ∧ name ∉ ctx.profile.stopWords ∧ name ∉ exclusions ∧
        isDefinition ctx.nodes place = false ∧
        (name ∈ ctx.profile.builtins → inTypePosition ctx.nodes place = true) := by
  rw [mem_identifiers_iff]
  simp only [Option.mem_toList, identifierReference?]
  constructor
  · rintro ⟨reference, found, rfl⟩
    split at found
    · contradiction
    · rename_i kept
      split at found
      · contradiction
      · rename_i isUse
        split at found
        · contradiction
        · rename_i foreign
          obtain rfl := Option.some.inj found
          simp only [Bool.or_eq_true, not_or, List.contains_iff_mem, String.isEmpty_iff] at kept
          have typed : ctx.text place ∈ ctx.profile.builtins →
              inTypePosition ctx.nodes place = true := by
            simpa using foreign
          exact ⟨rfl, kept.1.1, kept.1.2, kept.2, Bool.eq_false_iff.mpr isUse, typed⟩
  · rintro ⟨rfl, nonempty, free, kept, isUse, foreign⟩
    refine ⟨ctx.referenceAt place (ctx.text place) none, ?_, rfl⟩
    have sought : ¬(ctx.profile.builtins.contains (ctx.text place) &&
        !inTypePosition ctx.nodes place) = true := by
      simpa using foreign
    simp only [isUse, if_neg sought]
    simp [nonempty, free, kept]

/-- What the search finds at a place is a use of a member or of an identifier. -/
theorem mem_identifiers_visit {name : String} (place : Cursor) :
    name ∈ identifiers (ctx.visitForReferences exclusions skip place).1 ↔
      (∃ object member, ctx.MemberUse skip name place object member) ∨
        ctx.NameUse exclusions skip name place := by
  cases shown : ctx.leftOut skip place with
  | true =>
      refine iff_of_false ?_ ?_
      · rw [leftOut] at shown
        simp [visitForReferences, shown, identifiers]
      · rintro (⟨_, _, use⟩ | use) <;> · rw [use.shown] at shown; contradiction
  | false =>
      cases parts : ctx.accessParts? place with
      | some pair =>
          obtain ⟨object, member⟩ := pair
          rw [visit_of_access shown parts, mem_identifiers_memberReference?_iff]
          constructor
          · rintro ⟨spelled, nonempty, free, foreign⟩
            exact Or.inl ⟨object, member, shown, parts, spelled, nonempty, free, foreign⟩
          · rintro (⟨other, used, use⟩ | use)
            · obtain ⟨rfl, rfl⟩ := Prod.mk.inj (Option.some.inj (parts.symm.trans use.parts))
              exact ⟨use.spelled, use.nonempty, use.free, use.foreign⟩
            · rw [use.noAccess] at parts
              contradiction
      | none =>
          have noMember : ¬∃ object member, ctx.MemberUse skip name place object member := by
            rintro ⟨object, member, use⟩
            rw [use.parts] at parts
            contradiction
          rw [or_iff_right noMember]
          by_cases isName : ctx.nodes.isIdentifier place.kind = true
          · rw [visit_of_name shown parts isName, mem_identifiers_identifierReference?_iff]
            constructor
            · rintro ⟨spelled, nonempty, free, kept, isUse, foreign⟩
              exact ⟨shown, parts, isName, spelled, nonempty, free, kept, isUse, foreign⟩
            · intro use
              exact ⟨use.spelled, use.nonempty, use.free, use.kept, use.isUse, use.foreign⟩
          · rw [visit_of_other shown parts isName]
            exact iff_of_false (by simp [identifiers]) fun use => isName use.isName

/-- The search finds a name exactly where an identifier or a member of that name is used. -/
theorem mem_identifiers_explore {name : String} {roots : List Cursor} :
    name ∈ identifiers (Cursor.explore (ctx.visitForReferences exclusions skip) roots) ↔
      ∃ root ∈ roots, ctx.UsesMember skip root name ∨ ctx.UsesName exclusions skip root name := by
  have enters : Cursor.Enters (ctx.visitForReferences exclusions skip) = ctx.Searches skip := by
    funext parent child
    exact propext enters_visitForReferences_iff
  simp only [mem_identifiers_iff, Cursor.mem_explore_iff, enters]
  constructor
  · rintro ⟨reference, ⟨root, rootMem, place, way, found⟩, named⟩
    refine ⟨root, rootMem, ?_⟩
    rcases (mem_identifiers_visit place).mp (mem_identifiers_iff.mpr ⟨reference, found, named⟩) with
      ⟨object, member, use⟩ | use
    · exact Or.inl ⟨place, object, member, way, use⟩
    · exact Or.inr ⟨place, way, use⟩
  · rintro ⟨root, rootMem, ⟨place, object, member, way, use⟩ | ⟨place, way, use⟩⟩
    · obtain ⟨reference, found, named⟩ := mem_identifiers_iff.mp
        ((mem_identifiers_visit place).mpr (Or.inl ⟨object, member, use⟩))
      exact ⟨reference, ⟨root, rootMem, place, way, found⟩, named⟩
    · obtain ⟨reference, found, named⟩ := mem_identifiers_iff.mp
        ((mem_identifiers_visit place).mpr (Or.inr use))
      exact ⟨reference, ⟨root, rootMem, place, way, found⟩, named⟩

/-- The search finds an excluded name exactly where a member of that name is used. -/
theorem mem_identifiers_explore_iff {name : String} (excluded : name ∈ exclusions)
    {roots : List Cursor} :
    name ∈ identifiers (Cursor.explore (ctx.visitForReferences exclusions skip) roots) ↔
      ∃ root ∈ roots, ctx.UsesMember skip root name := by
  rw [mem_identifiers_explore]
  refine exists_congr fun root => and_congr_right fun _ => or_iff_left ?_
  rintro ⟨_, _, use⟩
  exact use.kept excluded

end Context

/-- The local symbols of a root are the names of the identifiers in defining positions within it. -/
theorem Context.mem_localSymbols_iff {ctx : Context} {root : Cursor} {name : String} :
    name ∈ ctx.localSymbols root ↔ ∃ place, root.Within place ∧
      ctx.nodes.isIdentifier place.kind = true ∧ isDefinition ctx.nodes place = true ∧
      ctx.text place = name := by
  simp only [localSymbols, definitionsIn, List.mem_map, List.mem_filter, Cursor.mem_preorder_iff,
    Bool.and_eq_true, and_assoc]

/-- Names that a scope is not to refer to: its own, those of its parameters, and the receivers of its
language. -/
def Draft.ownNames (draft : Draft) (ctx : Context) : List String :=
  draft.name :: draft.parameters.map (·.name) ++ ctx.profile.receivers

theorem Draft.ownNames_subset_exclusions (draft : Draft) (ctx : Context) :
    draft.ownNames ctx ⊆ draft.exclusions ctx := by
  intro name
  simp only [ownNames, exclusions, List.mem_cons, List.mem_append]
  tauto

theorem Draft.mem_exclusions_iff {draft : Draft} {ctx : Context} {name : String} :
    name ∈ draft.exclusions ctx ↔ name ∈ draft.ownNames ctx ∨ name ∈ draft.exclude ∨
      ∃ root ∈ draft.places, name ∈ ctx.localSymbols root := by
  simp only [exclusions, ownNames, List.mem_cons, List.mem_append, List.mem_flatMap]
  tauto

/-- A scope that adds no reference refers to an excluded name exactly if it uses a member of that
name. -/
theorem Draft.refers_iff_usesMember {draft : Draft} {ctx : Context} {name : String}
    (noSynthetic : draft.synthetic = []) (excluded : name ∈ draft.exclusions ctx) :
    (∃ reference ∈ draft.references ctx, reference.identifier = name) ↔
      ∃ root ∈ draft.places, ctx.UsesMember (draft.skip ++ draft.nameNode.toList) root name := by
  have none : name ∉ identifiers draft.synthetic := by simp [noSynthetic, identifiers]
  rw [← mem_identifiers_iff, mem_identifiers_references_iff, or_iff_left none,
    Context.mem_identifiers_explore_iff excluded]

end ScopeAtlas.Extraction

namespace ScopeAtlas.Reading

open ScopeAtlas.Extraction ScopeAtlas.Language ScopeAtlas.Syntax

/-- The draft adds references for the traits of a Rust implementation only, each to the bare name of
the trait. -/
def AddsTraitsOnly (family : Family) (ctx : Context) (draft : Draft) : Prop :=
  ∀ reference ∈ draft.synthetic, family = .rust ∧
    ∃ trait, draft.place.childByField? "trait" = some trait ∧
      reference.identifier = baseTypeName (ctx.text trait)

theorem strategyOf_addsTraitsOnly (family : Family) (ctx : Context) :
    (strategyOf family).Drafts ctx (AddsTraitsOnly family ctx) := by
  refine strategyOf_drafts_of_plain (fun draft none reference added => ?_) ?_
  · rw [none] at added
    contradiction
  · rintro rfl place depth parent
    rw [Rust.readImplementation, everyDraft_scope_cons]
    refine ⟨?_, everyDraft_enterBody _ _ _⟩
    intro reference member
    obtain ⟨trait, found, rfl⟩ := List.mem_map.mp member
    exact ⟨rfl, trait, Option.mem_toList.mp found, rfl⟩

/-- The scopes of a file complete its drafts.  A scope refers to one of its own names exactly when a
member of that name is used in it, where the search for references comes to, or it adds a reference
of that name; and only the implementation of a trait adds one, to the bare name of the trait. -/
theorem own_names_referenced_only_as_member_or_trait (profile : Profile)
    (stack : StackLimit) (includeModuleScopes : Bool) (filePath language : String)
    (bytes : ByteArray) (tree : Node) :
    let strategy := strategyOf profile.family
    let ctx := prepare profile strategy stack filePath bytes (Cursor.root tree)
    let drafts := fileDrafts strategy ctx includeModuleScopes (Cursor.root tree)
    (analyze profile strategy stack includeModuleScopes filePath language bytes tree).scopes =
        sortScopes (drafts.map fun draft => draft.complete ctx strategy.packageName) ∧
      ∀ draft ∈ drafts,
        (∀ name ∈ draft.ownNames ctx,
          ((∃ reference ∈ (draft.complete ctx strategy.packageName).references,
              reference.identifier = name) ↔
            (∃ root ∈ draft.places,
              ctx.UsesMember (draft.skip ++ draft.nameNode.toList) root name) ∨
            ∃ reference ∈ draft.synthetic, reference.identifier = name)) ∧
        AddsTraitsOnly profile.family ctx draft := by
  intro strategy ctx drafts
  refine ⟨scopes_analyze profile strategy stack includeModuleScopes filePath language bytes tree, ?_⟩
  intro draft member
  constructor
  · intro name own
    have excluded := draft.ownNames_subset_exclusions ctx own
    have found := mem_identifiers_references_iff draft ctx name
    rw [Context.mem_identifiers_explore_iff excluded, mem_identifiers_iff, mem_identifiers_iff]
      at found
    exact found
  · refine of_mem_fileDrafts (strategyOf_addsTraitsOnly profile.family ctx) ?_ member
    intro number first later reference added
    contradiction

/-- The text of a function that reads members of its own name, of the name of a parameter and of the
name of a receiver. -/
def sharedNamesText : ByteArray :=
  "def total(repo, item):\n    return item.total + repo.item + item.cls\n".toUTF8

/-- The tree of the function. -/
def sharedNamesTree : Node :=
  let node (index : Nat) (kind : String) (field : Option String) (start stop : Nat)
      (children : List Node) : Node :=
    .mk { index, kind, field, isNamed := true, isMissing := false, startByte := start,
          endByte := stop } children
  let access (index : Nat) (field : Option String) (start dot stop : Nat) : Node :=
    node index "attribute" field start stop
      [node (index + 1) "identifier" "object" start dot [],
        node (index + 2) "identifier" "attribute" (dot + 1) stop []]
  let sum := node 9 "binary_operator" "left" 34 56
    [access 10 "left" 34 38 44, access 13 "right" 47 51 56]
  let body := node 6 "block" "body" 27 67
    [node 7 "return_statement" none 27 67
      [node 8 "binary_operator" none 34 67 [sum, access 16 "right" 59 63 67]]]
  let list := node 3 "parameters" "parameters" 9 21
    [node 4 "identifier" none 10 14 [], node 5 "identifier" none 16 20 []]
  node 0 "module" none 0 68
    [node 1 "function_definition" none 0 67 [node 2 "identifier" "name" 4 9 [], list, body]]

/-- The text of an implementation of a trait for a type of the same name. -/
def homonymText : ByteArray := "impl fmt::Display for Display \x7b\x7d".toUTF8

/-- The tree of the implementation. -/
def homonymTree : Node :=
  let node (index : Nat) (kind : String) (field : Option String) (start stop : Nat)
      (children : List Node) : Node :=
    .mk { index, kind, field, isNamed := true, isMissing := false, startByte := start,
          endByte := stop } children
  let trait := node 2 "scoped_type_identifier" "trait" 5 17
    [node 3 "identifier" "path" 5 8 [], node 4 "type_identifier" "name" 10 17 []]
  node 0 "source_file" none 0 32
    [node 1 "impl_item" none 0 32
      [trait, node 5 "type_identifier" "type" 22 29 [], node 6 "declaration_list" "body" 30 32 []]]

/-- The file of the function before its scopes are collected. -/
def sharedNamesContext : Context :=
  prepare python Python.strategy .unlimited "m.py" sharedNamesText (Cursor.root sharedNamesTree)

/-- The file of the implementation before its scopes are collected. -/
def homonymContext : Context :=
  prepare rust Rust.strategy .unlimited "m.rs" homonymText (Cursor.root homonymTree)

/-- The function refers to its own name, to a parameter and to a receiver, and the implementation to
its own name. -/
theorem own_names_referenced :
    (∃ scope ∈ (analyze python Python.strategy .unlimited true "m.py" "python" sharedNamesText
        sharedNamesTree).scopes,
      scope.name = "total" ∧ scope.parameters.map (·.name) = ["repo", "item"] ∧
        "cls" ∈ python.receivers ∧
        ∀ name ∈ ["total", "item", "cls"], ∃ reference ∈ scope.references,
          reference.identifier = name) ∧
      ∃ scope ∈ (analyze rust Rust.strategy .unlimited true "m.rs" "rust" homonymText
          homonymTree).scopes,
        ∃ reference ∈ scope.references, reference.identifier = scope.name := by
  have function : ∃ draft ∈ fileDrafts Python.strategy sharedNamesContext true
      (Cursor.root sharedNamesTree),
      draft.name = "total" ∧ draft.parameters.map (·.name) = ["repo", "item"] ∧
        "cls" ∈ python.receivers ∧
        ∀ name ∈ ["total", "item", "cls"],
          name ∈ identifiers (Cursor.explore (sharedNamesContext.visitForReferences
            (draft.exclusions sharedNamesContext) (draft.skip ++ draft.nameNode.toList))
              draft.places) := by
    decide +kernel
  have implementation : ∃ draft ∈ fileDrafts Rust.strategy homonymContext true
      (Cursor.root homonymTree), draft.name ∈ identifiers draft.synthetic := by
    decide +kernel
  obtain ⟨first, firstMem, isTotal, parameters, receiver, found⟩ := function
  obtain ⟨second, secondMem, added⟩ := implementation
  refine ⟨⟨_, mem_scopes_analyze_iff.mpr ⟨first, firstMem, rfl⟩, isTotal, parameters, receiver, ?_⟩,
    _, mem_scopes_analyze_iff.mpr ⟨second, secondMem, rfl⟩, ?_⟩
  · intro name listed
    exact mem_identifiers_iff.mp
      ((mem_identifiers_references_iff first sharedNamesContext name).mpr (Or.inl (found name listed)))
  · exact mem_identifiers_iff.mp
      ((mem_identifiers_references_iff second homonymContext second.name).mpr (Or.inr added))

end ScopeAtlas.Reading
