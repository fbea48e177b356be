import ScopeAtlas.Proofs.FirstOccurrence
import ScopeAtlas.Proofs.Graph.Emission
import ScopeAtlas.Proofs.Reading.Drafts

/-!
# When a use counts as an inheritance

A reference counts as an inheritance by its tag, by the clauses of its scope, or by the text of
its line, the first of these that has something to say.  The first two follow what the scope
declares.  The third is stated here as what it is, a condition on a line of text: a keyword and,
after it and before any opening brace, the name.  A type bound and a remark satisfy it as well as a
base type does, and such a use then yields an edge of inheritance that no clause of the scope
declares.  In a project that was extracted from source, nothing else does.
-/

namespace ScopeAtlas.Graph

open ScopeAtlas.Data ScopeAtlas.Extraction ScopeAtlas.Text

/-! ## Words in a line -/

/-- A word begins or ends where the two parts of a text meet. -/
def Boundary (before after : List Char) : Prop := isBoundary before.getLast? after.head? = true

/-- The text holds the keyword and, later and with no opening brace in between, the name, both as
whole words. -/
def NameAfter (keyword name text : List Char) : Prop :=
  ∃ start middle rest, text = start ++ keyword ++ middle ++ name ++ rest ∧ '\x7b' ∉ middle ∧
    Boundary start (keyword ++ middle ++ name ++ rest) ∧
    Boundary (start ++ keyword) (middle ++ name ++ rest) ∧
    Boundary (start ++ keyword ++ middle) (name ++ rest) ∧
    Boundary (start ++ keyword ++ middle ++ name) rest

/-- The last character before and including a word. -/
theorem getLast?_append_word (passed word : List Char) :
    (passed ++ word).getLast? = if word.isEmpty then passed.getLast? else word.getLast? := by
  cases word with
  | nil => simp
  | cons c rest =>
      rw [List.getLast?_append, List.getLast?_cons]
      rfl

theorem wordHere_iff (word passed text : List Char) :
    wordHere word passed.getLast? text = true ↔
      ∃ rest, text = word ++ rest ∧ Boundary passed (word ++ rest) ∧
        Boundary (passed ++ word) rest := by
  simp only [wordHere, Bool.and_eq_true, List.isPrefixOf_iff_prefix, Boundary,
    getLast?_append_word]
  constructor
  · rintro ⟨⟨⟨rest, rfl⟩, begins⟩, ends⟩
    rw [List.drop_left] at ends
    exact ⟨rest, rfl, begins, ends⟩
  · rintro ⟨rest, rfl, begins, ends⟩
    rw [List.drop_left]
    exact ⟨⟨⟨rest, rfl⟩, begins⟩, ends⟩

theorem wordAhead_iff (word passed text : List Char) :
    wordAhead word passed.getLast? text = true ↔
      ∃ middle rest, text = middle ++ word ++ rest ∧ '\x7b' ∉ middle ∧
        Boundary (passed ++ middle) (word ++ rest) ∧
        Boundary (passed ++ middle ++ word) rest := by
  -- The text is walked with what was passed at hand; the word stands here or further on.
  induction text generalizing passed with
  | nil =>
      rw [wordAhead, wordHere_iff]
      constructor
      · rintro ⟨rest, split, begins, ends⟩
        exact ⟨[], rest, by simpa using split, by simp, by simpa using begins, by simpa using ends⟩
      · rintro ⟨middle, rest, split, _, begins, ends⟩
        obtain ⟨rfl, rfl, rfl⟩ : middle = [] ∧ word = [] ∧ rest = [] := by
          simpa using split.symm
        exact ⟨[], rfl, by simpa using begins, by simpa using ends⟩
  | cons c text ih =>
      have further := ih (passed ++ [c])
      rw [List.getLast?_concat] at further
      rw [wordAhead, Bool.or_eq_true, wordHere_iff, Bool.and_eq_true, further, bne_iff_ne]
      constructor
      · rintro (⟨rest, split, begins, ends⟩ | ⟨noBrace, middle, rest, rfl, free, begins, ends⟩)
        · exact ⟨[], rest, by simpa using split, by simp, by simpa using begins,
            by simpa using ends⟩
        · refine ⟨c :: middle, rest, by simp, ?_, by simpa using begins, by simpa using ends⟩
          rw [List.mem_cons, not_or]
          exact ⟨Ne.symm noBrace, free⟩
      · rintro ⟨middle, rest, split, free, begins, ends⟩
        cases middle with
        | nil =>
            exact Or.inl ⟨rest, by simpa using split, by simpa using begins, by simpa using ends⟩
        | cons first middle =>
            obtain ⟨rfl, rfl⟩ := List.cons.inj split
            rw [List.mem_cons, not_or] at free
            exact Or.inr ⟨Ne.symm free.1, middle, rest, rfl, free.2, by simpa using begins,
              by simpa using ends⟩

theorem keywordBefore_iff {keyword : List Char} (nonempty : keyword ≠ [])
    (name passed text : List Char) :
    keywordBefore keyword name passed.getLast? text = true ↔
      ∃ start middle rest, text = start ++ keyword ++ middle ++ name ++ rest ∧ '\x7b' ∉ middle ∧
        Boundary (passed ++ start) (keyword ++ middle ++ name ++ rest) ∧
        Boundary (passed ++ start ++ keyword) (middle ++ name ++ rest) ∧
        Boundary (passed ++ start ++ keyword ++ middle) (name ++ rest) ∧
        Boundary (passed ++ start ++ keyword ++ middle ++ name) rest := by
  induction text generalizing passed with
  | nil => simp [keywordBefore, nonempty]
  | cons c text ih =>
      have further := ih (passed ++ [c])
      rw [List.getLast?_concat] at further
      -- After a keyword only the keyword can decide whether the name begins a word.
      have lastOfKeyword : keyword.getLast? = (passed ++ keyword).getLast? := by
        rw [getLast?_append_word, if_neg (by simpa using nonempty)]
      rw [keywordBefore, Bool.or_eq_true, Bool.and_eq_true, wordHere_iff, further, lastOfKeyword,
        wordAhead_iff]
      constructor
      · rintro (⟨⟨tail, split, begins, ends⟩, middle, rest, after, free, nameBegins, nameEnds⟩ |
          ⟨start, middle, rest, rfl, free, keywordBegins, keywordEnds, nameBegins, nameEnds⟩)
        · rw [split, List.drop_left] at after
          subst tail
          exact ⟨[], middle, rest, by simpa using split, free, by simpa using begins,
            by simpa using ends, by simpa using nameBegins, by simpa using nameEnds⟩
        · exact ⟨c :: start, middle, rest, by simp, free, by simpa using keywordBegins,
            by simpa using keywordEnds, by simpa using nameBegins, by simpa using nameEnds⟩
      · rintro ⟨start, middle, rest, split, free, keywordBegins, keywordEnds, nameBegins, nameEnds⟩
        cases start with
        | nil =>
            refine Or.inl ⟨⟨middle ++ name ++ rest, by simpa using split,
              by simpa using keywordBegins, by simpa using keywordEnds⟩, middle, rest, ?_, free,
              by simpa using nameBegins, by simpa using nameEnds⟩
            have whole : c :: text = keyword ++ (middle ++ name ++ rest) := by simpa using split
            rw [whole, List.drop_left]
        | cons first start =>
            obtain ⟨rfl, rfl⟩ := List.cons.inj split
            exact Or.inr ⟨start, middle, rest, rfl, free, by simpa using keywordBegins,
              by simpa using keywordEnds, by simpa using nameBegins, by simpa using nameEnds⟩

/-- The line of a reference reads like an inheritance of a kind: its name stands after the keyword
of the kind. -/
theorem readsLike_iff (kind : HeritageKind) (nonempty : kind.label.toList ≠ [])
    (reference : Reference) :
    readsLike kind reference = true ↔
      NameAfter kind.label.toList reference.identifier.toList reference.context.toList := by
  have searched :=
    keywordBefore_iff nonempty reference.identifier.toList [] reference.context.toList
  simpa [readsLike, NameAfter] using searched

/-! ## What counts as an inheritance -/

/-- The clause lists a type whose bare name is the given one. -/
def Names (clause : HeritageClause) (name : String) : Prop :=
  ∃ type ∈ clause.types, baseTypeName type = name

theorem lists_iff (clause : HeritageClause) (name : String) :
    HeritageClause.lists clause name = true ↔ Names clause name := by
  simp [HeritageClause.lists, Names]

/-- The scope declares that it builds on a type of the name in the given way. -/
def Declares (scope : Scope) (kind : HeritageKind) (name : String) : Prop :=
  ∃ clause ∈ scope.heritageClauses, clause.clause = kind ∧ Names clause name

/-- The line of a reference reads like an inheritance; extending is looked for first. -/
inductive ReadsAs (reference : Reference) : HeritageKind → Prop where
  | extending (line : NameAfter "extends".toList reference.identifier.toList
      reference.context.toList) : ReadsAs reference .extending
  | implementing (noExtends : ¬NameAfter "extends".toList reference.identifier.toList
      reference.context.toList)
      (line : NameAfter "implements".toList reference.identifier.toList
        reference.context.toList) : ReadsAs reference .implementing

/-- The ways in which a reference of a scope counts as an inheritance: it is tagged as one; or else
the first clause that lists its name says which; or else its line reads like one. -/
inductive CountsAs (scope : Scope) (reference : Reference) : HeritageKind → Prop where
  | tagged {kind : HeritageKind} (tag : reference.heritage = some kind) :
      CountsAs scope reference kind
  | listed {clause : HeritageClause} (untagged : reference.heritage = none)
      (first : FirstWith (Names · reference.identifier) scope.heritageClauses clause) :
      CountsAs scope reference clause.clause
  | read {kind : HeritageKind} (untagged : reference.heritage = none)
      (unlisted : ∀ clause ∈ scope.heritageClauses, ¬Names clause reference.identifier)
      (reads : ReadsAs reference kind) : CountsAs scope reference kind

theorem heritageRelation?_inj {first second : HeritageKind} {relation : Relation}
    (one : heritageRelation? first = some relation)
    (other : heritageRelation? second = some relation) : first = second := by
  have same := one.trans other.symm
  cases first with
  | extending => cases second <;> simp [heritageRelation?] at same ⊢
  | implementing => cases second <;> simp [heritageRelation?] at same ⊢
  | other label => contradiction

/-- A tag alone decides. -/
theorem countsAs_iff_of_tagged {scope : Scope} {reference : Reference} {tag : HeritageKind}
    (tagged : reference.heritage = some tag) (kind : HeritageKind) :
    CountsAs scope reference kind ↔ kind = tag := by
  constructor
  · intro counts
    cases counts with
    | tagged other => exact Option.some.inj (other.symm.trans tagged)
    | listed untagged => rw [tagged] at untagged; contradiction
    | read untagged => rw [tagged] at untagged; contradiction
  · rintro rfl
    exact .tagged tagged

/-- Without a tag the first clause that lists the name decides. -/
theorem countsAs_iff_of_listed {scope : Scope} {reference : Reference} {clause : HeritageClause}
    (untagged : reference.heritage = none)
    (found :
      scope.heritageClauses.find? (HeritageClause.lists · reference.identifier) = some clause)
    (kind : HeritageKind) : CountsAs scope reference kind ↔ kind = clause.clause := by
  have first : ∀ other, scope.heritageClauses.find? (HeritageClause.lists · reference.identifier) =
      some other ↔ FirstWith (Names · reference.identifier) scope.heritageClauses other := by
    intro other
    rw [find?_eq_some_iff_firstWith]
    simp only [lists_iff]
  constructor
  · intro counts
    cases counts with
    | tagged tag => rw [untagged] at tag; contradiction
    | listed _ other =>
        rw [Option.some.inj (found.symm.trans ((first _).mpr other))]
    | read _ unlisted =>
        have lists := List.find?_some found
        exact absurd ((lists_iff _ _).mp lists) (unlisted _ (List.mem_of_find?_eq_some found))
  · rintro rfl
    exact .listed untagged ((first clause).mp found)

/-- Without a tag and a clause the line decides. -/
theorem countsAs_iff_of_unlisted {scope : Scope} {reference : Reference}
    (untagged : reference.heritage = none)
    (unlisted : ∀ clause ∈ scope.heritageClauses, ¬Names clause reference.identifier)
    (kind : HeritageKind) : CountsAs scope reference kind ↔ ReadsAs reference kind := by
  constructor
  · intro counts
    cases counts with
    | tagged tag => rw [untagged] at tag; contradiction
    | listed _ first =>
        obtain ⟨clause, member, names⟩ := (exists_firstWith_iff _ _).mp ⟨_, first⟩
        exact absurd names (unlisted clause member)
    | read _ _ reads => exact reads
  · intro reads
    exact .read untagged unlisted reads

/-- The relation of a reference whose name no clause lists, by the text of its line. -/
theorem relationOf?_of_unlisted {scope : Scope} {reference : Reference} {relation : Relation}
    (untagged : reference.heritage = none)
    (absent : scope.heritageClauses.find? (HeritageClause.lists · reference.identifier) = none)
    (known : relationOf? scope reference = some relation) :
    (relation = .consumes ∧ ∀ kind, ¬ReadsAs reference kind) ∨
      ∃ kind, heritageRelation? kind = some relation ∧
        ∀ other, ReadsAs reference other ↔ other = kind := by
  have readsExtends : readsLike .extending reference = true ↔ NameAfter "extends".toList
      reference.identifier.toList reference.context.toList :=
    readsLike_iff .extending (by decide) reference
  have readsImplements : readsLike .implementing reference = true ↔ NameAfter "implements".toList
      reference.identifier.toList reference.context.toList :=
    readsLike_iff .implementing (by decide) reference
  simp only [relationOf?, untagged, absent] at known
  split at known
  · rename_i line
    rw [readsExtends] at line
    refine Or.inr ⟨.extending, known, ?_⟩
    intro other
    constructor
    · rintro (_ | ⟨noExtends, _⟩)
      · rfl
      · exact absurd line noExtends
    · rintro rfl
      exact .extending line
  · rename_i noExtends
    rw [readsExtends] at noExtends
    split at known
    · rename_i line
      rw [readsImplements] at line
      refine Or.inr ⟨.implementing, known, ?_⟩
      intro other
      constructor
      · rintro (⟨line⟩ | _)
        · exact absurd line noExtends
        · rfl
      · rintro rfl
        exact .implementing noExtends line
    · rename_i noImplements
      rw [readsImplements] at noImplements
      refine Or.inl ⟨(Option.some.inj known).symm, ?_⟩
      rintro kind (⟨line⟩ | ⟨_, line⟩)
      · exact noExtends line
      · exact noImplements line

/-- The relation of a reference is a mere use when it counts as no inheritance, and otherwise that
of the one kind as which it counts. -/
theorem relationOf?_countsAs {scope : Scope} {reference : Reference} {relation : Relation}
    (known : relationOf? scope reference = some relation) :
    (relation = .consumes ∧ ∀ kind, ¬CountsAs scope reference kind) ∨
      ∃ kind, heritageRelation? kind = some relation ∧
        ∀ other, CountsAs scope reference other ↔ other = kind := by
  cases heritage : reference.heritage with
  | some tag =>
      refine Or.inr ⟨tag, ?_, countsAs_iff_of_tagged heritage⟩
      simpa [relationOf?, heritage] using known
  | none =>
      cases found :
          scope.heritageClauses.find? (HeritageClause.lists · reference.identifier) with
      | some clause =>
          refine Or.inr ⟨clause.clause, ?_, countsAs_iff_of_listed heritage found⟩
          simpa [relationOf?, heritage, found] using known
      | none =>
          have unlisted : ∀ clause ∈ scope.heritageClauses,
              ¬Names clause reference.identifier := by
            intro clause member names
            exact List.find?_eq_none.mp found clause member ((lists_iff _ _).mpr names)
          simp only [countsAs_iff_of_unlisted heritage unlisted]
          exact relationOf?_of_unlisted heritage found known

/-! ## What is declared -/

/-- The reference is not tagged, no clause of the scope lists its name, and its line reads like an
inheritance all the same. -/
def Misread (scope : Scope) (reference : Reference) (kind : HeritageKind) : Prop :=
  reference.heritage = none ∧
    (∀ clause ∈ scope.heritageClauses, ¬Names clause reference.identifier) ∧
    ReadsAs reference kind

/-- No clause of the scope stands behind the inheritance: either the reference is tagged, and no
clause of the kind lists its name, or it is misread. -/
def Unbacked (scope : Scope) (reference : Reference) (kind : HeritageKind) : Prop :=
  (reference.heritage = some kind ∧ ¬Declares scope kind reference.identifier) ∨
    Misread scope reference kind

theorem Unbacked.countsAs {scope : Scope} {reference : Reference} {kind : HeritageKind}
    (unbacked : Unbacked scope reference kind) : CountsAs scope reference kind := by
  rcases unbacked with ⟨tag, _⟩ | ⟨untagged, unlisted, reads⟩
  · exact .tagged tag
  · exact .read untagged unlisted reads

theorem CountsAs.declares_iff {scope : Scope} {reference : Reference} {kind : HeritageKind}
    (counts : CountsAs scope reference kind) :
    Declares scope kind reference.identifier ↔ ¬Unbacked scope reference kind := by
  cases counts with
  | tagged tag => simp [Unbacked, Misread, tag]
  | @listed clause untagged first =>
      obtain ⟨before, after, split, names, _⟩ := first
      have member : clause ∈ scope.heritageClauses := by simp [split]
      constructor
      · rintro _ (⟨tag, _⟩ | ⟨_, unlisted, _⟩)
        · rw [untagged] at tag
          contradiction
        · exact unlisted clause member names
      · intro _
        exact ⟨clause, member, rfl, names⟩
  | read untagged unlisted reads =>
      constructor
      · rintro ⟨clause, member, _, names⟩
        exact absurd names (unlisted clause member)
      · intro backed
        exact absurd (Or.inr ⟨untagged, unlisted, reads⟩) backed

/-! ## Extracted projects -/

/-- The file is what extraction gives for some source and its tree. -/
def Extracted (file : FileAnalysis) : Prop :=
  ∃ registry stack includeModuleScopes path language bytes tree,
    extractTree registry stack includeModuleScopes path language bytes tree = .ok file

/-- Classification changes neither the name nor the tag of a reference. -/
theorem Fate.keeps_name_and_tag {fate : Fate} {reference kept : Reference}
    (applied : fate.apply reference = some kept) :
    kept.identifier = reference.identifier ∧ kept.heritage = reference.heritage := by
  cases fate with
  | usesImport binding isLocal =>
      obtain rfl := Option.some.inj applied
      exact ⟨rfl, rfl⟩
  | namesScope target =>
      obtain rfl := Option.some.inj applied
      exact ⟨rfl, rfl⟩
  | isBuiltin => contradiction
  | isUnknown =>
      obtain rfl := Option.some.inj applied
      exact ⟨rfl, rfl⟩

/-- In a project of extracted files every tag is declared. -/
theorem declares_of_extracted {locators : Locators} {analyses : List FileAnalysis}
    (extracted : ∀ file ∈ analyses, Extracted file) {file : FileAnalysis} {scope : Scope}
    {reference : Reference} {kind : HeritageKind} (fileMem : file ∈ classify locators analyses)
    (scopeMem : scope ∈ file.scopes) (referenceMem : reference ∈ scope.references)
    (tag : reference.heritage = some kind) : Declares scope kind reference.identifier := by
  obtain ⟨original, originalMem, rfl⟩ := List.mem_map.mp fileMem
  obtain ⟨found, foundMem, rfl⟩ := List.mem_map.mp scopeMem
  obtain ⟨collected, collectedMem, applied⟩ := List.mem_filterMap.mp referenceMem
  obtain ⟨sameName, sameTag⟩ := Fate.keeps_name_and_tag applied
  obtain ⟨_, _, _, _, _, _, _, extraction⟩ := extracted original originalMem
  have listed := Reading.tagsListed_of_extractTree extraction found foundMem
  rw [sameName]
  exact listed collected collectedMem kind (sameTag ▸ tag)

/-! ## Edges -/

/-- For every project, an edge of inheritance or use rests on a reference of its source scope.  It
is a mere use when the reference counts as no inheritance, and otherwise an inheritance of the kind
as which it counts; and the scope declares that inheritance, in a clause of the kind that lists the
name, exactly unless the reference is unbacked.  When the files were extracted, that is to say
unless it is misread. -/
theorem inheritance_edges_declared_unless_unbacked (options : Options) (root : Files.Path)
    (locators : Locators) (analyses : List FileAnalysis) :
    (∀ edge ∈ (resolve options root locators analyses).edges,
      edge.relation ∈ [Relation.inheritsFrom, .implements, .consumes] →
      ∃ file ∈ (resolve options root locators analyses).analyses, ∃ scope ∈ file.scopes,
        ∃ reference ∈ scope.references,
          referenceEdge? (settingOf root locators analyses) file scope reference = some edge) ∧
    (∀ file scope reference edge,
      referenceEdge? (settingOf root locators analyses) file scope reference = some edge →
        ((edge.relation = .consumes ∧ ∀ kind, ¬CountsAs scope reference kind) ∨
          ∃ kind, heritageRelation? kind = some edge.relation ∧ CountsAs scope reference kind) ∧
        ((∀ kind, heritageRelation? kind = some edge.relation →
            Declares scope kind reference.identifier) ↔
          ∀ kind, ¬Unbacked scope reference kind)) ∧
    ((∀ file ∈ analyses, Extracted file) →
      ∀ file ∈ (resolve options root locators analyses).analyses, ∀ scope ∈ file.scopes,
        ∀ reference ∈ scope.references, ∀ kind,
          Unbacked scope reference kind ↔ Misread scope reference kind) := by
  refine ⟨?_, ?_, ?_⟩
  · intro edge member isUse
    have forward : edge ∈ forwardEdges options (settingOf root locators analyses) := by
      rw [← forward_resolve, Resolution.forward, List.mem_filter]
      refine ⟨member, ?_⟩
      simp only [List.mem_cons, List.not_mem_nil, or_false] at isUse
      rcases isUse with same | same | same <;> rw [same] <;> rfl
    have contributed := mem_contributions_of_mem_forwardEdges forward
    rw [mem_contributions_iff] at contributed
    obtain ⟨⟨file, fileMem, scope, scopeMem, emitted⟩, _⟩ := contributed
    rw [mem_scopeEdges_iff] at emitted
    rcases emitted with ⟨_, nested⟩ | ⟨reference, referenceMem, uses⟩ | ⟨_, _, _, decorates⟩
    · rw [relation_of_nestingEdge? nested] at isUse
      simp at isUse
    · exact ⟨file, fileMem, scope, scopeMem, reference, referenceMem, uses⟩
    · rw [relation_of_decoratorEdge? decorates] at isUse
      simp at isUse
  · intro file scope reference edge uses
    rw [referenceEdge?_eq_some_iff] at uses
    obtain ⟨target, evidence, relation, _, known, rfl⟩ := uses
    change ((relation = .consumes ∧ _) ∨ ∃ kind, heritageRelation? kind = some relation ∧ _) ∧
      ((∀ kind, heritageRelation? kind = some relation → _) ↔ _)
    rcases relationOf?_countsAs known with ⟨rfl, none⟩ | ⟨kind, stands, only⟩
    · refine ⟨Or.inl ⟨rfl, none⟩, ?_⟩
      constructor
      · intro _ kind unbacked
        exact none kind unbacked.countsAs
      · intro _ kind stands
        cases kind <;> simp [heritageRelation?] at stands
    · have counts := (only kind).mpr rfl
      refine ⟨Or.inr ⟨kind, stands, counts⟩, ?_⟩
      constructor
      · intro declared other unbacked
        obtain rfl := (only other).mp unbacked.countsAs
        exact counts.declares_iff.mp (declared _ stands) unbacked
      · intro backed other same
        rw [heritageRelation?_inj same stands]
        exact counts.declares_iff.mpr (backed kind)
  · intro extracted file fileMem scope scopeMem reference referenceMem kind
    constructor
    · rintro (⟨tag, undeclared⟩ | misread)
      · have declared := declares_of_extracted extracted fileMem scopeMem referenceMem tag
        exact absurd declared undeclared
      · exact misread
    · exact Or.inr

/-- A class, and a function that bounds its type parameter by the class.  Neither builds on a
type. -/
def boundedFile : FileAnalysis :=
  { filePath := "x.ts"
    language := "typescript"
    scopes :=
      [{ id := "base", name := "Base", kind := .classLike, filePath := "x.ts", startLine := 1,
         endLine := 1 },
       { id := "make", name := "make", kind := .function, filePath := "x.ts", startLine := 3,
         endLine := 3,
         references :=
           [{ identifier := "Base", line := 3, column := 24,
              context := "function make<T extends Base>(t: T) \x7b return t; \x7d" }] }] }

/-- A type bound yields an edge of inheritance from a scope that declares no inheritance at all. -/
theorem type_bound_yields_undeclared_inheritance :
    ¬∀ edge ∈ (resolve {} (Files.Path.ofString "/x") (fun _ => none) [boundedFile]).edges,
      ∀ kind, heritageRelation? kind = some edge.relation →
        ∃ scope ∈ boundedFile.scopes, Endpoint.ofScope scope = edge.source ∧
          ∃ name, Declares scope kind name := by
  intro declared
  obtain ⟨edge, member, inherits⟩ :
      ∃ edge ∈ (resolve {} (Files.Path.ofString "/x") (fun _ => none) [boundedFile]).edges,
        heritageRelation? .extending = some edge.relation := by
    decide +kernel
  obtain ⟨scope, scopeMem, _, _, _, clauseMem, _⟩ := declared edge member .extending inherits
  have undeclared : ∀ scope ∈ boundedFile.scopes, scope.heritageClauses = [] := by decide
  rw [undeclared scope scopeMem] at clauseMem
  exact List.not_mem_nil clauseMem

end ScopeAtlas.Graph
