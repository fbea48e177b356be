import ScopeAtlas.Proofs.Extraction.Bodies
import ScopeAtlas.Proofs.Graph.Containers
import ScopeAtlas.Proofs.Reading.Containment

/-!
# The container of a scope and the scope around it

A scope that is made in the body of another should be found inside it.  What is left to find it by
is a name, a depth and lines, and of several scopes that agree in these the last one listed is
taken.  So the scope around another is passed over exactly when it has a rival: a scope of the same
name and depth, listed after it, that has the lines of the inner scope as well.

There are two kinds of rivals in a tree whose nodes are in order.  Either the bytes of the two
overlap, as those of a record and of the type definition around it do, or the inner scope stands on
the one line on which the rival begins.
-/

namespace ScopeAtlas.Reading

open ScopeAtlas.Extraction ScopeAtlas.Files ScopeAtlas.Graph ScopeAtlas.Language ScopeAtlas.Syntax

/-! ## Rivals -/

/-- The byte ranges of the drafts have more than an end in common. -/
def Overlap (draft other : Draft) : Prop :=
  draft.place.startByte < other.lastPlace.endByte ∧ other.place.startByte < draft.lastPlace.endByte

/-- The draft can be taken for the container of another: its scope has the same name and depth,
begins no earlier, and has the lines of the inner scope.  Either it overlaps the container, or the
inner scope stands on the line on which it begins. -/
structure Rivals (complete : Draft → Scope) (container draft rival : Draft) : Prop where
  differs : complete rival ≠ complete container
  name : rival.name = container.name
  depth : rival.depth = container.depth
  begins : (complete container).startLine ≤ (complete rival).startLine
  spanning : spans (complete draft) (complete rival) = true
  close : Overlap container rival ∨
    (complete draft).startLine = (complete rival).startLine ∧
      (complete draft).endLine = (complete rival).startLine

/-- The scopes of a file are listed by first lines. -/
theorem pairwise_startLine_analyze (profile : Profile) (strategy : Strategy)
    (stack : StackLimit) (includeModuleScopes : Bool) (filePath language : String)
    (bytes : ByteArray) (tree : Node) :
    (analyze profile strategy stack includeModuleScopes filePath language bytes tree).scopes.Pairwise
      fun a b => a.startLine ≤ b.startLine := by
  rw [scopes_analyze]
  apply (pairwise_sortScopes _).imp
  intro a b ordered
  omega

/-- Of two scopes the one that comes first keeps its place if it may. -/
theorem pair_sublist_sortScopes {scopes : List Scope} {a b : Scope}
    (ordered : a.startLine < b.startLine ∨ a.startLine = b.startLine ∧ a.depth ≤ b.depth)
    (listed : [a, b].Sublist scopes) : [a, b].Sublist (sortScopes scopes) := by
  apply List.pair_sublist_mergeSort _ _ _ listed
  · intro a b c
    simp only [Bool.or_eq_true, Bool.and_eq_true, decide_eq_true_eq, beq_iff_eq]
    omega
  · intro a b
    simp only [Bool.or_eq_true, Bool.and_eq_true, decide_eq_true_eq, beq_iff_eq]
    omega
  · simpa only [Bool.or_eq_true, Bool.and_eq_true, decide_eq_true_eq, beq_iff_eq] using ordered

theorem mayContain_complete {container draft : Draft} (ctx : Context)
    (packageName : String → String) (named : draft.parent = some container.name)
    (level : draft.depth = container.depth + 1) :
    mayContain (draft.complete ctx packageName) (container.complete ctx packageName) = true := by
  simp [mayContain, Draft.complete, named, level]

/-- Two drafts of the container's name and level agree in both. -/
theorem eq_of_mayContain_complete {container draft rival : Draft} {ctx : Context}
    {packageName : String → String} (encloses : container.Encloses draft)
    (namesake : mayContain (draft.complete ctx packageName) (rival.complete ctx packageName) =
      true) : rival.name = container.name ∧ rival.depth = container.depth := by
  simp only [mayContain, Draft.complete, encloses.named, encloses.level, Bool.and_eq_true,
    beq_iff_eq, Option.some.injEq] at namesake
  obtain ⟨name, level⟩ := namesake
  constructor
  · exact name.symm
  · omega

section Ordered

variable {root : Cursor} {container draft rival : Draft} (ordered : root.InOrder)
  (forward : ∀ place ∈ root.preorder, place.startByte ≤ place.endByte)

include ordered forward

/-- A rival whose bytes are apart from the container's leaves the inner scope one line. -/
theorem one_line_of_apart (encloses : container.Encloses draft)
    (containerLies : container.LiesWithin root) (draftLies : draft.LiesWithin root)
    (occupied : draft.place.startByte < draft.place.endByte) (ctx : Context)
    (packageName : String → String)
    (begins : (container.complete ctx packageName).startLine ≤
      (rival.complete ctx packageName).startLine)
    (spanning : spans (draft.complete ctx packageName) (rival.complete ctx packageName) = true)
    (apart : ¬Overlap container rival) :
    (draft.complete ctx packageName).startLine = (rival.complete ctx packageName).startLine ∧
      (draft.complete ctx packageName).endLine = (rival.complete ctx packageName).startLine := by
  have surrounds := encloses.surrounds ordered forward containerLies draftLies occupied ctx
    packageName
  have lines := draftLies.startLine_le_endLine ordered forward ctx packageName
  simp only [spans, Bool.and_eq_true, decide_eq_true_eq] at spanning
  have containerEnds := surrounds.ends
  -- No scope ends after the row of its last byte.
  have lastRow : ∀ other : Draft, (other.complete ctx packageName).endLine ≤
      ((ctx.source.point other.lastPlace.endByte).row : Int) + 1 := by
    intro other
    exact Int.add_le_add_right (Int.ofNat_le.mpr (ctx.source.lastRow_le_row _ _)) 1
  have firstRow : ∀ other : Draft, (other.complete ctx packageName).startLine =
      ((ctx.source.point other.place.startByte).row : Int) + 1 := fun _ => rfl
  rw [Overlap, not_and_or, Nat.not_lt, Nat.not_lt] at apart
  rcases apart with before | after
  · have rows := ctx.source.row_point_le before
    have rivalEnds := lastRow rival
    have containerBegins := firstRow container
    omega
  · have rows := ctx.source.row_point_le after
    have containerLast := lastRow container
    have rivalBegins := firstRow rival
    omega

/-- Of the ways to be misplaced only the first is left: an enclosing scope has the lines of the
inner one, so it can only lose to a rival. -/
theorem exists_rival_of_misplaced {drafts : List Draft}
    (lies : ∀ draft ∈ drafts, draft.LiesWithin root) (containerMem : container ∈ drafts)
    (draftMem : draft ∈ drafts) (encloses : container.Encloses draft)
    (occupied : draft.place.startByte < draft.place.endByte) {ctx : Context}
    {packageName : String → String} {scopes : List Scope}
    (completed : ∀ {scope},
      scope ∈ scopes ↔ ∃ draft ∈ drafts, scope = draft.complete ctx packageName)
    (sorted : scopes.Pairwise fun a b => a.startLine ≤ b.startLine)
    (misplaced : Misplaced scopes (container.complete ctx packageName)
      (draft.complete ctx packageName)) :
    ∃ rival ∈ drafts, Rivals (fun draft => draft.complete ctx packageName) container draft
      rival := by
  have surrounds := encloses.surrounds ordered forward (lies container containerMem)
    (lies draft draftMem) occupied ctx packageName
  have spanning : spans (draft.complete ctx packageName) (container.complete ctx packageName) =
      true := by
    simp [spans, surrounds.begins, surrounds.ends]
  cases misplaced with
  | @rivalled before after rival split last listed mayToo spansToo =>
      have rivalMem : rival ∈ scopes := by simp [split, listed]
      obtain ⟨origin, originMem, rfl⟩ := completed.mp rivalMem
      obtain ⟨sameName, sameDepth⟩ := eq_of_mayContain_complete encloses mayToo
      rw [split] at sorted
      have begins := (List.pairwise_cons.mp (List.pairwise_append.mp sorted).2.1).1 _ listed
      refine ⟨origin, originMem, ?_, sameName, sameDepth, begins, spansToo, ?_⟩
      · intro same
        apply last
        rw [← same]
        exact listed
      · by_cases overlap : Overlap container origin
        · exact Or.inl overlap
        · exact Or.inr (one_line_of_apart ordered forward encloses (lies container containerMem)
            (lies draft draftMem) occupied ctx packageName begins spansToo overlap)
  | displaced misses => exact absurd (spanning.symm.trans misses) Bool.noConfusion
  | preceded none =>
      have outerMem := completed.mpr ⟨container, containerMem, rfl⟩
      have namesake := mayContain_complete ctx packageName encloses.named encloses.level
      have candidate := mem_spanningNamesakes_iff.mpr ⟨outerMem, namesake, spanning⟩
      rw [none] at candidate
      exact absurd candidate List.not_mem_nil

end Ordered

/-! ## Selection -/

/-- A scope of an analysed file is found as the container of another exactly when the one edge of
nesting into the other comes from it. -/
theorem nestingInto_eq_singleton_iff {options : Options} {projectRoot : Path} {locators : Locators}
    {analyses : List FileAnalysis} {file : FileAnalysis} {outer inner : Scope}
    (fileMem : file ∈ analyses) (ids : ((analyses.flatMap (·.scopes)).map (·.id)).Nodup)
    (wanted : options.includeContains = true)
    (onePath : ∀ scope ∈ file.scopes, scope.filePath = inner.filePath)
    (outerMem : outer ∈ file.scopes) (innerMem : inner ∈ file.scopes) :
    nestingInto (resolve options projectRoot locators analyses).forward inner.id =
        [edgeBetween .contains outer inner .nesting] ↔
      enclosing? inner file.scopes = some outer := by
  rw [nestingInto_forward wanted ids fileMem innerMem onePath, Option.toList_eq_singleton_iff,
    nestingEdge?_eq_some_iff]
  constructor
  · rintro ⟨found, encloses, same⟩
    have fileIds : (file.scopes.map (·.id)).Nodup := by
      rw [List.map_flatMap, List.nodup_flatMap] at ids
      exact ids.1 file fileMem
    have sameId : outer.id = found.id := congrArg (·.source.id) same
    rw [List.inj_on_of_nodup_map fileIds outerMem (mem_of_enclosing? encloses) sameId]
    exact encloses
  · intro encloses
    exact ⟨outer, encloses, rfl⟩

/-- For every language, tree and text, let a scope be made in the body of another.  The outer one is
found as the container of the inner one, and the edge of nesting into the inner one comes from it
and from no other scope, exactly when it is not misplaced.  If the nodes of the tree are in order,
none ends before it begins and the inner scope is not empty, then only a rival can misplace it. -/
theorem container_found_unless_misplaced (profile : Profile) (stack : StackLimit)
    (includeModuleScopes : Bool) (filePath language : String) (bytes : ByteArray) (tree : Node) :
    let strategy := strategyOf profile.family
    let root := Cursor.root tree
    let ctx := prepare profile strategy stack filePath bytes root
    let drafts := fileDrafts strategy ctx includeModuleScopes root
    let complete := fun draft : Draft => draft.complete ctx strategy.packageName
    let file := analyze profile strategy stack includeModuleScopes filePath language bytes tree
    ∀ container draft, (container, draft) ∈ madeInBodies strategy ctx root →
      let outer := complete container
      let inner := complete draft
      (container ∈ drafts ∧ draft ∈ drafts ∧ inner.parent = some outer.name ∧
          inner.depth = outer.depth + 1) ∧
        (enclosing? inner file.scopes = some outer ↔ ¬Misplaced file.scopes outer inner) ∧
        (∀ options projectRoot locators analyses, file ∈ analyses →
          ((analyses.flatMap (·.scopes)).map (·.id)).Nodup → options.includeContains = true →
            (nestingInto (resolve options projectRoot locators analyses).forward inner.id =
                [edgeBetween .contains outer inner .nesting] ↔
              ¬Misplaced file.scopes outer inner)) ∧
        (root.InOrder → (∀ place ∈ root.preorder, place.startByte ≤ place.endByte) →
          draft.place.startByte < draft.place.endByte → Misplaced file.scopes outer inner →
            ∃ rival ∈ drafts, Rivals complete container draft rival) := by
  intro strategy root ctx drafts complete file container draft made outer inner
  have nested := strategyOf_isNested profile.family ctx
  have recorded := recorded_of_mem_bodyPairs nested root.node.size root 0 none _ made
  have containerMem : container ∈ drafts := List.mem_append_left _ recorded.containerMem
  have draftMem : draft ∈ drafts := List.mem_append_left _ recorded.draftMem
  have encloses : container.Encloses draft := recorded.encloses
  have outerMem : outer ∈ file.scopes := mem_scopes_analyze_iff.mpr ⟨container, containerMem, rfl⟩
  have innerMem : inner ∈ file.scopes := mem_scopes_analyze_iff.mpr ⟨draft, draftMem, rfl⟩
  have namesake : mayContain inner outer = true :=
    mayContain_complete ctx _ encloses.named encloses.level
  have sorted : file.scopes.Pairwise fun a b => a.startLine ≤ b.startLine :=
    pairwise_startLine_analyze profile strategy stack includeModuleScopes filePath language bytes
      tree
  have found := enclosing?_eq_some_iff_not_misplaced sorted outerMem namesake
  have level : inner.depth = outer.depth + 1 := by
    have depths := encloses.level
    simp only [inner, outer, complete, Draft.complete, depths]
    omega
  refine ⟨⟨containerMem, draftMem, encloses.named, level⟩, found, ?_, ?_⟩
  · intro options projectRoot locators analyses fileMem ids wanted
    have onePath : ∀ scope ∈ file.scopes, scope.filePath = inner.filePath := by
      intro scope member
      obtain ⟨origin, _, rfl⟩ := mem_scopes_analyze_iff.mp member
      exact (origin.filePath_complete ctx _).trans (draft.filePath_complete ctx _).symm
    rw [nestingInto_eq_singleton_iff fileMem ids wanted onePath outerMem innerMem]
    exact found
  · intro ordered forward occupied misplaced
    have lies : ∀ draft ∈ drafts, draft.LiesWithin root := fun draft member =>
      (placed_fileDrafts nested includeModuleScopes draft member).lies
    exact exists_rival_of_misplaced ordered forward lies containerMem draftMem encloses occupied
      mem_scopes_analyze_iff sorted misplaced

/-! ## Two rivals -/

/-- The rival is drafted after the container, at its depth and on its line, and could contain the
inner scope as well. -/
def DraftedRival (complete : Draft → Scope) (drafts : List Draft) (container draft rival : Draft) :
    Prop :=
  [container, rival].Sublist drafts ∧
    (complete container).startLine = (complete rival).startLine ∧
    (complete container).depth = (complete rival).depth ∧
    mayContain (complete draft) (complete rival) = true ∧
    spans (complete draft) (complete rival) = true
deriving Decidable

/-- Where no two scopes have the same text, such a rival takes the place of the container. -/
theorem DraftedRival.misplaced {complete : Draft → Scope} {drafts : List Draft}
    {container draft rival : Draft} (drafted : DraftedRival complete drafts container draft rival)
    (contents : (drafts.map fun draft => (complete draft).content).Nodup) :
    Misplaced (sortScopes (drafts.map complete)) (complete container) (complete draft) := by
  obtain ⟨after, sameLine, sameDepth, namesake, spanning⟩ := drafted
  have nodup : (sortScopes (drafts.map complete)).Nodup := by
    rw [sortScopes, (List.mergeSort_perm _ _).nodup_iff]
    apply List.Nodup.of_map (·.content)
    rw [List.map_map]
    exact contents
  have listed : [complete container, complete rival].Sublist (sortScopes (drafts.map complete)) :=
    pair_sublist_sortScopes (Or.inr ⟨sameLine, Int.le_of_eq sameDepth⟩) (after.map complete)
  exact .of_pair_sublist nodup listed namesake spanning

/-- A named node of the trees below. -/
def namedNode (index : Nat) (kind : String) (field : Option String) (start stop : Nat)
    (children : List Node) : Node :=
  .mk { index, kind, field, isNamed := true, isMissing := false, startByte := start,
        endByte := stop } children

/-- A record with a record in it, and a type definition of the same name around it. -/
def typedefText : ByteArray :=
  "typedef struct Node \x7b\n  struct Inner \x7b int x; \x7d inner;\n\x7d Node;\n".toUTF8

def typedefTree : Node :=
  let field := namedNode 9 "field_declaration" none 39 45
    [namedNode 10 "primitive_type" "type" 39 42 [],
      namedNode 11 "field_identifier" "declarator" 43 44 []]
  let innerRecord := namedNode 6 "struct_specifier" "type" 24 47
    [namedNode 7 "type_identifier" "name" 31 36 [],
      namedNode 8 "field_declaration_list" "body" 37 47 [field]]
  let record := namedNode 2 "struct_specifier" "type" 8 56
    [namedNode 3 "type_identifier" "name" 15 19 [],
      namedNode 4 "field_declaration_list" "body" 20 56
        [namedNode 5 "field_declaration" none 24 54
          [innerRecord, namedNode 12 "field_identifier" "declarator" 48 53 []]]]
  namedNode 0 "translation_unit" none 0 63
    [namedNode 1 "type_definition" none 0 62
      [record, namedNode 13 "type_identifier" "declarator" 57 61 []]]

def typedefContext : Context :=
  prepare c CFamily.cStrategy .unlimited "node.c" typedefText (Cursor.root typedefTree)

def typedefDrafts : List Draft :=
  fileDrafts CFamily.cStrategy typedefContext false (Cursor.root typedefTree)

def typedefScope (draft : Draft) : Scope :=
  draft.complete typedefContext CFamily.cStrategy.packageName

def typedefFile : FileAnalysis :=
  analyze c CFamily.cStrategy .unlimited false "node.c" "c" typedefText typedefTree

/-- The type definition is drafted after the record and takes the record inside it. -/
theorem typedef_misplaces_record :
    ∃ container draft, (container, draft) ∈
        madeInBodies CFamily.cStrategy typedefContext (Cursor.root typedefTree) ∧
      container.kind = .classLike ∧ draft.name = "Inner" ∧
      draft.place.startByte < draft.place.endByte ∧
      Misplaced typedefFile.scopes (typedefScope container) (typedefScope draft) := by
  have contents : (typedefDrafts.map fun draft => (typedefScope draft).content).Nodup := by
    decide +kernel
  have found : ∃ pair ∈ madeInBodies CFamily.cStrategy typedefContext (Cursor.root typedefTree),
      pair.1.kind = .classLike ∧ pair.2.name = "Inner" ∧
        pair.2.place.startByte < pair.2.place.endByte ∧
        ∃ rival ∈ typedefDrafts, DraftedRival typedefScope typedefDrafts pair.1 pair.2 rival := by
    decide +kernel
  obtain ⟨pair, made, isRecord, isInner, occupied, rival, _, drafted⟩ := found
  refine ⟨pair.1, pair.2, made, isRecord, isInner, occupied, ?_⟩
  rw [typedefFile, scopes_analyze]
  exact drafted.misplaced contents

theorem typedef_rivals_record :
    (Cursor.root typedefTree).InOrder ∧
      (∀ place ∈ (Cursor.root typedefTree).preorder, place.startByte ≤ place.endByte) ∧
      ∃ container draft, (container, draft) ∈
          madeInBodies CFamily.cStrategy typedefContext (Cursor.root typedefTree) ∧
        container.kind = .classLike ∧ draft.name = "Inner" ∧
        Misplaced typedefFile.scopes (typedefScope container) (typedefScope draft) ∧
        ∃ rival ∈ typedefDrafts, Rivals typedefScope container draft rival := by
  have ordered : (Cursor.root typedefTree).InOrder := by decide +kernel
  have forward : ∀ place ∈ (Cursor.root typedefTree).preorder,
      place.startByte ≤ place.endByte := by
    decide +kernel
  obtain ⟨container, draft, made, isRecord, isInner, occupied, misplaced⟩ :=
    typedef_misplaces_record
  obtain ⟨_, _, _, rivalled⟩ := container_found_unless_misplaced c .unlimited false "node.c" "c"
    typedefText typedefTree container draft made
  exact ⟨ordered, forward, container, draft, made, isRecord, isInner, misplaced,
    rivalled ordered forward occupied misplaced⟩

/-- Two namespaces of one name on one line, with a function in each. -/
def namespacesText : ByteArray :=
  ("namespace N \x7b export function f() \x7b\x7d \x7d " ++
    "namespace N \x7b export function g() \x7b\x7d \x7d\n").toUTF8

def namespacesTree : Node :=
  let space (index offset : Nat) : Node :=
    let declared := namedNode (index + 5) "function_declaration" "declaration" (offset + 21)
      (offset + 36)
      [namedNode (index + 6) "identifier" "name" (offset + 30) (offset + 31) [],
        namedNode (index + 7) "formal_parameters" "parameters" (offset + 31) (offset + 33) [],
        namedNode (index + 8) "statement_block" "body" (offset + 34) (offset + 36) []]
    let body := namedNode (index + 3) "statement_block" "body" (offset + 12) (offset + 38)
      [namedNode (index + 4) "export_statement" none (offset + 14) (offset + 36) [declared]]
    namedNode index "expression_statement" none offset (offset + 38)
      [namedNode (index + 1) "internal_module" none offset (offset + 38)
        [namedNode (index + 2) "identifier" "name" (offset + 10) (offset + 11) [], body]]
  namedNode 0 "program" none 0 78 [space 1 0, space 10 39]

def namespacesContext : Context :=
  prepare typescript EcmaScript.strategy .unlimited "n.ts" namespacesText
    (Cursor.root namespacesTree)

def namespacesDrafts : List Draft :=
  fileDrafts EcmaScript.strategy namespacesContext false (Cursor.root namespacesTree)

def namespacesScope (draft : Draft) : Scope :=
  draft.complete namespacesContext EcmaScript.strategy.packageName

def namespacesFile : FileAnalysis :=
  analyze typescript EcmaScript.strategy .unlimited false "n.ts" "typescript" namespacesText
    namespacesTree

/-- The second namespace is drafted after the first and takes the function inside it. -/
theorem second_namespace_misplaces_first :
    ∃ container draft, (container, draft) ∈
        madeInBodies EcmaScript.strategy namespacesContext (Cursor.root namespacesTree) ∧
      container.name = "N" ∧ draft.name = "f" ∧
      Misplaced namespacesFile.scopes (namespacesScope container) (namespacesScope draft) := by
  have contents : (namespacesDrafts.map fun draft => (namespacesScope draft).content).Nodup := by
    decide +kernel
  have found : ∃ pair ∈
      madeInBodies EcmaScript.strategy namespacesContext (Cursor.root namespacesTree),
      pair.1.name = "N" ∧ pair.2.name = "f" ∧ ∃ rival ∈ namespacesDrafts,
        DraftedRival namespacesScope namespacesDrafts pair.1 pair.2 rival := by
    decide +kernel
  obtain ⟨pair, made, isNamespace, isFirst, rival, _, drafted⟩ := found
  refine ⟨pair.1, pair.2, made, isNamespace, isFirst, ?_⟩
  rw [namespacesFile, scopes_analyze]
  exact drafted.misplaced contents

/-- The record is made around the inner one, and is not found as its container.  The first namespace
is made around the first function, and is not found as its container either. -/
theorem containers_taken_by_rivals :
    (∃ container draft, (container, draft) ∈
        madeInBodies CFamily.cStrategy typedefContext (Cursor.root typedefTree) ∧
      container.kind = .classLike ∧ draft.name = "Inner" ∧
      enclosing? (typedefScope draft) typedefFile.scopes ≠ some (typedefScope container)) ∧
    ∃ container draft, (container, draft) ∈
        madeInBodies EcmaScript.strategy namespacesContext (Cursor.root namespacesTree) ∧
      container.name = "N" ∧ draft.name = "f" ∧
      enclosing? (namespacesScope draft) namespacesFile.scopes ≠
        some (namespacesScope container) := by
  constructor
  · obtain ⟨container, draft, made, isRecord, isInner, _, misplaced⟩ := typedef_misplaces_record
    exact ⟨container, draft, made, isRecord, isInner,
      misplaced.not_selected (pairwise_startLine_analyze _ _ _ _ _ _ _ _)⟩
  · obtain ⟨container, draft, made, isNamespace, isFirst, misplaced⟩ :=
      second_namespace_misplaces_first
    exact ⟨container, draft, made, isNamespace, isFirst,
      misplaced.not_selected (pairwise_startLine_analyze _ _ _ _ _ _ _ _)⟩

end ScopeAtlas.Reading
