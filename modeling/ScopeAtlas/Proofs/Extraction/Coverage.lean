import ScopeAtlas.Language.Registry
import ScopeAtlas.Proofs.Extraction.FileDrafts
import ScopeAtlas.Proofs.Extraction.Tags
import ScopeAtlas.Proofs.Syntax.Places
import ScopeAtlas.Reading.Strategies

/-!
# Which type names are reported

The search for references goes from a node to all its children, except that of a member access it
follows the object only.  A type name that lies on the other side is reported by the access itself
if it is the member as a whole, and not at all if it lies deeper, such as the argument of a
qualified generic type.  Every other type name of a scope is reported where it stands.
-/

namespace ScopeAtlas.Extraction

open ScopeAtlas.Language ScopeAtlas.Syntax

/-! ## Keeping references -/

/-- A reference to the name stands at the line and column. -/
def ReportedAt (name : String) (line column : Int) (references : List Reference) : Prop :=
  ∃ reference ∈ references, reference.identifier = name ∧ reference.line = line ∧
    reference.column = column

variable {name : String} {line column : Int}

theorem reportedAt_firstOccurrences {references : List Reference}
    (reported : ReportedAt name line column references) :
    ReportedAt name line column (firstOccurrences references) := by
  obtain ⟨reference, member, sameName, sameLine, sameColumn⟩ := reported
  obtain ⟨kept, keptMem, sameKey⟩ := exists_mem_firstOccurrences member
  obtain ⟨keptName, keptLine, keptColumn, _⟩ : kept.identifier = reference.identifier ∧
      kept.line = reference.line ∧ kept.column = reference.column ∧
      kept.qualifier = reference.qualifier := by
    simpa [referenceKey] using sameKey
  exact ⟨kept, keptMem, keptName.trans sameName, keptLine.trans sameLine,
    keptColumn.trans sameColumn⟩

theorem reportedAt_tagFirst {references : List Reference} (tagged : String) (kind : HeritageKind)
    (reported : ReportedAt name line column references) :
    ReportedAt name line column (tagFirst tagged kind references) := by
  obtain ⟨reference, member, same⟩ := reported
  induction references with
  | nil => contradiction
  | cons first rest ih =>
      rw [tagFirst]
      rcases List.mem_cons.mp member with rfl | later
      · split
        · exact ⟨_, List.mem_cons_self, same⟩
        · exact ⟨_, List.mem_cons_self, same⟩
      · split
        · exact ⟨reference, List.mem_cons_of_mem _ later, same⟩
        · obtain ⟨kept, keptMem, keptSame⟩ := ih later
          exact ⟨kept, List.mem_cons_of_mem _ keptMem, keptSame⟩

theorem reportedAt_addSynthetic {references : List Reference} (synthetic : List Reference)
    (reported : ReportedAt name line column references) :
    ReportedAt name line column (addSynthetic references synthetic) := by
  refine List.foldlRecOn synthetic _ reported ?_
  rintro extended ⟨reference, member, same⟩ added _
  split
  · exact ⟨reference, member, same⟩
  · exact ⟨reference, List.mem_append_left _ member, same⟩

/-- Neither tags nor added references take a reference away. -/
theorem reportedAt_applyHeritage {references : List Reference} (clauses : List HeritageClause)
    (synthetic : List Reference) (reported : ReportedAt name line column references) :
    ReportedAt name line column (applyHeritage references clauses synthetic) := by
  have tagged : ReportedAt name line column
      (clauses.foldl tagClause (addSynthetic references synthetic)) := by
    refine List.foldlRecOn clauses _ (reportedAt_addSynthetic synthetic reported) ?_
    intro extended kept clause _
    refine List.foldlRecOn clause.types _ kept ?_
    intro extended kept written _
    exact reportedAt_tagFirst _ _ kept
  obtain ⟨reference, member, same⟩ := tagged
  exact ⟨reference, by rwa [applyHeritage, sortReferences, List.mem_mergeSort], same⟩

/-! ## Places of a scope -/

namespace Context

/-- The search for references passes the place over, with all that is below it. -/
def leftOut (ctx : Context) (skip : List Cursor) (place : Cursor) : Bool :=
  skip.any (Cursor.same place) || ctx.hidesReferences place.kind

/-- The place lies within the root, and nothing on the way to it is left out. -/
def Exposed (ctx : Context) (skip : List Cursor) (root place : Cursor) : Prop :=
  ctx.leftOut skip root = false ∧
    Relation.ReflTransGen
      (fun parent child => child ∈ parent.children ∧ ctx.leftOut skip child = false) root place

/-- A type identifier, or a plain identifier right below a node that makes it one. -/
def IsTypeName (ctx : Context) (place : Cursor) : Prop :=
  ctx.nodes.isIdentifier place.kind = true ∧ inTypePosition ctx.nodes place = true

variable {ctx : Context} {skip : List Cursor} {root : Cursor}

theorem Exposed.not_leftOut {place : Cursor} (exposed : ctx.Exposed skip root place) :
    ctx.leftOut skip place = false := by
  obtain ⟨shown, way⟩ := exposed
  rcases way.cases_tail with rfl | ⟨_, _, step⟩
  · exact shown
  · exact step.2

theorem Exposed.child {parent child : Cursor} (exposed : ctx.Exposed skip root parent)
    (member : child ∈ parent.children) (shown : ctx.leftOut skip child = false) :
    ctx.Exposed skip root child :=
  ⟨exposed.1, exposed.2.tail ⟨member, shown⟩⟩

theorem Exposed.within {place : Cursor} (exposed : ctx.Exposed skip root place) :
    root.Within place :=
  Relation.ReflTransGen.mono (fun _ _ step => step.1) _ _ exposed.2

/-- A place within the root is exposed, or lies within a place that is left out. -/
theorem exposed_or_leftOut {place : Cursor} (within : root.Within place) :
    ctx.Exposed skip root place ∨
      ∃ outer, root.Within outer ∧ outer.Within place ∧ ctx.leftOut skip outer = true := by
  induction within with
  | refl =>
      cases shown : ctx.leftOut skip root with
      | true => exact Or.inr ⟨root, .refl root, .refl root, shown⟩
      | false => exact Or.inl ⟨shown, .refl⟩
  | @tail parent child way isChild ih =>
      rcases ih with exposed | ⟨outer, below, around, hides⟩
      · cases shown : ctx.leftOut skip child with
        | true => exact Or.inr ⟨child, way.tail isChild, .refl child, shown⟩
        | false => exact Or.inl (exposed.child isChild shown)
      · exact Or.inr ⟨outer, below, around.tail isChild, hides⟩

/-- The exposed places of a root. -/
def exposedPlaces (ctx : Context) (skip : List Cursor) (root : Cursor) : List Cursor :=
  Cursor.explore (fun place =>
    if ctx.leftOut skip place then ([], fun _ => false) else ([place], fun _ => true)) [root]

theorem mem_exposedPlaces_iff {place : Cursor} :
    place ∈ ctx.exposedPlaces skip root ↔ ctx.Exposed skip root place := by
  rw [exposedPlaces, Cursor.mem_explore_iff]
  constructor
  · rintro ⟨start, startMem, goal, way, found⟩
    obtain rfl := List.mem_singleton.mp startMem
    split at found
    · contradiction
    · rename_i shown
      rw [Bool.not_eq_true] at shown
      obtain rfl := List.mem_singleton.mp found
      clear found
      induction way with
      | refl => exact ⟨shown, .refl⟩
      | @tail parent child _ step ih =>
          obtain ⟨isChild, entered⟩ := step
          have parentShown : ctx.leftOut skip parent = false := by
            cases hides : ctx.leftOut skip parent with
            | false => rfl
            | true => simp [hides] at entered
          exact (ih parentShown).child isChild shown
  · intro exposed
    refine ⟨root, List.mem_singleton_self root, place, ?_, by simp [exposed.not_leftOut]⟩
    obtain ⟨shown, way⟩ := exposed
    induction way with
    | refl => exact .refl
    | @tail parent child way step ih =>
        have parentShown := Exposed.not_leftOut ⟨shown, way⟩
        exact ih.tail ⟨step.1, by simp [parentShown]⟩

theorem Exposed.level_le {place : Cursor} (exposed : ctx.Exposed skip root place) :
    root.level ≤ place.level := by
  obtain ⟨_, way⟩ := exposed
  induction way with
  | refl => exact Nat.le_refl _
  | tail _ step ih =>
      rw [Cursor.level_of_mem_children step.1]
      exact Nat.le_succ_of_le ih

theorem mem_children_of_accessParts? {access object member : Cursor}
    (parts : ctx.accessParts? access = some (object, member)) :
    object ∈ access.children ∧ member ∈ access.children := by
  rw [accessParts?] at parts
  split at parts
  · split at parts
    · rename_i objectFound memberFound
      obtain ⟨rfl, rfl⟩ := Prod.mk.inj (Option.some.inj parts)
      exact ⟨Cursor.mem_children_of_childByField? objectFound,
        Cursor.mem_children_of_childByField? memberFound⟩
    · contradiction
  · contradiction

/-! ## What the search does at one place -/

theorem visit_of_access {exclusions : List String} {access object member : Cursor}
    (shown : ctx.leftOut skip access = false) (parts : ctx.accessParts? access = some (object, member)) :
    ctx.visitForReferences exclusions skip access =
      ((ctx.memberReference? object member).toList, fun child => child.same object) := by
  rw [leftOut] at shown
  simp only [visitForReferences, shown, parts, Bool.false_eq_true, if_false]

theorem visit_of_name {exclusions : List String} {place : Cursor}
    (shown : ctx.leftOut skip place = false) (noAccess : ctx.accessParts? place = none)
    (isName : ctx.nodes.isIdentifier place.kind = true) :
    ctx.visitForReferences exclusions skip place =
      ((ctx.identifierReference? exclusions place).toList, fun _ => false) := by
  rw [leftOut] at shown
  simp only [visitForReferences, shown, noAccess, isName, Bool.false_eq_true, if_false, if_true]

theorem visit_of_other {exclusions : List String} {place : Cursor}
    (shown : ctx.leftOut skip place = false) (noAccess : ctx.accessParts? place = none)
    (noName : ¬ctx.nodes.isIdentifier place.kind = true) :
    ctx.visitForReferences exclusions skip place = ([], fun _ => true) := by
  rw [leftOut] at shown
  simp only [visitForReferences, shown, noAccess, if_neg noName, Bool.false_eq_true, if_false]

/-! ## Where the search comes to -/

/-- The search does not come to the place. -/
inductive Hidden (ctx : Context) (skip : List Cursor) (root place : Cursor) : Prop where
  /-- It lies within a part of a member access that is not the object, and is not the member. -/
  | besideObject (access object member part : Cursor) (exposed : ctx.Exposed skip root access)
      (parts : ctx.accessParts? access = some (object, member)) (isPart : part ∈ access.children)
      (other : part.same object = false) (within : ctx.Exposed skip part place)
      (inner : place ≠ member)
  /-- It lies within another identifier. -/
  | insideName (outer part : Cursor) (exposed : ctx.Exposed skip root outer)
      (isName : ctx.nodes.isIdentifier outer.kind = true) (isPart : part ∈ outer.children)
      (within : ctx.Exposed skip part place)

/-- What is below a place that the search does not come to is not reached either. -/
theorem Hidden.child {parent child : Cursor} (hidden : ctx.Hidden skip root parent)
    (isChild : child ∈ parent.children) (shown : ctx.leftOut skip child = false) :
    ctx.Hidden skip root child := by
  cases hidden with
  | besideObject access object member part exposed parts isPart other within inner =>
      refine .besideObject access object member part exposed parts isPart other
        (within.child isChild shown) ?_
      -- The member is as deep as the part, and the child is deeper than both.
      rintro rfl
      have depth := within.level_le
      have childLevel := Cursor.level_of_mem_children isChild
      have partLevel := Cursor.level_of_mem_children isPart
      have memberLevel := Cursor.level_of_mem_children (mem_children_of_accessParts? parts).2
      omega
  | insideName outer part exposed isName isPart within =>
      exact .insideName outer part exposed isName isPart (within.child isChild shown)

/-- The search comes to every exposed place, or to an access of which it is the member, or the place
is hidden. -/
theorem reached_or_hidden (exclusions : List String) {place : Cursor}
    (exposed : ctx.Exposed skip root place) :
    Relation.ReflTransGen (Cursor.Enters (ctx.visitForReferences exclusions skip)) root place ∨
      (∃ access object, ctx.Exposed skip root access ∧
        ctx.accessParts? access = some (object, place) ∧ place.same object = false ∧
        Relation.ReflTransGen (Cursor.Enters (ctx.visitForReferences exclusions skip))
          root access) ∨
      ctx.Hidden skip root place := by
  obtain ⟨shown, way⟩ := exposed
  induction way with
  | refl => exact Or.inl .refl
  | @tail parent child way step ih =>
      have parentExposed : ctx.Exposed skip root parent := ⟨shown, way⟩
      obtain ⟨isChild, childShown⟩ := step
      have childWithin : ctx.Exposed skip child child := ⟨childShown, .refl⟩
      rcases ih with reached | ⟨access, object, accessExposed, parts, other, _⟩ | hidden
      · cases parts : ctx.accessParts? parent with
        | some pair =>
            obtain ⟨object, member⟩ := pair
            cases isObject : child.same object with
            | true =>
                left
                refine reached.tail ⟨isChild, ?_⟩
                rw [visit_of_access parentExposed.not_leftOut parts]
                exact isObject
            | false =>
                right
                by_cases isMember : child = member
                · subst isMember
                  exact Or.inl ⟨parent, object, parentExposed, parts, isObject, reached⟩
                · exact Or.inr (.besideObject parent object member child parentExposed parts
                    isChild isObject childWithin isMember)
        | none =>
            by_cases isName : ctx.nodes.isIdentifier parent.kind = true
            · exact Or.inr (Or.inr (.insideName parent child parentExposed isName isChild
                childWithin))
            · left
              refine reached.tail ⟨isChild, ?_⟩
              rw [visit_of_other parentExposed.not_leftOut parts isName]
      · right; right
        refine .besideObject access object parent parent accessExposed parts
          (mem_children_of_accessParts? parts).2 other
          (⟨parentExposed.not_leftOut, .single ⟨isChild, childShown⟩⟩) ?_
        rintro rfl
        exact absurd (Cursor.level_of_mem_children isChild) (by omega)
      · exact Or.inr (Or.inr (hidden.child isChild childShown))

/-! ## Names -/

/-- Why a name may go unreported where it stands. -/
inductive Missed (ctx : Context) (skip : List Cursor) (root place : Cursor) : Prop where
  | hidden (unreached : ctx.Hidden skip root place)
  /-- It is a member, and the first segment of the object is the name of something built in. -/
  | builtinObject (access object : Cursor) (exposed : ctx.Exposed skip root access)
      (parts : ctx.accessParts? access = some (object, place))
      (builtin : ctx.profile.builtins.contains (qualifierRoot (ctx.qualifierOf object)) = true)
  /-- It is a member access itself; no language of the library has such names. -/
  | isAccess (object member : Cursor) (parts : ctx.accessParts? place = some (object, member))
  /-- It has no text, as a node that the parser made up. -/
  | nameless (empty : ctx.text place = "")

/-- An exposed name that is not bound, reserved or excluded, nor built in outside type positions, is
found by the search unless it is missed. -/
theorem reportedAt_explore_or_missed {exclusions : List String} {roots : List Cursor}
    (rootMem : root ∈ roots) {place : Cursor} (exposed : ctx.Exposed skip root place)
    (isName : ctx.nodes.isIdentifier place.kind = true)
    (isUse : isDefinition ctx.nodes place = false)
    (free : ctx.text place ∉ ctx.profile.stopWords) (kept : ctx.text place ∉ exclusions)
    (foreign : ctx.text place ∈ ctx.profile.builtins → inTypePosition ctx.nodes place = true) :
    ReportedAt (ctx.text place) (ctx.line place) (ctx.column place)
        (Cursor.explore (ctx.visitForReferences exclusions skip) roots) ∨
      ctx.Missed skip root place := by
  by_cases empty : ctx.text place = ""
  · exact Or.inr (.nameless empty)
  rcases reached_or_hidden exclusions exposed with
    reached | ⟨access, object, accessExposed, parts, _, reached⟩ | hidden
  · cases parts : ctx.accessParts? place with
    | some pair => exact Or.inr (.isAccess pair.1 pair.2 parts)
    | none =>
        left
        refine ⟨ctx.referenceAt place (ctx.text place) none, ?_, rfl, rfl, rfl⟩
        refine Cursor.mem_explore_iff.mpr ⟨root, rootMem, place, reached, ?_⟩
        have sought : ¬(ctx.profile.builtins.contains (ctx.text place) &&
            !inTypePosition ctx.nodes place) = true := by
          simpa using foreign
        rw [visit_of_name exposed.not_leftOut parts isName, Option.mem_toList,
          identifierReference?]
        simp only [isUse, if_neg sought]
        simp [String.isEmpty_iff, empty, free, kept]
  · by_cases builtin :
        ctx.profile.builtins.contains (qualifierRoot (ctx.qualifierOf object)) = true
    · exact Or.inr (.builtinObject access object accessExposed parts builtin)
    · left
      refine ⟨ctx.referenceAt place (ctx.text place) (ctx.qualifierOf object), ?_, rfl, rfl, rfl⟩
      refine Cursor.mem_explore_iff.mpr ⟨root, rootMem, access, reached, ?_⟩
      rw [visit_of_access accessExposed.not_leftOut parts, Option.mem_toList, memberReference?]
      simp only [List.contains_iff_mem] at builtin
      simp [String.isEmpty_iff, empty, free, builtin]
  · exact Or.inr (.hidden hidden)

end Context

/-- The place is the use of a type name that the scope of a draft is to report: it is exposed and
not bound, and its text is neither reserved nor excluded by the scope. -/
structure TypeUse (ctx : Context) (draft : Draft) (root place : Cursor) : Prop where
  exposed : ctx.Exposed (draft.skip ++ draft.nameNode.toList) root place
  isType : ctx.IsTypeName place
  isUse : isDefinition ctx.nodes place = false
  free : ctx.text place ∉ ctx.profile.stopWords
  kept : ctx.text place ∉ draft.exclusions ctx

/-- What the search finds is among the references of the scope. -/
theorem Draft.reportedAt_references {draft : Draft} {ctx : Context} {name : String}
    {line column : Int}
    (found : ReportedAt name line column (Cursor.explore (ctx.visitForReferences
      (draft.exclusions ctx) (draft.skip ++ draft.nameNode.toList)) draft.places)) :
    ReportedAt name line column (draft.references ctx) := by
  refine reportedAt_applyHeritage _ _ ?_
  obtain ⟨reference, member, same⟩ := reportedAt_firstOccurrences found
  exact ⟨reference, by rwa [Context.collectReferences, sortReferences, List.mem_mergeSort], same⟩

/-- No kind of identifier of a language of the library is a member access. -/
theorem accessParts?_of_isIdentifier {ctx : Context} (known : ctx.profile ∈ allProfiles)
    {place : Cursor} (isName : ctx.nodes.isIdentifier place.kind = true) :
    ctx.accessParts? place = none := by
  have apart : ∀ profile ∈ allProfiles,
      ∀ kind ∈ profile.nodes.identifiers ++ profile.nodes.typeIdentifiers,
        profile.nodes.memberAccess.lookup kind = none := by
    decide +kernel
  have listed : place.kind ∈ ctx.nodes.identifiers ++ ctx.nodes.typeIdentifiers := by
    simpa [NodeTable.isIdentifier] using isName
  rw [Context.accessParts?, apart ctx.profile known place.kind listed]

/-- Every scope of a file completes a draft, and every use of a type name at or below the nodes of
the draft is reported by the scope at its own line and column, unless it is missed. -/
theorem type_names_reported_unless_missed (profile : Profile) (strategy : Strategy)
    (stack : StackLimit) (includeModuleScopes : Bool) (filePath language : String)
    (bytes : ByteArray) (tree : Node) :
    let ctx := prepare profile strategy stack filePath bytes (Cursor.root tree)
    let drafts := fileDrafts strategy ctx includeModuleScopes (Cursor.root tree)
    (analyze profile strategy stack includeModuleScopes filePath language bytes tree).scopes =
        sortScopes (drafts.map fun draft => draft.complete ctx strategy.packageName) ∧
      (∀ draft ∈ drafts, ∀ root ∈ draft.places, ∀ place, TypeUse ctx draft root place →
        ReportedAt (ctx.text place) (ctx.line place) (ctx.column place)
            (draft.complete ctx strategy.packageName).references ∨
          ctx.Missed (draft.skip ++ draft.nameNode.toList) root place) ∧
      (profile ∈ allProfiles → ∀ place, ctx.IsTypeName place → ctx.accessParts? place = none) := by
  intro ctx drafts
  refine ⟨scopes_analyze profile strategy stack includeModuleScopes filePath language bytes tree, ?_,
    ?_⟩
  · intro draft _ root rootMem place use
    rcases Context.reportedAt_explore_or_missed rootMem use.exposed use.isType.1 use.isUse use.free
      use.kept (fun _ => use.isType.2) with found | missed
    · exact Or.inl (Draft.reportedAt_references found)
    · exact Or.inr missed
  · intro known place isType
    exact accessParts?_of_isIdentifier known isType.1

/-- The text of a declaration whose type is a qualified generic type with an argument. -/
def qualifiedText : ByteArray := "ns::Box<User> b;".toUTF8

/-- The tree of the declaration. -/
def qualifiedTree : Node :=
  let node (index : Nat) (kind : String) (field : Option String) (start stop : Nat)
      (children : List Node) : Node :=
    .mk { index, kind, field, isNamed := true, isMissing := false, startByte := start,
          endByte := stop } children
  let argument := node 7 "type_descriptor" none 8 12 [node 8 "type_identifier" "type" 8 12 []]
  let generic := node 4 "template_type" "name" 4 13
    [node 5 "type_identifier" "name" 4 7 [],
      node 6 "template_argument_list" "arguments" 7 13 [argument]]
  let qualified := node 2 "qualified_identifier" "type" 0 13
    [node 3 "namespace_identifier" "scope" 0 2 [], generic]
  node 0 "translation_unit" none 0 16
    [node 1 "declaration" none 0 16 [qualified, node 9 "identifier" "declarator" 14 15 []]]

/-- The file of the declaration before its scopes are collected. -/
def qualifiedContext : Context :=
  prepare cpp Reading.CFamily.cppStrategy .unlimited "piece.cpp" qualifiedText
    (Cursor.root qualifiedTree)

/-- The argument of a qualified generic type is a use of a type name, and no reference names it. -/
theorem qualified_generic_argument_missed :
    ∃ draft ∈ fileDrafts Reading.CFamily.cppStrategy qualifiedContext true
        (Cursor.root qualifiedTree),
      ∃ root ∈ draft.places, ∃ place, TypeUse qualifiedContext draft root place ∧
        qualifiedContext.text place = "User" ∧
        ∀ line column, ¬ReportedAt "User" line column
          (draft.complete qualifiedContext Reading.CFamily.cppStrategy.packageName).references := by
  have found : ((fileDrafts Reading.CFamily.cppStrategy qualifiedContext true
      (Cursor.root qualifiedTree)).any fun draft => draft.places.any fun root =>
        (qualifiedContext.exposedPlaces (draft.skip ++ draft.nameNode.toList) root).any fun place =>
          qualifiedContext.nodes.isIdentifier place.kind &&
          inTypePosition qualifiedContext.nodes place &&
          !isDefinition qualifiedContext.nodes place &&
          qualifiedContext.text place == "User" &&
          !(draft.exclusions qualifiedContext).contains "User" &&
          (draft.references qualifiedContext).all fun reference =>
            reference.identifier != "User") = true := by
    decide +kernel
  simp only [List.any_eq_true, Bool.and_eq_true, Bool.not_eq_true', beq_iff_eq, List.all_eq_true,
    bne_iff_ne, Context.mem_exposedPlaces_iff] at found
  obtain ⟨draft, drafted, root, rootMem, place, exposed,
    ⟨⟨⟨⟨isName, inType⟩, isUse⟩, isUser⟩, kept⟩, unnamed⟩ := found
  refine ⟨draft, drafted, root, rootMem, place, ?_, isUser, ?_⟩
  · refine ⟨exposed, ⟨isName, inType⟩, isUse, ?_, ?_⟩
    · rw [isUser]
      decide +kernel
    · rw [isUser]
      simpa using kept
  · rintro line column ⟨reference, member, sameName, _⟩
    exact unnamed reference member sameName

end ScopeAtlas.Extraction
