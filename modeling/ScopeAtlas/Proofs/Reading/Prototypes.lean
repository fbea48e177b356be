import ScopeAtlas.Proofs.Reading.Declarators

/-!
# Functions among declarators

A declarator is to be read from the inside: what stands nearest to the name, parentheses aside, says
whether a function is declared, and a function takes the parameters that stand there.  The readings
look for both from the outside, and stop at the first parentheses on the way.
-/

namespace ScopeAtlas.Reading.Declarator

open ScopeAtlas.Extraction ScopeAtlas.Language ScopeAtlas.Syntax

/-! ## Reading from the inside -/

/-- Declarators of pointers and references. -/
def marks : List String := ["pointer_declarator", "reference_declarator"]

/-- Declarators that a declared type is built of. -/
def typeDeclarators : List String :=
  marks ++ ["array_declarator", "parenthesized_declarator", "function_declarator"]

/-- The declarator nearest to the name, parentheses aside. -/
def nearest? (links : List Cursor) : Option Cursor :=
  links.reverse.find? (·.kind != "parenthesized_declarator")

/-- What a chain declares is a function. -/
def DeclaresFunction (links : List Cursor) : Prop :=
  ∃ link ∈ nearest? links, link.kind = "function_declarator"
deriving Decidable

/-- The outermost function declarator. -/
def outermost? (links : List Cursor) : Option Cursor :=
  links.find? (·.kind == "function_declarator")

theorem Chain.kind_mem_wrappers {declarator target : Cursor} {links : List Cursor}
    (chain : Chain declarator links target) : ∀ link ∈ links, link.kind ∈ wrappers := by
  induction chain with
  | bottom => simp
  | around isWrapper _ _ ih => exact List.forall_mem_cons.mpr ⟨isWrapper, ih⟩

theorem Chain.level_le {declarator target : Cursor} {links : List Cursor}
    (chain : Chain declarator links target) :
    ∀ link ∈ links, declarator.level ≤ link.level := by
  induction chain with
  | bottom => simp
  | around _ holds _ ih =>
      refine List.forall_mem_cons.mpr ⟨Nat.le_refl _, fun link member => ?_⟩
      have below := ih link member
      rw [Cursor.level_of_mem_children (mem_children_of_inner? holds)] at below
      omega

/-- No declarator stands twice in a chain. -/
theorem Chain.nodup {declarator target : Cursor} {links : List Cursor}
    (chain : Chain declarator links target) : links.Nodup := by
  induction chain with
  | bottom => exact List.nodup_nil
  | around _ holds below ih =>
      refine List.nodup_cons.mpr ⟨fun member => ?_, ih⟩
      have deeper := below.level_le _ member
      rw [Cursor.level_of_mem_children (mem_children_of_inner? holds)] at deeper
      omega

theorem function?_of_inner? {outer inner : Cursor} (isWrapper : outer.kind ∈ wrappers)
    (holds : inner? outer = some inner) (noFunction : outer.kind ≠ "function_declarator") :
    function? outer = function? inner := by
  rw [function?, if_pos (List.contains_iff_mem.mpr isWrapper),
    if_neg (mt beq_iff_eq.mp noFunction)]
  split
  · rename_i found
    obtain rfl := Option.some.inj (holds.symm.trans found)
    rfl
  · rename_i absent
    rw [holds] at absent
    contradiction

/-- The readings find the outermost function declarator. -/
theorem Chain.function?_eq {declarator target : Cursor} {links : List Cursor}
    (chain : Chain declarator links target) : function? declarator = outermost? links := by
  induction chain with
  | bottom bare =>
      rw [function?, if_neg (mt List.contains_iff_mem.mp bare)]
      rfl
  | @around outer inner _ _ isWrapper holds _ ih =>
      rw [outermost?, List.find?_cons]
      by_cases isFunction : outer.kind = "function_declarator"
      · rw [function?, if_pos (List.contains_iff_mem.mpr isWrapper), if_pos (beq_iff_eq.mpr isFunction),
          beq_iff_eq.mpr isFunction]
      · rw [function?_of_inner? isWrapper holds isFunction, beq_eq_false_iff_ne.mpr isFunction]
        exact ih

/-- The outermost function declarator is the one nearest to the name exactly if it is the only one. -/
theorem outermost?_eq_nearest?_iff {links : List Cursor} (distinct : links.Nodup)
    (declares : DeclaresFunction links) :
    outermost? links = nearest? links ↔
      ∀ link ∈ links, link.kind = "function_declarator" → nearest? links = some link := by
  obtain ⟨nearest, isNearest, isFunction⟩ := declares
  rw [isNearest]
  constructor
  · intro isOutermost link member linkIsFunction
    -- Split at the outermost one: before it is no function, and after it the nearest one is not.
    obtain ⟨_, before, after, rfl, none⟩ := List.find?_eq_some_iff_append.mp isOutermost
    rw [List.mem_append, List.mem_cons] at member
    rcases member with member | rfl | member
    · simpa [linkIsFunction] using none link member
    · rfl
    · rw [nearest?, List.reverse_append, List.reverse_cons, List.append_assoc,
        List.find?_append] at isNearest
      have inside : (after.reverse.find? (·.kind != "parenthesized_declarator")).isSome := by
        rw [List.find?_isSome]
        exact ⟨link, List.mem_reverse.mpr member, by rw [linkIsFunction]; rfl⟩
      obtain ⟨other, found⟩ := Option.isSome_iff_exists.mp inside
      rw [found, Option.some_or, Option.mem_some_iff] at isNearest
      subst isNearest
      have again := List.mem_reverse.mp (List.mem_of_find?_eq_some found)
      exact absurd again (List.nodup_cons.mp (List.nodup_append.mp distinct).2.1).1
  · intro only
    have member := List.mem_reverse.mp (List.mem_of_find?_eq_some isNearest)
    have inside : (outermost? links).isSome := by
      rw [outermost?, List.find?_isSome]
      exact ⟨nearest, member, beq_iff_eq.mpr isFunction⟩
    obtain ⟨outermost, found⟩ := Option.isSome_iff_exists.mp inside
    rw [found]
    have isFunction : outermost.kind = "function_declarator" := by
      simpa using List.find?_some (show links.find? _ = some outermost from found)
    exact (only outermost (List.mem_of_find?_eq_some found) isFunction).symm

/-! ## Reading from the outside -/

/-- The first declarator past pointers and references. -/
def pastMarks? (links : List Cursor) : Option Cursor :=
  links.find? fun link => !marks.contains link.kind

/-- A function declarator whose own declarator is not in parentheses. -/
def IsPlain (link : Cursor) : Prop :=
  link.kind = "function_declarator" ∧
    (link.childByField? "declarator").map (·.kind) ≠ some "parenthesized_declarator"
deriving Decidable

/-- What the readings take for a prototype. -/
def ReadsAsFunction (links : List Cursor) : Prop :=
  ∃ link ∈ pastMarks? links, IsPlain link
deriving Decidable

/-- The test for a prototype goes past pointers and references. -/
theorem isPrototype_of_inner? {outer inner : Cursor} (isMark : outer.kind ∈ marks)
    (holds : inner? outer = some inner) : isPrototype outer = isPrototype inner := by
  have passed : ["pointer_declarator", "reference_declarator", "attributed_declarator"].contains
      outer.kind = true := by
    simp only [marks, List.mem_cons, List.not_mem_nil, or_false] at isMark
    rcases isMark with kind | kind <;> rw [kind] <;> rfl
  rw [isPrototype, if_pos passed]
  split
  · rename_i found
    obtain rfl := Option.some.inj (holds.symm.trans found)
    rfl
  · rename_i absent
    rw [holds] at absent
    contradiction

/-- The test for a prototype ends at any other declarator. -/
theorem isPrototype_iff_isPlain {place : Cursor}
    (other : place.kind ∉ marks ++ ["attributed_declarator"]) :
    isPrototype place = true ↔ IsPlain place := by
  have stopped : ¬["pointer_declarator", "reference_declarator",
      "attributed_declarator"].contains place.kind = true := mt List.contains_iff_mem.mp other
  rw [isPrototype, if_neg stopped]
  simp [IsPlain]

theorem Chain.isPrototype_iff {declarator target : Cursor} {links : List Cursor}
    (chain : Chain declarator links target) (built : ∀ link ∈ links, link.kind ∈ typeDeclarators) :
    isPrototype declarator = true ↔ ReadsAsFunction links := by
  induction chain with
  | @bottom target bare =>
      have other : target.kind ∉ marks ++ ["attributed_declarator"] := by
        have known : marks ++ ["attributed_declarator"] ⊆ wrappers := by decide
        exact mt (fun member => known member) bare
      have noFunction : target.kind ≠ "function_declarator" := by
        rintro kind
        exact bare (kind ▸ by decide)
      rw [isPrototype_iff_isPlain other]
      simp [IsPlain, noFunction, ReadsAsFunction, pastMarks?]
  | @around outer inner _ links _ holds _ ih =>
      obtain ⟨outerBuilt, rest⟩ := List.forall_mem_cons.mp built
      rw [ReadsAsFunction, pastMarks?, List.find?_cons]
      by_cases isMark : outer.kind ∈ marks
      · rw [isPrototype_of_inner? isMark holds, List.contains_iff_mem.mpr isMark]
        exact ih rest
      · have other : outer.kind ∉ marks ++ ["attributed_declarator"] := by
          rw [List.mem_append, not_or]
          refine ⟨isMark, fun attributed => ?_⟩
          rw [List.mem_singleton.mp attributed] at outerBuilt
          exact absurd outerBuilt (by decide)
        have notMark : marks.contains outer.kind = false := by simpa using isMark
        rw [isPrototype_iff_isPlain other, notMark]
        simp

/-- Why a declaration is read as something else than it is. -/
inductive Misread (links : List Cursor) : Prop where
  /-- A function is declared, but past pointers and references stands a parenthesis, an array, or a
  function declarator around parentheses. -/
  | overlooked (isFunction : DeclaresFunction links) (link : Cursor)
      (first : pastMarks? links = some link) (covered : ¬IsPlain link)
  /-- An array of functions or another type that no function has is declared, but past pointers and
  references stands a function declarator. -/
  | mistaken (noFunction : ¬DeclaresFunction links) (link : Cursor)
      (first : pastMarks? links = some link) (plain : IsPlain link)

/-- A chain is read as what it declares exactly if it is not misread. -/
theorem readsAsFunction_iff_declaresFunction_iff {links : List Cursor} :
    (ReadsAsFunction links ↔ DeclaresFunction links) ↔ ¬Misread links := by
  constructor
  · rintro agree (⟨isFunction, link, first, covered⟩ | ⟨noFunction, link, first, plain⟩)
    · obtain ⟨other, otherFirst, plain⟩ := agree.mpr isFunction
      obtain rfl := Option.some.inj (first.symm.trans otherFirst)
      exact covered plain
    · exact noFunction (agree.mp ⟨link, first, plain⟩)
  · intro fine
    constructor
    · rintro ⟨link, first, plain⟩
      by_contra noFunction
      exact fine (.mistaken noFunction link first plain)
    · intro isFunction
      -- The function declarator is neither a pointer nor a reference, so something is past them.
      obtain ⟨nearest, isNearest, kind⟩ := isFunction
      have member := List.mem_reverse.mp (List.mem_of_find?_eq_some isNearest)
      have inside : (pastMarks? links).isSome := by
        rw [pastMarks?, List.find?_isSome]
        exact ⟨nearest, member, by rw [kind]; rfl⟩
      obtain ⟨link, first⟩ := Option.isSome_iff_exists.mp inside
      by_contra covered
      exact fine (.overlooked ⟨nearest, isNearest, kind⟩ link first
        fun plain => covered ⟨link, first, plain⟩)

/-! ## The declaration of a name -/

/-- The nearest place around another that is no declarator. -/
def holder? (place : Cursor) : Option Cursor :=
  place.ancestors.find? fun ancestor => !wrappers.contains ancestor.kind

theorem holder?_of_mem_children {parent child : Cursor} (member : child ∈ parent.children) :
    holder? child = if parent.kind ∈ wrappers then holder? parent else some parent := by
  obtain ⟨_, node, _, _, rfl⟩ := Cursor.mem_children_iff.mp member
  rw [holder?, Cursor.ancestors, List.find?_cons]
  by_cases isWrapper : parent.kind ∈ wrappers
  · rw [if_pos isWrapper, List.contains_iff_mem.mpr isWrapper]
    rfl
  · rw [if_neg isWrapper, Bool.eq_false_iff.mpr (mt List.contains_iff_mem.mp isWrapper)]
    rfl

/-- The links of a chain are what lies around its target, up to where it begins. -/
theorem Chain.ancestors_eq {declarator target : Cursor} {links : List Cursor}
    (chain : Chain declarator links target) :
    target.ancestors = links.reverse ++ declarator.ancestors := by
  induction chain with
  | bottom => rfl
  | @around outer inner _ links _ holds _ ih =>
      obtain ⟨_, node, _, _, rfl⟩ := Cursor.mem_children_iff.mp (mem_children_of_inner? holds)
      rw [ih, List.reverse_cons, List.append_assoc]
      rfl

/-- The name at the bottom of a chain is held where the chain begins. -/
theorem Chain.holder?_eq {declarator target : Cursor} {links : List Cursor}
    (chain : Chain declarator links target) : holder? target = holder? declarator := by
  have none : links.reverse.find? (fun link => !wrappers.contains link.kind) = none := by
    rw [List.find?_eq_none]
    intro link member
    simpa using chain.kind_mem_wrappers link (List.mem_reverse.mp member)
  rw [holder?, chain.ancestors_eq, List.find?_append, none, Option.none_or]
  rfl

/-- The declarators right around a place. -/
def linksAround (place : Cursor) : List Cursor :=
  (place.ancestors.takeWhile fun ancestor => wrappers.contains ancestor.kind).reverse

/-- The links of a chain are all declarators around its target. -/
theorem Chain.eq_linksAround {holder declarator target : Cursor} {links : List Cursor}
    (chain : Chain declarator links target) (isChild : declarator ∈ holder.children)
    (bare : holder.kind ∉ wrappers) : links = linksAround target := by
  obtain ⟨_, node, _, _, rfl⟩ := Cursor.mem_children_iff.mp isChild
  have all : ∀ link ∈ links.reverse, wrappers.contains link.kind = true := by
    intro link member
    exact List.contains_iff_mem.mpr (chain.kind_mem_wrappers link (List.mem_reverse.mp member))
  have stops : ¬wrappers.contains holder.kind = true := mt List.contains_iff_mem.mp bare
  rw [linksAround, chain.ancestors_eq, List.takeWhile_append_of_pos all, Cursor.ancestors,
    List.takeWhile_cons, if_neg stops, List.append_nil, List.reverse_reverse]

theorem holder?_of_function? {declarator function : Cursor}
    (found : function? declarator = some function) :
    function.kind ∈ wrappers ∧ holder? function = holder? declarator := by
  fun_induction function? declarator with
  | case1 place isWrapper =>
      obtain rfl := Option.some.inj found
      exact ⟨List.contains_iff_mem.mp isWrapper, rfl⟩
  | case2 place isWrapper _ inner holds ih =>
      obtain ⟨functionIsWrapper, same⟩ := ih found
      rw [holder?_of_mem_children (mem_children_of_inner? holds),
        if_pos (List.contains_iff_mem.mp isWrapper)] at same
      exact ⟨functionIsWrapper, same⟩
  | case3 => contradiction
  | case4 => contradiction

/-- A declarator that has a name ends in it. -/
theorem Chain.name_node {source : Syntax.Source} {declarator target : Cursor} {links : List Cursor}
    (chain : Chain declarator links target)
    (named : (name source (some declarator)).text ≠ "") :
    (name source (some declarator)).node = some target := by
  have found := innermost?_eq_some_iff.mpr ⟨links, chain⟩
  rw [name, Option.bind_some, found] at named ⊢
  dsimp only at named ⊢
  by_cases isQualified : (target.kind == "qualified_identifier") = true
  · rw [if_pos isQualified]
  · by_cases isName : nameKinds.contains target.kind = true
    · rw [if_neg isQualified, if_pos isName]
    · rw [if_neg isQualified, if_neg isName] at named
      contradiction

/-- Below each link of a chain the same name is found. -/
theorem Chain.name_below {source : Syntax.Source} {declarator target link inner : Cursor}
    {links : List Cursor} (chain : Chain declarator links target) (member : link ∈ links)
    (holds : inner? link = some inner) :
    name source (some inner) = name source (some declarator) := by
  have found : innermost? inner = some target := by
    induction chain with
    | bottom => contradiction
    | @around outer next _ rest _ outerHolds below ih =>
        rcases List.mem_cons.mp member with rfl | member
        · obtain rfl := Option.some.inj (holds.symm.trans outerHolds)
          exact innermost?_eq_some_iff.mpr ⟨rest, below⟩
        · exact ih member
  rw [name, name, Option.bind_some, Option.bind_some, found,
    innermost?_eq_some_iff.mpr ⟨links, chain⟩]

/-- All that ends in a name is held where the name is. -/
theorem holder?_of_name {source : Syntax.Source} {declarator target : Cursor}
    (found : (name source (some declarator)).node = some target) :
    holder? target = holder? declarator := by
  obtain ⟨links, chain⟩ := exists_chain_of_name found
  exact chain.holder?_eq

end ScopeAtlas.Reading.Declarator
