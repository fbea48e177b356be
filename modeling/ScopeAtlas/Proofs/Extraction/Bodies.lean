import ScopeAtlas.Proofs.Extraction.Containment

/-!
# Scopes made in the body of another

A walk enters the body of a construct one level deeper and under the name of the scope it has just
drafted.  What is drafted there, at that level and under that name, is made inside that scope.  The
walk keeps no record of it: a scope only says the name of its container and its own depth.  Here the
record is kept beside the walk, as a list of pairs, so that what is later made of names, depths and
lines can be compared with it.
-/

namespace ScopeAtlas.Syntax

/-! ## Equality of places -/

mutual

def Node.decideEq : (a b : Node) → Decidable (a = b)
  | .mk info children, .mk other others =>
      match decEq info other, Node.decideEqAll children others with
      | isTrue same, isTrue sameToo => isTrue (same ▸ sameToo ▸ rfl)
      | isFalse differ, _ => isFalse fun equal => differ (Node.mk.inj equal).1
      | _, isFalse differ => isFalse fun equal => differ (Node.mk.inj equal).2

def Node.decideEqAll : (a b : List Node) → Decidable (a = b)
  | [], [] => isTrue rfl
  | [], _ :: _ => isFalse (by simp)
  | _ :: _, [] => isFalse (by simp)
  | node :: rest, other :: others =>
      match Node.decideEq node other, Node.decideEqAll rest others with
      | isTrue same, isTrue sameToo => isTrue (same ▸ sameToo ▸ rfl)
      | isFalse differ, _ => isFalse fun equal => differ (List.cons.inj equal).1
      | _, isFalse differ => isFalse fun equal => differ (List.cons.inj equal).2

end

instance : DecidableEq Node := Node.decideEq

deriving instance DecidableEq for Cursor

instance (outer inner : Cursor) : Decidable (outer.Within inner) :=
  decidable_of_iff (inner ∈ outer.preorder) Cursor.mem_preorder_iff

end ScopeAtlas.Syntax

namespace ScopeAtlas.Extraction

open ScopeAtlas.Language ScopeAtlas.Syntax

deriving instance DecidableEq for Draft

/-! ## The record of a walk -/

/-- A node is entered in the body of the scope: below one of its nodes, one level deeper and under
its name. -/
def Draft.Opens (container : Draft) (place : Cursor) (level : Nat) (owner : Option String) : Prop :=
  level = container.depth + 1 ∧ owner = some container.name ∧
    ∃ home ∈ container.places, home.Within place
deriving Decidable

/-- The scope in whose body a node is entered: of those that a reading has drafted, the last one. -/
def bodyOwner? (made : List Draft) (place : Cursor) (level : Nat) (owner : Option String) :
    Option Draft :=
  made.find? fun container => container.Opens place level owner

/-- What is drafted at the level and under the name with which a node was entered. -/
def draftedAt (level : Nat) (owner : Option String) (drafts : List Draft) : List Draft :=
  drafts.filter fun draft => draft.depth == level && draft.parent == owner

/-- The scopes that steps make, each with the scope in whose body it is made, until a step gives up.
`made` holds what was drafted before, the last first. -/
def bodySteps (enter : Cursor → Nat → Option String → Gathering)
    (below : Cursor → Nat → Option String → List (Draft × Draft)) :
    (made : List Draft) → List Step → List (Draft × Draft)
  | _, [] => []
  | made, .scope draft :: rest => bodySteps enter below (draft :: made) rest
  | made, .enter place level owner :: rest =>
      let first := enter place level owner
      (bodyOwner? made place level owner).toList.flatMap (fun container =>
          (draftedAt level owner first.drafts).map fun draft => (container, draft)) ++
        below place level owner ++
        if first.truncated then [] else bodySteps enter below made rest
  | made, .report _ :: rest => bodySteps enter below made rest

/-- The pairs of a walk: a scope, and a scope made in its body. -/
def bodyPairs (strategy : Strategy) (ctx : Context) :
    (fuel : Nat) → Cursor → Nat → Option String → List (Draft × Draft)
  | 0, _, _, _ => []
  | fuel + 1, place, depth, parent =>
      bodySteps (gather strategy ctx fuel) (bodyPairs strategy ctx fuel) []
        (ctx.room place (stepsAt strategy ctx place depth parent))

/-- The pairs of a tree. -/
def madeInBodies (strategy : Strategy) (ctx : Context) (root : Cursor) : List (Draft × Draft) :=
  bodyPairs strategy ctx root.node.size root 0 none

/-! ## What the record says -/

/-- All scopes of a file have its path. -/
theorem Draft.filePath_complete (draft : Draft) (ctx : Context) (packageName : String → String) :
    (draft.complete ctx packageName).filePath = ctx.filePath := rfl

/-- Both scopes are drafted, and the first encloses the second. -/
structure Recorded (drafts : List Draft) (pair : Draft × Draft) : Prop where
  containerMem : pair.1 ∈ drafts
  draftMem : pair.2 ∈ drafts
  encloses : pair.1.Encloses pair.2

theorem Recorded.mono {fewer drafts : List Draft} {pair : Draft × Draft} (subset : fewer ⊆ drafts)
    (recorded : Recorded fewer pair) : Recorded drafts pair where
  containerMem := subset recorded.containerMem
  draftMem := subset recorded.draftMem
  encloses := recorded.encloses

/-- What is drafted below a node that was entered in the body of a scope is enclosed by it. -/
theorem encloses_of_bodyOwner? {made drafts : List Draft} {place : Cursor} {level : Nat}
    {owner : Option String} {container draft : Draft}
    (opened : bodyOwner? made place level owner = some container)
    (drafted : draft ∈ draftedAt level owner drafts) (lies : draft.LiesWithin place) :
    container.Encloses draft := by
  obtain ⟨deeper, named, home, isHome, within⟩ : container.Opens place level owner := by
    simpa using List.find?_some opened
  have attached := List.of_mem_filter drafted
  simp only [Bool.and_eq_true, beq_iff_eq] at attached
  constructor
  · exact attached.2.trans named
  · exact attached.1.trans deeper
  · exact ⟨home, isHome, lies.mono within⟩

theorem recorded_of_mem_bodySteps {enter : Cursor → Nat → Option String → Gathering}
    {below : Cursor → Nat → Option String → List (Draft × Draft)}
    (lies : ∀ place level owner, ∀ draft ∈ (enter place level owner).drafts,
      draft.LiesWithin place)
    (recorded : ∀ place level owner, ∀ pair ∈ below place level owner,
      Recorded (enter place level owner).drafts pair)
    {made : List Draft} {steps : List Step} :
    ∀ pair ∈ bodySteps enter below made steps,
      Recorded (made ++ (gatherSteps enter steps).drafts) pair := by
  induction steps generalizing made with
  | nil => intro pair member; contradiction
  | cons step rest ih =>
      intro pair member
      cases step with
      | scope draft =>
          apply (ih pair member).mono
          intro other
          simp only [gatherSteps, List.mem_append, List.mem_cons]
          tauto
      | enter place level owner =>
          have first : ∀ {other : Draft}, other ∈ made ++ (enter place level owner).drafts →
              other ∈ made ++ (gatherSteps enter (.enter place level owner :: rest)).drafts := by
            intro other
            simp only [gatherSteps]
            split <;> simp only [List.mem_append] <;> tauto
          rw [bodySteps, List.mem_append, List.mem_append] at member
          rcases member with (here | deeper) | later
          · obtain ⟨container, opened, paired⟩ := List.mem_flatMap.mp here
            obtain ⟨draft, drafted, rfl⟩ := List.mem_map.mp paired
            have opened := Option.mem_toList.mp opened
            have draftMem := List.mem_of_mem_filter drafted
            constructor
            · exact List.mem_append_left _ (List.mem_of_find?_eq_some opened)
            · exact first (List.mem_append_right _ draftMem)
            · exact encloses_of_bodyOwner? opened drafted (lies place level owner draft draftMem)
          · apply (recorded place level owner pair deeper).mono
            intro other otherMem
            exact first (List.mem_append_right _ otherMem)
          · simp only [gatherSteps]
            split at later
            · contradiction
            · rename_i given
              rw [if_neg given]
              apply (ih pair later).mono
              intro other
              simp only [List.mem_append]
              tauto
      | report issue => exact ih pair member

/-- Every pair of a walk is recorded among its drafts. -/
theorem recorded_of_mem_bodyPairs {strategy : Strategy} {ctx : Context} {detached : Draft → Prop}
    (nested : strategy.IsNested ctx detached) (fuel : Nat) (place : Cursor) (depth : Nat)
    (parent : Option String) :
    ∀ pair ∈ bodyPairs strategy ctx fuel place depth parent,
      Recorded (gather strategy ctx fuel place depth parent).drafts pair := by
  induction fuel generalizing place depth parent with
  | zero => intro pair member; contradiction
  | succ fuel ih =>
      intro pair member
      have lies : ∀ place level owner,
          ∀ draft ∈ (gather strategy ctx fuel place level owner).drafts,
          draft.LiesWithin place := fun place level owner draft drafted =>
        (placed_gather nested fuel place level owner draft drafted).lies
      exact recorded_of_mem_bodySteps lies ih pair member

end ScopeAtlas.Extraction
