import Mathlib.Data.List.TakeWhile
import ScopeAtlas.Proofs.Extraction.Separation

/-!
# The identity of a scope

A scope is identified by a digest of its file, its byte range and its content.  In one file the
range decides the digested text, and the text gives the range back.  So, as far as the digest tells
the texts of a file apart, two scopes have one identity exactly when they have one range.

The code outside the constructs is drafted at top-level nodes that no construct begins in, so its
drafts share no place with those of the constructs, and none with each other.
-/

namespace ScopeAtlas.Syntax

namespace Source

theorem row_point (source : Source) (offset : Nat) :
    (source.point offset).row = (source.lineFeeds.takeWhile (· < offset)).length := by
  simp only [point]
  split
  · rfl
  · rename_i none
    rw [List.getLast?_eq_none_iff.mp none]
    rfl

/-- The line feeds before an offset are among those before a later one. -/
theorem takeWhile_lineFeeds (source : Source) {first second : Nat} (le : first ≤ second) :
    source.lineFeeds.takeWhile (· < first) =
      (source.lineFeeds.takeWhile (· < second)).takeWhile (· < first) := by
  rw [List.takeWhile_takeWhile]
  congr 1
  funext lineFeed
  simp only [decide_eq_true_eq, decide_eq_decide]
  omega

/-- A later offset is on the same row or on a later one. -/
theorem row_point_le (source : Source) {first second : Nat} (le : first ≤ second) :
    (source.point first).row ≤ (source.point second).row := by
  rw [row_point, row_point, source.takeWhile_lineFeeds le]
  exact (List.takeWhile_sublist _).length_le

end Source

end ScopeAtlas.Syntax

namespace ScopeAtlas.Extraction

open ScopeAtlas.Language ScopeAtlas.Syntax

/-! ## Code outside the constructs -/

/-- A node covers the row on which it begins. -/
theorem coversRow_of_mem_startRow {source : Source} {rows : List Nat} {place : Cursor}
    (forward : place.startByte ≤ place.endByte) (member : (source.startPoint place).row ∈ rows) :
    coversRow source rows place = true := by
  simp only [coversRow, List.any_eq_true, Bool.and_eq_true, decide_eq_true_eq]
  exact ⟨_, member, Nat.le_refl _, source.row_point_le forward⟩

theorem closeStretch_sublist (table : NodeTable) (stretch : List Cursor) :
    (closeStretch table stretch).Sublist stretch.reverse :=
  (List.dropWhile_sublist _).reverse

/-- The stretches hold nodes that are not covered, each once and in their order. -/
theorem flatten_stretchesFrom_sublist (table : NodeTable) (covered : Cursor → Bool)
    (current nodes : List Cursor) :
    (stretchesFrom table covered current nodes).flatten.Sublist
      (current.reverse ++ nodes.filter fun place => !covered place) := by
  induction nodes generalizing current with
  | nil =>
      cases current with
      | nil => simp [stretchesFrom]
      | cons place earlier =>
          simpa [stretchesFrom] using closeStretch_sublist table (place :: earlier)
  | cons place rest ih =>
      have dropped := ih []
      rw [stretchesFrom]
      by_cases isCovered : covered place
      · rw [if_pos isCovered, List.filter_cons_of_neg (by simp [isCovered])]
        split
        · exact dropped.trans (List.sublist_append_right _ _)
        · exact (closeStretch_sublist table current).append dropped
      · rw [if_neg isCovered, List.filter_cons_of_pos (by simp [isCovered])]
        split
        · exact (dropped.cons _).trans (List.sublist_append_right _ _)
        · simpa using ih (place :: current)

theorem map_place_moduleDrafts_sublist (number : Nat) (stretches : List (List Cursor)) :
    ((moduleDrafts number stretches).map (·.place)).Sublist stretches.flatten := by
  fun_induction moduleDrafts number stretches with
  | case1 => simp
  | case2 number rest ih => simpa using ih
  | case3 number first later rest ih =>
      exact (ih.trans (List.sublist_append_right later _)).cons_cons first

/-- Code outside the constructs is drafted at different top-level nodes, none of which covers the
first row of a construct. -/
theorem map_place_outsideDrafts_sublist (ctx : Context) (constructs : List Draft) (root : Cursor) :
    ((outsideDrafts ctx constructs root).map (·.place)).Sublist
      (root.namedChildren.filter fun place =>
        !coversRow ctx.source (startRows ctx constructs) place) :=
  (map_place_moduleDrafts_sublist 1 _).trans (flatten_stretchesFrom_sublist _ _ [] _)

section FileDrafts

variable {exempt : Draft → Draft → Prop} {strategy : Strategy} {ctx : Context} {root : Cursor}

theorem tidyDrafts_outsideDrafts (constructs : List Draft) :
    TidyDrafts exempt root (outsideDrafts ctx constructs root) := by
  have sublist : ((outsideDrafts ctx constructs root).map (·.place)).Sublist root.children :=
    (map_place_outsideDrafts_sublist ctx constructs root).trans
      (List.filter_sublist.trans List.filter_sublist)
  constructor
  · intro draft member
    exact Cursor.within_of_mem_children (sublist.subset (List.mem_map_of_mem member))
  · exact (List.pairwise_map.mp (sublist.nodup root.nodup_children)).imp Or.inl

/-- If no node ends before it begins, no two drafts of a file have the same place unless they are
exempt. -/
theorem tidyDrafts_fileDrafts (tidy : strategy.IsTidy ctx exempt)
    (forward : ∀ place ∈ root.preorder, place.startByte ≤ place.endByte)
    (includeModuleScopes : Bool) :
    TidyDrafts exempt root (fileDrafts strategy ctx includeModuleScopes root) := by
  have constructs : TidyDrafts exempt root (constructDrafts strategy ctx root) :=
    tidyDrafts_gather tidy root.node.size root 0 none
  have outside : TidyDrafts exempt root
      (outsideDrafts ctx (constructDrafts strategy ctx root) root) :=
    tidyDrafts_outsideDrafts _
  cases includeModuleScopes with
  | false => simpa [fileDrafts] using constructs
  | true =>
      constructor
      · intro draft member
        rcases List.mem_append.mp member with here | there
        · exact constructs.within draft here
        · exact outside.within draft there
      · refine List.pairwise_append.mpr ⟨constructs.apart, outside.apart, ?_⟩
        intro a construct b code
        left
        intro same
        -- The construct would begin on a row that its own place does not cover.
        have uncovered := (map_place_outsideDrafts_sublist ctx _ root).subset
          (List.mem_map_of_mem code)
        have begins : (ctx.source.startPoint b.place).row ∈
            startRows ctx (constructDrafts strategy ctx root) :=
          same ▸ List.mem_map_of_mem construct
        have covered := coversRow_of_mem_startRow
          (forward b.place (Cursor.mem_preorder_iff.mpr (outside.within b code))) begins
        rw [List.mem_filter, covered] at uncovered
        exact absurd uncovered.2 (by decide)

end FileDrafts

/-! ## Ranges and identities -/

/-- What the identity of a scope is a digest of. -/
def identityText (filePath : String) (startByte endByte : Nat) (content : String) : String :=
  filePath ++ ":" ++ toString startByte ++ "-" ++ toString endByte ++ "\n" ++ content

/-- The digits of a digest that make an identity. -/
def shortDigest (text : String) : String :=
  String.ofList ((Digest.hex text.toUTF8.data.toList).toList.take 16)

theorem scopeId_eq_shortDigest (filePath : String) (startByte endByte : Nat) (content : String) :
    scopeId filePath startByte endByte content =
      shortDigest (identityText filePath startByte endByte content) :=
  rfl

/-- The digits of a number end where a mark follows them. -/
theorem takeWhile_toDigits_append {mark : Char} (notDigit : mark.isDigit = false) (number : Nat)
    (rest : List Char) :
    (Nat.toDigits 10 number ++ mark :: rest).takeWhile Char.isDigit = Nat.toDigits 10 number := by
  have digits : ∀ char ∈ Nat.toDigits 10 number, char.isDigit = true := fun _ member =>
    Nat.isDigit_of_mem_toDigits (by decide) (by decide) member
  rw [List.takeWhile_append_of_pos digits, List.takeWhile_cons_of_neg (by simp [notDigit]),
    List.append_nil]

theorem toDigits_append_cons_inj {mark : Char} (notDigit : mark.isDigit = false) {m n : Nat}
    {first second : List Char}
    (same : Nat.toDigits 10 m ++ mark :: first = Nat.toDigits 10 n ++ mark :: second) :
    m = n ∧ first = second := by
  have digits := congrArg (List.takeWhile Char.isDigit) same
  rw [takeWhile_toDigits_append notDigit, takeWhile_toDigits_append notDigit] at digits
  rw [digits] at same
  have numbers := congrArg (Nat.ofDigitChars 10 · 0) digits
  simp only [Nat.ofDigitChars_toDigits (show 1 < 10 by decide) (show 10 ≤ 10 by decide)] at numbers
  exact ⟨numbers, (List.cons.inj (List.append_cancel_left same)).2⟩

/-- The digested text gives the range back. -/
theorem range_eq_of_identityText_eq {filePath : String} {start start' stop stop' : Nat}
    {content content' : String}
    (same : identityText filePath start stop content = identityText filePath start' stop' content') :
    start = start' ∧ stop = stop' := by
  have chars : Nat.toDigits 10 start ++ '-' :: (Nat.toDigits 10 stop ++ '\n' :: content.toList) =
      Nat.toDigits 10 start' ++ '-' :: (Nat.toDigits 10 stop' ++ '\n' :: content'.toList) := by
    simpa [identityText] using congrArg String.toList same
  obtain ⟨starts, rest⟩ := toDigits_append_cons_inj rfl chars
  obtain ⟨stops, _⟩ := toDigits_append_cons_inj rfl rest
  exact ⟨starts, stops⟩

namespace Draft

/-- The first and the last byte offset of a scope. -/
def range (draft : Draft) : Nat × Nat := (draft.place.startByte, draft.lastPlace.endByte)

/-- What the identity of the scope is a digest of. -/
def identityText (draft : Draft) (ctx : Context) : String :=
  Extraction.identityText ctx.filePath draft.range.1 draft.range.2
    (ctx.source.slice draft.range.1 draft.range.2)

theorem id_complete (draft : Draft) (ctx : Context) (packageName : String → String) :
    (draft.complete ctx packageName).id = shortDigest (draft.identityText ctx) :=
  scopeId_eq_shortDigest ctx.filePath draft.place.startByte draft.lastPlace.endByte _

theorem identityText_eq_iff (ctx : Context) {a b : Draft} :
    a.identityText ctx = b.identityText ctx ↔ a.range = b.range := by
  constructor
  · intro same
    obtain ⟨starts, stops⟩ := range_eq_of_identityText_eq same
    exact Prod.ext starts stops
  · intro same
    rw [identityText, identityText, same]

end Draft

/-- Different texts of the drafts have different digests. -/
def Distinguishes (ctx : Context) (drafts : List Draft) : Prop :=
  ∀ a ∈ drafts, ∀ b ∈ drafts, a.identityText ctx ≠ b.identityText ctx →
    shortDigest (a.identityText ctx) ≠ shortDigest (b.identityText ctx)

instance (ctx : Context) (drafts : List Draft) : Decidable (Distinguishes ctx drafts) :=
  inferInstanceAs (Decidable (∀ a ∈ drafts, ∀ b ∈ drafts,
    a.identityText ctx ≠ b.identityText ctx →
      shortDigest (a.identityText ctx) ≠ shortDigest (b.identityText ctx)))

/-- The identities of scopes are all different exactly when the ranges of their drafts are. -/
theorem nodup_ids_iff {ctx : Context} {drafts : List Draft}
    (distinguishes : Distinguishes ctx drafts) (packageName : String → String) :
    ((sortScopes (drafts.map fun draft => draft.complete ctx packageName)).map (·.id)).Nodup ↔
      drafts.Pairwise fun a b => a.range ≠ b.range := by
  rw [sortScopes, ((List.mergeSort_perm _ _).map _).nodup_iff, List.map_map,
    List.nodup_iff_pairwise_ne, List.pairwise_map]
  refine List.Pairwise.iff_of_mem ?_
  intro a b aMem bMem
  rw [Function.comp_apply, Function.comp_apply, Draft.id_complete, Draft.id_complete, not_iff_not,
    ← Draft.identityText_eq_iff ctx]
  exact ⟨not_imp_not.mp (distinguishes a aMem b bMem), congrArg shortDigest⟩

end ScopeAtlas.Extraction
