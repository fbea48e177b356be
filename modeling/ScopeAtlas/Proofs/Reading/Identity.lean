import ScopeAtlas.Proofs.Extraction.Identity
import ScopeAtlas.Proofs.Reading.Separation

/-!
# Scopes that share an identity

Scopes are told apart by their identities everywhere after extraction.  Two scopes of a file share
one in two cases.  The names that one Go specification declares together are all drafted at the
specification, although each is a scope of its own.  And two nodes can cover the same bytes; in a
tree whose nodes are in order, one of them then lies within the other, or is empty.  No other two
scopes of a file have even their node in common, in any language.
-/

namespace ScopeAtlas.Reading

open ScopeAtlas.Extraction ScopeAtlas.Language ScopeAtlas.Syntax

/-- The drafts have different nodes and the same range. -/
def Coextensive (a b : Draft) : Prop := a.place ≠ b.place ∧ a.range = b.range

theorem Go.Namesakes.range_eq {a b : Draft} (namesakes : Go.Namesakes a b) :
    a.range = b.range := by
  obtain ⟨spec, first, second, _, _, aPlaces, bPlaces, _⟩ := namesakes
  obtain ⟨aPlace, aExtent⟩ := List.cons.inj aPlaces
  obtain ⟨bPlace, bExtent⟩ := List.cons.inj bPlaces
  simp [Draft.range, Draft.lastPlace, aPlace, aExtent, bPlace, bExtent]

/-- In a tree whose nodes are in order, nodes that begin together lie within each other or are
empty. -/
theorem Coextensive.nested_or_empty {root : Cursor} {a b : Draft} (ordered : root.InOrder)
    (forward : ∀ place ∈ root.preorder, place.startByte ≤ place.endByte)
    (inA : root.Within a.place) (inB : root.Within b.place) (coextensive : Coextensive a b) :
    (a.place.Within b.place ∨ b.place.Within a.place) ∨
      a.place.startByte = a.place.endByte ∨ b.place.startByte = b.place.endByte := by
  have starts : a.place.startByte = b.place.startByte := congrArg Prod.fst coextensive.2
  have forwardA := forward a.place (Cursor.mem_preorder_iff.mpr inA)
  have forwardB := forward b.place (Cursor.mem_preorder_iff.mpr inB)
  rcases ordered.nested_or_apart inA inB with nested | before | after
  · exact Or.inl nested
  · exact Or.inr (Or.inl (by omega))
  · exact Or.inr (Or.inr (by omega))

/-- As far as the digest tells the texts of a file apart, the identities of its scopes are all
different unless two of them are names of one Go specification or cover the same bytes with
different nodes.  Only names of one Go specification have the same node, and nodes that cover the
same bytes lie within each other or are empty. -/
theorem ids_distinct_unless_namesakes (profile : Profile) (stack : StackLimit)
    (includeModuleScopes : Bool) (filePath language : String) (bytes : ByteArray) (tree : Node) :
    let strategy := strategyOf profile.family
    let root := Cursor.root tree
    let ctx := prepare profile strategy stack filePath bytes root
    let drafts := fileDrafts strategy ctx includeModuleScopes root
    let scopes :=
      (analyze profile strategy stack includeModuleScopes filePath language bytes tree).scopes
    (∀ place ∈ root.preorder, place.startByte ≤ place.endByte) → Distinguishes ctx drafts →
      scopes = sortScopes (drafts.map fun draft => draft.complete ctx strategy.packageName) ∧
        ((scopes.map (·.id)).Nodup ↔
          drafts.Pairwise fun a b => ¬Go.Namesakes a b ∧ ¬Coextensive a b) ∧
        (drafts.Pairwise fun a b =>
          a.place = b.place → profile.family = .go ∧ Go.Namesakes a b) ∧
        (root.InOrder → drafts.Pairwise fun a b => Coextensive a b →
          (a.place.Within b.place ∨ b.place.Within a.place) ∨
            a.place.startByte = a.place.endByte ∨ b.place.startByte = b.place.endByte) := by
  intro strategy root ctx drafts scopes forward distinguishes
  have completed :
      scopes = sortScopes (drafts.map fun draft => draft.complete ctx strategy.packageName) :=
    scopes_analyze profile strategy stack includeModuleScopes filePath language bytes tree
  have tidy : TidyDrafts (fun a b => profile.family = .go ∧ Go.Namesakes a b) root drafts :=
    tidyDrafts_fileDrafts (strategyOf_isTidy profile.family ctx) forward includeModuleScopes
  refine ⟨completed, ?_, ?_, ?_⟩
  · rw [completed, nodup_ids_iff distinguishes]
    constructor
    · intro ranges
      refine ranges.imp ?_
      intro a b differ
      exact ⟨fun namesakes => differ namesakes.range_eq, fun coextensive => differ coextensive.2⟩
    · intro separate
      refine (tidy.apart.and separate).imp ?_
      rintro a b ⟨differ | ⟨_, namesakes⟩, notNamesakes, notCoextensive⟩ same
      · exact notCoextensive ⟨differ, same⟩
      · exact notNamesakes namesakes
  · refine tidy.apart.imp ?_
    rintro a b (differ | namesakes) same
    · exact absurd same differ
    · exact namesakes
  · intro ordered
    refine List.pairwise_of_forall_mem_list ?_
    intro a aMem b bMem coextensive
    exact coextensive.nested_or_empty ordered forward (tidy.within a aMem) (tidy.within b bMem)

/-- The text of a file with two variables in one specification. -/
def namesakesText : ByteArray := "package p\nvar a, b = 1, 2\n".toUTF8

/-- The tree of the file. -/
def namesakesTree : Node :=
  let node (index : Nat) (kind : String) (field : Option String) (start stop : Nat)
      (children : List Node) : Node :=
    .mk { index, kind, field, isNamed := true, isMissing := false, startByte := start,
          endByte := stop } children
  let values := node 7 "expression_list" "value" 21 25
    [node 8 "int_literal" none 21 22 [], node 9 "int_literal" none 24 25 []]
  let spec := node 4 "var_spec" none 14 25
    [node 5 "identifier" "name" 14 15 [], node 6 "identifier" "name" 17 18 [], values]
  node 0 "source_file" none 0 26
    [node 1 "package_clause" none 0 9 [node 2 "package_identifier" none 8 9 []],
      node 3 "var_declaration" none 10 25 [spec]]

/-- The file before its scopes are collected. -/
def namesakesContext : Context :=
  prepare go Go.strategy .unlimited "p.go" namesakesText (Cursor.root namesakesTree)

/-- The drafts of the file: its two variables, and the package clause as code outside them. -/
def namesakesDrafts : List Draft :=
  fileDrafts Go.strategy namesakesContext true (Cursor.root namesakesTree)

theorem distinguishes_namesakesDrafts : Distinguishes namesakesContext namesakesDrafts := by
  decide +kernel

theorem namesakes_file_identities :
    (∀ place ∈ (Cursor.root namesakesTree).preorder, place.startByte ≤ place.endByte) ∧
      Distinguishes namesakesContext namesakesDrafts ∧
      (((analyze go Go.strategy .unlimited true "p.go" "go" namesakesText namesakesTree).scopes.map
            (·.id)).Nodup ↔
        namesakesDrafts.Pairwise fun a b => ¬Go.Namesakes a b ∧ ¬Coextensive a b) := by
  have forward : ∀ place ∈ (Cursor.root namesakesTree).preorder,
      place.startByte ≤ place.endByte := by
    decide +kernel
  exact ⟨forward, distinguishes_namesakesDrafts, (ids_distinct_unless_namesakes go .unlimited true
    "p.go" "go" namesakesText namesakesTree forward distinguishes_namesakesDrafts).2.1⟩

/-- The two variables of the file are different scopes with one identity, although the digest tells
all texts of the file apart. -/
theorem names_of_one_specification_share_id :
    Distinguishes namesakesContext namesakesDrafts ∧
      ∃ first ∈ (analyze go Go.strategy .unlimited true "p.go" "go" namesakesText
          namesakesTree).scopes,
        ∃ second ∈ (analyze go Go.strategy .unlimited true "p.go" "go" namesakesText
            namesakesTree).scopes,
          first.name = "a" ∧ second.name = "b" ∧ first.id = second.id := by
  have found : ∃ a ∈ namesakesDrafts, ∃ b ∈ namesakesDrafts,
      a.name = "a" ∧ b.name = "b" ∧ a.range = b.range := by
    decide +kernel
  obtain ⟨a, aMem, b, bMem, isA, isB, same⟩ := found
  refine ⟨distinguishes_namesakesDrafts, _, mem_scopes_analyze_iff.mpr ⟨a, aMem, rfl⟩,
    _, mem_scopes_analyze_iff.mpr ⟨b, bMem, rfl⟩, isA, isB, ?_⟩
  rw [Draft.id_complete, Draft.id_complete, (Draft.identityText_eq_iff _).mpr same]

end ScopeAtlas.Reading
