import Mathlib.Data.List.Induction
import Mathlib.Data.List.Nodup
import ScopeAtlas.Data.Value

/-!
# First occurrences

The tables and name lists of a project keep what they meet first.  This module says what that
means for a list, and which members the lists of distinct texts and the tables built from them
have.
-/

namespace ScopeAtlas.Data

/-! ## The first member with a property -/

/-- The item stands in the list, has the property, and nothing before it has. -/
def FirstWith {α : Type} (property : α → Prop) (items : List α) (item : α) : Prop :=
  ∃ before after, items = before ++ item :: after ∧ property item ∧
    ∀ other ∈ before, ¬property other

theorem find?_eq_some_iff_firstWith {α : Type} (test : α → Bool) (items : List α) (item : α) :
    items.find? test = some item ↔ FirstWith (fun other => test other = true) items item := by
  rw [List.find?_eq_some_iff_append]
  constructor
  · rintro ⟨holds, before, after, split, earlier⟩
    refine ⟨before, after, split, holds, ?_⟩
    intro other member
    simpa using earlier other member
  · rintro ⟨before, after, split, holds, earlier⟩
    refine ⟨holds, before, after, split, ?_⟩
    intro other member
    simpa using earlier other member

/-- The value of the first member that has one. -/
theorem findSome?_eq_some_iff_firstWith {α β : Type} (value? : α → Option β) (items : List α)
    (value : β) :
    items.findSome? value? = some value ↔
      ∃ item, FirstWith (fun other => (value? other).isSome = true) items item ∧
        value? item = some value := by
  rw [List.findSome?_eq_some_iff]
  constructor
  · rintro ⟨before, item, after, split, found, earlier⟩
    refine ⟨item, ⟨before, after, split, by simp [found], ?_⟩, found⟩
    intro other member
    simp [earlier other member]
  · rintro ⟨item, ⟨before, after, split, _, earlier⟩, found⟩
    refine ⟨before, item, after, split, found, ?_⟩
    intro other member
    simpa using earlier other member

/-- A property that some member has is had by a first one. -/
theorem exists_firstWith_iff {α : Type} (property : α → Prop) (items : List α) :
    (∃ item, FirstWith property items item) ↔ ∃ item ∈ items, property item := by
  constructor
  · rintro ⟨item, before, after, rfl, holds, _⟩
    exact ⟨item, by simp, holds⟩
  · classical
    rintro ⟨item, member, holds⟩
    cases found : items.find? fun other => decide (property other) with
    | none =>
        have none_holds := List.find?_eq_none.mp found item member
        simp [holds] at none_holds
    | some first =>
        have isFirst := (find?_eq_some_iff_firstWith _ items first).mp found
        exact ⟨first, by simpa using isFirst⟩

/-- A search in which only one name can be found finds it. -/
theorem findSome?_eq_of_only {α : Type} {answer : String → Option α} {names : List String}
    {key : String} (member : key ∈ names)
    (others : ∀ name ∈ names, name = key ∨ answer name = none) :
    names.findSome? answer = answer key := by
  induction names with
  | nil => contradiction
  | cons name rest ih =>
      have later : ∀ other ∈ rest, other = key ∨ answer other = none := fun other otherMem =>
        others other (List.mem_cons_of_mem _ otherMem)
      rw [List.findSome?_cons]
      cases found : answer name with
      | some value =>
          rcases others name List.mem_cons_self with rfl | none
          · exact found.symm
          · rw [found] at none
            contradiction
      | none =>
          rcases List.mem_cons.mp member with rfl | member
          · by_cases again : key ∈ rest
            · exact ih again later
            · rw [found, List.findSome?_eq_none_iff]
              intro other otherMem
              rcases later other otherMem with rfl | none
              · exact absurd otherMem again
              · exact none
          · exact ih member later

/-! ## Distinct texts -/

/-- One text more is added at the end, unless it is there. -/
theorem distinct_append_singleton (items : List String) (item : String) :
    distinct (items ++ [item]) =
      if item ∈ distinct items then distinct items else distinct items ++ [item] := by
  simp [distinct]

@[simp]
theorem mem_distinct (items : List String) (item : String) :
    item ∈ distinct items ↔ item ∈ items := by
  induction items using List.reverseRecOn with
  | nil => simp [distinct]
  | append_singleton rest last ih =>
      rw [distinct_append_singleton]
      by_cases known : last ∈ distinct rest
      · rw [if_pos known, ih, List.mem_append, List.mem_singleton, iff_self_or]
        rintro rfl
        exact ih.mp known
      · rw [if_neg known, List.mem_append, ih, List.mem_append]

theorem nodup_distinct (items : List String) : (distinct items).Nodup := by
  induction items using List.reverseRecOn with
  | nil => exact List.nodup_nil
  | append_singleton rest last ih =>
      rw [distinct_append_singleton]
      by_cases known : last ∈ distinct rest
      · rw [if_pos known]
        exact ih
      · rw [if_neg known]
        exact List.nodup_append_comm.mp (List.nodup_cons.mpr ⟨known, ih⟩)

theorem nodup_sortedSet (items : List String) : (sortedSet items).Nodup :=
  (List.mergeSort_perm _ _).nodup_iff.mpr (nodup_distinct items)

@[simp]
theorem mem_sortedSet (items : List String) (item : String) :
    item ∈ sortedSet items ↔ item ∈ items := by
  rw [sortedSet, List.mem_mergeSort, mem_distinct]

/-! ## Tables made from a list of keys -/

/-- A table that gives every key of a list its value gives no other key any. -/
theorem lookup_map_key {β : Type} (keys : List String) (value : String → β) (key : String) :
    (keys.map fun other => (other, value other)).lookup key =
      if key ∈ keys then some (value key) else none := by
  induction keys with
  | nil => rfl
  | cons head rest ih =>
      rw [List.map_cons, List.lookup_cons]
      by_cases same : key = head
      · subst head
        simp
      · have differs : (key == head) = false := by simpa using same
        rw [differs, ih]
        simp [same]

/-! ## Tables that keep what they have -/

theorem lookup_putNewEntry {α : Type} (key : String) (value : α) (table : List (String × α))
    (name : String) :
    (putNewEntry key value table).lookup name =
      (table.lookup name).or (if name = key then some value else none) := by
  rw [putNewEntry]
  split
  · rename_i there
    by_cases same : name = key
    · subst name
      rw [Option.or_of_isSome there]
    · simp [same]
  · by_cases same : name = key
    · simp [List.lookup_append, same]
    · have differs : (name == key) = false := by simpa using same
      simp [List.lookup_append, List.lookup_cons, same, differs]

theorem lookup_foldl_putNewEntry {α : Type} (keys : List String) (value : α)
    (table : List (String × α)) (name : String) :
    (keys.foldl (fun table key => putNewEntry key value table) table).lookup name =
      (table.lookup name).or (if name ∈ keys then some value else none) := by
  induction keys generalizing table with
  | nil => simp
  | cons key rest ih =>
      rw [List.foldl_cons, ih, lookup_putNewEntry, Option.or_assoc]
      congr 1
      by_cases same : name = key
      · simp [same]
      · simp [same]

end ScopeAtlas.Data
