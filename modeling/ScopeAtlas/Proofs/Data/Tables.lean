import Mathlib.Data.List.Nodup
import ScopeAtlas.Data.Value

/-!
# Tables with different keys

What is looked up in a table is one of its entries, and under different keys every entry is found.
Entries that are entered one by one under different keys follow each other in the table, and leaving
entries out by their keys leaves out what they brought.
-/

namespace ScopeAtlas.Data

section Lookup

variable {α β : Type} [BEq α] [LawfulBEq α] {entries : List (α × β)} {key : α} {value : β}

theorem mem_of_lookup (found : entries.lookup key = some value) : (key, value) ∈ entries := by
  obtain ⟨before, after, rfl, _⟩ := List.lookup_eq_some_iff.mp found
  simp

theorem lookup_eq_some_iff_mem (distinct : (entries.map (·.1)).Nodup) :
    entries.lookup key = some value ↔ (key, value) ∈ entries := by
  refine ⟨mem_of_lookup, fun member => ?_⟩
  obtain ⟨before, after, rfl⟩ := List.append_of_mem member
  rw [List.lookup_eq_some_iff]
  refine ⟨before, after, rfl, fun entry earlier => ?_⟩
  rw [List.map_append, List.map_cons] at distinct
  have differ := (List.nodup_append.mp distinct).2.2 entry.1 (List.mem_map_of_mem earlier) key
    List.mem_cons_self
  simpa using differ.symm

end Lookup

section Values

variable {α β : Type} (value? : β → Option α) (items : List (String × β))

/-- The values that items have, each under the key of its item. -/
def valuesOf : List (String × α) := items.filterMap fun item => (value? item.2).map (item.1, ·)

variable {value? items}

theorem mem_valuesOf_iff {key : String} {value : α} :
    (key, value) ∈ valuesOf value? items ↔
      ∃ item, (key, item) ∈ items ∧ value? item = some value := by
  rw [valuesOf, List.mem_filterMap]
  constructor
  · rintro ⟨⟨name, item⟩, member, kept⟩
    rcases Option.map_eq_some_iff.mp kept with ⟨found, has, same⟩
    cases same
    exact ⟨item, member, has⟩
  · rintro ⟨item, member, has⟩
    exact ⟨(key, item), member, by simp [has]⟩

variable (value? items)

/-- Leaving out items by their keys leaves out their values. -/
theorem valuesOf_filter (keep : String → Bool) :
    valuesOf value? (items.filter (keep ·.1)) = (valuesOf value? items).filter (keep ·.1) := by
  rw [valuesOf, valuesOf, List.filterMap_filter, List.filter_filterMap]
  congr 1
  funext item
  cases value? item.2 with
  | none => simp
  | some value => cases kept : keep item.1 <;> simp [Option.filter, kept]

theorem putEntry_of_not_mem {key : String} (value : α) {table : List (String × α)}
    (new : key ∉ table.map (·.1)) : putEntry key value table = table ++ [(key, value)] := by
  induction table with
  | nil => rfl
  | cons entry rest ih =>
      rw [List.map_cons, List.mem_cons, not_or] at new
      rw [putEntry, if_neg (by simpa using Ne.symm new.1), ih new.2, List.cons_append]

variable {items}

/-- Under different keys, values that are entered one by one follow each other. -/
theorem foldl_putEntry_of_nodup (table : List (String × α))
    (distinct : (table.map (·.1) ++ items.map (·.1)).Nodup) :
    items.foldl (fun table item =>
        match value? item.2 with
        | some value => putEntry item.1 value table
        | none => table) table =
      table ++ valuesOf value? items := by
  induction items generalizing table with
  | nil => simp [valuesOf]
  | cons item rest ih =>
      have shorter : (table.map (·.1) ++ rest.map (·.1)).Nodup :=
        distinct.sublist ((List.sublist_cons_self _ _).append_left _)
      rw [List.foldl_cons, valuesOf, List.filterMap_cons]
      cases value? item.2 with
      | none => exact ih table shorter
      | some value =>
          have new : item.1 ∉ table.map (·.1) := fun there =>
            (List.nodup_append.mp distinct).2.2 _ there _ List.mem_cons_self rfl
          have later : ((table ++ [(item.1, value)]).map (·.1) ++ rest.map (·.1)).Nodup := by
            simpa using distinct
          simp only [putEntry_of_not_mem value new, Option.map_some]
          rw [ih _ later, List.append_assoc, List.singleton_append, valuesOf]

end Values

end ScopeAtlas.Data
