import ScopeAtlas.Proofs.Data.Keys
import ScopeAtlas.Proofs.Data.YamlTables
import ScopeAtlas.Settings.Merge
import ScopeAtlas.Settings.Sources

/-!
# Merged settings

What stands at a path of keys in a merged table depends on what stands there in the two tables: a
value of the upper table that is no table wins and hides everything below it, two tables are merged,
and where the upper table has nothing the lower one shows through.  So an empty table and the table
itself change nothing, and the settings file of a project wins over that of the user key by key, at
every depth.
-/

namespace ScopeAtlas.Settings

open ScopeAtlas.Data ScopeAtlas.Files

/-! ## Tables of one form -/

/-- A table with texts as keys is laid over another one as a table with any keys is. -/
theorem mergeTexts_eq (lower : List (Value × Value)) (upper : List (String × Value)) :
    mergeTexts lower upper = mergeKeyed lower (Value.keyedEntries upper) := by
  induction upper generalizing lower with
  | nil => simp [mergeTexts, mergeKeyed, Value.keyedEntries]
  | cons entry rest ih =>
      rw [mergeTexts, ih]
      simp [Value.keyedEntries, mergeKeyed]

theorem keyedEntries_deepMerge (lower upper : List (String × Value)) :
    Value.keyedEntries (deepMerge lower upper) =
      mergeKeyed (Value.keyedEntries lower) (Value.keyedEntries upper) := by
  induction upper generalizing lower with
  | nil => simp [deepMerge, mergeKeyed, Value.keyedEntries]
  | cons entry rest ih =>
      rw [deepMerge, ih, Value.keyedEntries_putEntry, ← Value.lookupKeyed_keyedEntries]
      simp [Value.keyedEntries, mergeKeyed]

section Overlay

variable {lower upper : Value} {below above : List (Value × Value)}

/-- Two tables are merged entry by entry, whatever their keys are. -/
theorem entries?_overlay (opensLower : lower.entries? = some below)
    (opensUpper : upper.entries? = some above) :
    (overlay (some lower) upper).entries? = some (mergeKeyed below above) := by
  cases lower <;> simp only [Value.entries?, Option.some.injEq, reduceCtorEq] at opensLower <;>
    cases upper <;> simp only [Value.entries?, Option.some.injEq, reduceCtorEq] at opensUpper <;>
    subst opensLower opensUpper <;> rw [overlay, Value.entries?]
  case table.table => rw [keyedEntries_deepMerge]
  case keyed.table => rw [mergeTexts_eq]

/-- What is no table wins over everything. -/
theorem overlay_of_flat (lower : Option Value) (flat : upper.isTable = false) :
    overlay lower upper = upper := by
  cases upper <;> first | contradiction | simp only [overlay]

/-- Everything wins over what is no table. -/
theorem overlay_of_lower_flat {lower : Option Value}
    (flat : ∀ value, lower = some value → value.isTable = false) (upper : Value) :
    overlay lower upper = upper := by
  cases upper <;> simp only [overlay]
  all_goals split <;> first | rfl | exact absurd (flat _ rfl) (by simp [Value.isTable])

/-! ## One key -/

/-- Under each key stands what the upper table has, laid over what the lower one has. -/
theorem lookupKeyed_mergeKeyed (differ : Value.KeysDiffer above) (below : List (Value × Value))
    (key : Value) :
    Value.lookupKeyed key (mergeKeyed below above) =
      match Value.lookupKeyed key above with
      | some value => some (overlay (Value.lookupKeyed key below) value)
      | none => Value.lookupKeyed key below := by
  induction above generalizing below with
  | nil => simp [mergeKeyed]
  | cons entry rest ih =>
      obtain ⟨spelling, value⟩ := entry
      obtain ⟨apart, later⟩ := List.pairwise_cons.mp differ
      rw [mergeKeyed, ih later, Value.lookupKeyed_cons, Value.lookupKeyed_putKeyed]
      by_cases same : spelling.sameKey key = true
      · -- The key stands once, so no later entry sets it again.
        have once : Value.lookupKeyed key rest = none :=
          Value.lookupKeyed_eq_none_iff.mpr fun other member => by
            rw [← Value.sameKey_congr same, Value.sameKey_comm]
            exact apart other member
        simp [same, once, Value.lookupKeyed_congr same]
      · simp [same]

end Overlay

/-! ## A path of keys -/

end ScopeAtlas.Settings

namespace ScopeAtlas.Data.Value

/-- The value under one key of a table. -/
def under? (value key : Value) : Option Value := value.entries?.bind (lookupKeyed key)

/-- The value at a path of keys; the value itself is at the empty path. -/
def at? (value : Value) : List Value → Option Value
  | [] => some value
  | key :: path => (value.under? key).bind fun inner => inner.at? path

@[simp]
theorem at?_nil (value : Value) : value.at? [] = some value := rfl

theorem at?_cons (value key : Value) (path : List Value) :
    value.at? (key :: path) = (value.under? key).bind fun inner => inner.at? path := rfl

theorem under?_eq_none {value : Value} (flat : value.isTable = false) (key : Value) :
    value.under? key = none := by
  rw [under?, entries?_eq_none flat, Option.bind_none]

theorem WellKeyed.of_under? {value key inner : Value} (wellKeyed : value.WellKeyed)
    (found : value.under? key = some inner) : inner.WellKeyed := by
  obtain ⟨entries, opens, found⟩ := Option.bind_eq_some_iff.mp found
  obtain ⟨spelling, member⟩ := exists_mem_of_lookupKeyed found
  exact wellKeyed.inner opens _ member

/-- Below a value that is no table nothing is found. -/
theorem at?_eq_none_of_flat_above {value inner : Value} {front path : List Value}
    (above : front <+: path) (proper : front ≠ path) (found : value.at? front = some inner)
    (flat : inner.isTable = false) : value.at? path = none := by
  induction front generalizing value path with
  | nil =>
      obtain rfl := Option.some.inj found
      cases path with
      | nil => contradiction
      | cons key path => rw [at?_cons, under?_eq_none flat, Option.bind_none]
  | cons key front ih =>
      obtain ⟨rest, rfl⟩ := above
      rw [at?_cons] at found
      obtain ⟨next, under, found⟩ := Option.bind_eq_some_iff.mp found
      rw [List.cons_append, at?_cons, under, Option.bind_some]
      exact ih (List.prefix_append front rest) (by simpa using proper) found

end ScopeAtlas.Data.Value

namespace ScopeAtlas.Settings

open ScopeAtlas.Data ScopeAtlas.Files

/-- What stands at a path of a merged value, by what stands there in the upper value and in what is
below it, if anything is. -/
structure MergedAt (below : Option Value) (upper merged : Value) (path : List Value) : Prop where
  /-- A value that is no table wins. -/
  flat : ∀ value, upper.at? path = some value → value.isTable = false →
    merged.at? path = some value
  /-- A value that is no table hides what would be below it. -/
  hidden : ∀ front value, front <+: path → front ≠ path → upper.at? front = some value →
    value.isTable = false → merged.at? path = none
  /-- A table wins where there is no table below. -/
  alone : ∀ value, upper.at? path = some value → value.isTable = true →
    (∀ lower, below.bind (·.at? path) = some lower → lower.isTable = false) →
    merged.at? path = some value
  /-- Two tables are merged. -/
  both : ∀ value lower, upper.at? path = some value → value.isTable = true →
    below.bind (·.at? path) = some lower → lower.isTable = true →
    merged.at? path = some (overlay (some lower) value)
  /-- Where the upper value has nothing and hides nothing, what is below shows through. -/
  kept : upper.at? path = none →
    (∀ front value, front <+: path → upper.at? front = some value → value.isTable = true) →
    merged.at? path = below.bind (·.at? path)

/-- Under one key of two tables stands what the upper one has, laid over what the lower one has. -/
theorem under?_overlay {lower upper : Value} (lowerTable : lower.isTable = true)
    (upperTable : upper.isTable = true) (wellKeyed : upper.WellKeyed) (key : Value) :
    (overlay (some lower) upper).under? key =
      match upper.under? key with
      | some value => some (overlay (lower.under? key) value)
      | none => lower.under? key := by
  obtain ⟨below, opensLower⟩ := Value.exists_entries? lowerTable
  obtain ⟨above, opensUpper⟩ := Value.exists_entries? upperTable
  simp only [Value.under?, entries?_overlay opensLower opensUpper, opensLower, opensUpper,
    Option.bind_some]
  exact lookupKeyed_mergeKeyed (wellKeyed.keysDiffer opensUpper) below key

/-- Over what is no table a value stays as it is. -/
theorem MergedAt.of_lower_flat {below : Option Value}
    (flat : ∀ value, below = some value → value.isTable = false) (upper : Value)
    (path : List Value) : MergedAt below upper upper path where
  flat value found _ := found
  hidden front value above proper found isFlat :=
    Value.at?_eq_none_of_flat_above above proper found isFlat
  alone value found _ _ := found
  both value lower found _ foundLower lowerTable := by
    obtain ⟨outer, rfl, inOuter⟩ := Option.bind_eq_some_iff.mp foundLower
    cases path with
    | nil =>
        obtain rfl := Option.some.inj inOuter
        rw [flat outer rfl] at lowerTable
        contradiction
    | cons key path =>
        rw [Value.at?_cons, Value.under?_eq_none (flat outer rfl), Option.bind_none] at inOuter
        contradiction
  kept nothing _ := by
    cases path with
    | nil => contradiction
    | cons key path =>
        cases below with
        | none => exact nothing
        | some outer =>
            rw [nothing, Option.bind_some, Value.at?_cons, Value.under?_eq_none (flat outer rfl),
              Option.bind_none]

/-- One key further on, the merged value is merged from what stands under the key. -/
theorem MergedAt.cons {lower upper key value : Value} {path : List Value}
    (lowerTable : lower.isTable = true) (upperTable : upper.isTable = true)
    (wellKeyed : upper.WellKeyed) (under : upper.under? key = some value)
    (inner : MergedAt (lower.under? key) value (overlay (lower.under? key) value) path) :
    MergedAt (some lower) upper (overlay (some lower) upper) (key :: path) := by
  have merged : (overlay (some lower) upper).at? (key :: path) =
      (overlay (lower.under? key) value).at? path := by
    rw [Value.at?_cons, under?_overlay lowerTable upperTable wellKeyed, under, Option.bind_some]
  have same : upper.at? (key :: path) = value.at? path := by
    rw [Value.at?_cons, under, Option.bind_some]
  have lowerSame : (some lower).bind (·.at? (key :: path)) =
      (lower.under? key).bind (·.at? path) := rfl
  constructor
  case flat => rw [same, merged]; exact inner.flat
  case alone => rw [same, merged, lowerSame]; exact inner.alone
  case both => rw [same, merged, lowerSame]; exact inner.both
  case hidden =>
    intro front found above proper foundAt isFlat
    rw [merged]
    cases front with
    | nil =>
        obtain rfl := Option.some.inj foundAt
        rw [upperTable] at isFlat
        contradiction
    | cons first front =>
        obtain ⟨rfl, aboveRest⟩ := List.cons_prefix_cons.mp above
        rw [Value.at?_cons, under, Option.bind_some] at foundAt
        exact inner.hidden front found aboveRest (by simpa using proper) foundAt isFlat
  case kept =>
    rw [same, merged, lowerSame]
    intro nothing tables
    refine inner.kept nothing fun front found above foundAt => ?_
    refine tables (key :: front) found (List.cons_prefix_cons.mpr ⟨rfl, above⟩) ?_
    rw [Value.at?_cons, under, Option.bind_some, foundAt]

/-- A value that is no table stays as it is, whatever is below. -/
theorem MergedAt.of_upper_flat (below : Option Value) {upper : Value}
    (isFlat : upper.isTable = false) (path : List Value) : MergedAt below upper upper path := by
  have noTable {value : Value} (found : upper.at? path = some value) : value.isTable = false := by
    cases path with
    | nil => exact Option.some.inj found ▸ isFlat
    | cons key path =>
        rw [Value.at?_cons, Value.under?_eq_none isFlat, Option.bind_none] at found
        contradiction
  constructor
  case flat => exact fun value found _ => found
  case hidden => exact fun front value above proper => Value.at?_eq_none_of_flat_above above proper
  case alone => exact fun value found isTable => absurd isTable (by simp [noTable found])
  case both => exact fun value lower found isTable => absurd isTable (by simp [noTable found])
  case kept =>
    intro _ tables
    rw [tables [] upper List.nil_prefix rfl] at isFlat
    contradiction

/-- What is below shows through under a key that the upper table does not have. -/
theorem MergedAt.of_missing {lower upper key : Value} {path : List Value}
    (lowerTable : lower.isTable = true) (upperTable : upper.isTable = true)
    (wellKeyed : upper.WellKeyed) (missing : upper.under? key = none) :
    MergedAt (some lower) upper (overlay (some lower) upper) (key :: path) := by
  have nothing : upper.at? (key :: path) = none := by
    rw [Value.at?_cons, missing, Option.bind_none]
  constructor
  case flat => exact fun value found => absurd found (by simp [nothing])
  case alone => exact fun value found => absurd found (by simp [nothing])
  case both => exact fun value _ found => absurd found (by simp [nothing])
  case hidden =>
    intro front value above _ found isFlat
    cases front with
    | nil =>
        obtain rfl := Option.some.inj found
        rw [upperTable] at isFlat
        contradiction
    | cons first front =>
        obtain ⟨rfl, _⟩ := List.cons_prefix_cons.mp above
        rw [Value.at?_cons, missing, Option.bind_none] at found
        contradiction
  case kept =>
    intro _ _
    rw [Value.at?_cons, under?_overlay lowerTable upperTable wellKeyed, missing]
    rfl

/-- The induction is on the path, with any value below: what is under the next key of the lower
table may be no table, or nothing. -/
theorem mergedAt_overlay {upper : Value} (wellKeyed : upper.WellKeyed) (below : Option Value)
    (path : List Value) : MergedAt below upper (overlay below upper) path := by
  induction path generalizing below upper with
  | nil =>
      constructor
      case flat =>
        intro value found isFlat
        obtain rfl := Option.some.inj found
        rw [overlay_of_flat below isFlat, Value.at?_nil]
      case hidden => exact fun front value above proper => absurd (List.prefix_nil.mp above) proper
      case alone =>
        intro value found _ flat
        obtain rfl := Option.some.inj found
        rw [overlay_of_lower_flat (by simpa using flat), Value.at?_nil]
      case both =>
        intro value lower found _ foundLower _
        obtain rfl := Option.some.inj found
        obtain rfl : below = some lower := by simpa using foundLower
        rfl
      case kept => exact fun nothing => absurd nothing (by simp)
  | cons key path ih =>
      cases upperTable : upper.isTable with
      | false =>
          rw [overlay_of_flat below upperTable]
          exact .of_upper_flat below upperTable (key :: path)
      | true =>
          by_cases flat : ∀ value, below = some value → value.isTable = false
          · rw [overlay_of_lower_flat flat]
            exact .of_lower_flat flat upper (key :: path)
          · simp only [not_forall, Bool.not_eq_false] at flat
            obtain ⟨lower, rfl, lowerTable⟩ := flat
            cases under : upper.under? key with
            | none => exact .of_missing lowerTable upperTable wellKeyed under
            | some value =>
                exact .cons lowerTable upperTable wellKeyed under
                  (ih (wellKeyed.of_under? under) (lower.under? key))

/-! ## Tables that change nothing -/

/-- Over an empty table each entry is put as it is. -/
theorem mergeKeyed_append (below : List (Value × Value)) {above : List (Value × Value)}
    (differ : Value.KeysDiffer (below ++ above)) : mergeKeyed below above = below ++ above := by
  induction above generalizing below with
  | nil => simp [mergeKeyed]
  | cons entry rest ih =>
      obtain ⟨key, value⟩ := entry
      have new : ∀ old ∈ below, old.1.sameKey key = false := fun old member =>
        (List.pairwise_append.mp differ).2.2 old member (key, value) List.mem_cons_self
      have nothing : Value.lookupKeyed key below = none := Value.lookupKeyed_eq_none_iff.mpr new
      rw [mergeKeyed, nothing, overlay_of_lower_flat (by simp), Value.putKeyed_of_new value new, ih,
        List.append_assoc, List.singleton_append]
      rwa [List.append_assoc, List.singleton_append]

/-- Entries that stand below already change nothing. -/
theorem mergeKeyed_of_lookupKeyed {below above : List (Value × Value)}
    (there : ∀ entry ∈ above, Value.lookupKeyed entry.1 below = some entry.2)
    (same : ∀ entry ∈ above, overlay (some entry.2) entry.2 = entry.2) :
    mergeKeyed below above = below := by
  induction above with
  | nil => simp [mergeKeyed]
  | cons entry rest ih =>
      rw [List.forall_mem_cons] at there same
      rw [mergeKeyed, there.1, same.1, Value.putKeyed_of_lookupKeyed there.1,
        ih there.2 same.2]

theorem overlay_empty_lower {upper : Value} (wellKeyed : upper.WellKeyed) :
    overlay (some (.table [])) upper = upper := by
  cases wellKeyed with
  | flat flat => exact overlay_of_flat _ flat
  | table differ inner =>
      rw [overlay, Value.table.injEq]
      apply Value.keyedEntries_injective
      rw [keyedEntries_deepMerge]
      exact mergeKeyed_append [] (Value.keysDiffer_keyedEntries_iff.mpr differ)
  | keyed differ scalar notText inner =>
      rw [overlay, Value.keyed.injEq]
      exact mergeKeyed_append [] differ

theorem overlay_empty_upper {lower : Value} (isTable : lower.isTable = true) :
    overlay (some lower) (.table []) = lower := by
  cases lower <;> first | contradiction | simp [overlay, deepMerge, mergeTexts]

/-- Among different scalar keys each is found. -/
theorem lookupKeyed_of_mem {entries : List (Value × Value)} (differ : Value.KeysDiffer entries)
    (scalar : ∀ entry ∈ entries, entry.1.isScalar = true) {entry : Value × Value}
    (member : entry ∈ entries) : Value.lookupKeyed entry.1 entries = some entry.2 := by
  induction entries with
  | nil => contradiction
  | cons first rest ih =>
      obtain ⟨apart, later⟩ := List.pairwise_cons.mp differ
      rw [Value.lookupKeyed_cons]
      rcases List.mem_cons.mp member with rfl | inRest
      · rw [if_pos (Value.sameKey_self (scalar entry List.mem_cons_self))]
      · rw [apart entry inRest, if_neg Bool.false_ne_true]
        exact ih later (fun other there => scalar other (List.mem_cons_of_mem _ there)) inRest

theorem overlay_self {value : Value} (wellKeyed : value.WellKeyed) :
    overlay (some value) value = value := by
  induction wellKeyed with
  | flat flat => exact overlay_of_flat _ flat
  | @table entries differ inner ih =>
      have keyed := Value.WellKeyed.table differ inner
      rw [overlay, Value.table.injEq]
      apply Value.keyedEntries_injective
      rw [keyedEntries_deepMerge]
      refine mergeKeyed_of_lookupKeyed (fun entry member => ?_) (List.forall_mem_map.mpr ih)
      exact lookupKeyed_of_mem (keyed.keysDiffer rfl) (keyed.isScalar rfl) member
  | keyed differ scalar notText inner ih =>
      rw [overlay, Value.keyed.injEq]
      exact mergeKeyed_of_lookupKeyed
        (fun entry member => lookupKeyed_of_mem differ scalar member) ih

/-! ## Settings files -/

/-- A table whose keys are scalars, each once, as are those of the tables in it. -/
structure IsMapping (value : Value) : Prop where
  isTable : value.isTable = true
  wellKeyed : value.WellKeyed

theorem isMapping_empty : IsMapping (.table []) := ⟨rfl, .table List.nodup_nil (by simp)⟩

/-- What is read of a settings file is a mapping. -/
theorem isMapping_fileTable {files : FileTree} {path : Path} {value : Value}
    (read : fileTable files path = .ok value) : IsMapping value := by
  cases there : settingsText files path with
  | error failure => simp [fileTable, there, bind, Except.bind] at read
  | ok text? =>
      simp only [fileTable, there, bind, Except.bind] at read
      cases text? with
      | none => exact Except.ok.inj read ▸ isMapping_empty
      | some text =>
          cases document : Yaml.read text with
          | error fault => simp only [document] at read; cases fault <;> contradiction
          | ok written =>
              have wellKeyed := Yaml.wellKeyed_of_read document
              simp only [document] at read
              cases written
              case table entries => exact Except.ok.inj read ▸ ⟨rfl, wellKeyed⟩
              case keyed entries => exact Except.ok.inj read ▸ ⟨rfl, wellKeyed⟩
              all_goals
                simp only at read
                split at read
                · exact Except.ok.inj read ▸ isMapping_empty
                · contradiction

theorem mergedFiles_eq_ok_iff {surroundings : Surroundings} {root : Path} {merged : Value} :
    mergedFiles surroundings root = .ok merged ↔
      ∃ user project, fileTable surroundings.files surroundings.userFile = .ok user ∧
        fileTable surroundings.files (projectFile root) = .ok project ∧
        merged = overlay (some user) project := by
  rw [mergedFiles]
  cases fileTable surroundings.files surroundings.userFile <;>
    cases fileTable surroundings.files (projectFile root) <;>
    simp [bind, Except.bind, pure, Except.pure, eq_comm]

/-- A mapping laid over another one has at every path what the two have there: the upper value where
it is no table or no table is below, nothing below an upper value that is no table, the merge of two
tables, and else what is below.  Over and under an empty mapping, and over itself, a mapping stays
as it is.  The settings of a project are laid over those of the user in this way, whenever both files
can be read. -/
theorem mapping_merged_path_by_path {lower upper : Value} (lowerMapping : IsMapping lower)
    (upperMapping : IsMapping upper) :
    (∀ path, MergedAt (some lower) upper (overlay (some lower) upper) path) ∧
      overlay (some (.table [])) upper = upper ∧ overlay (some lower) (.table []) = lower ∧
      overlay (some upper) upper = upper ∧
      ∀ surroundings root merged, mergedFiles surroundings root = .ok merged ↔
        ∃ user project, fileTable surroundings.files surroundings.userFile = .ok user ∧
          fileTable surroundings.files (projectFile root) = .ok project ∧
          merged = overlay (some user) project ∧
          ∀ path, MergedAt (some user) project merged path := by
  refine ⟨mergedAt_overlay upperMapping.wellKeyed (some lower),
    overlay_empty_lower upperMapping.wellKeyed, overlay_empty_upper lowerMapping.isTable,
    overlay_self upperMapping.wellKeyed, fun surroundings root merged => ?_⟩
  rw [mergedFiles_eq_ok_iff]
  constructor
  · rintro ⟨user, project, readUser, readProject, rfl⟩
    exact ⟨user, project, readUser, readProject, rfl,
      mergedAt_overlay (isMapping_fileTable readProject).wellKeyed (some user)⟩
  · rintro ⟨user, project, readUser, readProject, same, _⟩
    exact ⟨user, project, readUser, readProject, same⟩

/-- Settings of a user, with a section whose name is a number. -/
def userSettings : Value :=
  .keyed [(.text "logging", .table [("level", .text "INFO"), ("outputs", .list [])]),
    (.int 1, .table [("a", .null)])]

/-- Settings of a project, in which the number is written as a flag. -/
def projectSettings : Value :=
  .keyed [(.bool true, .table [("b", .int 2)]),
    (.text "logging", .table [("level", .text "DEBUG")])]

theorem isMapping_userSettings : IsMapping userSettings where
  isTable := rfl
  wellKeyed := .keyed (by simp [Value.KeysDiffer, Value.sameKey, Value.measure?]) (by decide)
    ⟨_, List.mem_cons_of_mem _ List.mem_cons_self, rfl⟩
    (by simpa using ⟨.table (by decide) (by simpa using ⟨.flat rfl, .flat rfl⟩),
      .table (by decide) (by simpa using .flat rfl)⟩)

theorem isMapping_projectSettings : IsMapping projectSettings where
  isTable := rfl
  wellKeyed := .keyed (by simp [Value.KeysDiffer, Value.sameKey, Value.measure?]) (by decide)
    ⟨_, List.mem_cons_self, rfl⟩
    (by simpa using ⟨.table (by decide) (by simpa using .flat rfl),
      .table (by decide) (by simpa using .flat rfl)⟩)

/-- The settings of both stand side by side, also where the two write a key differently. -/
theorem project_settings_merged_into_user_settings :
    IsMapping userSettings ∧ IsMapping projectSettings ∧
      (overlay (some userSettings) projectSettings).at? [.int 1, .text "b"] = some (.int 2) ∧
      (overlay (some userSettings) projectSettings).at? [.text "logging"] =
        some (overlay (some (.table [("level", .text "INFO"), ("outputs", .list [])]))
          (.table [("level", .text "DEBUG")])) := by
  obtain ⟨merged, _⟩ :=
    mapping_merged_path_by_path isMapping_userSettings isMapping_projectSettings
  refine ⟨isMapping_userSettings, isMapping_projectSettings, ?_, ?_⟩
  · exact (merged [.int 1, .text "b"]).flat (.int 2) rfl rfl
  · exact (merged [.text "logging"]).both _ _ rfl rfl rfl rfl

end ScopeAtlas.Settings
