import Mathlib.Data.Option.Basic
import Mathlib.Data.Rel
import ScopeAtlas.Proofs.Workspace.Discovery

/-!
# The order of what a search finds

A search puts what it finds in one order: a directory's own files by name, and then what lies below
its subdirectories, by their names.  No two files can stand in this order both ways, so on a disk the
result is settled by what the disk holds and what the system refuses.  How the directories list their
entries does not matter.
-/

namespace ScopeAtlas.Files

open ScopeAtlas.Data

/-! ## Listings of one disk -/

/-- Two listings of one item: at each level, the entries of a directory may come in any order. -/
inductive Item.Relisted : Item → Item → Prop where
  | refl (item : Item) : Relisted item item
  | reorder {entries others : List (String × Item)} (perm : entries.Perm others) :
      Relisted (.directory entries) (.directory others)
  | inside {inner other : Item} (before after : List (String × Item)) (name : String)
      (below : Relisted inner other) :
      Relisted (.directory (before ++ (name, inner) :: after))
        (.directory (before ++ (name, other) :: after))
  | trans {item middle other : Item} (first : Relisted item middle)
      (second : Relisted middle other) : Relisted item other

namespace Item.Relisted

variable {item other : Item}

theorem symm (same : item.Relisted other) : other.Relisted item := by
  induction same with
  | refl item => exact .refl item
  | reorder perm => exact .reorder perm.symm
  | inside before after name _ ih => exact .inside before after name ih
  | trans _ _ firstIh secondIh => exact secondIh.trans firstIh

theorem wellNamed (same : item.Relisted other) (named : item.WellNamed) : other.WellNamed := by
  induction same with
  | refl => exact named
  | reorder perm =>
      cases named with
      | directory distinct isName nested =>
          exact .directory ((perm.map _).nodup_iff.mp distinct)
            (fun entry member => isName entry (perm.mem_iff.mpr member))
            (fun entry member => nested entry (perm.mem_iff.mpr member))
  | inside before after name below ih =>
      cases named with
      | directory distinct isName nested =>
          simp only [List.forall_mem_append, List.forall_mem_cons] at isName nested
          refine .directory (by simpa using distinct) ?_ ?_
          · simpa only [List.forall_mem_append, List.forall_mem_cons] using isName
          · simp only [List.forall_mem_append, List.forall_mem_cons]
            exact ⟨nested.1, ih nested.2.1, nested.2.2⟩
  | trans first second firstIh secondIh => exact secondIh (firstIh named)

/-- Files and links have one listing. -/
theorem eq_or_exists_directory (same : item.Relisted other) :
    other = item ∨ ∃ entries others, item = .directory entries ∧ other = .directory others := by
  induction same with
  | refl => exact .inl rfl
  | reorder => exact .inr ⟨_, _, rfl, rfl⟩
  | inside => exact .inr ⟨_, _, rfl, rfl⟩
  | trans first second firstIh secondIh =>
      rcases firstIh with rfl | ⟨_, _, rfl, rfl⟩
      · exact secondIh
      · rcases secondIh with rfl | ⟨_, _, _, rfl⟩
        · exact .inr ⟨_, _, rfl, rfl⟩
        · exact .inr ⟨_, _, rfl, rfl⟩

theorem exists_directory {entries : List (String × Item)}
    (same : (Item.directory entries).Relisted other) : ∃ others, other = .directory others := by
  rcases same.eq_or_exists_directory with rfl | ⟨_, others, _, rfl⟩
  · exact ⟨entries, rfl⟩
  · exact ⟨others, rfl⟩

theorem any_isDirectory_eq {found again : Option Item} (same : Option.Rel Relisted found again) :
    again.any Item.isDirectory = found.any Item.isDirectory := by
  cases same with
  | none => rfl
  | some same => rcases same.eq_or_exists_directory with rfl | ⟨_, _, rfl, rfl⟩ <;> rfl

theorem rel_refl (found : Option Item) : Option.Rel Relisted found found := by
  cases found
  · exact .none
  · exact .some (.refl _)

theorem rel_trans {first second third : Option Item} (before : Option.Rel Relisted first second)
    (after : Option.Rel Relisted second third) : Option.Rel Relisted first third := by
  cases before with
  | none => exact after
  | some before =>
      cases after with
      | some after => exact .some (before.trans after)

/-- In two listings of an item on a disk, names lead to two listings of one item. -/
theorem at?_rel (same : item.Relisted other) (named : item.WellNamed) (names : List String) :
    Option.Rel Relisted (item.at? names) (other.at? names) := by
  induction same generalizing names with
  | refl => exact rel_refl _
  | @reorder entries others perm =>
      cases names with
      | nil => exact .some (.reorder perm)
      | cons name rest =>
          have othersNamed := (reorder perm).wellNamed named
          have lookup : others.lookup name = entries.lookup name :=
            Option.ext fun inner => by
              rw [othersNamed.lookup_eq_some_iff, named.lookup_eq_some_iff, perm.mem_iff]
          rw [at?_directory_cons, at?_directory_cons, lookup]
          exact rel_refl _
  | @inside inner other before after name below ih =>
      cases names with
      | nil => exact .some (.inside before after name below)
      | cons asked rest =>
          rw [at?_directory_cons, at?_directory_cons, List.lookup_append, List.lookup_append,
            List.lookup_cons, List.lookup_cons]
          cases before.lookup asked with
          | some found => exact rel_refl _
          | none =>
              cases asked == name with
              | false => exact rel_refl _
              | true =>
                  cases named with
                  | directory _ _ nested => exact ih (nested (name, inner) (by simp)) rest
  | trans first second firstIh secondIh =>
      exact rel_trans (firstIh named names) (secondIh (first.wellNamed named) names)

/-- In two listings of a directory on a disk, an entry is two listings of one item. -/
theorem exists_mem {entries others : List (String × Item)}
    (same : (Item.directory entries).Relisted (.directory others))
    (named : (Item.directory entries).WellNamed) {name : String} {inner : Item}
    (member : (name, inner) ∈ entries) : ∃ again, (name, again) ∈ others ∧ inner.Relisted again := by
  have there := same.at?_rel named [name]
  simp only [at?_directory_cons, at?_nil, Option.bind_fun_some] at there
  rw [named.lookup_eq_some_iff.mpr member] at there
  cases found : others.lookup name with
  | none =>
      rw [found] at there
      cases there
  | some again =>
      rw [found] at there
      cases there with
      | some below => exact ⟨again, mem_of_lookup found, below⟩

end Item.Relisted

namespace FileSystem

/-- Two listings of one disk. -/
structure Relisted (system other : FileSystem) : Prop where
  top : (Item.directory system.top).Relisted (.directory other.top)
  here : other.here = system.here
  refusals : other.refusals = system.refusals

namespace Relisted

variable {system other : FileSystem}

theorem symm (same : system.Relisted other) : other.Relisted system :=
  ⟨same.top.symm, same.here.symm, same.refusals.symm⟩

variable (same : system.Relisted other) (disk : (Item.directory system.top).WellNamed)
include same disk

theorem at?_rel (names : List String) :
    Option.Rel Item.Relisted (system.at? names) (other.at? names) :=
  same.top.at?_rel disk names

theorem reach_rel (kept parts : List String) :
    Option.Rel Item.Relisted (system.reach kept parts) (other.reach kept parts) := by
  induction parts generalizing kept with
  | nil => exact same.at?_rel disk kept
  | cons part rest ih =>
      rw [reach, reach, Item.Relisted.any_isDirectory_eq (same.at?_rel disk kept)]
      split
      · exact .none
      split
      · exact ih kept
      split
      · exact ih kept.dropLast
      have there := same.at?_rel disk (kept ++ [part])
      generalize system.at? (kept ++ [part]) = found at there ⊢
      generalize other.at? (kept ++ [part]) = again at there ⊢
      cases there with
      | none => exact ih _
      | @some item again below =>
          rcases below.eq_or_exists_directory with rfl | ⟨_, _, rfl, rfl⟩
          · rcases again with _ | _ | _ | _ | target
            · exact ih _
            · exact ih _
            · exact ih _
            · exact .none
            · exact ih target
          · exact ih _

theorem item?_rel (path : Path) :
    Option.Rel Item.Relisted (system.item? path) (other.item? path) := by
  rw [item?, item?, same.here]
  exact same.reach_rel disk [] _

/-- What an item leads to does not depend on the listing. -/
theorem followed?_rel (path : Path) (item : Item) :
    Option.Rel Item.Relisted (system.followed? path item) (other.followed? path item) := by
  unfold followed?
  rw [same.refusals]
  split
  · exact .none
  · cases item with
    | link target => exact same.item?_rel disk path
    | _ => exact .some (.refl _)

theorem showsDirectory_eq (path : Path) (item : Item) :
    other.showsDirectory path item = system.showsDirectory path item := by
  cases item with
  | link target => exact Item.Relisted.any_isDirectory_eq (same.followed?_rel disk path _)
  | _ => rfl

theorem sizeOf?_eq (path : Path) (item : Item) :
    other.sizeOf? path item = system.sizeOf? path item := by
  have there := same.followed?_rel disk path item
  rw [sizeOf?, sizeOf?]
  generalize system.followed? path item = found at there ⊢
  generalize other.followed? path item = again at there ⊢
  cases there with
  | none => rfl
  | some below => rcases below.eq_or_exists_directory with rfl | ⟨_, _, rfl, rfl⟩ <;> rfl

end Relisted

end FileSystem

end ScopeAtlas.Files

namespace ScopeAtlas.Workspace

open ScopeAtlas.Data ScopeAtlas.Files ScopeAtlas.Language

/-! ## The order of files -/

/-- The one list of names comes before the other in the order of a search. -/
inductive Precedes : List String → List String → Prop where
  /-- A directory's own files come in the order of their names. -/
  | own {first second : String} (before : first < second) : Precedes [first] [second]
  /-- They come before the files below its subdirectories. -/
  | above (name directory : String) {inner : List String} (below : inner ≠ []) :
      Precedes [name] (directory :: inner)
  /-- What lies below one subdirectory comes before what lies below a later one. -/
  | apart {first second : String} {inner further : List String} (before : first < second)
      (below : inner ≠ []) (beyond : further ≠ []) : Precedes (first :: inner) (second :: further)
  /-- Below one subdirectory the same order holds. -/
  | inside (directory : String) {inner further : List String} (before : Precedes inner further) :
      Precedes (directory :: inner) (directory :: further)

theorem Precedes.ne_nil {names others : List String} (before : Precedes names others) :
    names ≠ [] ∧ others ≠ [] := by
  cases before <;> simp

/-- No two files come before each other. -/
theorem Precedes.asymm {names others : List String} (before : Precedes names others) :
    ¬Precedes others names := by
  induction before with
  | own before =>
      intro back
      cases back with
      | own later => exact String.lt_asymm before later
      | above _ _ below => exact below rfl
      | apart _ below => exact below rfl
      | inside _ inner => exact inner.ne_nil.1 rfl
  | above name directory below =>
      intro back
      cases back with
      | own => exact below rfl
      | above => exact below rfl
      | apart _ _ beyond => exact beyond rfl
      | inside _ inner => exact inner.ne_nil.2 rfl
  | apart before below beyond =>
      intro back
      cases back with
      | own => exact below rfl
      | above => exact beyond rfl
      | apart later => exact String.lt_asymm before later
      | inside => exact String.lt_irrefl _ before
  | inside directory before ih =>
      intro back
      cases back with
      | own => exact before.ne_nil.1 rfl
      | above => exact before.ne_nil.2 rfl
      | apart later => exact String.lt_irrefl _ later
      | inside _ inner => exact ih inner

/-- The one path comes before the other in the order of a search of the directory. -/
def Comes (root first second : Path) : Prop :=
  ∃ names others, first = root.along names ∧ second = root.along others ∧ Precedes names others

section Comes

variable {root first second : Path}

theorem Comes.asymm (before : Comes root first second) : ¬Comes root second first := by
  obtain ⟨names, others, rfl, rfl, before⟩ := before
  rintro ⟨laterNames, laterOthers, same, sameOther, later⟩
  obtain rfl := root.along_injective same
  obtain rfl := root.along_injective sameOther
  exact before.asymm later

/-- The order below a subdirectory is that of the directory. -/
theorem Comes.outward {name : String} (before : Comes (root.along [name]) first second) :
    Comes root first second := by
  obtain ⟨names, others, rfl, rfl, before⟩ := before
  exact ⟨name :: names, name :: others, Path.along_along .., Path.along_along ..,
    .inside name before⟩

end Comes

/-! ## The order of a search -/

theorem pairwise_byName {α : Type} {items : List (String × α)}
    (distinct : (items.map (·.1)).Nodup) :
    (byName items).Pairwise fun first second => first.1 < second.1 := by
  have sorted : (byName items).Pairwise fun first second => first.1 ≤ second.1 := by
    have merged : (items.mergeSort fun a b => decide (a.1 ≤ b.1)).Pairwise
        fun a b => decide (a.1 ≤ b.1) :=
      List.pairwise_mergeSort (fun a b c => by simpa using String.le_trans)
        (fun a b => by simpa using String.le_total a.1 b.1) items
    simpa [byName] using merged
  have different : (byName items).Pairwise fun first second => first.1 ≠ second.1 :=
    List.pairwise_map.mp (((byName_perm items).map _).nodup_iff.mpr distinct)
  exact (sorted.and different).imp fun both => Std.lt_of_le_of_ne both.1 both.2

theorem sublist_names_walkEntries (system : FileSystem) (excluded : List String) (directory : Path)
    (entries : List (String × Item)) :
    ((walkEntries system excluded directory entries).map (·.1)).Sublist (entries.map (·.1)) := by
  rw [walkEntries_eq_map, List.map_map]
  exact List.filter_sublist.map _

/-- What a search finds comes in the order of a search. -/
theorem pairwise_walk (system : FileSystem) (excluded : List String) (directory : Path)
    {outer : Item} (named : outer.WellNamed) :
    (walk system excluded directory outer).Pairwise fun first second =>
      Comes directory first.path second.path := by
  induction named generalizing directory with
  | file content => simp [walk]
  | special size => simp [walk]
  | link target => simp [walk]
  | @directory entries distinct _ _ ih =>
      rw [walk]
      split
      · exact .nil
      rw [List.pairwise_append]
      have ofEntry {found : String × List FoundFile}
          (member : found ∈ byName (walkEntries system excluded directory entries)) :
          ∃ inner, (found.1, inner) ∈ entries ∧
            found.2 = walk system excluded (directory.along [found.1]) inner := by
        rw [(byName_perm _).mem_iff, walkEntries_eq_map] at member
        obtain ⟨⟨name, inner⟩, enters, rfl⟩ := List.mem_map.mp member
        exact ⟨inner, List.mem_of_mem_filter enters, rfl⟩
      refine ⟨?own, ?_, ?above⟩
      case own =>
        have names : ((listedFiles system directory entries).map (·.1)).Nodup :=
          distinct.sublist (List.filter_sublist.map _)
        exact List.pairwise_map.mpr <| (pairwise_byName names).imp fun before =>
          ⟨[_], [_], rfl, rfl, .own before⟩
      case above =>
        intro own isOwn file below
        obtain ⟨listed, _, rfl⟩ := List.mem_map.mp isOwn
        obtain ⟨found, among, inFound⟩ := List.mem_flatMap.mp below
        obtain ⟨inner, _, shape⟩ := ofEntry among
        obtain ⟨rest, nonempty, path⟩ :=
          along_of_mem_walk (List.mem_map_of_mem (shape ▸ inFound))
        exact ⟨[listed.1], found.1 :: rest, rfl, path, .above _ _ nonempty⟩
      rw [List.pairwise_flatMap]
      refine ⟨fun found among => ?inside, ?apart⟩
      case inside =>
        obtain ⟨inner, member, shape⟩ := ofEntry among
        rw [shape]
        exact (ih _ member (directory.along [found.1])).imp Comes.outward
      case apart =>
        have sorted := pairwise_byName
          (distinct.sublist (sublist_names_walkEntries system excluded directory entries))
        refine sorted.imp_of_mem fun {first second} isFirst isSecond before => ?_
        intro file inFirst other inSecond
        obtain ⟨_, _, firstShape⟩ := ofEntry isFirst
        obtain ⟨_, _, secondShape⟩ := ofEntry isSecond
        obtain ⟨inner, below, path⟩ :=
          along_of_mem_walk (List.mem_map_of_mem (firstShape ▸ inFirst))
        obtain ⟨further, beyond, otherPath⟩ :=
          along_of_mem_walk (List.mem_map_of_mem (secondShape ▸ inSecond))
        exact ⟨_, _, path, otherPath, .apart before below beyond⟩

/-! ## Listings of one disk -/

section Relisted

variable {system other : FileSystem} {excluded names : List String} {directory : Path}
  {outer item : Item}

/-- Listings of one disk hold the same. -/
theorem Holds.of_relisted (same : system.Relisted other)
    (disk : (Item.directory system.top).WellNamed) {again : Item} (relisted : outer.Relisted again)
    (named : outer.WellNamed) (held : Holds system excluded directory outer names item) :
    Holds other excluded directory again names item := by
  induction held generalizing again with
  | @own directory entries name item listed member isFile =>
      rw [← same.refusals] at listed
      rw [← same.showsDirectory_eq disk] at isFile
      obtain ⟨others, rfl⟩ := relisted.exists_directory
      obtain ⟨found, memberAgain, below⟩ := relisted.exists_mem named member
      rcases below.eq_or_exists_directory with rfl | ⟨_, _, rfl, _⟩
      · exact .own listed memberAgain isFile
      · contradiction
  | @inner directory entries name inner item names listed member included below ih =>
      rw [← same.refusals] at listed
      obtain ⟨others, rfl⟩ := relisted.exists_directory
      obtain ⟨found, memberAgain, innerRelisted⟩ := relisted.exists_mem named member
      cases named with
      | directory _ _ nested =>
          exact .inner listed memberAgain included (ih innerRelisted (nested _ member))

end Relisted

/-- A search finds the same in every listing of a disk. -/
theorem walk_eq_of_relisted {system other : FileSystem} (same : system.Relisted other)
    (disk : (Item.directory system.top).WellNamed) {outer again : Item}
    (relisted : outer.Relisted again) (named : outer.WellNamed) (excluded : List String)
    (directory : Path) :
    walk other excluded directory again = walk system excluded directory outer := by
  have namedAgain : again.WellNamed := relisted.wellNamed named
  have diskAgain : (Item.directory other.top).WellNamed := same.top.wellNamed disk
  have perm : (walk other excluded directory again).Perm (walk system excluded directory outer) := by
    rw [List.perm_ext_iff_of_nodup (.of_map _ (nodup_walk other excluded directory namedAgain))
      (.of_map _ (nodup_walk system excluded directory named))]
    intro file
    rw [mem_walk_iff, mem_walk_iff]
    constructor
    · rintro ⟨names, item, held, rfl⟩
      refine ⟨names, item, held.of_relisted same.symm diskAgain relisted.symm namedAgain, ?_⟩
      rw [FoundFile.at, FoundFile.at, same.sizeOf?_eq disk]
    · rintro ⟨names, item, held, rfl⟩
      refine ⟨names, item, held.of_relisted same disk relisted named, ?_⟩
      rw [FoundFile.at, FoundFile.at, same.sizeOf?_eq disk]
  exact perm.eq_of_pairwise (fun first second _ _ before later => absurd later before.asymm)
    (pairwise_walk other excluded directory namedAgain)
    (pairwise_walk system excluded directory named)

/-! ## The sources of a disk -/

/-- A limit is given in kilobytes, and a file of this size has more.  Zero is no limit, and every file
has more than a limit below all numbers. -/
inductive Exceeds (size : Nat) : Measure → Prop where
  | finite {numerator : Int} {denominator : Nat} (given : numerator ≠ 0)
      (more : numerator * 1024 < size * denominator) : Exceeds size (.finite numerator denominator)
  | belowAll : Exceeds size (.infinite true)

theorem exceedsLimit_iff {limitKb : Measure} {size : Nat} :
    exceedsLimit limitKb size = true ↔ Exceeds size limitKb := by
  constructor
  · intro large
    cases limitKb with
    | finite numerator denominator =>
        simp only [exceedsLimit, Bool.and_eq_true, bne_iff_ne, decide_eq_true_eq] at large
        exact .finite large.1 large.2
    | infinite negative =>
        obtain rfl : negative = true := large
        exact .belowAll
    | notANumber => cases large
  · rintro (⟨given, more⟩ | _)
    · simpa [exceedsLimit] using And.intro given more
    · rfl

theorem isOversized_iff {limitKb : Measure} {file : FoundFile} :
    isOversized limitKb file = true ↔ ∃ size, file.size = some size ∧ Exceeds size limitKb := by
  simp only [isOversized, Option.any_eq_true, exceedsLimit_iff]

section Sources

variable {system other : FileSystem} {registry : Registry} {root : Path} {excluded : List String}
  {limitKb : Measure}

/-- The sources of a project come in the order of a search. -/
theorem pairwise_sources (disk : (Item.directory system.top).WellNamed) :
    (sources system registry root excluded).Pairwise fun first second =>
      Comes root first.path second.path := by
  rw [sources]
  cases there : system.item? root with
  | none => simp
  | some top =>
      have named : top.WellNamed := FileSystem.wellNamed_of_item? disk there
      exact (pairwise_walk system excluded root named).sublist List.filter_sublist

theorem sources_eq_of_relisted (disk : (Item.directory system.top).WellNamed)
    (same : system.Relisted other) :
    sources other registry root excluded = sources system registry root excluded := by
  have tops := same.item?_rel disk root
  rw [sources, sources]
  generalize other.item? root = again at tops ⊢
  cases there : system.item? root with
  | none =>
      rw [there] at tops
      cases tops
      rfl
  | some top =>
      rw [there] at tops
      cases tops with
      | some relisted =>
          have named : top.WellNamed := FileSystem.wellNamed_of_item? disk there
          rw [Option.map_some, Option.map_some, Option.getD_some, Option.getD_some,
            walk_eq_of_relisted same disk relisted named]

/-- No path stands for two sources. -/
theorem eq_of_path_eq (disk : (Item.directory system.top).WellNamed) {first second : FoundFile}
    (isFirst : first ∈ sources system registry root excluded)
    (isSecond : second ∈ sources system registry root excluded)
    (same : first.path = second.path) : first = second := by
  have distinct : ((sources system registry root excluded).map (·.path)).Nodup := by
    refine List.pairwise_map.mpr ((pairwise_sources disk).imp fun {first second} before same => ?_)
    rw [same] at before
    exact before.asymm before
  exact List.inj_on_of_nodup_map distinct isFirst isSecond same

/-- A search finds the supported files to which directories lead that the system lists and that are
not excluded, and shares them out by the sizes that the system tells.  It lists them in one order, and
how the directories list their entries does not matter. -/
theorem discovery_exact_in_one_order (disk : (Item.directory system.top).WellNamed) :
    let found := discover system registry root excluded limitKb
    (∀ other, system.Relisted other → discover other registry root excluded limitKb = found) ∧
    List.Disjoint found.files found.oversized ∧
    (∀ path, path ∈ found.files ∨ path ∈ found.oversized ↔
      ∃ names item, IsSource system registry root excluded names item ∧ path = root.along names) ∧
    (∀ path, path ∈ found.oversized ↔
      ∃ names item size, IsSource system registry root excluded names item ∧
        system.sizeOf? path item = some size ∧ Exceeds size limitKb ∧ path = root.along names) ∧
    found.files.Pairwise (Comes root) ∧ found.oversized.Pairwise (Comes root) := by
  intro found
  have shared (system : FileSystem) : discover system registry root excluded limitKb =
      { files := ((sources system registry root excluded).filter fun file =>
          !isOversized limitKb file).map (·.path)
        oversized := ((sources system registry root excluded).filter
          (isOversized limitKb)).map (·.path) } := rfl
  have ordered : (sources system registry root excluded).Pairwise fun first second =>
      Comes root first.path second.path := pairwise_sources disk
  refine ⟨fun other same => ?same, ?disjoint, fun path => ?all, fun path => ?large, ?files,
    ?oversized⟩
  case same => rw [shared, sources_eq_of_relisted disk same]; rfl
  case disjoint =>
    intro path small large
    obtain ⟨first, isFirst, rfl⟩ := List.mem_map.mp small
    obtain ⟨second, isSecond, same⟩ := List.mem_map.mp large
    obtain ⟨firstSource, firstSmall⟩ := List.mem_filter.mp isFirst
    obtain ⟨secondSource, secondLarge⟩ := List.mem_filter.mp isSecond
    obtain rfl := eq_of_path_eq disk secondSource firstSource same
    simp [secondLarge] at firstSmall
  case all =>
    have listed : path ∈ found.paths ↔ path ∈ found.files ∨ path ∈ found.oversized :=
      List.mem_append
    exact listed.symm.trans mem_discover_iff
  case large =>
    rw [mem_oversized_iff]
    constructor
    · rintro ⟨names, item, source, large, rfl⟩
      obtain ⟨size, told, more⟩ := isOversized_iff.mp large
      exact ⟨names, item, size, source, told, more, rfl⟩
    · rintro ⟨names, item, size, source, told, more, rfl⟩
      exact ⟨names, item, source, isOversized_iff.mpr ⟨size, told, more⟩, rfl⟩
  case files => exact List.pairwise_map.mpr (ordered.sublist List.filter_sublist)
  case oversized => exact List.pairwise_map.mpr (ordered.sublist List.filter_sublist)

end Sources

/-- A disk with a file and a directory, listed in this order or the other way round. -/
def listedDisk (backwards : Bool) : FileSystem :=
  let entries := [("z.py", Item.file ⟨#[35]⟩), ("lib", .directory [("a.py", .file ByteArray.empty)])]
  { top := if backwards then entries.reverse else entries
    here := Path.ofString "/" }

theorem listings_give_one_result :
    (Item.directory (listedDisk false).top).WellNamed ∧
    (listedDisk false).Relisted (listedDisk true) ∧
    discover (listedDisk true) .standard (Path.ofString "/") [] (.ofInt 1) =
      discover (listedDisk false) .standard (Path.ofString "/") [] (.ofInt 1) := by
  have file (content : ByteArray) : (Item.file content).WellNamed := .file _
  have lib : (Item.directory [("a.py", .file ByteArray.empty)]).WellNamed :=
    .directory (by decide) (by decide) (by simp [file])
  have disk : (Item.directory (listedDisk false).top).WellNamed :=
    .directory (by decide) (by decide) (by simp [listedDisk, file, lib])
  have same : (listedDisk false).Relisted (listedDisk true) :=
    ⟨.reorder (List.reverse_perm _).symm, rfl, rfl⟩
  exact ⟨disk, same, (discovery_exact_in_one_order disk).1 (listedDisk true) same⟩

/-- A file of more than a kilobyte. -/
def longContent : ByteArray := ⟨Array.replicate 1025 35⟩

/-- A disk with one directory that may not be listed, and one below which nothing may be looked up. -/
def guardedDisk (guarded : Bool) : FileSystem :=
  { top := [("bare", .directory [("long.py", .file longContent)]),
      ("locked", .directory [("a.py", .file ByteArray.empty)])]
    here := ⟨.root, []⟩
    refusals :=
      { listing := fun path => guarded && path == ⟨.root, ["locked"]⟩
        lookup := fun path =>
          if guarded && path == ⟨.root, ["bare", "long.py"]⟩ then some "[Errno 13] Permission denied"
          else none } }

/-- Of the two files on this disk the search finds only the one that is listed, and takes it for small
since its size is not told.  With nothing refused, but the limit zero, neither is too large. -/
theorem search_misses_what_is_refused :
    let root : Path := ⟨.root, []⟩
    let found := discover (guardedDisk true) .standard root [] (.ofInt 1)
    (IsSource (guardedDisk false) .standard root [] ["locked", "a.py"] (.file ByteArray.empty) ∧
      root.along ["locked", "a.py"] ∉ found.files ∧
      root.along ["locked", "a.py"] ∉ found.oversized) ∧
    (IsSource (guardedDisk false) .standard root [] ["bare", "long.py"] (.file longContent) ∧
      Exceeds longContent.size (.ofInt 1) ∧
      root.along ["bare", "long.py"] ∈ found.files ∧
      root.along ["bare", "long.py"] ∉ found.oversized) ∧
    0 * 1024 < longContent.size ∧
    (discover (guardedDisk false) .standard root [] (.ofInt 0)).oversized = [] := by
  intro root found
  have longSource (guarded : Bool) : IsSource (guardedDisk guarded) .standard root []
      ["bare", "long.py"] (.file longContent) :=
    ⟨_, rfl, .inner (by cases guarded <;> decide) List.mem_cons_self (by simp)
      (.own (by cases guarded <;> decide) List.mem_cons_self rfl), by decide +kernel⟩
  have lockedSource : IsSource (guardedDisk false) .standard root [] ["locked", "a.py"]
      (.file ByteArray.empty) :=
    ⟨_, rfl, .inner rfl (List.mem_cons_of_mem _ List.mem_cons_self) (by simp)
      (.own rfl List.mem_cons_self rfl), by decide +kernel⟩
  have missed : root.along ["locked", "a.py"] ∉ found.paths := by
    intro member
    obtain ⟨names, item, ⟨top, _, held, _⟩, same⟩ := mem_discover_iff.mp member
    obtain rfl := root.along_injective same
    -- The directory would have to be listed.
    rcases held with _ | ⟨_, _, _, listed | listed⟩ <;> exact absurd listed (by decide)
  have untold : root.along ["bare", "long.py"] ∉ found.oversized := by
    intro member
    obtain ⟨names, item, _, large, same⟩ := mem_oversized_iff.mp member
    obtain rfl := root.along_injective same
    obtain ⟨size, told, _⟩ := isOversized_iff.mp large
    cases told
  rw [Discovery.paths, List.mem_append, not_or] at missed
  have long : longContent.size = 1025 := Array.size_replicate
  refine ⟨⟨lockedSource, missed⟩,
    ⟨longSource false, .finite (by decide) (by rw [long]; decide), ?_, untold⟩,
    by rw [long]; decide, ?_⟩
  · have listed : root.along ["bare", "long.py"] ∈ found.paths :=
      mem_discover_iff.mpr ⟨_, _, longSource true, rfl⟩
    exact (List.mem_append.mp listed).resolve_right untold
  · rw [List.eq_nil_iff_forall_not_mem]
    intro path member
    obtain ⟨_, _, _, large, _⟩ := mem_oversized_iff.mp member
    obtain ⟨_, _, ⟨given, _⟩ | _⟩ := isOversized_iff.mp large
    exact given rfl

end ScopeAtlas.Workspace
