import Mathlib.Data.List.Nodup
import ScopeAtlas.Proofs.Files.FileSystem
import ScopeAtlas.Workspace.Discovery

/-!
# What a search finds

The search goes down from a directory through those that the system lists and puts the entries of
each in order.  It finds what is listed with the files of these directories, each with the size that
the system tells.  On a disk each is found once, so the files that are read and those that are too
large are the supported ones among them, shared out.
-/

namespace ScopeAtlas.Files.Item

/-- What holds of a directory if it holds of its entries, and of what is no directory, holds of every
item. -/
@[elab_as_elim]
theorem entryInduction {motive : Item → Prop}
    (leaf : ∀ item, item.isDirectory = false → motive item)
    (directory : ∀ entries, (∀ entry ∈ entries, motive entry.2) → motive (.directory entries)) :
    ∀ item, motive item
  | .file content => leaf (.file content) rfl
  | .special size => leaf (.special size) rfl
  | .link target => leaf (.link target) rfl
  | .directory entries => directory entries fun entry _ => entryInduction leaf directory entry.2
termination_by item => sizeOf item
decreasing_by
  rename_i isEntry
  have below := List.sizeOf_lt_of_mem isEntry
  obtain ⟨name, inner⟩ := entry
  simp only [Prod.mk.sizeOf_spec, Item.directory.sizeOf_spec] at below ⊢
  omega

end ScopeAtlas.Files.Item

namespace ScopeAtlas.Workspace

open ScopeAtlas.Data ScopeAtlas.Files ScopeAtlas.Language

/-! ## What directories hold -/

/-- The names lead from a directory down to an item that is listed with the files.  The system lists
every directory on the way, and none of those below the first has an excluded name. -/
inductive Holds (system : FileSystem) (excluded : List String) :
    Path → Item → List String → Item → Prop where
  | own {directory : Path} {entries : List (String × Item)} {name : String} {item : Item}
      (listed : system.refusals.listing directory = false) (member : (name, item) ∈ entries)
      (isFile : system.showsDirectory (directory.along [name]) item = false) :
      Holds system excluded directory (.directory entries) [name] item
  | inner {directory : Path} {entries : List (String × Item)} {name : String} {inner item : Item}
      {names : List String} (listed : system.refusals.listing directory = false)
      (member : (name, inner) ∈ entries) (included : name ∉ excluded)
      (below : Holds system excluded (directory.along [name]) inner names item) :
      Holds system excluded directory (.directory entries) (name :: names) item

section Holds

variable {system : FileSystem} {excluded names : List String} {directory : Path} {outer item : Item}

theorem Holds.ne_nil (held : Holds system excluded directory outer names item) : names ≠ [] := by
  cases held <;> simp

theorem Holds.isDirectory (held : Holds system excluded directory outer names item) :
    outer.isDirectory = true := by
  cases held <;> rfl

theorem holds_directory_iff {entries : List (String × Item)} :
    Holds system excluded directory (.directory entries) names item ↔
      system.refusals.listing directory = false ∧
        ((∃ name, (name, item) ∈ entries ∧
            system.showsDirectory (directory.along [name]) item = false ∧ names = [name]) ∨
          ∃ name inner rest, (name, inner) ∈ entries ∧ name ∉ excluded ∧
            Holds system excluded (directory.along [name]) inner rest item ∧
              names = name :: rest) := by
  constructor
  · intro held
    cases held with
    | own listed member isFile => exact ⟨listed, .inl ⟨_, member, isFile, rfl⟩⟩
    | inner listed member included below =>
        exact ⟨listed, .inr ⟨_, _, _, member, included, below, rfl⟩⟩
  · rintro ⟨listed, ⟨name, member, isFile, rfl⟩ | ⟨name, inner, rest, member, included, below, rfl⟩⟩
    · exact .own listed member isFile
    · exact .inner listed member included below

/-- On a disk the names lead to the item. -/
theorem Holds.at?_eq (named : outer.WellNamed)
    (held : Holds system excluded directory outer names item) : outer.at? names = some item := by
  induction held with
  | own _ member _ => simp [named.lookup_eq_some_iff.mpr member]
  | inner _ member _ _ ih =>
      rw [Item.at?_directory_cons, named.lookup_eq_some_iff.mpr member, Option.bind_some]
      cases named with
      | directory _ _ nested => exact ih (nested _ member)

end Holds

/-! ## One directory -/

theorem byName_perm {α : Type} (items : List (String × α)) : (byName items).Perm items :=
  List.mergeSort_perm items _

theorem byName_of_pairwise {α : Type} {items : List (String × α)}
    (sorted : (items.map (·.1)).Pairwise (· ≤ ·)) : byName items = items := by
  rw [byName]
  exact List.mergeSort_of_pairwise (by simpa [List.pairwise_map] using sorted)

/-- An item as it is found at a path. -/
def FoundFile.at (system : FileSystem) (path : Path) (item : Item) : FoundFile :=
  { path := path, size := system.sizeOf? path item }

theorem ownFiles_perm (system : FileSystem) (directory : Path) (entries : List (String × Item)) :
    (ownFiles system directory entries).Perm
      ((listedFiles system directory entries).map fun entry =>
        .at system (directory.along [entry.1]) entry.2) :=
  (byName_perm (listedFiles system directory entries)).map _

/-- The subdirectories that a search enters. -/
def entered (excluded : List String) (entries : List (String × Item)) : List (String × Item) :=
  entries.filter fun entry => entry.2.isDirectory && !excluded.contains entry.1

section Walk

variable {system : FileSystem} {excluded : List String} {directory : Path}

theorem walkEntries_eq_map (system : FileSystem) (excluded : List String) (directory : Path)
    (entries : List (String × Item)) :
    walkEntries system excluded directory entries =
      (entered excluded entries).map fun entry =>
        (entry.1, walk system excluded (directory.along [entry.1]) entry.2) := by
  induction entries with
  | nil => rfl
  | cons entry rest ih =>
      obtain ⟨name, inner⟩ := entry
      rw [walkEntries, ih, entered, entered, List.filter_cons]
      split <;> rfl

/-- A search finds a directory's own files and those below the subdirectories that it enters. -/
theorem walk_directory_perm (listed : system.refusals.listing directory = false)
    (entries : List (String × Item)) :
    (walk system excluded directory (.directory entries)).Perm
      ((listedFiles system directory entries).map
          (fun entry => .at system (directory.along [entry.1]) entry.2) ++
        (entered excluded entries).flatMap fun entry =>
          walk system excluded (directory.along [entry.1]) entry.2) := by
  rw [walk, listed, if_neg Bool.false_ne_true]
  refine (ownFiles_perm system directory entries).append ?_
  refine ((byName_perm (walkEntries system excluded directory entries)).flatMap_right (·.2)).trans ?_
  rw [walkEntries_eq_map, List.flatMap_map]

/-- Where the subdirectories of a directory give nothing, its own files are what is found.  If it lists
them by name they stay in place. -/
theorem walk_directory_eq (listed : system.refusals.listing directory = false)
    {entries : List (String × Item)}
    (sorted : ((listedFiles system directory entries).map (·.1)).Pairwise (· ≤ ·))
    (nothing : ∀ below ∈ walkEntries system excluded directory entries, below.2 = []) :
    walk system excluded directory (.directory entries) =
      (listedFiles system directory entries).map fun entry =>
        .at system (directory.along [entry.1]) entry.2 := by
  have inner : (byName (walkEntries system excluded directory entries)).flatMap (·.2) = [] := by
    rw [List.flatMap_eq_nil_iff]
    exact fun below among => nothing below ((byName_perm _).mem_iff.mp among)
  rw [walk, listed, if_neg Bool.false_ne_true, inner, List.append_nil, ownFiles,
    byName_of_pairwise sorted]
  rfl

theorem mem_listedFiles {entries : List (String × Item)} {entry : String × Item} :
    entry ∈ listedFiles system directory entries ↔
      entry ∈ entries ∧ system.showsDirectory (directory.along [entry.1]) entry.2 = false := by
  simp [listedFiles]

theorem mem_entered {entries : List (String × Item)} {entry : String × Item} :
    entry ∈ entered excluded entries ↔
      entry ∈ entries ∧ entry.2.isDirectory = true ∧ entry.1 ∉ excluded := by
  simp [entered]

/-! ## Below a directory -/

theorem walk_of_not_isDirectory {outer : Item} (closed : outer.isDirectory = false) :
    walk system excluded directory outer = [] := by
  cases outer with
  | directory entries => contradiction
  | _ => rw [walk]

/-- A search finds what a directory holds. -/
theorem mem_walk_iff {outer : Item} {file : FoundFile} :
    file ∈ walk system excluded directory outer ↔
      ∃ names item, Holds system excluded directory outer names item ∧
        file = .at system (directory.along names) item := by
  induction outer using Item.entryInduction generalizing directory with
  | leaf outer closed =>
      rw [walk_of_not_isDirectory closed]
      simp only [List.not_mem_nil, false_iff, not_exists, not_and]
      intro names item held
      rw [held.isDirectory] at closed
      contradiction
  | directory entries ih =>
      simp only [holds_directory_iff]
      cases listed : system.refusals.listing directory with
      | true => simp [walk, listed]
      | false =>
          rw [(walk_directory_perm listed entries).mem_iff, List.mem_append, List.mem_map,
            List.mem_flatMap]
          constructor
          · rintro (⟨entry, own, rfl⟩ | ⟨entry, enters, below⟩)
            · obtain ⟨member, isFile⟩ := mem_listedFiles.mp own
              exact ⟨[entry.1], entry.2, ⟨rfl, .inl ⟨entry.1, member, isFile, rfl⟩⟩, rfl⟩
            · obtain ⟨member, _, included⟩ := mem_entered.mp enters
              obtain ⟨names, item, held, rfl⟩ := (ih entry member).mp below
              refine ⟨entry.1 :: names, item,
                ⟨rfl, .inr ⟨entry.1, entry.2, names, member, included, held, rfl⟩⟩, ?_⟩
              rw [Path.along_along, List.singleton_append]
          · rintro ⟨names, item, ⟨_, ⟨name, member, isFile, rfl⟩ |
              ⟨name, inner, rest, member, included, below, rfl⟩⟩, rfl⟩
            · exact .inl ⟨(name, item), mem_listedFiles.mpr ⟨member, isFile⟩, rfl⟩
            · refine .inr ⟨(name, inner), mem_entered.mpr ⟨member, below.isDirectory, included⟩,
                (ih (name, inner) member).mpr ⟨rest, item, below, ?_⟩⟩
              rw [Path.along_along, List.singleton_append]

theorem along_of_mem_walk {name : String} {inner : Item} {path : Path}
    (member : path ∈ (walk system excluded (directory.along [name]) inner).map (·.path)) :
    ∃ rest, rest ≠ [] ∧ path = directory.along (name :: rest) := by
  obtain ⟨file, walked, rfl⟩ := List.mem_map.mp member
  obtain ⟨names, item, held, rfl⟩ := mem_walk_iff.mp walked
  exact ⟨names, held.ne_nil, by rw [FoundFile.at, Path.along_along, List.singleton_append]⟩

/-- On a disk every file is found once. -/
theorem nodup_walk (system : FileSystem) (excluded : List String) (directory : Path) {outer : Item}
    (named : outer.WellNamed) : ((walk system excluded directory outer).map (·.path)).Nodup := by
  induction named generalizing directory with
  | file content => simp [walk]
  | special size => simp [walk]
  | link target => simp [walk]
  | @directory entries distinct _ _ ih =>
      cases listed : system.refusals.listing directory with
      | true => simp [walk, listed]
      | false =>
          rw [((walk_directory_perm listed entries).map _).nodup_iff, List.map_append,
            List.map_map, List.map_flatMap, List.nodup_append']
          refine ⟨?_, ?_, ?_⟩
          · -- The directory's own files have different names.
            have names : ((listedFiles system directory entries).map (·.1)).Nodup :=
              distinct.sublist (List.filter_sublist.map _)
            have injective : Function.Injective fun name => directory.along [name] :=
              fun first second same => by simpa using directory.along_injective same
            simpa [Function.comp_def, FoundFile.at] using names.map injective
          · -- So have its subdirectories.
            have names : (entered excluded entries).Pairwise
                fun first second => first.1 ≠ second.1 :=
              (List.pairwise_map.mp distinct).sublist List.filter_sublist
            rw [List.nodup_flatMap]
            refine ⟨fun entry enters => ih entry (List.mem_of_mem_filter enters) _, ?_⟩
            refine names.imp fun {first second} differ path inFirst inSecond => differ ?_
            obtain ⟨_, _, rfl⟩ := along_of_mem_walk inFirst
            obtain ⟨_, _, same⟩ := along_of_mem_walk inSecond
            exact (List.cons.inj (directory.along_injective same)).1
          · -- Only names of subdirectories lead on.
            intro path own below
            obtain ⟨entry, _, rfl⟩ := List.mem_map.mp own
            obtain ⟨other, _, inOther⟩ := List.mem_flatMap.mp below
            obtain ⟨rest, nonempty, same⟩ := along_of_mem_walk inOther
            exact nonempty (List.cons.inj (directory.along_injective same)).2.symm

end Walk

/-! ## The sources of a project -/

/-- The names lead from the root, through directories that the system lists and that are not excluded,
down to an item with a supported name that is listed with the files. -/
def IsSource (system : FileSystem) (registry : Registry) (root : Path) (excluded : List String)
    (names : List String) (item : Item) : Prop :=
  ∃ top, system.item? root = some top ∧ Holds system excluded root top names item ∧
    registry.isSupported (root.along names) = true

/-- The supported files that a search finds. -/
def sources (system : FileSystem) (registry : Registry) (root : Path) (excluded : List String) :
    List FoundFile :=
  (((system.item? root).map (walk system excluded root)).getD []).filter fun file =>
    registry.isSupported file.path

/-- The files that are read, and then those that are too large. -/
def Discovery.paths (found : Discovery) : List Path := found.files ++ found.oversized

section Sources

variable {system : FileSystem} {registry : Registry} {root : Path} {excluded : List String}

theorem mem_sources_iff {file : FoundFile} :
    file ∈ sources system registry root excluded ↔
      ∃ names item, IsSource system registry root excluded names item ∧
        file = .at system (root.along names) item := by
  rw [sources, List.mem_filter]
  constructor
  · rintro ⟨found, supported⟩
    cases there : system.item? root with
    | none => simp [there] at found
    | some top =>
        rw [there, Option.map_some, Option.getD_some] at found
        obtain ⟨names, item, held, rfl⟩ := mem_walk_iff.mp found
        exact ⟨names, item, ⟨top, there, held, supported⟩, rfl⟩
  · rintro ⟨names, item, ⟨top, there, held, supported⟩, rfl⟩
    rw [there, Option.map_some, Option.getD_some]
    exact ⟨mem_walk_iff.mpr ⟨names, item, held, rfl⟩, supported⟩

/-- The files that are read and those that are too large are the sources, shared out. -/
theorem discover_perm (limitKb : Measure) :
    (discover system registry root excluded limitKb).paths.Perm
      ((sources system registry root excluded).map (·.path)) := by
  have shared :=
    List.filter_append_perm (isOversized limitKb) (sources system registry root excluded)
  rw [Discovery.paths, discover, ← List.map_append]
  exact (List.perm_append_comm.trans shared).map (·.path)

theorem mem_discover_iff {limitKb : Measure} {path : Path} :
    path ∈ (discover system registry root excluded limitKb).paths ↔
      ∃ names item, IsSource system registry root excluded names item ∧ path = root.along names := by
  rw [(discover_perm limitKb).mem_iff, List.mem_map]
  constructor
  · rintro ⟨file, member, rfl⟩
    rcases mem_sources_iff.mp member with ⟨names, item, source, rfl⟩
    exact ⟨names, item, source, rfl⟩
  · rintro ⟨names, item, source, rfl⟩
    exact ⟨_, mem_sources_iff.mpr ⟨names, item, source, rfl⟩, rfl⟩

theorem mem_oversized_iff {limitKb : Measure} {path : Path} :
    path ∈ (discover system registry root excluded limitKb).oversized ↔
      ∃ names item, IsSource system registry root excluded names item ∧
        isOversized limitKb (.at system (root.along names) item) = true ∧
        path = root.along names := by
  have listed : (discover system registry root excluded limitKb).oversized =
      ((sources system registry root excluded).filter (isOversized limitKb)).map (·.path) := rfl
  rw [listed, List.mem_map]
  constructor
  · rintro ⟨file, member, rfl⟩
    rcases List.mem_filter.mp member with ⟨found, large⟩
    rcases mem_sources_iff.mp found with ⟨names, item, source, rfl⟩
    exact ⟨names, item, source, large, rfl⟩
  · rintro ⟨names, item, source, large, rfl⟩
    exact ⟨_, List.mem_filter.mpr ⟨mem_sources_iff.mpr ⟨names, item, source, rfl⟩, large⟩, rfl⟩

end Sources

section Disk

variable {system : FileSystem} {root : Path} {registry : Registry} {excluded : List String}
  {names : List String} {item : Item}

theorem nodup_sources (rooted : system.IsRoot root) :
    ((sources system registry root excluded).map (·.path)).Nodup := by
  rw [sources]
  cases there : system.item? root with
  | none => simp
  | some top =>
      rw [rooted.item?_eq] at there
      have named : top.WellNamed := (rooted.sound.named.of_at? there).1
      exact (nodup_walk system excluded root named).sublist (List.filter_sublist.map _)

namespace IsSource

theorem ne_nil (source : IsSource system registry root excluded names item) : names ≠ [] := by
  rcases source with ⟨top, _, held, _⟩
  exact held.ne_nil

/-- A source stands at the end of the names that lead to it. -/
theorem at?_eq (rooted : system.IsRoot root)
    (source : IsSource system registry root excluded names item) :
    system.at? (root.parts ++ names) = some item := by
  rcases source with ⟨top, there, held, _⟩
  rw [rooted.item?_eq] at there
  rw [FileSystem.at?_append, there]
  exact held.at?_eq (rooted.sound.named.of_at? there).1

end IsSource

end Disk

end ScopeAtlas.Workspace
