import Mathlib.Data.List.Basic
import Mathlib.Data.List.Induction
import ScopeAtlas.Files.FileSystem
import ScopeAtlas.Proofs.Files.Names

/-!
# Paths without links

A path is settled when none of its components leads up or stays, and none of the places on it is a
link.  The absolute form of a path is settled, as the ends of links are.  A settled path is its own
absolute form, and names what stands at the end of its components.
-/

namespace ScopeAtlas.Files

open ScopeAtlas.Data

/-! ## Items with names -/

namespace Item

/-- What a disk guarantees of an item: names are names, and no two entries of one directory share
theirs. -/
inductive WellNamed : Item → Prop where
  | file (content : ByteArray) : WellNamed (.file content)
  | special (size : Nat) : WellNamed (.special size)
  | link (target : Option (List String)) : WellNamed (.link target)
  | directory {entries : List (String × Item)}
      (distinct : (entries.map (·.1)).Nodup)
      (named : ∀ entry ∈ entries, IsName entry.1)
      (inner : ∀ entry ∈ entries, WellNamed entry.2) : WellNamed (.directory entries)

/-- On a disk every entry of a directory is the one of its name. -/
theorem WellNamed.lookup_eq_some_iff {entries : List (String × Item)} {name : String} {inner : Item}
    (named : (Item.directory entries).WellNamed) :
    entries.lookup name = some inner ↔ (name, inner) ∈ entries := by
  cases named with
  | directory distinct _ _ => exact lookup_eq_some_iff_mem distinct

@[simp]
theorem at?_nil (item : Item) : item.at? [] = some item := by
  cases item <;> rfl

@[simp]
theorem at?_directory_cons (entries : List (String × Item)) (name : String) (rest : List String) :
    (directory entries).at? (name :: rest) = (entries.lookup name).bind (·.at? rest) := by
  rw [at?]
  cases entries.lookup name <;> rfl

theorem at?_append (item : Item) (names later : List String) :
    item.at? (names ++ later) = (item.at? names).bind (·.at? later) := by
  fun_induction item.at? names with
  | case1 => rfl
  | case2 entries name rest inner found ih => rw [List.cons_append, at?, found]; exact ih
  | case3 entries name rest missing => rw [List.cons_append, at?, missing]; rfl
  | case4 item name rest noDirectory => cases item <;> simp_all [at?]

/-- What stands below a disk's item is what the disk guarantees, and it is found by names. -/
theorem WellNamed.of_at? {item inner : Item} {names : List String} (named : item.WellNamed)
    (found : item.at? names = some inner) : inner.WellNamed ∧ ∀ name ∈ names, IsName name := by
  fun_induction item.at? names with
  | case1 => exact ⟨Option.some.inj found ▸ named, by simp⟩
  | case2 entries name rest next there ih =>
      have member := mem_of_lookup there
      cases named with
      | directory _ isName nested =>
          obtain ⟨innerNamed, restNames⟩ := ih (nested _ member) found
          exact ⟨innerNamed, List.forall_mem_cons.mpr ⟨isName _ member, restNames⟩⟩
  | case3 => contradiction
  | case4 => contradiction

/-- Neither the item nor anything below it is a link. -/
inductive Unlinked : Item → Prop where
  | file (content : ByteArray) : Unlinked (.file content)
  | special (size : Nat) : Unlinked (.special size)
  | directory {entries : List (String × Item)} (inner : ∀ entry ∈ entries, Unlinked entry.2) :
      Unlinked (.directory entries)

theorem Unlinked.ne_link {item : Item} (unlinked : item.Unlinked) (target : Option (List String)) :
    item ≠ .link target := by
  cases unlinked <;> simp

theorem Unlinked.of_at? {item inner : Item} {names : List String} (unlinked : item.Unlinked)
    (found : item.at? names = some inner) : inner.Unlinked := by
  fun_induction item.at? names with
  | case1 => exact Option.some.inj found ▸ unlinked
  | case2 entries name rest next there ih =>
      cases unlinked with
      | directory nested => exact ih (nested _ (mem_of_lookup there)) found
  | case3 => contradiction
  | case4 => contradiction

end Item

/-! ## Settled paths -/

namespace FileSystem

variable {system : FileSystem}

/-- None of the components leads up or stays, and no place on the way is a link. -/
structure Settled (system : FileSystem) (parts : List String) : Prop where
  moves : ∀ part ∈ parts, part ≠ "." ∧ part ≠ ".."
  unlinked : ∀ before, before <+: parts → ∀ target, system.at? before ≠ some (.link target)

/-- What a disk guarantees: its entries are well named, and links end at settled paths of names. -/
structure IsSound (system : FileSystem) : Prop where
  named : (Item.directory system.top).WellNamed
  ends : ∀ names target, system.at? names = some (.link (some target)) →
    (∀ name ∈ target, IsName name) ∧ system.Settled target

namespace Settled

variable {parts later : List String}

theorem nil (system : FileSystem) : system.Settled [] where
  moves := by simp
  unlinked before empty target := by simp [List.prefix_nil.mp empty, at?]

theorem of_prefix (settled : system.Settled parts) (start : later <+: parts) :
    system.Settled later where
  moves part member := settled.moves part (start.subset member)
  unlinked before early := settled.unlinked before (early.trans start)

/-- A place is added that is no link. -/
theorem concat {part : String} (settled : system.Settled parts) (moves : part ≠ "." ∧ part ≠ "..")
    (unlinked : ∀ target, system.at? (parts ++ [part]) ≠ some (.link target)) :
    system.Settled (parts ++ [part]) where
  moves other member := by
    rcases List.mem_append.mp member with earlier | last
    · exact settled.moves other earlier
    · rwa [List.mem_singleton.mp last]
  unlinked before start := by
    rcases List.prefix_concat_iff.mp start with rfl | earlier
    · exact unlinked
    · exact settled.unlinked before earlier

end Settled

theorem at?_append (system : FileSystem) (before later : List String) :
    system.at? (before ++ later) = (system.at? before).bind (·.at? later) :=
  Item.at?_append _ before later

/-- Only the last of the places on a way through directories can be a link. -/
theorem at?_ne_link_of_concat {before : List String} {name : String} {item : Item}
    (found : system.at? (before ++ [name]) = some item) (target : Option (List String)) :
    system.at? before ≠ some (.link target) := by
  intro linked
  simp [at?_append, linked, Item.at?] at found

/-- A way through directories to what is no link is settled. -/
theorem settled_of_at? (disk : (Item.directory system.top).WellNamed) {parts : List String} {item : Item}
    (found : system.at? parts = some item) (plain : ∀ target, item ≠ .link target) :
    system.Settled parts := by
  induction parts using List.reverseRecOn generalizing item with
  | nil => exact .nil system
  | append_singleton before name ih =>
      have isName := (disk.of_at? found).2 name (by simp)
      obtain ⟨outer, above, _⟩ := Option.bind_eq_some_iff.mp (at?_append system .. ▸ found)
      have settled := ih above fun target linked =>
        at?_ne_link_of_concat found target (linked ▸ above)
      refine settled.concat ⟨isName.ne_dot, isName.ne_dots⟩ fun target linked => ?_
      exact plain target (Option.some.inj (found.symm.trans linked))

/-- Where a directory has an entry, the way to the directory is settled. -/
theorem settled_of_concat (disk : (Item.directory system.top).WellNamed) {before : List String} {name : String}
    {item : Item} (found : system.at? (before ++ [name]) = some item) : system.Settled before := by
  obtain ⟨outer, above, _⟩ := Option.bind_eq_some_iff.mp (at?_append system .. ▸ found)
  exact settled_of_at? disk above fun target linked =>
    at?_ne_link_of_concat found target (linked ▸ above)

/-! ## Following components -/

/-- What is added to components that can be followed is followed from where they lead. -/
theorem follow_append {kept parts reached : List String}
    (followed : system.follow kept parts = .ok reached) (later : List String) :
    system.follow kept (parts ++ later) = system.follow reached later := by
  fun_induction system.follow kept parts with
  | case1 kept => rw [Except.ok.inj followed, List.nil_append]
  | case2 kept part rest stays ih => simpa [follow, stays] using ih followed
  | case3 kept part rest stays up ih => simpa [follow, stays, up] using ih followed
  | case4 kept part rest stays up target found ih =>
      simpa [follow, stays, up, found] using ih followed
  | case5 => contradiction
  | case6 kept part rest stays up unlinked noLoop ih =>
      simpa [follow, stays, up] using ih followed

/-- The components of the path to which an item leads in the end that stands at the end of
`parts`. -/
def destination (parts : List String) : Item → Except ResolveFault (List String)
  | .link (some target) => .ok target
  | .link none => .error (.loop { anchor := .root, parts })
  | .file _ | .directory _ | .special _ => .ok parts

/-- The last component is followed if it is a link. -/
theorem follow_singleton {kept : List String} {name : String} {item : Item} (named : IsName name)
    (found : system.at? (kept ++ [name]) = some item) :
    system.follow kept [name] = destination (kept ++ [name]) item := by
  rw [follow, if_neg (by simpa using named.ne_dot), if_neg (by simpa using named.ne_dots), found]
  rcases item with _ | _ | _ | _ | _ <;> rfl

/-- The absolute form of a path is settled. -/
theorem settled_of_follow (sound : system.IsSound) {kept parts result : List String}
    (settled : system.Settled kept) (followed : system.follow kept parts = .ok result) :
    system.Settled result := by
  fun_induction system.follow kept parts with
  | case1 kept => exact Except.ok.inj followed ▸ settled
  | case2 kept part rest _ ih => exact ih settled followed
  | case3 kept part rest _ _ ih => exact ih (settled.of_prefix (List.dropLast_prefix kept)) followed
  | case4 kept part rest _ _ target found ih => exact ih (sound.ends _ _ found).2 followed
  | case5 => contradiction
  | case6 kept part rest stays up unlinked noLoop ih =>
      refine ih (settled.concat ⟨by simpa using stays, by simpa using up⟩ fun target => ?_) followed
      cases target with
      | none => exact noLoop
      | some target => exact unlinked target

/-- A settled path is followed to itself. -/
theorem Settled.follow_eq {kept parts : List String} (settled : system.Settled (kept ++ parts)) :
    system.follow kept parts = .ok (kept ++ parts) := by
  induction parts generalizing kept with
  | nil => simp [follow]
  | cons part rest ih =>
      have moves := settled.moves part (by simp)
      have unlinked := settled.unlinked (kept ++ [part]) ⟨rest, by simp⟩
      rw [List.append_cons] at settled ⊢
      rw [follow, if_neg (by simpa using moves.1), if_neg (by simpa using moves.2)]
      split
      · exact absurd ‹_› (unlinked _)
      · exact absurd ‹_› (unlinked _)
      · exact ih settled

/-- What a settled path names stands at the end of its components. -/
theorem Settled.reach_eq {kept parts : List String} (settled : system.Settled (kept ++ parts)) :
    system.reach kept parts = system.at? (kept ++ parts) := by
  induction parts generalizing kept with
  | nil => simp [reach]
  | cons part rest ih =>
      have moves := settled.moves part (by simp)
      have unlinked := settled.unlinked (kept ++ [part]) ⟨rest, by simp⟩
      rw [List.append_cons] at settled ⊢
      rw [reach]
      split
      · -- Nothing stands below what is no directory.
        rename_i closed
        rw [List.append_assoc, List.singleton_append, at?_append]
        cases above : system.at? kept with
        | none => rfl
        | some outer => cases outer <;> simp_all [Item.at?, Item.isDirectory]
      · rw [if_neg (by simpa using moves.1), if_neg (by simpa using moves.2)]
        split
        · exact absurd ‹_› (unlinked _)
        · exact absurd ‹_› (unlinked _)
        · exact ih settled

/-- What is reached stands somewhere on the disk. -/
theorem exists_at?_of_reach {kept parts : List String} {item : Item}
    (reached : system.reach kept parts = some item) : ∃ names, system.at? names = some item := by
  fun_induction system.reach kept parts with
  | case1 kept => exact ⟨kept, reached⟩
  | case2 => contradiction
  | case3 kept part rest _ _ ih => exact ih reached
  | case4 kept part rest _ _ _ ih => exact ih reached
  | case5 kept part rest _ _ _ target found ih => exact ih reached
  | case6 => contradiction
  | case7 kept part rest _ _ _ _ _ ih => exact ih reached

/-- What a path names on a disk is well named. -/
theorem wellNamed_of_item? (disk : (Item.directory system.top).WellNamed) {path : Path} {item : Item}
    (named : system.item? path = some item) : item.WellNamed := by
  obtain ⟨names, found⟩ := exists_at?_of_reach named
  exact (disk.of_at? found).1

/-! ## Absolute paths -/

/-- The path is the absolute form of a path on a disk. -/
structure IsRoot (system : FileSystem) (root : Path) : Prop where
  sound : system.IsSound
  absolute : ∃ directory, system.resolve directory = .ok root

namespace IsRoot

variable {root : Path} {names : List String} {item : Item} (rooted : system.IsRoot root)
include rooted

theorem exists_follow_eq :
    ∃ parts, system.follow [] parts = .ok root.parts ∧ root.anchor = .root := by
  rcases rooted.absolute with ⟨directory, resolved⟩
  rw [resolve] at resolved
  split at resolved
  · contradiction
  · cases followed : system.follow [] (system.here.join directory).parts with
    | error fault =>
        rw [followed] at resolved
        contradiction
    | ok parts =>
        rw [followed] at resolved
        obtain rfl := Except.ok.inj resolved
        exact ⟨_, followed, rfl⟩

theorem settled : system.Settled root.parts := by
  rcases rooted.exists_follow_eq with ⟨parts, followed, _⟩
  exact settled_of_follow rooted.sound (.nil system) followed

theorem join_along (names : List String) : system.here.join (root.along names) = root.along names := by
  rcases rooted.exists_follow_eq with ⟨_, _, anchored⟩
  simp [Path.join, Path.isAbsolute, Path.along, anchored]

/-- What an absolute path names stands at the end of its components. -/
theorem item?_eq : system.item? root = system.at? root.parts := by
  have join := rooted.join_along []
  rw [Path.along, List.append_nil] at join
  rw [item?, join]
  have settled : system.Settled ([] ++ root.parts) := rooted.settled
  exact settled.reach_eq

/-- What stands on a disk has a path without null characters. -/
theorem hasNull_along (found : system.at? (root.parts ++ names) = some item) :
    (root.along names).hasNull = false := by
  have named := (rooted.sound.named.of_at? found).2
  rw [Path.hasNull, List.any_eq_false]
  intro part member
  rw [List.contains_iff_mem]
  exact (named part member).null_not_mem

/-- The absolute form of a path is where the item that it names leads. -/
theorem resolve_along (found : system.at? (root.parts ++ names) = some item) :
    system.resolve (root.along names) =
      (destination (root.parts ++ names) item).map fun parts => { anchor := .root, parts } := by
  have followed : system.follow [] (root.parts ++ names) = destination (root.parts ++ names) item := by
    generalize root.parts ++ names = parts at found
    rcases List.eq_nil_or_concat' parts with rfl | ⟨before, name, rfl⟩
    · obtain rfl := Option.some.inj found
      rfl
    · have isName := (rooted.sound.named.of_at? found).2 name (by simp)
      have settled : system.Settled ([] ++ before) := settled_of_concat rooted.sound.named found
      rw [follow_append settled.follow_eq, List.nil_append, follow_singleton isName found]
  rw [resolve, rooted.hasNull_along found, rooted.join_along, ← followed]
  rfl

end IsRoot

end FileSystem

end ScopeAtlas.Files
