import Mathlib.Data.List.Nodup
import ScopeAtlas.Proofs.Files.Names

/-!
# Where a path leads

A path that leads somewhere leads to the same place when every `..` in it cancels the component
before it, since what is passed on the way is a directory of that name.  Hence the absolute form of
a path names what the path names.  Only the component `.` would have to be left out first, and no
path that is read has one.  A search among paths gives one of them that names a file, and the
listing of a directory has one path for each of its names.
-/

namespace ScopeAtlas.Files

open ScopeAtlas.Text

/-! ## Paths without the component that stays -/

namespace Path

/-- No component stays where it is. -/
def Dotless (path : Path) : Prop := "." ∉ path.parts

instance (path : Path) : Decidable path.Dotless := inferInstanceAs (Decidable (_ ∉ _))

theorem dotless_ofString (text : String) : (ofString text).Dotless := by
  simp [Dotless, ofString]

theorem mem_of_mem_collapse {absolute : Bool} {kept parts : List String} {part : String}
    (member : part ∈ collapse absolute kept parts) : part ∈ kept ∨ part ∈ parts ∨ part = ".." := by
  fun_induction collapse absolute kept parts with
  | case1 kept => exact Or.inl (List.mem_reverse.mp member)
  | case2 first rest _ ih =>
      rcases ih member with old | later | up
      · split at old <;> simp_all
      · exact Or.inr (Or.inl (List.mem_cons_of_mem _ later))
      · exact Or.inr (Or.inr up)
  | case3 first rest _ last earlier ih =>
      rcases ih member with old | later | up
      · split at old <;> simp_all
      · exact Or.inr (Or.inl (List.mem_cons_of_mem _ later))
      · exact Or.inr (Or.inr up)
  | case4 kept first rest _ ih =>
      rcases ih member with old | later | up
      · rcases List.mem_cons.mp old with rfl | old
        · exact Or.inr (Or.inl List.mem_cons_self)
        · exact Or.inl old
      · exact Or.inr (Or.inl (List.mem_cons_of_mem _ later))
      · exact Or.inr (Or.inr up)

namespace Dotless

variable {first second path : Path}

theorem join (firstDotless : first.Dotless) (secondDotless : second.Dotless) :
    (first.join second).Dotless := by
  rw [Path.join]
  split
  · exact secondDotless
  · simpa [Dotless] using ⟨firstDotless, secondDotless⟩

theorem child (dotless : path.Dotless) (text : String) : (path.child text).Dotless :=
  dotless.join (dotless_ofString text)

theorem descend (dotless : path.Dotless) (texts : List String) : (path.descend texts).Dotless :=
  List.foldlRecOn texts Path.child dotless fun _ held text _ => held.child text

theorem parent (dotless : path.Dotless) : path.parent.Dotless :=
  fun member => dotless ((List.dropLast_sublist path.parts).subset member)

theorem normal (dotless : path.Dotless) : path.normal.Dotless := by
  intro member
  rcases mem_of_mem_collapse member with nothing | member | up
  · contradiction
  · exact dotless member
  · contradiction

theorem renamed (dotless : path.Dotless) {name : String} (moves : name ≠ ".") {other : Path}
    (changed : path.renamed? name = some other) : other.Dotless := by
  rw [renamed?] at changed
  split at changed
  · contradiction
  · obtain rfl := Option.some.inj changed
    intro member
    rcases List.mem_append.mp member with old | new
    · exact dotless ((List.dropLast_sublist path.parts).subset old)
    · exact moves (List.mem_singleton.mp new).symm

end Dotless

/-- A component that does not lead up is kept at the end. -/
theorem collapse_concat {absolute : Bool} {kept parts : List String} {name : String}
    (down : name ≠ "..") :
    collapse absolute kept (parts ++ [name]) = collapse absolute kept parts ++ [name] := by
  fun_induction collapse absolute kept parts with
  | case1 kept => simp [collapse, down]
  | case2 part rest up ih => simpa [collapse, up] using ih
  | case3 part rest up last earlier ih => simpa [collapse, up] using ih
  | case4 kept part rest stays ih => simpa [collapse, stays] using ih

theorem join_along (first second : Path) (parts : List String) :
    first.join (second.along parts) = (first.join second).along parts := by
  by_cases absolute : second.isAbsolute = true
  · have same : (second.along parts).isAbsolute = true := absolute
    rw [join, join, if_pos absolute, if_pos same]
  · have same : ¬(second.along parts).isAbsolute = true := absolute
    rw [join, join, if_neg absolute, if_neg same]
    simp [along]

end Path

/-! ## Following a path whose turns are cancelled -/

namespace Entry

/-- The names of a list, latest first, lead from the top of a disk down to an entry, past the
directories of another list, nearest first. -/
inductive Leads (top : Entry) : List String → List Entry → Entry → Prop where
  | top : Leads top [] [] top
  | down {kept : List String} {passed : List Entry} {entries : List (String × Entry)} {name : String}
      {inner : Entry} (above : Leads top kept passed (.directory entries)) (moves : name ≠ ".")
      (turnless : name ≠ "..") (there : entries.lookup name = some inner) :
      Leads top (name :: kept) (.directory entries :: passed) inner

variable {top entry found : Entry} {kept parts : List String} {passed : List Entry}

/-- What lies beyond the names is followed from where they lead. -/
theorem Leads.trace_append (leads : Leads top kept passed entry) (rest : List String) :
    trace [] top (kept.reverse ++ rest) = trace passed entry rest := by
  induction leads generalizing rest with
  | top => rfl
  | @down kept passed entries name inner _ moves turnless there ih =>
      rw [List.reverse_cons, List.append_assoc, List.singleton_append, ih]
      simp [trace.eq_def _ _ (_ :: _), moves, turnless, there]

/-- Components that lead somewhere lead there also when every turn cancels the component before
it. -/
theorem Leads.collapse (leads : Leads top kept passed entry) (dotless : "." ∉ parts)
    (follows : trace passed entry parts = .found found) :
    ∃ above, Leads top (Path.collapse true kept parts).reverse above found := by
  fun_induction trace passed entry parts generalizing kept with
  | case1 passed entry =>
      obtain rfl := Trace.found.inj follows
      exact ⟨passed, by simpa [Path.collapse] using leads⟩
  | case2 => contradiction
  | case3 passed part rest entries stays ih =>
      exact absurd (eq_of_beq stays).symm fun same => dotless (by simp [same])
  | case4 part rest entries _ up ih =>
      -- At the top a turn stays where it is.
      cases leads with
      | top =>
          have later : "." ∉ rest := fun member => dotless (List.mem_cons_of_mem _ member)
          simpa [Path.collapse, up] using ih .top later follows
  | case5 part rest entries _ up outer further ih =>
      cases leads with
      | @down kept passed above name inner leads moves turnless there =>
          have later : "." ∉ rest := fun member => dotless (List.mem_cons_of_mem _ member)
          simpa [Path.collapse, up, turnless] using ih leads later follows
  | case6 => contradiction
  | case7 passed part rest entries moves turnless inner there ih =>
      have later : "." ∉ rest := fun member => dotless (List.mem_cons_of_mem _ member)
      rw [beq_iff_eq] at moves turnless
      simpa [Path.collapse, turnless] using ih (.down leads moves turnless there) later follows

end Entry

/-! ## Files on a disk -/

namespace FileTree

variable {tree : FileTree} {path file : Path}

/-- The absolute form of a path names what the path names. -/
theorem find?_absolute {entry : Entry} (here : tree.here.Dotless) (dotless : path.Dotless)
    (found : tree.find? path = some entry) : tree.find? (tree.absolute path) = some entry := by
  obtain ⟨_, leads⟩ := Entry.Leads.top.collapse (here.join dotless) (find?_eq_some_iff.mp found)
  rw [find?_eq_some_iff]
  have followed := leads.trace_append []
  rw [List.reverse_reverse, List.append_nil] at followed
  rw [trace, show (tree.here.join (tree.absolute path)).parts =
    Path.collapse true [] (tree.here.join path).parts from rfl, followed]
  cases entry <;> rfl

/-- The path names a file, and no component of it stays where it is. -/
structure HasFile (tree : FileTree) (path : Path) : Prop where
  dotless : path.Dotless
  file : ∃ content, tree.find? path = some (.file content)

/-- A path leads somewhere and can be asked for exactly if what it names is found. -/
theorem probe_eq_ok_some_iff {entry : Entry} : tree.probe path = .ok (some entry) ↔
    tree.find? path = some entry ∧ path.hasNull = false ∧ path.isTooLong = false := by
  rw [probe, find?_eq_some_iff]
  cases path.hasNull with
  | true => simp
  | false =>
      cases path.isTooLong with
      | true => simp
      | false =>
          cases tree.trace path with
          | found other => simp
          | missing name => cases long : isTooLongName name <;> simp [long]
          | belowFile => simp

theorem find?_of_probe {entry : Entry} (found : tree.probe path = .ok (some entry)) :
    tree.find? path = some entry :=
  (probe_eq_ok_some_iff.mp found).1

/-- A path that is known to name an entry of a kind names one. -/
theorem exists_probe_of_any {kind : Entry → Bool}
    (found : (tree.probe path).map (fun found => found.any kind) = .ok true) :
    ∃ entry, tree.probe path = .ok (some entry) ∧ kind entry = true := by
  cases probed : tree.probe path with
  | error fault =>
      rw [probed] at found
      contradiction
  | ok entry? =>
      rw [probed] at found
      obtain ⟨entry, rfl, isKind⟩ := (Option.any_eq_true _ _).mp (Except.ok.inj found)
      exact ⟨entry, rfl, isKind⟩

theorem isFile_eq_ok_true (found : tree.isFile path = .ok true) :
    ∃ content, tree.find? path = some (.file content) := by
  obtain ⟨entry, named, isFile⟩ := exists_probe_of_any found
  cases entry with
  | file content => exact ⟨content, find?_of_probe named⟩
  | directory entries => contradiction

theorem dotless_absolute (here : tree.here.Dotless) (dotless : path.Dotless) :
    (tree.absolute path).Dotless := by
  intro member
  rcases Path.mem_of_mem_collapse member with nothing | member | up
  · contradiction
  · exact here.join dotless member
  · contradiction

theorem HasFile.absolute (here : tree.here.Dotless) (held : tree.HasFile path) :
    tree.HasFile (tree.absolute path) where
  dotless := dotless_absolute here held.dotless
  file := held.file.imp fun _ found => find?_absolute here held.dotless found

/-- A search among paths gives one of them, which names a file. -/
theorem hasFile_of_firstFile? {candidates : List Path}
    (dotless : ∀ candidate ∈ candidates, candidate.Dotless)
    (found : tree.firstFile? candidates = .ok (some file)) : tree.HasFile file := by
  fun_induction firstFile? tree candidates with
  | case1 => cases found
  | case2 candidate rest isFile =>
      obtain rfl := Option.some.inj (Except.ok.inj found)
      exact ⟨dotless _ List.mem_cons_self, isFile_eq_ok_true isFile⟩
  | case3 candidate rest _ ih =>
      exact ih (fun other member => dotless other (List.mem_cons_of_mem _ member)) found
  | case4 => contradiction

theorem eq_of_firstFile?_singleton {candidate : Path}
    (found : tree.firstFile? [candidate] = .ok (some file)) : candidate = file := by
  rw [firstFile?] at found
  split at found
  · exact Option.some.inj (Except.ok.inj found)
  · cases found
  · cases found

/-- The path is absolute and names a file. -/
structure IsFilePath (tree : FileTree) (path : Path) : Prop where
  absolute : path.isAbsolute = true
  held : tree.HasFile path

theorem HasFile.isFilePath_absolute (here : tree.here.Dotless) (held : tree.HasFile path) :
    tree.IsFilePath (tree.absolute path) :=
  ⟨rfl, held.absolute here⟩

theorem isFilePath_of_firstResolved? {candidates : List Path} (here : tree.here.Dotless)
    (dotless : ∀ candidate ∈ candidates, candidate.Dotless)
    (found : tree.firstResolved? candidates = .ok (some file)) : tree.IsFilePath file := by
  rw [firstResolved?] at found
  cases first : tree.firstFile? candidates with
  | error fault =>
      rw [first] at found
      contradiction
  | ok first? =>
      rw [first] at found
      obtain ⟨path, rfl, rfl⟩ := Option.map_eq_some_iff.mp (Except.ok.inj found)
      exact (hasFile_of_firstFile? dotless first).isFilePath_absolute here

theorem subset_of_filterAuxM {keep : Path → Except PathFault Bool} {paths kept result : List Path}
    (run : List.filterAuxM keep paths kept = .ok result) : result ⊆ paths ++ kept := by
  induction paths generalizing kept with
  | nil =>
      obtain rfl := Except.ok.inj run
      exact List.Subset.refl _
  | cons path rest ih =>
      rw [List.filterAuxM] at run
      cases kind : keep path with
      | error fault =>
          rw [kind] at run
          cases run
      | ok isKept =>
          rw [kind] at run
          have later : result ⊆ rest ++ cond isKept (path :: kept) kept := ih run
          cases isKept <;> grind

/-- The directories among paths are some of them. -/
theorem subset_of_directoriesAmong {paths directories : List Path}
    (run : tree.directoriesAmong paths = .ok directories) : directories ⊆ paths := by
  rw [directoriesAmong, List.filterM] at run
  cases kept : List.filterAuxM tree.isDirectory paths [] with
  | error fault =>
      rw [kept] at run
      cases run
  | ok reversed =>
      rw [kept] at run
      obtain rfl := Except.ok.inj run
      simpa using subset_of_filterAuxM kept

/-! ## Listings -/

/-- A listed path is that of a directory with the name of an entry added. -/
theorem mem_list_iff {item : Path × Entry} :
    item ∈ tree.list path ↔ ∃ entries name, tree.find? path = some (.directory entries) ∧
      (name, item.2) ∈ entries ∧ item.1 = path.along [name] := by
  rw [list]
  cases found : tree.find? path with
  | none => simp
  | some entry =>
      cases entry with
      | file content => simp [Entry.entries]
      | directory entries =>
          rw [Option.map_some, Option.getD_some, List.mem_map]
          constructor
          · rintro ⟨⟨name, inner⟩, member, rfl⟩
            exact ⟨entries, name, rfl, member, rfl⟩
          · rintro ⟨_, name, same, member, path_eq⟩
            obtain rfl := Entry.directory.inj (Option.some.inj same)
            exact ⟨_, member, Prod.ext path_eq.symm rfl⟩

/-- What is found on a disk has names. -/
theorem wellNamed_of_find? {entry : Entry} (disk : (Entry.directory tree.top).WellNamed)
    (found : tree.find? path = some entry) : entry.WellNamed :=
  (Entry.WellNamed.of_trace (by simp) disk (find?_eq_some_iff.mp found)).1

/-- The path of a listed file names it. -/
theorem hasFile_of_mem_list {item : Path × Entry} (disk : (Entry.directory tree.top).WellNamed)
    (dotless : path.Dotless) (member : item ∈ tree.list path) (isFile : item.2.isFile = true) :
    tree.HasFile item.1 := by
  obtain ⟨path', entry⟩ := item
  obtain ⟨entries, name, found, listed, rfl⟩ := mem_list_iff.mp member
  have named := wellNamed_of_find? disk found
  have there := named.lookup_eq listed
  have isName := (named.of_lookup there).1
  refine ⟨?_, ?_⟩
  · simpa [Path.Dotless, Path.along] using ⟨dotless, isName.ne_dot.symm⟩
  · cases entry with
    | directory entries => contradiction
    | file content =>
        obtain ⟨above, beyond⟩ := Entry.trace_append (find?_eq_some_iff.mp found)
        refine ⟨content, find?_eq_some_iff.mpr ?_⟩
        rw [trace, Path.join_along, Path.along, beyond]
        simp [Entry.trace, isName.ne_dot, isName.ne_dots, there]

/-- With the name of an entry added, a path has the absolute form with the name added. -/
theorem absolute_along_name {name : String} (down : name ≠ "..") :
    tree.absolute (path.along [name]) = (tree.absolute path).along [name] := by
  rw [absolute, Path.resolved, Path.join_along, Path.along, Path.collapse_concat down]
  rfl

/-- The absolute forms of the paths that a directory lists are all different. -/
theorem nodup_absolute_list (disk : (Entry.directory tree.top).WellNamed) (path : Path) :
    ((tree.list path).map fun item => tree.absolute item.1).Nodup := by
  cases found : tree.find? path with
  | none => simp [list, found]
  | some entry =>
      cases entry with
      | file content => simp [list, found, Entry.entries]
      | directory entries =>
          cases wellNamed_of_find? disk found with
          | directory distinct named inner =>
              rw [list, found, Option.map_some, Option.getD_some, List.map_map]
              have forms : entries.map ((fun item => tree.absolute item.1) ∘ fun item =>
                    ((path.along [item.1], item.2) : Path × Entry)) =
                  (entries.map (·.1)).map fun name => (tree.absolute path).along [name] := by
                rw [List.map_map]
                refine List.map_congr_left fun item member => ?_
                exact absolute_along_name (named item member).ne_dots
              have injective : Function.Injective fun name => (tree.absolute path).along [name] :=
                fun name other same => List.singleton_inj.mp (Path.along_injective _ same)
              exact forms ▸ List.Nodup.map injective distinct

/-- The files are different, and each path of them is absolute and names one. -/
structure AreFiles (tree : FileTree) (files : List Path) : Prop where
  isFilePath : ∀ file ∈ files, tree.IsFilePath file
  distinct : files.Nodup

namespace AreFiles

theorem nil (tree : FileTree) : tree.AreFiles [] := ⟨by simp, List.nodup_nil⟩

theorem toList {file? : Option Path} (held : ∀ file, file? = some file → tree.IsFilePath file) :
    tree.AreFiles file?.toList := by
  cases file? with
  | none => exact nil tree
  | some file => exact ⟨by simpa using held file rfl, List.nodup_singleton file⟩

theorem perm {files others : List Path} (held : tree.AreFiles files) (perm : files.Perm others) :
    tree.AreFiles others :=
  ⟨fun file member => held.isFilePath file (perm.mem_iff.mpr member), perm.nodup held.distinct⟩

end AreFiles

/-- The files that are kept of a listing, in any order. -/
theorem areFiles_of_list (disk : (Entry.directory tree.top).WellNamed) (here : tree.here.Dotless)
    (dotless : path.Dotless) (keep : Path × Entry → Bool)
    (filesOnly : ∀ item, keep item = true → item.2.isFile = true) {items : List (Path × Entry)}
    (kept : ((tree.list path).filter keep).Perm items) :
    tree.AreFiles (items.map fun item => tree.absolute item.1) := by
  refine AreFiles.perm ⟨?_, ?_⟩ (kept.map _)
  · intro file member
    obtain ⟨item, itemKept, rfl⟩ := List.mem_map.mp member
    obtain ⟨listed, isKept⟩ := List.mem_filter.mp itemKept
    have held := hasFile_of_mem_list disk dotless listed (filesOnly item isKept)
    exact held.isFilePath_absolute here
  · exact (nodup_absolute_list disk path).sublist (List.filter_sublist.map _)

end FileTree

end ScopeAtlas.Files
