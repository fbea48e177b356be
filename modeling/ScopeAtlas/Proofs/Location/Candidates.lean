import ScopeAtlas.Proofs.Files.Lookup
import ScopeAtlas.Proofs.Location.Locality

/-!
# What an import leads to

Every ecosystem has its own way of turning a specifier into paths, and all of them close with a test
whether a path names a file.  So whatever an import is followed to is the absolute path of a file of
the disk.  Where all files of a directory count, each is listed once.  A specifier of the standard
library is followed nowhere.
-/

namespace ScopeAtlas.Location

open ScopeAtlas.Data ScopeAtlas.Files ScopeAtlas.Language ScopeAtlas.Text

/-- The project lies on a disk, and none of its paths has a component that stays where it is. -/
structure Project.OnDisk (project : Project) : Prop where
  disk : (Entry.directory project.files.top).WellNamed
  here : project.files.here.Dotless
  root : project.root.Dotless
  dirs : ∀ directory ∈ project.manifest.sourceDirs, directory.Dotless

/-! ## Runs that end well -/

section Runs

variable {α β : Type}

/-- A run of two parts that ends well is made of two runs that do. -/
theorem exists_of_bind_eq_ok {ε : Type} {first : Except ε α} {next : α → Except ε β} {result : β}
    (run : first >>= next = .ok result) :
    ∃ value, first = .ok value ∧ next value = .ok result := by
  cases first with
  | error fault => cases run
  | ok value => exact ⟨value, rfl, run⟩

theorem exists_of_map_eq_ok {ε : Type} {first : Except ε α} {change : α → β} {result : β}
    (run : first.map change = .ok result) : ∃ value, first = .ok value ∧ change value = result := by
  cases first with
  | error fault => cases run
  | ok value => exact ⟨value, rfl, Except.ok.inj run⟩

/-- A fault of a path stays a fault when the run is part of a larger one. -/
theorem eq_ok_of_liftM {run : Except PathFault α} {result : α}
    (lifted : (liftM run : Except Fault α) = .ok result) : run = .ok result := by
  cases run with
  | error fault => cases lifted
  | ok value => exact congrArg Except.ok (Except.ok.inj lifted)

end Runs

/-! ## Paths of several segments -/

namespace Layout

variable {layout : Layout} {files : FileTree} {directory file : Path}

theorem dotless_of_mem_moduleFiles (dotless : directory.Dotless) (name : String) :
    ∀ candidate ∈ layout.moduleFiles directory name, candidate.Dotless := by
  intro candidate member
  obtain ⟨ending, _, rfl⟩ := List.mem_map.mp member
  exact dotless.child _

theorem dotless_of_mem_indexPaths (dotless : directory.Dotless) :
    ∀ candidate ∈ layout.indexPaths directory, candidate.Dotless := by
  intro candidate member
  obtain ⟨name, _, rfl⟩ := List.mem_map.mp member
  exact dotless.child _

theorem hasFile_of_packageFile? (dotless : directory.Dotless)
    (found : layout.packageFile? files directory = .ok (some file)) : files.HasFile file := by
  obtain ⟨index?, index, found⟩ := exists_of_bind_eq_ok found
  cases index? with
  | some path =>
      obtain rfl := Option.some.inj (Except.ok.inj found)
      exact FileTree.hasFile_of_firstFile? (dotless_of_mem_indexPaths dotless) index
  | none => exact FileTree.hasFile_of_firstFile? (dotless_of_mem_moduleFiles dotless.parent _) found

theorem hasFile_of_lastFile? {first : Bool} {segment : String} (dotless : directory.Dotless)
    (found : layout.lastFile? files first directory segment = .ok (some file)) :
    files.HasFile file := by
  obtain ⟨module?, module, found⟩ := exists_of_bind_eq_ok found
  cases module? with
  | some path =>
      obtain rfl := Option.some.inj (Except.ok.inj found)
      exact FileTree.hasFile_of_firstFile? (dotless_of_mem_moduleFiles dotless segment) module
  | none =>
      obtain ⟨inner, _, found⟩ := exists_of_bind_eq_ok found
      split at found
      · exact FileTree.hasFile_of_firstFile? (dotless_of_mem_indexPaths (dotless.child segment)) found
      · split at found
        · cases found
        · exact hasFile_of_packageFile? dotless found

/-- The segments of a module path lead to a file or nowhere. -/
theorem hasFile_of_follow? {first : Bool} {segments : List String} (dotless : directory.Dotless)
    (found : layout.follow? files first directory segments = .ok (some file)) :
    files.HasFile file := by
  induction segments generalizing first directory with
  | nil => cases found
  | cons segment rest ih =>
      cases rest with
      | nil => exact hasFile_of_lastFile? dotless found
      | cons next rest =>
          obtain ⟨inner, _, found⟩ := exists_of_bind_eq_ok found
          split at found
          · exact ih (dotless.child segment) found
          · exact FileTree.hasFile_of_firstFile? (dotless_of_mem_moduleFiles dotless segment) found

end Layout

/-! ## Ecosystem by ecosystem -/

section Ecosystems

variable {project : Project} {specifier : String} {current file : Path} {files : List Path}

theorem Project.OnDisk.dotless_absolute (onDisk : project.OnDisk) (dotless : current.Dotless) :
    (project.absolute current).Dotless := by
  rw [Project.absolute]
  split
  · exact dotless
  · exact onDisk.root.join dotless

theorem Project.OnDisk.isFilePath_absolute (onDisk : project.OnDisk)
    (held : project.files.HasFile file) :
    project.files.IsFilePath (project.files.absolute file) :=
  held.isFilePath_absolute onDisk.here

theorem Project.OnDisk.isFilePath_of_firstResolved? {candidates : List Path}
    (onDisk : project.OnDisk) (dotless : ∀ candidate ∈ candidates, candidate.Dotless)
    (found : project.files.firstResolved? candidates = .ok (some file)) :
    project.files.IsFilePath file :=
  FileTree.isFilePath_of_firstResolved? onDisk.here dotless found

namespace EcmaScript

theorem isFilePath_of_probe? {path : Path} (onDisk : project.OnDisk) (dotless : path.Dotless)
    (found : probe? project.files path = .ok (some file)) : project.files.IsFilePath file := by
  obtain ⟨isFile, tested, found⟩ := exists_of_bind_eq_ok found
  cases isFile with
  | true =>
      obtain rfl := Option.some.inj (Except.ok.inj found)
      exact onDisk.isFilePath_absolute ⟨dotless.normal, FileTree.isFile_eq_ok_true tested⟩
  | false =>
      obtain ⟨source?, source, found⟩ := exists_of_bind_eq_ok found
      cases source? with
      | some other =>
          obtain rfl := Option.some.inj (Except.ok.inj found)
          refine onDisk.isFilePath_of_firstResolved? (fun candidate member => ?_) source
          obtain ⟨ending, _, rfl⟩ := List.mem_map.mp member
          exact Path.dotless_ofString _
      | none =>
          obtain ⟨isDirectory, _, found⟩ := exists_of_bind_eq_ok found
          cases isDirectory with
          | false => cases found
          | true =>
              refine onDisk.isFilePath_of_firstResolved? (fun candidate member => ?_) found
              obtain ⟨ending, _, rfl⟩ := List.mem_map.mp member
              exact dotless.normal.child _

theorem isFilePath_of_probeFirst? {paths : List Path} (onDisk : project.OnDisk)
    (dotless : ∀ path ∈ paths, path.Dotless)
    (found : probeFirst? project.files paths = .ok (some file)) :
    project.files.IsFilePath file := by
  induction paths with
  | nil => cases found
  | cons path rest ih =>
      obtain ⟨source?, source, found⟩ := exists_of_bind_eq_ok found
      cases source? with
      | some other =>
          obtain rfl := Option.some.inj (Except.ok.inj found)
          exact isFilePath_of_probe? onDisk (dotless path List.mem_cons_self) source
      | none => exact ih (fun other member => dotless other (List.mem_cons_of_mem _ member)) found

theorem isFilePath_of_locate? (onDisk : project.OnDisk) (dotless : current.Dotless)
    (found : locate? project specifier current = .ok (some file)) :
    project.files.IsFilePath file := by
  have base : (baseDirectory project).Dotless := by
    rw [baseDirectory]
    cases dirs : project.manifest.sourceDirs with
    | nil => exact onDisk.root
    | cons directory rest => exact onDisk.dirs directory (by simp [dirs])
  rw [locate?] at found
  split at found
  · exact isFilePath_of_probe? onDisk ((onDisk.dotless_absolute dotless).parent.child _) found
  · exact isFilePath_of_probe? onDisk (onDisk.root.child _) found
  · refine isFilePath_of_probeFirst? onDisk (fun path member => ?_) found
    obtain ⟨target, _, rfl⟩ := List.mem_map.mp member
    exact base.child target
  · split at found
    · rename_i directory rest dirs
      exact isFilePath_of_probe? onDisk ((onDisk.dirs directory (by simp [dirs])).child _) found
    · cases found
  · cases found

end EcmaScript

namespace Python

theorem isFilePath_of_moduleFile? {base : Path} {segments : List String} (onDisk : project.OnDisk)
    (dotless : base.Dotless)
    (found : moduleFile? project.files base segments = .ok (some file)) :
    project.files.IsFilePath file := by
  have target : (base.descend segments).Dotless := dotless.descend segments
  rw [moduleFile?] at found
  split at found
  · refine onDisk.isFilePath_of_firstResolved? (fun candidate member => ?_) (eq_ok_of_liftM found)
    simp only [List.mem_cons, List.not_mem_nil, or_false] at member
    rcases member with rfl | rfl <;> exact target.child _
  · split at found
    · rename_i plain stub plainNamed stubNamed
      refine onDisk.isFilePath_of_firstResolved? (fun candidate member => ?_) (eq_ok_of_liftM found)
      have moves : ∀ ending : String, 1 < ending.length →
          (base.descend segments).name ++ ending ≠ "." := by
        intro ending long same
        have lengths := congrArg String.length same
        rw [String.length_append] at lengths
        have : ".".length = 1 := rfl
        omega
      simp only [List.mem_cons, List.not_mem_nil, or_false] at member
      rcases member with rfl | rfl | rfl | rfl
      · exact target.renamed (moves ".py" (by decide)) plainNamed
      · exact target.renamed (moves ".pyi" (by decide)) stubNamed
      · exact target.child _
      · exact target.child _
    · cases found

theorem isFilePath_of_searchDirs {segments : List String} {dirs : List Path}
    (onDisk : project.OnDisk) (dotless : ∀ directory ∈ dirs, directory.Dotless)
    (found : searchDirs project.files segments dirs = .ok (some file)) :
    project.files.IsFilePath file := by
  induction dirs with
  | nil => cases found
  | cons directory rest ih =>
      rw [searchDirs] at found
      split at found
      · exact ih (fun other member => dotless other (List.mem_cons_of_mem _ member)) found
      · exact isFilePath_of_moduleFile? onDisk (dotless directory List.mem_cons_self) found

theorem dotless_of_sourceDirs {dirs : List Path} (onDisk : project.OnDisk)
    (run : sourceDirs project = .ok dirs) : ∀ directory ∈ dirs, directory.Dotless := by
  rw [sourceDirs] at run
  split at run
  · obtain ⟨usual, among, run⟩ := exists_of_bind_eq_ok run
    obtain rfl := Except.ok.inj run
    intro directory member
    rcases List.mem_append.mp member with usualDir | root
    · obtain ⟨name, _, rfl⟩ := List.mem_map.mp (FileTree.subset_of_directoriesAmong among usualDir)
      exact onDisk.root.child name
    · exact List.mem_singleton.mp root ▸ onDisk.root
  · exact Except.ok.inj run ▸ onDisk.dirs

theorem dotless_climb {directory : Path} (count : Nat) (dotless : directory.Dotless) :
    (climb count directory).Dotless := by
  induction count generalizing directory with
  | zero => exact dotless
  | succ count ih => exact ih dotless.parent

theorem isFilePath_of_locate? (onDisk : project.OnDisk) (dotless : current.Dotless)
    (found : locate? project specifier current = .ok (some file)) :
    project.files.IsFilePath file := by
  simp only [locate?] at found
  split at found
  · exact isFilePath_of_moduleFile? onDisk
      (dotless_climb _ (onDisk.dotless_absolute dotless).parent) found
  · split at found
    · cases found
    · obtain ⟨dirs, run, found⟩ := exists_of_bind_eq_ok found
      exact isFilePath_of_searchDirs onDisk (dotless_of_sourceDirs onDisk (eq_ok_of_liftM run)) found

theorem locate?_of_builtin (builtin : classify project specifier = .ok .builtin) (current : Path) :
    locate? project specifier current = .ok none := by
  rw [classify] at builtin
  split at builtin
  · cases builtin
  · rename_i notRelative
    rw [Bool.not_eq_true] at notRelative
    split at builtin
    · rename_i standard
      simp [locate?, takeWhile_dot_isEmpty, notRelative, standard]
    · -- Neither a dependency nor what a search finds is of this class.
      split at builtin
      · cases builtin
      · split at builtin <;> cases builtin

end Python

namespace Rust

theorem dotless_crateRoot {root : Path} (onDisk : project.OnDisk)
    (run : crateRoot project = .ok root) : root.Dotless := by
  obtain ⟨isDirectory, _, run⟩ := exists_of_bind_eq_ok run
  obtain rfl := Except.ok.inj run
  split
  · exact onDisk.root.child _
  · exact onDisk.root

theorem dotless_moduleDirectory {path : Path} (dotless : path.Dotless) :
    (moduleDirectory path).Dotless := by
  rw [moduleDirectory]
  split
  · exact dotless.parent
  · exact dotless.parent.child _

theorem dotless_climb {base : Path} (segments : List String) (dotless : base.Dotless) :
    (climb base segments).1.Dotless := by
  fun_induction climb base segments with
  | case1 base segment rest _ ih => exact ih dotless.parent
  | case2 => exact dotless
  | case3 => exact dotless

theorem hasFile_of_moduleFile? {directory : Path} (dotless : directory.Dotless)
    (found : moduleFile? project directory = .ok (some file)) : project.files.HasFile file := by
  obtain ⟨here, _, found⟩ := exists_of_bind_eq_ok found
  obtain ⟨root, _, found⟩ := exists_of_bind_eq_ok found
  obtain ⟨rootHere, _, found⟩ := exists_of_bind_eq_ok found
  split at found
  · refine FileTree.hasFile_of_firstFile? (fun candidate member => ?_) found
    obtain ⟨name, _, rfl⟩ := List.mem_map.mp member
    exact dotless.child name
  · exact Layout.hasFile_of_packageFile? dotless found

theorem isFilePath_of_locateBelow? {base : Path} {segments : List String} (onDisk : project.OnDisk)
    (dotless : base.Dotless) (found : locateBelow? project base segments = .ok (some file)) :
    project.files.IsFilePath file := by
  have ends : ∀ {run : Except PathFault (Option Path)},
      (∀ {path}, run = .ok (some path) → project.files.HasFile path) →
      (do return (← run).map project.files.absolute) = .ok (some file) →
        project.files.IsFilePath file := by
    intro run held found
    obtain ⟨path?, ran, found⟩ := exists_of_bind_eq_ok found
    obtain ⟨path, rfl, rfl⟩ := Option.map_eq_some_iff.mp (Except.ok.inj found)
    exact onDisk.isFilePath_absolute (held ran)
  unfold locateBelow? at found
  split at found
  · exact ends (hasFile_of_moduleFile? dotless) found
  · obtain ⟨followed?, followed, found⟩ := exists_of_bind_eq_ok found
    cases followed? with
    | some path =>
        obtain rfl := Option.some.inj (Except.ok.inj found)
        exact onDisk.isFilePath_absolute (Layout.hasFile_of_follow? dotless followed)
    | none => exact ends (hasFile_of_moduleFile? dotless) found
  · exact ends (Layout.hasFile_of_follow? dotless) found

theorem isFilePath_of_locate? (onDisk : project.OnDisk) (dotless : current.Dotless)
    (found : locate? project specifier current = .ok (some file)) :
    project.files.IsFilePath file := by
  have here := onDisk.dotless_absolute dotless
  simp only [locate?] at found
  split at found
  · cases found
  · split at found
    · obtain ⟨root, run, found⟩ := exists_of_bind_eq_ok found
      exact isFilePath_of_locateBelow? onDisk (dotless_crateRoot onDisk run) found
    · split at found
      · split at found
        · obtain ⟨isFile, tested, found⟩ := exists_of_bind_eq_ok found
          cases isFile with
          | false => cases found
          | true =>
              obtain rfl := Option.some.inj (Except.ok.inj found)
              exact onDisk.isFilePath_absolute ⟨here, FileTree.isFile_eq_ok_true tested⟩
        · exact isFilePath_of_locateBelow? onDisk (dotless_moduleDirectory here) found
      · split at found
        · exact isFilePath_of_locateBelow? onDisk
            (dotless_climb _ (dotless_moduleDirectory here).parent) found
        · cases found

theorem locate?_of_builtin (builtin : classify project specifier = .builtin) (current : Path) :
    locate? project specifier current = .ok none := by
  rw [classify] at builtin
  split at builtin
  · cases builtin
  · rename_i foreign
    split at builtin
    · rename_i standard
      have opens : head specifier ≠ "" := by
        intro empty
        rw [empty] at standard
        exact absurd standard (by decide)
      obtain ⟨later, pieces⟩ := exists_filter_split_eq_cons opens
      have others : head specifier ≠ "crate" ∧ head specifier ≠ "self" ∧
          head specifier ≠ "super" ∧ isOwnName project (head specifier) = false := by
        simpa [and_assoc] using foreign
      simp only [locate?, pieces, beq_iff_eq, others, Bool.or_false, if_false]
      rfl
    · split at builtin <;> cases builtin

end Rust

namespace Go

theorem areFiles_packageFiles {directory : Path} (onDisk : project.OnDisk)
    (dotless : directory.Dotless) : project.files.AreFiles (packageFiles project.files directory) := by
  have listed := FileTree.areFiles_of_list onDisk.disk onDisk.here dotless
    (fun item => isSourceFile item.1 && item.2.isFile)
    (fun _ kept => (Bool.and_eq_true_iff.mp kept).2)
    (List.mergeSort_perm _ fun a b => decide (a.1.name ≤ b.1.name)).symm
  exact listed.perm (List.filter_append_perm _ _).symm

theorem dotless_packageDirectory? {directory : Path} (onDisk : project.OnDisk)
    (dotless : current.Dotless)
    (found : packageDirectory? project specifier current = .ok (some directory)) :
    directory.Dotless := by
  have ends : ∀ {path : Path}, path.Dotless →
      (do return if ← project.files.isDirectory path then some path else none) =
        Except.ok (some directory) → directory.Dotless := by
    intro path pathDotless found
    obtain ⟨isDirectory, _, found⟩ := exists_of_bind_eq_ok found
    cases isDirectory with
    | false => cases found
    | true => exact Option.some.inj (Except.ok.inj found) ▸ pathDotless
  rw [packageDirectory?] at found
  split at found
  · cases found
  · simp only at found
    split at found
    · exact ends (onDisk.root.child _) found
    · split at found
      · obtain ⟨resolved, run, found⟩ := exists_of_bind_eq_ok found
        refine ends ?_ found
        have near := (onDisk.dotless_absolute dotless).parent.child specifier
        rw [FileTree.resolve] at run
        split at run
        · cases run
        · exact Except.ok.inj run ▸ FileTree.dotless_absolute onDisk.here near
      · exact ends ((onDisk.root.child _).child _) found

theorem areFiles_of_locate (onDisk : project.OnDisk) (dotless : current.Dotless)
    (found : locate project specifier current = .ok files) : project.files.AreFiles files := by
  obtain ⟨directory?, directory, found⟩ := exists_of_bind_eq_ok found
  cases directory? with
  | none =>
      obtain rfl := Except.ok.inj found
      exact .nil _
  | some directory =>
      obtain rfl := Except.ok.inj found
      exact areFiles_packageFiles onDisk (dotless_packageDirectory? onDisk dotless ‹_›)

theorem locate_of_builtin (builtin : classify project specifier = .builtin) (current : Path) :
    locate project specifier current = .ok [] := by
  rw [classify] at builtin
  split at builtin
  · rename_i standard
    simp only [locate, packageDirectory?, standard, if_true]
    rfl
  · split at builtin
    · cases builtin
    · split at builtin
      · cases builtin
      · split at builtin <;> cases builtin

end Go

namespace CFamily

theorem isAbsolute_ofString {text : String} (rooted : startsWith "/" text = true) :
    (Path.ofString text).isAbsolute = true := by
  have anchored : Path.anchorOf text ≠ .relative := by
    rw [Path.anchorOf, if_pos rooted]
    split
    · simp
    · split <;> simp
  simpa [Path.isAbsolute, Path.ofString] using anchored

theorem dotless_usualIncludeDirs {dirs : List Path} (onDisk : project.OnDisk)
    (run : usualIncludeDirs project.files project.root = .ok dirs) :
    ∀ directory ∈ dirs, directory.Dotless := by
  obtain ⟨usual, among, run⟩ := exists_of_bind_eq_ok run
  obtain rfl := Except.ok.inj run
  intro directory member
  rcases List.mem_cons.mp member with rfl | usualDir
  · exact onDisk.root
  · obtain ⟨name, _, rfl⟩ := List.mem_map.mp (FileTree.subset_of_directoriesAmong among usualDir)
    exact onDisk.root.child name

theorem isFilePath_of_locate? (onDisk : project.OnDisk) (dotless : current.Dotless)
    (found : locate? project specifier current = .ok (some file)) :
    project.files.IsFilePath file := by
  rw [locate?] at found
  split at found
  · rename_i absolute
    have rooted : startsWith "/" specifier = true := by
      rw [classify] at absolute
      grind
    have held := FileTree.hasFile_of_firstFile?
      (by simpa using Path.dotless_ofString specifier) found
    obtain rfl := FileTree.eq_of_firstFile?_singleton found
    exact ⟨isAbsolute_ofString rooted, held⟩
  · have among : ∀ {dirs : List Path}, (∀ directory ∈ dirs, directory.Dotless) →
        project.files.firstResolved? (((project.absolute current).parent :: dirs).map
          fun directory => (directory.child specifier).normal) = .ok (some file) →
        project.files.IsFilePath file := by
      intro dirs dirsDotless found
      refine onDisk.isFilePath_of_firstResolved? (fun candidate member => ?_) found
      obtain ⟨directory, listed, rfl⟩ := List.mem_map.mp member
      refine Path.Dotless.normal (Path.Dotless.child ?_ _)
      rcases List.mem_cons.mp listed with rfl | listed
      · exact (onDisk.dotless_absolute dotless).parent
      · exact dirsDotless directory listed
    simp only at found
    split at found
    · obtain ⟨usual, run, found⟩ := exists_of_bind_eq_ok found
      exact among (dotless_usualIncludeDirs onDisk run) found
    · exact among onDisk.dirs found
  · cases found

end CFamily

namespace CSharp

theorem areFiles_directoryFiles {directory : Path} (onDisk : project.OnDisk)
    (dotless : directory.Dotless) :
    project.files.AreFiles (directoryFiles project.files directory) :=
  FileTree.areFiles_of_list onDisk.disk onDisk.here dotless
    (fun item => endsWith ".cs" item.1.name && item.2.isFile)
    (fun _ kept => (Bool.and_eq_true_iff.mp kept).2)
    (List.mergeSort_perm _ _).symm

theorem areFiles_of_firstDirectoryFiles {dirs : List Path} (onDisk : project.OnDisk)
    (dotless : ∀ directory ∈ dirs, directory.Dotless)
    (found : firstDirectoryFiles project.files dirs = .ok files) :
    project.files.AreFiles files := by
  induction dirs with
  | nil =>
      obtain rfl := Except.ok.inj found
      exact .nil _
  | cons directory rest ih =>
      obtain ⟨isDirectory, _, found⟩ := exists_of_bind_eq_ok found
      have later := ih fun other member => dotless other (List.mem_cons_of_mem _ member)
      cases isDirectory with
      | false => exact later found
      | true =>
          simp only [if_true] at found
          split at found
          · exact later found
          · obtain rfl := Except.ok.inj found
            exact areFiles_directoryFiles onDisk (dotless directory List.mem_cons_self)

theorem isFilePath_of_namedFile? {segments : List String} {dirs : List Path}
    (onDisk : project.OnDisk) (dotless : ∀ directory ∈ dirs, directory.Dotless)
    (found : namedFile? project.files segments dirs = .ok (some file)) :
    project.files.IsFilePath file := by
  induction dirs with
  | nil => cases found
  | cons base rest ih =>
      rw [namedFile?] at found
      split at found
      · cases found
      · rename_i named withEnding
        obtain ⟨first?, first, found⟩ := exists_of_bind_eq_ok found
        cases first? with
        | none => exact ih (fun other member => dotless other (List.mem_cons_of_mem _ member)) found
        | some other =>
            obtain rfl := Option.some.inj (Except.ok.inj found)
            refine onDisk.isFilePath_of_firstResolved? (fun candidate member => ?_)
              (eq_ok_of_liftM first)
            obtain rfl := List.mem_singleton.mp member
            have target := (dotless base List.mem_cons_self).descend segments
            refine target.renamed (fun same => ?_) withEnding
            have lengths := congrArg String.length same
            rw [String.length_append] at lengths
            have : ".cs".length = 3 := rfl
            have : ".".length = 1 := rfl
            omega

theorem isFilePath_of_longestFile? {segments : List String} {dirs : List Path} {count : Nat}
    (onDisk : project.OnDisk) (dotless : ∀ directory ∈ dirs, directory.Dotless)
    (found : longestFile? project.files dirs segments count = .ok (some file)) :
    project.files.IsFilePath file := by
  induction count with
  | zero => cases found
  | succ count ih =>
      rw [longestFile?] at found
      split at found
      · exact ih found
      · exact isFilePath_of_namedFile? onDisk dotless found

theorem areFiles_of_segmentFiles {segments : List String} {dirs : List Path}
    (onDisk : project.OnDisk) (dotless : ∀ directory ∈ dirs, directory.Dotless)
    (found : segmentFiles project.files dirs segments = .ok files) :
    project.files.AreFiles files := by
  obtain ⟨listed, run, found⟩ := exists_of_bind_eq_ok found
  split at found
  · obtain ⟨file?, longest, found⟩ := exists_of_bind_eq_ok found
    obtain rfl := Except.ok.inj found
    refine .toList fun file isFile => ?_
    subst isFile
    exact isFilePath_of_longestFile? onDisk dotless longest
  · obtain rfl := Except.ok.inj found
    refine areFiles_of_firstDirectoryFiles onDisk (fun directory member => ?_) (eq_ok_of_liftM run)
    obtain ⟨base, isBase, rfl⟩ := List.mem_map.mp member
    exact (dotless base isBase).descend segments

theorem areFiles_of_firstVariant {variants : List (List String)} {dirs : List Path}
    (onDisk : project.OnDisk) (dotless : ∀ directory ∈ dirs, directory.Dotless)
    (found : firstVariant project.files dirs variants = .ok files) :
    project.files.AreFiles files := by
  induction variants with
  | nil =>
      obtain rfl := Except.ok.inj found
      exact .nil _
  | cons segments rest ih =>
      rw [firstVariant] at found
      split at found
      · exact ih found
      · exact areFiles_of_segmentFiles onDisk dotless found

theorem areFiles_of_locate (onDisk : project.OnDisk)
    (found : locate project specifier = .ok files) : project.files.AreFiles files := by
  obtain ⟨importClass, _, found⟩ := exists_of_bind_eq_ok found
  split at found
  · obtain rfl := Except.ok.inj found
    exact .nil _
  · obtain rfl := Except.ok.inj found
    exact .nil _
  · refine areFiles_of_firstVariant onDisk (fun directory member => ?_) found
    obtain ⟨name, _, rfl⟩ := List.mem_map.mp member
    exact onDisk.root.child name

end CSharp

/-! ## All ecosystems -/

theorem areFiles_of_atMostOne {found : Except PathFault (Option Path)}
    (held : ∀ {file}, found = .ok (some file) → project.files.IsFilePath file)
    (located : atMostOne found = .ok files) : project.files.AreFiles files := by
  obtain ⟨file?, run, located⟩ := exists_of_bind_eq_ok located
  obtain rfl := Except.ok.inj located
  refine .toList fun file isFile => held ?_
  rw [eq_ok_of_liftM run, isFile]

/-- Whatever an import is followed to is a file, and is listed once. -/
theorem areFiles_of_locate {family : Family} (onDisk : project.OnDisk) (dotless : current.Dotless)
    (located : (Ecosystem.ofFamily family).locate project specifier current = .ok files) :
    project.files.AreFiles files := by
  cases family with
  | typescript => exact areFiles_of_atMostOne (EcmaScript.isFilePath_of_locate? onDisk dotless) located
  | python =>
      obtain ⟨file?, run, rfl⟩ := exists_of_map_eq_ok located
      refine .toList fun file isFile => ?_
      subst isFile
      exact Python.isFilePath_of_locate? onDisk dotless run
  | rust => exact areFiles_of_atMostOne (Rust.isFilePath_of_locate? onDisk dotless) located
  | go =>
      change (liftM (Go.locate project specifier current) : Except Fault (List Path)) = _ at located
      exact Go.areFiles_of_locate onDisk dotless (eq_ok_of_liftM located)
  | c | cpp => exact areFiles_of_atMostOne (CFamily.isFilePath_of_locate? onDisk dotless) located
  | csharp => exact CSharp.areFiles_of_locate onDisk located

/-- A specifier of the standard library is followed nowhere. -/
theorem locate_of_builtin {family : Family}
    (builtin : (Ecosystem.ofFamily family).classify project specifier = .ok .builtin)
    (current : Path) : (Ecosystem.ofFamily family).locate project specifier current = .ok [] := by
  cases family with
  | typescript =>
      change atMostOne (EcmaScript.locate? project specifier current) = _
      rw [EcmaScript.locate?, Except.ok.inj builtin]
      rfl
  | python =>
      change (Python.locate? project specifier current).map Option.toList = _
      rw [Python.locate?_of_builtin builtin current]
      rfl
  | rust =>
      change atMostOne (Rust.locate? project specifier current) = _
      rw [Rust.locate?_of_builtin (Except.ok.inj builtin) current]
      rfl
  | go =>
      change (do return ← Go.locate project specifier current : Except Fault (List Path)) = _
      rw [Go.locate_of_builtin (Except.ok.inj builtin) current]
      rfl
  | c | cpp =>
      change atMostOne (CFamily.locate? project specifier current) = _
      rw [CFamily.locate?, Except.ok.inj builtin]
      rfl
  | csharp =>
      change CSharp.locate project specifier = _
      have known : CSharp.classify project specifier = .ok .builtin := builtin
      rw [CSharp.locate, known]
      rfl

/-- Every candidate of an import is the absolute path of a file of the disk, none is listed twice,
and the first of them is the file that the import names.  What belongs to the standard library has
no candidates. -/
theorem candidates_are_files_and_builtins_have_none {family : Family} (onDisk : project.OnDisk)
    (dotless : current.Dotless) (specifier : String) :
    (∀ files, (Ecosystem.ofFamily family).locate project specifier current = .ok files →
      (∀ file ∈ files, file.isAbsolute = true ∧
        ∃ content, project.files.find? file = some (.file content)) ∧
      files.Nodup ∧
      (Ecosystem.ofFamily family).locateFirst? project specifier current = .ok files.head?) ∧
    ((Ecosystem.ofFamily family).classify project specifier = .ok .builtin →
      (Ecosystem.ofFamily family).locate project specifier current = .ok []) := by
  refine ⟨fun files located => ⟨fun file member => ?_, ?_, ?_⟩, fun builtin => ?_⟩
  · have path := (areFiles_of_locate onDisk dotless located).isFilePath file member
    exact ⟨path.absolute, path.held.file⟩
  · exact (areFiles_of_locate onDisk dotless located).distinct
  · rw [Ecosystem.locateFirst?, located]
    rfl
  · exact locate_of_builtin builtin current

end Ecosystems

/-- A project with a package of two files and a test. -/
def packageProject : Project :=
  let empty : Entry := .file ByteArray.empty
  { files :=
      { top := [("p", .directory
          [("store", .directory [("disk.go", empty), ("store.go", empty), ("store_test.go", empty)])])]
        here := Path.ofString "/" }
    root := Path.ofString "/p"
    manifest := { name := .text "app" } }

/-- A package of the project has its source files as candidates, the one that bears its name first,
and a package of the standard library has none. -/
theorem package_candidates_are_files :
    (packageProject.OnDisk ∧ (Path.ofString "main.go").Dotless) ∧
      (Ecosystem.ofFamily .go).locate packageProject "app/store" (Path.ofString "main.go") =
        .ok [Path.ofString "/p/store/store.go", Path.ofString "/p/store/disk.go"] ∧
      (∀ file ∈ [Path.ofString "/p/store/store.go", Path.ofString "/p/store/disk.go"],
        file.isAbsolute = true ∧
          ∃ content, packageProject.files.find? file = some (.file content)) ∧
      (Ecosystem.ofFamily .go).classify packageProject "fmt" = .ok .builtin ∧
      (Ecosystem.ofFamily .go).locate packageProject "fmt" (Path.ofString "main.go") = .ok [] := by
  have file : (Entry.file ByteArray.empty).WellNamed := .file _
  have store : (Entry.directory [("disk.go", .file ByteArray.empty),
      ("store.go", .file ByteArray.empty), ("store_test.go", .file ByteArray.empty)]).WellNamed :=
    .directory (by decide) (by decide) (by simp [file])
  have root : (Entry.directory [("store", .directory [("disk.go", .file ByteArray.empty),
      ("store.go", .file ByteArray.empty), ("store_test.go", .file ByteArray.empty)])]).WellNamed :=
    .directory (by decide) (by decide) (by simp [store])
  have onDisk : packageProject.OnDisk :=
    { disk := .directory (by decide) (by decide) (by simpa [packageProject] using root)
      here := by decide
      root := by decide
      dirs := by simp [packageProject] }
  have dotless : (Path.ofString "main.go").Dotless := by decide
  have listed : Go.packageFiles packageProject.files (Path.ofString "/p/store") =
      [Path.ofString "/p/store/store.go", Path.ofString "/p/store/disk.go"] := by
    -- The listing is in order before it is sorted.
    have found : ((packageProject.files.list (Path.ofString "/p/store")).filter fun item =>
        Go.isSourceFile item.1 && item.2.isFile) =
          [(Path.ofString "/p/store/disk.go", .file ByteArray.empty),
            (Path.ofString "/p/store/store.go", .file ByteArray.empty)] := by rfl
    rw [Go.packageFiles, found, List.mergeSort_of_pairwise (by decide +kernel)]
    decide +kernel
  have located : (Ecosystem.ofFamily .go).locate packageProject "app/store" (Path.ofString "main.go") =
      .ok [Path.ofString "/p/store/store.go", Path.ofString "/p/store/disk.go"] := by
    rw [← listed]
    rfl
  have builtin : (Ecosystem.ofFamily .go).classify packageProject "fmt" = .ok .builtin := by rfl
  exact ⟨⟨onDisk, dotless⟩, located,
    ((candidates_are_files_and_builtins_have_none onDisk dotless "app/store").1 _ located).1, builtin,
    (candidates_are_files_and_builtins_have_none onDisk dotless "fmt").2 builtin⟩

end ScopeAtlas.Location
