import ScopeAtlas.Proofs.Files.Descent
import ScopeAtlas.Proofs.Location.Locality

/-!
# Dotted names from near and from afar

A module can be named from the package of the importing file, with a dot for the package and one more
for each package around it, or by its whole dotted name.  Both names lead to the same paths below the
source directory of the file.  The whole name is looked for below the other source directories as
well, so even where none of them holds the module, the two answers part when one of those directories
cannot be asked.
-/

namespace ScopeAtlas.Location.Python

open ScopeAtlas.Files ScopeAtlas.Language ScopeAtlas.Text

/-! ## Names -/

/-- The text can be one of the names that make up a dotted name. -/
def IsSegment (segment : String) : Prop := IsName segment ∧ '.' ∉ segment.toList

instance (segment : String) : Decidable (IsSegment segment) :=
  inferInstanceAs (Decidable (_ ∧ _))

/-- The whole name of a module. -/
def dotted (names : List String) : String := String.intercalate "." names

/-- The name of a module as seen from a package, with a number of dots in front. -/
def withDots (count : Nat) (names : List String) : String :=
  String.ofList (List.replicate count '.') ++ dotted names

section Names

variable {names : List String}

theorem IsSegment.head?_toList {segment : String} (plain : IsSegment segment) :
    ∃ c rest, segment.toList = c :: rest ∧ c ≠ '.' := by
  cases chars : segment.toList with
  | nil => exact absurd (String.toList_eq_nil_iff.mp chars) plain.1.ne_empty
  | cons c rest =>
      refine ⟨c, rest, rfl, ?_⟩
      rintro rfl
      exact plain.2 (by simp [chars])

/-- A whole name does not begin with a dot. -/
theorem exists_toList_dotted (nonempty : names ≠ []) (plain : ∀ name ∈ names, IsSegment name) :
    ∃ c rest, (dotted names).toList = c :: rest ∧ c ≠ '.' := by
  obtain ⟨name, more, rfl⟩ := List.exists_cons_of_ne_nil nonempty
  obtain ⟨c, rest, chars, other⟩ := (plain name (by simp)).head?_toList
  cases more with
  | nil => exact ⟨c, rest, by rw [dotted, String.intercalate_singleton, chars], other⟩
  | cons next others =>
      refine ⟨c, rest ++ ("." ++ dotted (next :: others)).toList, ?_, other⟩
      rw [dotted, String.intercalate_cons_cons, String.append_assoc, String.toList_append, chars]
      rfl

theorem split_dotted (nonempty : names ≠ []) (plain : ∀ name ∈ names, IsSegment name) :
    split "." (dotted names) = names :=
  split_intercalate rfl nonempty fun name member => (plain name member).2

end Names

/-! ## The files of a module -/

/-- The files that may hold a module of the given name below a directory, in the order in which they
are asked for. -/
def modulePaths (base : Path) (names : List String) : List Path :=
  ([".py", ".pyi"].map fun ending =>
      base.along (names.dropLast ++ [names.getLast?.getD "" ++ ending])) ++
    ["__init__.py", "__init__.pyi"].map fun file => base.along (names ++ [file])

/-- The directory holds a module of the name. -/
def Holds (files : FileTree) (base : Path) (names : List String) : Prop :=
  ∃ path ∈ modulePaths base names, files.isFile path = .ok true

/-- A file that may hold the module below the directory cannot be asked for. -/
def Refused (files : FileTree) (base : Path) (names : List String) : Prop :=
  ∃ path ∈ modulePaths base names, files.Refuses path

section ModuleFiles

variable {files : FileTree} {base : Path} {names : List String}

theorem descend_eq_along (named : ∀ name ∈ names, IsName name) (base : Path) :
    base.descend names = base.along names := by
  induction names generalizing base with
  | nil => exact (Path.along_nil base).symm
  | cons name rest ih =>
      obtain ⟨nameNamed, restNamed⟩ := List.forall_mem_cons.mp named
      rw [Path.descend, List.foldl_cons, Path.child_eq_along nameNamed, ← Path.descend,
        ih restNamed, Path.along_along, List.singleton_append]

theorem moduleFile?_eq (nonempty : names ≠ []) (named : ∀ name ∈ names, IsName name) :
    moduleFile? files base names = liftM (files.firstResolved? (modulePaths base names)) := by
  obtain ⟨above, last, rfl⟩ : ∃ above last, names = above ++ [last] :=
    ⟨_, _, (List.dropLast_append_getLast nonempty).symm⟩
  have lastNamed : IsName last := named last (by simp)
  have renamed (ending : String) : (base.along (above ++ [last])).renamed? (last ++ ending) =
      some (base.along (above ++ [last ++ ending])) := by
    rw [Path.renamed?, Path.name_along_concat]
    simp [lastNamed.ne_empty, Path.along, ← List.append_assoc]
  rw [moduleFile?, descend_eq_along named]
  simp only [Path.name_along_concat, renamed, Path.child_eq_along
    (show IsName "__init__.py" by decide), Path.child_eq_along
    (show IsName "__init__.pyi" by decide), Path.along_along]
  simp [modulePaths]

/-- Only the way as a whole matters for where a module is looked for. -/
theorem moduleFile?_along {front : List String} (nonempty : names ≠ [])
    (named : ∀ name ∈ front ++ names, IsName name) :
    moduleFile? files (base.along front) names = moduleFile? files base (front ++ names) := by
  have paths : modulePaths (base.along front) names = modulePaths base (front ++ names) := by
    simp [modulePaths, Path.along_along, List.dropLast_append_of_ne_nil nonempty,
      List.getLast?_append_of_ne_nil front nonempty]
  rw [moduleFile?_eq nonempty (List.forall_mem_append.mp named).2, paths,
    moduleFile?_eq (by simp [nonempty]) named]

/-- A directory that does not hold the module has no answer to give. -/
theorem moduleFile?_of_not_holds (nonempty : names ≠ []) (named : ∀ name ∈ names, IsName name)
    (free : ¬Holds files base names) (asked : ¬Refused files base names) :
    moduleFile? files base names = .ok none := by
  have absent : ∀ path ∈ modulePaths base names, files.isFile path = .ok false := by
    intro path member
    rcases files.isFile_cases path with held | absent | refused
    · exact absurd ⟨path, member, held⟩ free
    · exact absent
    · exact absurd ⟨path, member, refused⟩ asked
  rw [moduleFile?_eq nonempty named, FileTree.firstResolved?, FileTree.firstFile?_of_absent absent]
  rfl

theorem moduleFile?_of_refused (nonempty : names ≠ []) (named : ∀ name ∈ names, IsName name)
    (free : ¬Holds files base names) (refused : Refused files base names) :
    moduleFile? files base names = .error (.path .tooLong) := by
  have noneHeld : ∀ path ∈ modulePaths base names, files.isFile path ≠ .ok true :=
    fun path member held => free ⟨path, member, held⟩
  rw [moduleFile?_eq nonempty named, FileTree.firstResolved?,
    FileTree.firstFile?_of_refuses noneHeld refused]
  rfl

theorem eq_tooLong_of_moduleFile? {fault : Fault} (nonempty : names ≠ [])
    (named : ∀ name ∈ names, IsName name)
    (refused : moduleFile? files base names = .error fault) : fault = .path .tooLong := by
  rw [moduleFile?_eq nonempty named, FileTree.firstResolved?] at refused
  cases first : files.firstFile? (modulePaths base names) with
  | ok found =>
      rw [first] at refused
      cases refused
  | error other =>
      obtain rfl := FileTree.eq_tooLong_of_firstFile? first
      rw [first] at refused
      exact (Except.error.inj refused).symm

end ModuleFiles

/-! ## The search in all source directories -/

/-- The search for a module below a source directory meets another directory that cannot be asked. -/
inductive Interrupted (files : FileTree) (source : Path) (directories : List Path)
    (names : List String) : Prop where
  /-- The source directory holds the module, and the other one comes before it. -/
  | before {file other : Path} (found : moduleFile? files source names = .ok (some file))
      (earlier : other ∈ directories.takeWhile (· ≠ source)) (refused : Refused files other names) :
      Interrupted files source directories names
  /-- The source directory does not hold the module, so that every other one is asked. -/
  | anywhere {other : Path} (absent : moduleFile? files source names = .ok none)
      (member : other ∈ directories) (different : other ≠ source)
      (refused : Refused files other names) : Interrupted files source directories names

section Search

variable {files : FileTree} {source : Path} {directories : List Path} {names : List String}
  (nonempty : names ≠ []) (named : ∀ name ∈ names, IsName name)
  (alone : ∀ other ∈ directories, other ≠ source → ¬Holds files other names)

include nonempty named alone

/-- The search comes to the source directory, unless a directory before it is refused. -/
theorem searchDirs_of_decided (member : source ∈ directories)
    (decided : moduleFile? files source names ≠ .ok none) :
    ((∀ other ∈ directories.takeWhile (· ≠ source), ¬Refused files other names) →
      searchDirs files names directories = moduleFile? files source names) ∧
    ((∃ other ∈ directories.takeWhile (· ≠ source), Refused files other names) →
      searchDirs files names directories = .error (.path .tooLong)) := by
  induction directories with
  | nil => contradiction
  | cons directory rest ih =>
      by_cases here : directory = source
      · subst here
        have answer : searchDirs files names (directory :: rest) =
            moduleFile? files directory names := by
          rw [searchDirs]
          split
          · rename_i absent
            exact absurd absent decided
          · rfl
        exact ⟨fun _ => answer, fun refused => by simp at refused⟩
      · obtain ⟨aloneHere, aloneLater⟩ := List.forall_mem_cons.mp alone
        have later := ih aloneLater ((List.mem_cons.mp member).resolve_left (Ne.symm here))
        rw [List.takeWhile_cons_of_pos (by simpa using here), List.forall_mem_cons,
          List.exists_mem_cons_iff]
        by_cases refused : Refused files directory names
        · have stops : searchDirs files names (directory :: rest) = .error (.path .tooLong) := by
            rw [searchDirs, moduleFile?_of_refused nonempty named (aloneHere here) refused]
          exact ⟨fun asked => absurd refused asked.1, fun _ => stops⟩
        · have passes : searchDirs files names (directory :: rest) =
              searchDirs files names rest := by
            rw [searchDirs, moduleFile?_of_not_holds nonempty named (aloneHere here) refused]
          rw [passes]
          exact ⟨fun asked => later.1 asked.2, fun met => later.2 (met.resolve_left refused)⟩

/-- Where no directory holds the module, each is asked. -/
theorem searchDirs_of_absent (absent : moduleFile? files source names = .ok none) :
    ((∀ other ∈ directories, other ≠ source → ¬Refused files other names) →
      searchDirs files names directories = .ok none) ∧
    ((∃ other ∈ directories, other ≠ source ∧ Refused files other names) →
      searchDirs files names directories = .error (.path .tooLong)) := by
  induction directories with
  | nil => exact ⟨fun _ => rfl, fun refused => by simp at refused⟩
  | cons directory rest ih =>
      obtain ⟨aloneHere, aloneLater⟩ := List.forall_mem_cons.mp alone
      have later := ih aloneLater
      rw [List.forall_mem_cons, List.exists_mem_cons_iff]
      by_cases refused : directory ≠ source ∧ Refused files directory names
      · have stops : searchDirs files names (directory :: rest) = .error (.path .tooLong) := by
          rw [searchDirs, moduleFile?_of_refused nonempty named (aloneHere refused.1) refused.2]
        exact ⟨fun asked => absurd refused.2 (asked.1 refused.1), fun _ => stops⟩
      · have passes : searchDirs files names (directory :: rest) =
            searchDirs files names rest := by
          have answer : moduleFile? files directory names = .ok none := by
            by_cases here : directory = source
            · rw [here, absent]
            · exact moduleFile?_of_not_holds nonempty named (aloneHere here)
                fun met => refused ⟨here, met⟩
          rw [searchDirs, answer]
        rw [passes]
        exact ⟨fun asked => later.1 asked.2, fun met => later.2 (met.resolve_left refused)⟩

/-- Where no other directory holds the module, the search in all directories answers like the search
in the source directory, unless it is interrupted. -/
theorem searchDirs_eq_iff (member : source ∈ directories) :
    moduleFile? files source names = searchDirs files names directories ↔
      ¬Interrupted files source directories names := by
  rcases answer : moduleFile? files source names with fault | _ | file
  · -- A refusal is the same from whichever directory it comes.
    obtain rfl := eq_tooLong_of_moduleFile? nonempty named answer
    have calm : ¬Interrupted files source directories names := by
      rintro (⟨found, -, -⟩ | ⟨absent, -, -, -⟩) <;> simp_all
    have reached := searchDirs_of_decided nonempty named alone member (by simp [answer])
    refine iff_of_true ?_ calm
    by_cases met : ∃ other ∈ directories.takeWhile (· ≠ source), Refused files other names
    · exact (reached.2 met).symm
    · rw [reached.1 fun other earlier refused => met ⟨other, earlier, refused⟩, answer]
  · have reached := searchDirs_of_absent nonempty named alone answer
    by_cases met : ∃ other ∈ directories, other ≠ source ∧ Refused files other names
    · obtain ⟨other, among, different, refused⟩ := met
      rw [reached.2 ⟨other, among, different, refused⟩]
      exact iff_of_false (by simp) (not_not.mpr (.anywhere answer among different refused))
    · have calm : ¬Interrupted files source directories names := by
        rintro (⟨found, -, -⟩ | ⟨-, among, different, refused⟩)
        · simp [answer] at found
        · exact met ⟨_, among, different, refused⟩
      exact iff_of_true
        (reached.1 fun other among different refused => met ⟨other, among, different, refused⟩).symm
        calm
  · have reached := searchDirs_of_decided nonempty named alone member (by simp [answer])
    by_cases met : ∃ other ∈ directories.takeWhile (· ≠ source), Refused files other names
    · obtain ⟨other, earlier, refused⟩ := met
      rw [reached.2 ⟨other, earlier, refused⟩]
      exact iff_of_false (by simp) (not_not.mpr (.before answer earlier refused))
    · have calm : ¬Interrupted files source directories names := by
        rintro (⟨-, earlier, refused⟩ | ⟨absent, -, -, -⟩)
        · exact met ⟨_, earlier, refused⟩
        · simp [answer] at absent
      rw [reached.1 fun other earlier refused => met ⟨other, earlier, refused⟩, answer]
      exact iff_of_true rfl calm

end Search

/-! ## The two names of a module -/

section Agreement

variable {project : Project} {current source : Path} {directories : List Path}
  {packages path names : List String} {file : String} {count : Nat}

/-- Going up from a package leads to a package around it. -/
theorem climb_along (source : Path) (packages : List String) (steps : Nat)
    (within : steps ≤ packages.length) :
    climb steps (source.along packages) = source.along (packages.take (packages.length - steps)) := by
  induction steps generalizing packages with
  | zero => simp [climb]
  | succ steps ih =>
      obtain ⟨above, last, rfl⟩ : ∃ above last, packages = above ++ [last] :=
        ⟨_, _, (List.dropLast_append_getLast (List.ne_nil_of_length_pos (by omega))).symm⟩
      rw [List.length_append, List.length_singleton] at within ⊢
      rw [climb, Path.parent_along_concat, ih above (by omega), Nat.add_sub_add_right,
        List.take_append_of_le_length (by omega)]

/-- A name with dots in front is looked for below the package that the dots lead to. -/
theorem locate?_withDots (dots : 1 ≤ count) (nonempty : path ≠ [])
    (plain : ∀ name ∈ path, IsSegment name) (current : Path) :
    locate? project (withDots count path) current =
      moduleFile? project.files (climb (count - 1) (project.absolute current).parent) path := by
  obtain ⟨c, rest, chars, other⟩ := exists_toList_dotted nonempty plain
  have text : (withDots count path).toList = List.replicate count '.' ++ c :: rest := by
    rw [withDots, String.toList_append, String.toList_ofList, chars]
  have front : (withDots count path).toList.takeWhile (· == '.') = List.replicate count '.' := by
    rw [text, List.takeWhile_append_of_pos (by simp)]
    simp [other]
  have back : dropChars count (withDots count path) = dotted path := by
    rw [dropChars, text, List.drop_left' (by simp), ← chars, String.ofList_toList]
  have written : (dotted path).isEmpty = false := by
    rw [← Bool.not_eq_true, String.isEmpty_iff, ← String.toList_eq_nil_iff, chars]
    simp
  have dotted : (List.replicate count '.').isEmpty = false := by
    rw [List.isEmpty_eq_false_iff]
    exact List.ne_nil_of_length_pos (by rwa [List.length_replicate])
  simp only [locate?, front, List.length_replicate, back, written, dotted,
    split_dotted nonempty plain, Bool.not_false, if_true, Bool.false_eq_true, if_false]

/-- A whole name is looked for below the source directories. -/
theorem locate?_dotted (nonempty : names ≠ [])
    (plain : ∀ name ∈ names, IsSegment name)
    (foreign : names.head?.any isPythonStandardModule = false)
    (run : sourceDirs project = .ok directories) (current : Path) :
    locate? project (dotted names) current = searchDirs project.files names directories := by
  obtain ⟨c, rest, chars, other⟩ := exists_toList_dotted nonempty plain
  have front : (dotted names).toList.takeWhile (· == '.') = [] := by
    rw [chars]
    simp [other]
  have notStandard : isBuiltin (dotted names) = false := by
    have first := head?_split "." (dotted names)
    rw [split_dotted nonempty plain] at first
    rwa [first] at foreign
  simp only [locate?, front, notStandard, findModule?, split_dotted nonempty plain, run]
  rfl

/-- A name with dots in front and the whole name of the module lead to the same file, or both
nowhere, where the other source directories do not hold the module.  Looking for the whole name is
interrupted by a directory that cannot be asked, and the other name never is. -/
theorem dotted_names_agree_unless_interrupted (run : sourceDirs project = .ok directories)
    (member : source ∈ directories)
    (placed : project.absolute current = source.along (packages ++ [file]))
    (dots : 1 ≤ count) (within : count ≤ packages.length + 1) (nonempty : path ≠ [])
    (whole : names = packages.take (packages.length + 1 - count) ++ path)
    (plain : ∀ name ∈ names, IsSegment name)
    (foreign : names.head?.any isPythonStandardModule = false)
    (alone : ∀ other ∈ directories, other ≠ source → ¬Holds project.files other names)
    (elsewhere : Path) :
    locate? project (withDots count path) current = locate? project (dotted names) elsewhere ↔
      ¬Interrupted project.files source directories names := by
  have named : ∀ name ∈ names, IsName name := fun name among => (plain name among).1
  have long : names ≠ [] := by simp [whole, nonempty]
  have pathPlain : ∀ name ∈ path, IsSegment name :=
    fun name among => plain name (whole ▸ List.mem_append_right _ among)
  have base : climb (count - 1) (project.absolute current).parent =
      source.along (packages.take (packages.length + 1 - count)) := by
    rw [placed, Path.parent_along_concat, climb_along source packages (count - 1) (by omega)]
    congr 2
    omega
  rw [locate?_withDots dots nonempty pathPlain, base, moduleFile?_along nonempty (whole ▸ named),
    ← whole, locate?_dotted long plain foreign run]
  exact searchDirs_eq_iff long named alone member

/-- A project with a package `app` of two modules, and the source directories that its manifest
names. -/
def packageProject (directories : List Path) : Project :=
  { files :=
      { top := [("p", .directory [("src", .directory [("app", .directory
          [("x.py", .file ByteArray.empty), ("b.py", .file ByteArray.empty)])])])]
        here := Path.ofString "/" }
    root := Path.ofString "/p"
    manifest := { sourceDirs := directories } }

theorem sibling_names_agree :
    let source := Path.ofString "/p/src"
    let directories := [source, Path.ofString "/p"]
    let project := packageProject directories
    let current := Path.ofString "src/app/x.py"
    (sourceDirs project = .ok directories ∧
      project.absolute current = source.along ["app", "x.py"] ∧
      (∀ name ∈ ["app", "b"], IsSegment name) ∧
      ["app", "b"].head?.any isPythonStandardModule = false ∧
      ∀ other ∈ directories, other ≠ source → ¬Holds project.files other ["app", "b"]) ∧
    locate? project (withDots 1 ["b"]) current = locate? project (dotted ["app", "b"]) current := by
  intro source directories project current
  have run : sourceDirs project = .ok directories := by rfl
  have placed : project.absolute current = source.along (["app"] ++ ["x.py"]) := by decide +kernel
  have plain : ∀ name ∈ ["app", "b"], IsSegment name := by decide
  have foreign : ["app", "b"].head?.any isPythonStandardModule = false := by decide +kernel
  have alone : ∀ other ∈ directories, other ≠ source → ¬Holds project.files other ["app", "b"] := by
    intro other member different
    have above : other = Path.ofString "/p" := by simp_all [directories]
    rw [above, Holds]
    decide +kernel
  have found : moduleFile? project.files source ["app", "b"] =
      .ok (some (source.along ["app", "b.py"])) := by decide +kernel
  have calm : ¬Interrupted project.files source directories ["app", "b"] := by
    rintro (⟨-, earlier, -⟩ | ⟨absent, -, -, -⟩)
    · simp [directories] at earlier
    · simp [found] at absent
  have whole : ["app", "b"] = ["app"].take (["app"].length + 1 - 1) ++ ["b"] := rfl
  exact ⟨⟨run, placed, plain, foreign, alone⟩,
    (dotted_names_agree_unless_interrupted run (by simp [directories]) placed (by decide)
      (by decide) (by simp) whole plain foreign alone current).mpr calm⟩

/-- A source directory of a long name keeps the whole name of a module from being followed. -/
theorem long_source_directory_interrupts :
    let long := (Path.ofString "/p").along [nameOfLength 300]
    let source := Path.ofString "/p/src"
    let directories := [long, source, Path.ofString "/p"]
    let project := packageProject directories
    let current := Path.ofString "src/app/x.py"
    (sourceDirs project = .ok directories ∧
      project.absolute current = source.along ["app", "x.py"] ∧
      ∀ other ∈ directories, other ≠ source → ¬Holds project.files other ["app", "b"]) ∧
    locate? project (withDots 1 ["b"]) current = .ok (some (source.along ["app", "b.py"])) ∧
    locate? project (dotted ["app", "b"]) current = .error (.path .tooLong) := by
  intro long source directories project current
  have longName : IsName (nameOfLength 300) := isName_nameOfLength (by decide)
  have clean : long.hasNull = false := Path.hasNull_along_of_isName (by rfl) (by simpa using longName)
  have refused : project.files.probe long = .error .tooLong := by
    have other : nameOfLength 300 ≠ "src" := fun same => by
      have sizes := congrArg String.utf8ByteSize same
      rw [utf8ByteSize_nameOfLength, show "src".utf8ByteSize = 3 from rfl] at sizes
      omega
    have tooLong : isTooLongName (nameOfLength 300) = true := by
      rw [isTooLongName, utf8ByteSize_nameOfLength]
      rfl
    have leads : project.files.trace long = .missing (nameOfLength 300) := by
      have root : Path.ofString "/p" = ⟨.root, ["p"]⟩ := by rfl
      simp [long, project, packageProject, root, FileTree.trace, Path.join, Path.isAbsolute,
        Path.along, Entry.trace, List.lookup_cons, longName.ne_dot, longName.ne_dots,
        beq_eq_false_iff_ne.mpr other]
    rw [FileTree.probe, leads]
    simp [clean, tooLong]
  -- Every file of the module below the long directory is refused with it.
  have refusedBelow : ∀ path ∈ modulePaths long ["app", "b"], project.files.Refuses path := by
    intro path member
    obtain ⟨later, rfl, laterClean⟩ : ∃ later, path = long.along later ∧
        (later.any fun part => part.toList.contains '\x00') = false := by
      simp only [modulePaths, List.map_cons, List.map_nil, List.cons_append, List.nil_append,
        List.mem_cons, List.not_mem_nil, or_false] at member
      rcases member with rfl | rfl | rfl | rfl <;> exact ⟨_, rfl, by decide +kernel⟩
    have whole : (long.along later).hasNull = false := by
      rw [Path.hasNull_along, clean, laterClean]
      rfl
    rw [FileTree.Refuses, FileTree.isFile, FileTree.probe_along_of_error refused whole]
    rfl
  have free : ¬Holds project.files long ["app", "b"] := by
    rintro ⟨path, member, held⟩
    rw [refusedBelow path member] at held
    cases held
  have freeRoot : ¬Holds project.files (Path.ofString "/p") ["app", "b"] := by
    rw [Holds]
    decide +kernel
  refine ⟨⟨by rfl, by decide +kernel, ?alone⟩, by decide +kernel, ?whole⟩
  case alone =>
    intro other member different
    simp only [directories, List.mem_cons, List.not_mem_nil, or_false] at member
    rcases member with rfl | rfl | rfl
    · exact free
    · exact absurd rfl different
    · exact freeRoot
  case whole =>
    rw [locate?_dotted (by simp) (by decide) (by decide +kernel) (show sourceDirs project =
      .ok directories by rfl), searchDirs, moduleFile?_of_refused (by simp) (by decide) free]
    exact ⟨_, List.mem_cons_self, refusedBelow _ List.mem_cons_self⟩

end Agreement

end ScopeAtlas.Location.Python
