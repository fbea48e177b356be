import ScopeAtlas.Location.Rust
import ScopeAtlas.Proofs.Files.Descent
import ScopeAtlas.Proofs.Text.Cutting

/-!
# Spellings of a module path

A path of a crate begins at the root module, at the module of the file that names it, or at the one
above that.  The three spellings are followed from different directories, and they lead to the same
file, with two exceptions.  What lies inside a module without a directory of its own is not found from
the file of that module, and a directory without a module hides an item of its name from the root
module only.  A file that is named like that of a root module stands for its directory.
-/

namespace ScopeAtlas.Location

open ScopeAtlas.Files ScopeAtlas.Text

/-! ## Following a path from further up -/

namespace Layout

variable {layout : Layout} {files : FileTree} {base : Path} {names rest : List String}

/-- A path is followed from the directory to which its first segments descend. -/
theorem follow?_along (named : ∀ name ∈ names, IsName name)
    (there : files.isDirectory (base.along names) = .ok true) (beyond : rest ≠ []) (first : Bool) :
    layout.follow? files first base (names ++ rest) =
      layout.follow? files (first && names.isEmpty) (base.along names) rest := by
  induction names generalizing base first with
  | nil => simp [Path.along]
  | cons name more ih =>
      obtain ⟨nameNamed, moreNamed⟩ := List.forall_mem_cons.mp named
      obtain ⟨next, others, shape⟩ : ∃ next others, more ++ rest = next :: others :=
        List.exists_cons_of_ne_nil (by simp [beyond])
      have inner : base.along (name :: more) = (base.along [name]).along more := by
        simp [Path.along_along]
      rw [inner] at there ⊢
      have later := ih moreNamed there false
      rw [shape, Bool.false_and] at later
      rw [List.cons_append, shape, follow?, Path.child_eq_along nameNamed,
        FileTree.isDirectory_of_along there, List.isEmpty_cons, Bool.and_false]
      exact later

/-- Where the path begins matters to a single segment only. -/
theorem follow?_several (segment next : String) (others : List String) (first other : Bool) :
    layout.follow? files first base (segment :: next :: others) =
      layout.follow? files other base (segment :: next :: others) := rfl

end Layout

namespace Rust

/-! ## Modules and their files -/

/-- The text can be a segment of a path that names a file. -/
def IsSegment (segment : String) : Prop := IsName segment ∧ ':' ∉ segment.toList

instance (segment : String) : Decidable (IsSegment segment) :=
  inferInstanceAs (Decidable (_ ∧ _))

/-- The path that is written with the given segments. -/
def spelled (segments : List String) : String := String.intercalate "::" segments

/-- Where the file of a module lies below the directory of the root module: in the directory of the
module, or beside it. -/
inductive LiesAt (root : Path) : List String → Path → Prop where
  | index (names : List String) : LiesAt root names (root.along (names ++ ["mod.rs"]))
  | beside (above : List String) {last : String} (proper : last ≠ "mod") :
      LiesAt root (above ++ [last]) (root.along (above ++ [last ++ ".rs"]))

/-- The file holds the module of a path below the root module of the crate. -/
structure IsModule (project : Project) (root : Path) (names : List String) (file : Path) : Prop where
  disk : (Entry.directory project.files.top).WellNamed
  rooted : crateRoot project = .ok root
  nonempty : names ≠ []
  segments : ∀ name ∈ names, IsSegment name
  located : LiesAt root names file
  isFile : project.files.isFile file = .ok true

/-- The path names an item or a module below the module that it begins at. -/
structure IsItemPath (path : List String) : Prop where
  nonempty : path ≠ []
  segments : ∀ segment ∈ path, IsSegment segment
  down : path.head? ≠ some "super"

/-- The path cannot be followed from a module whose directory does not exist. -/
inductive Unreached (project : Project) (base : Path) : List String → Prop where
  | inside {path : List String} (noDirectory : project.files.isDirectory base = .ok false)
      (several : 2 ≤ path.length) : Unreached project base path
  /-- A file that would be looked for has a path that is too long. -/
  | tooLong {name text : String} (noDirectory : project.files.isDirectory base = .ok false)
      (asked : text ∈ [name ++ ".rs", name, "mod.rs"]) (long : (base.child text).isTooLong = true) :
      Unreached project base [name]

/-- The path is the name of an item, and also of a directory that holds no module.  The items of the
root module are named in one way only. -/
inductive Hidden (project : Project) (base : Path) : List String → Prop where
  | name {name : String} (below : crateRoot project ≠ .ok base)
      (noFile : project.files.firstFile? (layout.moduleFiles base name) = .ok none)
      (directory : project.files.isDirectory (base.child name) = .ok true)
      (noIndex : project.files.firstFile? (layout.indexPaths (base.child name)) = .ok none)
      (ofModule : layout.packageFile? project.files base ≠ .ok none) : Hidden project base [name]

theorem hidden_iff (project : Project) (base : Path) (name : String) :
    Hidden project base [name] ↔ crateRoot project ≠ .ok base ∧
      project.files.firstFile? (layout.moduleFiles base name) = .ok none ∧
        project.files.isDirectory (base.child name) = .ok true ∧
        project.files.firstFile? (layout.indexPaths (base.child name)) = .ok none ∧
        layout.packageFile? project.files base ≠ .ok none := by
  constructor
  · rintro ⟨below, noFile, directory, noIndex, ofModule⟩
    exact ⟨below, noFile, directory, noIndex, ofModule⟩
  · rintro ⟨below, noFile, directory, noIndex, ofModule⟩
    exact .name below noFile directory noIndex ofModule

theorem unreached_name_iff (project : Project) (base : Path) (name : String) :
    Unreached project base [name] ↔ project.files.isDirectory base = .ok false ∧
      ∃ text ∈ [name ++ ".rs", name, "mod.rs"], (base.child text).isTooLong = true := by
  constructor
  · rintro (⟨_, several⟩ | ⟨noDirectory, asked, long⟩)
    · contradiction
    · exact ⟨noDirectory, _, asked, long⟩
  · rintro ⟨noDirectory, text, asked, long⟩
    exact .tooLong noDirectory asked long

theorem Unreached.isDirectory {project : Project} {base : Path} {path : List String}
    (unreached : Unreached project base path) : project.files.isDirectory base = .ok false := by
  cases unreached <;> assumption

theorem Hidden.isDirectory {project : Project} {base : Path} {path : List String}
    (hidden : Hidden project base path) (plain : ∀ segment ∈ path, IsSegment segment) :
    project.files.isDirectory base = .ok true := by
  obtain ⟨_, _, directory, _, _⟩ := hidden
  rw [Path.child_eq_along (plain _ (by simp)).1] at directory
  exact FileTree.isDirectory_of_along directory

theorem IsSegment.ne_empty {segment : String} (plain : IsSegment segment) : segment ≠ "" :=
  plain.1.ne_empty

/-- A written path is cut into its segments again. -/
theorem filter_split_spelled {segments : List String} (nonempty : segments ≠ [])
    (plain : ∀ segment ∈ segments, IsSegment segment) :
    (split "::" (spelled segments)).filter (!·.isEmpty) = segments := by
  have pieces : split "::" (spelled segments) = segments :=
    split_intercalate_pair rfl nonempty fun segment member => (plain segment member).2
  rw [pieces, List.filter_eq_self]
  intro segment member
  simpa [String.isEmpty_iff] using (plain segment member).ne_empty

/-- The name of a module with the ending of its file is a name. -/
theorem IsSegment.isName_file {segment : String} (plain : IsSegment segment) :
    IsName (segment ++ ".rs") := by
  refine ⟨fun member => ?_, fun c member => ?_⟩
  · have short : (segment ++ ".rs").length ≤ 2 := by
      simp only [List.mem_cons, List.not_mem_nil, or_false] at member
      rcases member with same | same | same <;> rw [same] <;> decide
    rw [String.length_append, show ".rs".length = 3 from rfl] at short
    omega
  · rw [String.toList_append, List.mem_append] at member
    rcases member with inside | ending
    · exact plain.1.2 c inside
    · change c ∈ ['.', 'r', 's'] at ending
      simp only [List.mem_cons, List.not_mem_nil, or_false] at ending
      rcases ending with rfl | rfl | rfl <;> decide

theorem stem_of_file (root : Path) (above : List String) {last : String} (plain : IsSegment last) :
    (root.along (above ++ [last ++ ".rs"])).stem = last := by
  have cut : cutLast? "." (last ++ "." ++ "rs") = some (last, "rs") :=
    cutLast?_append_single rfl last (by decide)
  rw [String.append_assoc, show "." ++ "rs" = ".rs" from rfl] at cut
  rw [Path.stem, Path.name_along_concat, Path.splitName, cut]
  simp [plain.ne_empty]

theorem stem_of_index (root : Path) (names : List String) :
    (root.along (names ++ ["mod.rs"])).stem = "mod" := by
  rw [Path.stem, Path.name_along_concat]
  rfl

section Located

variable {root file : Path} {names : List String}

/-- The children of a module lie in the directory of its name, as long as its file does not count as
the one of a root module. -/
theorem LiesAt.moduleDirectory_eq (located : LiesAt root names file)
    (plain : ∀ name ∈ names, IsSegment name) (proper : file.stem ∉ ["lib", "main"]) :
    moduleDirectory file = root.along names := by
  cases located with
  | index =>
      rw [moduleDirectory, stem_of_index, Path.parent_along_concat]
      rfl
  | @beside above last other =>
      have lastPlain : IsSegment last := plain last (by simp)
      rw [stem_of_file root above lastPlain] at proper
      rw [moduleDirectory, stem_of_file root above lastPlain, Path.parent_along_concat,
        Path.child_eq_along lastPlain.1, Path.along_along]
      simp_all

/-- The children of a module whose file counts as the one of a root module lie beside it. -/
theorem LiesAt.moduleDirectory_eq_dropLast (located : LiesAt root names file)
    (plain : ∀ name ∈ names, IsSegment name) (asRoot : file.stem ∈ ["lib", "main"]) :
    moduleDirectory file = root.along names.dropLast := by
  cases located with
  | index =>
      rw [stem_of_index] at asRoot
      contradiction
  | @beside above last other =>
      have lastPlain : IsSegment last := plain last (by simp)
      rw [stem_of_file root above lastPlain] at asRoot
      rw [moduleDirectory, stem_of_file root above lastPlain, Path.parent_along_concat,
        List.dropLast_concat]
      simp_all

end Located

/-! ## Following a path from a directory and from the root module -/

section Below

variable {project : Project} {root base : Path} {names path : List String}

theorem eq_singleton_or_several (nonempty : path ≠ []) :
    (∃ name, path = [name]) ∨ ∃ segment next others, path = segment :: next :: others := by
  obtain ⟨segment, rest, rfl⟩ := List.exists_cons_of_ne_nil nonempty
  cases rest with
  | nil => exact Or.inl ⟨segment, rfl⟩
  | cons next others => exact Or.inr ⟨segment, next, others, rfl⟩

theorem locateBelow?_several (several : 2 ≤ path.length) :
    locateBelow? project base path =
      (layout.follow? project.files true base path).map (·.map project.files.absolute) := by
  have nonempty : path ≠ [] := List.ne_nil_of_length_pos (by omega)
  obtain ⟨name, rfl⟩ | ⟨segment, next, others, rfl⟩ := eq_singleton_or_several nonempty
  · simp at several
  · cases found : layout.follow? project.files true base (segment :: next :: others) <;>
      simp [locateBelow?, found, Except.map]

/-- From a directory a path leads where its module is, except that the name of a directory without a
module is taken for an item of the module around it. -/
theorem locateBelow?_eq_follow?_iff (nonempty : path ≠ []) (below : crateRoot project ≠ .ok base)
    (own : moduleFile? project base = layout.packageFile? project.files base) :
    locateBelow? project base path =
        (layout.follow? project.files false base path).map (·.map project.files.absolute) ↔
      ¬Hidden project base path := by
  obtain ⟨name, rfl⟩ | ⟨segment, next, others, rfl⟩ := eq_singleton_or_several nonempty
  · rw [hidden_iff]
    simp only [locateBelow?, Layout.follow?, Layout.lastFile?, own, below, bind, Except.bind, pure,
      Except.pure, ne_eq, not_false_eq_true, true_and]
    rcases project.files.firstFile? (layout.moduleFiles base name) with fault | _ | file
    · simp [Except.map]
    · rcases project.files.isDirectory (base.child name) with fault | _ | _
      · simp [Except.map]
      · simp [Except.map]
      · -- Only behind a directory of that name do the two part.
        rcases project.files.firstFile? (layout.indexPaths (base.child name)) with fault | _ | file
        · simp [Except.map]
        · rcases layout.packageFile? project.files base with fault | _ | file <;> simp [Except.map]
        · simp [Except.map]
    · simp [Except.map]
  · rw [locateBelow?_several (by simp), Layout.follow?_several segment next others true false]
    rw [eq_self_iff_true, true_iff]
    intro hidden
    cases hidden

/-- Where there is no directory, no file is found in it. -/
theorem firstFile?_child_of_not_directory {text : String} (named : IsName text)
    (noDirectory : project.files.isDirectory base = .ok false) (clean : base.hasNull = false) :
    project.files.firstFile? [base.child text] =
      if (base.child text).isTooLong then .error .tooLong else .ok none := by
  have innerClean : (base.along [text]).hasNull = false :=
    Path.hasNull_along_of_isName clean (by simpa using named)
  rw [Path.child_eq_along named, FileTree.firstFile?,
    FileTree.isFile_along_of_isDirectory_false noDirectory (by simp) innerClean]
  cases (base.along [text]).isTooLong <;> rfl

/-- Where there is no directory, a name leads to the module of the file beside it. -/
theorem locateBelow?_iff_not_unreached {file : Path}
    (noDirectory : project.files.isDirectory base = .ok false)
    (own : moduleFile? project base = layout.packageFile? project.files base)
    (beside : project.files.firstFile? (layout.moduleFiles base.parent base.name) = .ok (some file))
    (clean : base.hasNull = false) (nonempty : path ≠ [])
    (plain : ∀ segment ∈ path, IsSegment segment) :
    locateBelow? project base path = .ok (some (project.files.absolute file)) ↔
      ¬Unreached project base path := by
  have noModule {name : String} (namePlain : IsSegment name) :
      project.files.firstFile? (layout.moduleFiles base name) =
        if (base.child (name ++ ".rs")).isTooLong then .error .tooLong else .ok none :=
    firstFile?_child_of_not_directory namePlain.isName_file noDirectory clean
  have noInner {name : String} (namePlain : IsSegment name) :
      project.files.isDirectory (base.child name) =
        if (base.child name).isTooLong then .error .tooLong else .ok false := by
    rw [Path.child_eq_along namePlain.1]
    exact FileTree.isDirectory_along_of_isDirectory_false noDirectory (by simp)
      (Path.hasNull_along_of_isName clean (by simpa using namePlain.1))
  have noIndex : project.files.firstFile? (layout.indexPaths base) =
      if (base.child "mod.rs").isTooLong then .error .tooLong else .ok none :=
    firstFile?_child_of_not_directory (by decide) noDirectory clean
  obtain ⟨name, rfl⟩ | ⟨segment, next, others, rfl⟩ := eq_singleton_or_several nonempty
  · have namePlain : IsSegment name := plain name (by simp)
    rw [unreached_name_iff]
    simp only [locateBelow?, Layout.follow?, Layout.lastFile?, own, Layout.packageFile?,
      noModule namePlain, noInner namePlain, noIndex, beside, bind, Except.bind, pure, Except.pure,
      noDirectory, true_and, List.mem_cons, List.not_mem_nil, or_false, exists_eq_or_imp,
      exists_eq_left]
    cases (base.child (name ++ ".rs")).isTooLong <;> cases (base.child name).isTooLong <;>
      cases (base.child "mod.rs").isTooLong <;> simp
  · have segmentPlain : IsSegment segment := plain segment (by simp)
    have unreached : Unreached project base (segment :: next :: others) :=
      .inside noDirectory (by simp)
    rw [locateBelow?_several (by simp), Layout.follow?, noInner segmentPlain]
    simp only [unreached, not_true_eq_false, iff_false, noModule segmentPlain, bind, Except.bind]
    cases (base.child (segment ++ ".rs")).isTooLong <;>
      cases (base.child segment).isTooLong <;> simp [Except.map]

theorem firstFile?_moduleFiles_of_isFile {above : List String} {last : String}
    (plain : IsSegment last)
    (isFile : project.files.isFile (root.along (above ++ [last ++ ".rs"])) = .ok true) :
    project.files.firstFile? (layout.moduleFiles (root.along above) last) =
      .ok (some (root.along (above ++ [last ++ ".rs"]))) := by
  have only : layout.moduleFiles (root.along above) last =
      [root.along (above ++ [last ++ ".rs"])] := by
    rw [← Path.along_along, ← Path.child_eq_along plain.isName_file]
    rfl
  rw [only, FileTree.firstFile?, isFile]

/-- Where the directory cannot be asked for, nothing in it can be. -/
theorem locateBelow?_of_error {fault : PathFault}
    (refused : project.files.isDirectory base = .error fault) (clean : base.hasNull = false)
    (nonempty : path ≠ []) (plain : ∀ segment ∈ path, IsSegment segment) :
    locateBelow? project base path = .error fault := by
  have refusedBelow {text : String} (named : IsName text) :
      project.files.probe (base.child text) = .error fault := by
    rw [Path.child_eq_along named]
    exact FileTree.probe_along_of_error (FileTree.probe_eq_error_of_isDirectory refused)
      (Path.hasNull_along_of_isName clean (by simpa using named))
  obtain ⟨name, rfl⟩ | ⟨segment, next, others, rfl⟩ := eq_singleton_or_several nonempty
  · have namePlain : IsSegment name := plain name (by simp)
    have noModule : project.files.firstFile? (layout.moduleFiles base name) = .error fault := by
      rw [show layout.moduleFiles base name = [base.child (name ++ ".rs")] from rfl,
        FileTree.firstFile?, FileTree.isFile, refusedBelow namePlain.isName_file]
      rfl
    rw [locateBelow?, Layout.follow?, Layout.lastFile?, noModule]
    rfl
  · have segmentPlain : IsSegment segment := plain segment (by simp)
    rw [locateBelow?_several (by simp), Layout.follow?, FileTree.isDirectory,
      refusedBelow segmentPlain.1]
    rfl

/-- Below the root module, the module file of a directory is that of any package. -/
theorem moduleFile?_along (rooted : crateRoot project = .ok root) (clean : root.hasNull = false)
    (named : ∀ name ∈ names, IsName name) (nonempty : names ≠ []) :
    moduleFile? project (root.along names) =
      layout.packageFile? project.files (root.along names) := by
  have here : project.files.resolve (root.along names) =
      .ok ((project.files.absolute root).along names) := by
    rw [FileTree.resolve, Path.hasNull_along_of_isName clean named,
      FileTree.absolute_along fun name member => (named name member).ne_dots]
    rfl
  have above : project.files.resolve root = .ok (project.files.absolute root) := by
    rw [FileTree.resolve, clean]
    rfl
  have other : (project.files.absolute root).along names ≠ project.files.absolute root := by
    intro same
    exact nonempty (Path.along_injective _ (same.trans (Path.along_nil _).symm))
  simp [moduleFile?, rooted, here, above, other, bind, Except.bind]

/-- What a path leads to from a directory below the root module. -/
theorem locateBelow?_along (named : ∀ name ∈ names, IsName name) (below : names ≠ [])
    (there : project.files.isDirectory (root.along names) = .ok true) (nonempty : path ≠ []) :
    locateBelow? project root (names ++ path) =
      (layout.follow? project.files false (root.along names) path).map
        (·.map project.files.absolute) := by
  have several : 2 ≤ (names ++ path).length := by
    have namesPos := List.length_pos_iff.mpr below
    have pathPos := List.length_pos_iff.mpr nonempty
    rw [List.length_append]
    omega
  rw [locateBelow?_several several, Layout.follow?_along named there nonempty,
    List.isEmpty_eq_false_iff.mpr below, Bool.and_false]

/-- A path from the root module that goes on behind a name is followed in the directory of that name,
or ends at the file of that name. -/
theorem locateBelow?_concat_append {above : List String} {last : String}
    (named : ∀ name ∈ above, IsName name) (lastNamed : IsName last)
    (there : project.files.isDirectory (root.along above) = .ok true) (nonempty : path ≠ []) :
    locateBelow? project root (above ++ [last] ++ path) =
      (do
        if ← project.files.isDirectory (root.along (above ++ [last])) then
          layout.follow? project.files false (root.along (above ++ [last])) path
        else project.files.firstFile? (layout.moduleFiles (root.along above) last) :
          Except PathFault (Option Path)).map (·.map project.files.absolute) := by
  obtain ⟨next, others, rfl⟩ := List.exists_cons_of_ne_nil nonempty
  have several : 2 ≤ (above ++ ([last] ++ next :: others)).length := by
    simp only [List.length_append, List.length_cons]
    omega
  rw [List.append_assoc, locateBelow?_several several, List.singleton_append,
    Layout.follow?_along named there (by simp), Layout.follow?, Path.child_eq_along lastNamed,
    Path.along_along]

/-- From a directory and from the root module a path leads to the same file, unless the directory
hides it. -/
theorem locateBelow?_along_eq_iff (rooted : crateRoot project = .ok root)
    (clean : root.hasNull = false) (named : ∀ name ∈ names, IsName name)
    (there : project.files.isDirectory (root.along names) = .ok true) (nonempty : path ≠ []) :
    locateBelow? project (root.along names) path = locateBelow? project root (names ++ path) ↔
      ¬Hidden project (root.along names) path := by
  by_cases below : names = []
  · rw [below, Path.along_nil, List.nil_append, eq_self_iff_true, true_iff]
    rintro ⟨below, -, -, -, -⟩
    exact below rooted
  · have inside : crateRoot project ≠ .ok (root.along names) := by
      rw [rooted]
      intro same
      exact below (Path.along_injective root ((Except.ok.inj same).symm.trans root.along_nil.symm))
    rw [locateBelow?_along named below there nonempty, locateBelow?_eq_follow?_iff nonempty inside
      (moduleFile?_along rooted clean named below)]

end Below

/-! ## The three spellings -/

section Spellings

variable {project : Project} {root current : Path} {path : List String}

theorem locate?_crate (rooted : crateRoot project = .ok root)
    (plain : ∀ segment ∈ path, IsSegment segment) (current : Path) :
    locate? project (spelled ("crate" :: path)) current = locateBelow? project root path := by
  have segments : ∀ segment ∈ "crate" :: path, IsSegment segment :=
    List.forall_mem_cons.mpr ⟨by decide, plain⟩
  rw [locate?, filter_split_spelled (by simp) segments]
  simp [rooted, bind, Except.bind]

theorem locate?_self (foreign : isOwnName project "self" = false) (nonempty : path ≠ [])
    (plain : ∀ segment ∈ path, IsSegment segment) (current : Path) :
    locate? project (spelled ("self" :: path)) current =
      locateBelow? project (moduleDirectory (project.absolute current)) path := by
  have segments : ∀ segment ∈ "self" :: path, IsSegment segment :=
    List.forall_mem_cons.mpr ⟨by decide, plain⟩
  rw [locate?, filter_split_spelled (by simp) segments]
  simp [foreign, nonempty]

theorem locate?_super (foreign : isOwnName project "super" = false)
    (plain : ∀ segment ∈ path, IsSegment segment) (down : path.head? ≠ some "super")
    (current : Path) :
    locate? project (spelled ("super" :: path)) current =
      locateBelow? project (moduleDirectory (project.absolute current)).parent path := by
  have segments : ∀ segment ∈ "super" :: path, IsSegment segment :=
    List.forall_mem_cons.mpr ⟨by decide, plain⟩
  have stays (base : Path) : climb base path = (base, path) := by
    cases path with
    | nil => rfl
    | cons segment rest => simp_all [climb]
  rw [locate?, filter_split_spelled (by simp) segments]
  simp [foreign, stays]

end Spellings

/-! ## Modules of a crate -/

section Modules

variable {project : Project} {root file current : Path} {names path : List String}

namespace IsModule

theorem named (isModule : IsModule project root names file) : ∀ name ∈ names, IsName name :=
  fun name member => (isModule.segments name member).1

theorem clean (isModule : IsModule project root names file) : root.hasNull = false := by
  obtain ⟨content, found⟩ := FileTree.isFile_eq_ok_true isModule.isFile
  have clean := FileTree.hasNull_of_find? isModule.disk found
  cases isModule.located with
  | index => exact Path.hasNull_of_along clean
  | beside => exact Path.hasNull_of_along clean

/-- The directory of the module around is there. -/
theorem isDirectory_above (isModule : IsModule project root names file) :
    project.files.isDirectory (root.along names.dropLast) = .ok true := by
  have isFile := isModule.isFile
  cases isModule.located with
  | index =>
      have whole := List.dropLast_append_getLast isModule.nonempty
      rw [← whole, List.append_assoc, ← Path.along_along] at isFile
      exact FileTree.isDirectory_of_isFile_along isFile (by simp)
  | beside above =>
      rw [← Path.along_along] at isFile
      rw [List.dropLast_concat]
      exact FileTree.isDirectory_of_isFile_along isFile (by simp)

/-- A module without a directory has its file beside it. -/
theorem exists_of_not_directory (isModule : IsModule project root names file)
    (noDirectory : project.files.isDirectory (root.along names) ≠ .ok true) :
    ∃ above last, names = above ++ [last] ∧ file = root.along (above ++ [last ++ ".rs"]) := by
  have isFile := isModule.isFile
  cases isModule.located with
  | index =>
      rw [← Path.along_along] at isFile
      exact absurd (FileTree.isDirectory_of_isFile_along isFile (by simp)) noDirectory
  | beside above => exact ⟨_, _, rfl, rfl⟩

/-- From the directory of a module and from the root module a path leads to the same file, unless
the directory does not exist or hides it. -/
theorem locateBelow?_eq_iff (isModule : IsModule project root names file) (nonempty : path ≠ [])
    (plain : ∀ segment ∈ path, IsSegment segment) :
    locateBelow? project (root.along names) path = locateBelow? project root (names ++ path) ↔
      ¬(Unreached project (root.along names) path ∨ Hidden project (root.along names) path) := by
  have baseClean := Path.hasNull_along_of_isName isModule.clean isModule.named
  by_cases there : project.files.isDirectory (root.along names) = .ok true
  · have reached : ¬Unreached project (root.along names) path :=
      fun unreached => absurd unreached.isDirectory (by simp [there])
    rw [locateBelow?_along_eq_iff isModule.rooted isModule.clean isModule.named there nonempty]
    simp [reached]
  · have notHidden : ¬Hidden project (root.along names) path :=
      fun hidden => there (hidden.isDirectory plain)
    obtain ⟨above, last, rfl, rfl⟩ := isModule.exists_of_not_directory there
    have outer := isModule.isDirectory_above
    rw [List.dropLast_concat] at outer
    have lastPlain : IsSegment last := isModule.segments last (by simp)
    rw [locateBelow?_concat_append (fun name member => isModule.named name (by simp [member]))
      lastPlain.1 outer nonempty]
    rcases inner : project.files.isDirectory (root.along (above ++ [last])) with fault | _ | _
    · -- Both sides are refused.
      have reached : ¬Unreached project (root.along (above ++ [last])) path :=
        fun unreached => absurd unreached.isDirectory (by simp [inner])
      rw [locateBelow?_of_error inner baseClean nonempty plain]
      simp [reached, notHidden, bind, Except.bind, Except.map]
    · -- The path from the root module ends at the file beside, whatever follows.
      have beside := firstFile?_moduleFiles_of_isFile lastPlain isModule.isFile
      have own := moduleFile?_along isModule.rooted isModule.clean isModule.named (by simp)
      have unreached := locateBelow?_iff_not_unreached inner own
        (by rwa [Path.parent_along_concat, Path.name_along_concat]) baseClean nonempty plain
      simpa [beside, notHidden, bind, Except.bind, Except.map] using unreached
    · exact absurd inner there

/-- The directories on the way to a module hide items, and nothing else. -/
theorem locateBelow?_front_eq_iff (isModule : IsModule project root names file)
    {front later : List String} (parts : names = front ++ later) (beyond : later ≠ [])
    (nonempty : path ≠ []) :
    locateBelow? project (root.along front) path = locateBelow? project root (front ++ path) ↔
      ¬Hidden project (root.along front) path := by
  have there := isModule.isDirectory_above
  rw [parts, List.dropLast_append_of_ne_nil beyond, ← Path.along_along] at there
  have named : ∀ name ∈ front, IsName name :=
    fun name member => isModule.named name (parts ▸ List.mem_append_left later member)
  exact locateBelow?_along_eq_iff isModule.rooted isModule.clean named
    (FileTree.isDirectory_of_along there) nonempty

end IsModule

/-- Two paths lead to the same file, or both nowhere, from a file of the project. -/
def Agree (project : Project) (current : Path) (first second : List String) : Prop :=
  locate? project (spelled first) current = locate? project (spelled second) current

section Agreement

variable (rooted : crateRoot project = .ok root) (item : IsItemPath path)
  (segments : ∀ name ∈ names, IsSegment name)

include rooted item segments

theorem agree_self_iff (foreign : isOwnName project "self" = false) :
    Agree project current ("self" :: path) ("crate" :: (names ++ path)) ↔
      locateBelow? project (moduleDirectory (project.absolute current)) path =
        locateBelow? project root (names ++ path) := by
  have plain : ∀ segment ∈ names ++ path, IsSegment segment :=
    List.forall_mem_append.mpr ⟨segments, item.segments⟩
  rw [Agree, locate?_self foreign item.nonempty item.segments, locate?_crate rooted plain]

theorem agree_super_iff (foreign : isOwnName project "super" = false) :
    Agree project current ("super" :: path) ("crate" :: (names ++ path)) ↔
      locateBelow? project (moduleDirectory (project.absolute current)).parent path =
        locateBelow? project root (names ++ path) := by
  have plain : ∀ segment ∈ names ++ path, IsSegment segment :=
    List.forall_mem_append.mpr ⟨segments, item.segments⟩
  rw [Agree, locate?_super foreign item.segments item.down, locate?_crate rooted plain]

end Agreement

/-- From the file of a module, what `self` and `super` begin leads to the file to which the path of
the module from the root module leads.  A module without a directory, and a directory without a
module, are the exceptions.  A file that is named like that of a root module is read as the module of
its directory. -/
theorem module_paths_agree_unless_hidden (isModule : IsModule project root names file)
    (placed : project.absolute current = file)
    (foreign : ∀ keyword ∈ ["self", "super"], isOwnName project keyword = false)
    (item : IsItemPath path) :
    (file.stem ∉ ["lib", "main"] →
      (Agree project current ("self" :: path) ("crate" :: (names ++ path)) ↔
        ¬(Unreached project (root.along names) path ∨ Hidden project (root.along names) path)) ∧
      (Agree project current ("super" :: path) ("crate" :: (names.dropLast ++ path)) ↔
        ¬Hidden project (root.along names.dropLast) path)) ∧
    (file.stem ∈ ["lib", "main"] →
      (Agree project current ("self" :: path) ("crate" :: (names.dropLast ++ path)) ↔
        ¬Hidden project (root.along names.dropLast) path) ∧
      (names.dropLast ≠ [] →
        (Agree project current ("super" :: path) ("crate" :: (names.dropLast.dropLast ++ path)) ↔
          ¬Hidden project (root.along names.dropLast.dropLast) path))) := by
  have foreignSelf : isOwnName project "self" = false := foreign "self" (by simp)
  have foreignSuper : isOwnName project "super" = false := foreign "super" (by simp)
  obtain ⟨above, last, rfl⟩ : ∃ above last, names = above ++ [last] :=
    ⟨_, _, (List.dropLast_append_getLast isModule.nonempty).symm⟩
  obtain ⟨aboveSegments, -⟩ := List.forall_mem_append.mp isModule.segments
  rw [List.dropLast_concat]
  refine ⟨fun proper => ?_, fun asRoot => ?_⟩
  · have home := isModule.located.moduleDirectory_eq isModule.segments proper
    rw [agree_self_iff isModule.rooted item isModule.segments foreignSelf,
      agree_super_iff isModule.rooted item aboveSegments foreignSuper, placed, home,
      Path.parent_along_concat]
    exact ⟨isModule.locateBelow?_eq_iff item.nonempty item.segments,
      isModule.locateBelow?_front_eq_iff rfl (by simp) item.nonempty⟩
  · have home := isModule.located.moduleDirectory_eq_dropLast isModule.segments asRoot
    rw [List.dropLast_concat] at home
    rw [agree_self_iff isModule.rooted item aboveSegments foreignSelf, placed, home]
    refine ⟨isModule.locateBelow?_front_eq_iff rfl (by simp) item.nonempty, fun below => ?_⟩
    obtain ⟨outer, inner, rfl⟩ : ∃ outer inner, above = outer ++ [inner] :=
      ⟨_, _, (List.dropLast_append_getLast below).symm⟩
    obtain ⟨outerSegments, -⟩ := List.forall_mem_append.mp aboveSegments
    rw [List.dropLast_concat, agree_super_iff isModule.rooted item outerSegments foreignSuper, placed,
      home, Path.parent_along_concat]
    exact isModule.locateBelow?_front_eq_iff (List.append_assoc outer [inner] [last]) (by simp)
      item.nonempty

end Modules

/-- The entries of the source directory of a crate.  The module `io` has a directory, in which `raw`
holds a file and no module; the module `net` has none. -/
def crateEntries : List (String × Entry) :=
  let empty : Entry := .file ByteArray.empty
  [("main.rs", empty), ("net.rs", empty),
    ("io", .directory [("mod.rs", empty), ("main.rs", empty), ("part.rs", empty),
      ("raw", .directory [("part.rs", empty)])])]

/-- The project of the crate. -/
def crateProject : Project :=
  { files :=
      { top := [("p", .directory [("src", .directory crateEntries)])]
        here := Path.ofString "/" }
    root := Path.ofString "/p" }

/-- The directory of the root module of the crate. -/
def crateSource : Path := Path.ofString "/p/src"

theorem wellNamed_crateProject : (Entry.directory crateProject.files.top).WellNamed := by
  have file : (Entry.file ByteArray.empty).WellNamed := .file _
  have raw : (Entry.directory [("part.rs", .file ByteArray.empty)]).WellNamed :=
    .directory (by decide) (by decide) (by simp [file])
  have io : (Entry.directory [("mod.rs", .file ByteArray.empty), ("main.rs", .file ByteArray.empty),
      ("part.rs", .file ByteArray.empty),
      ("raw", .directory [("part.rs", .file ByteArray.empty)])]).WellNamed :=
    .directory (by decide) (by decide) (by simp [file, raw])
  have src : (Entry.directory crateEntries).WellNamed :=
    .directory (by decide) (by decide) (by simp [crateEntries, file, io])
  have root : (Entry.directory [("src", .directory crateEntries)]).WellNamed :=
    .directory (by decide) (by decide) (by simp [src])
  exact .directory (by decide) (by decide) (by simpa [crateProject] using root)

theorem isModule_crateProject {names : List String} {file : Path} (nonempty : names ≠ [])
    (segments : ∀ name ∈ names, IsSegment name) (located : LiesAt crateSource names file)
    (isFile : crateProject.files.isFile file = .ok true) :
    IsModule crateProject crateSource names file where
  disk := wellNamed_crateProject
  rooted := by rfl
  nonempty := nonempty
  segments := segments
  located := located
  isFile := isFile

theorem part_spellings_agree :
    let file := crateSource.along ["io", "part.rs"]
    let current := Path.ofString "src/io/part.rs"
    (IsModule crateProject crateSource ["io", "part"] file ∧ crateProject.absolute current = file ∧
      (∀ keyword ∈ ["self", "super"], isOwnName crateProject keyword = false) ∧
      IsItemPath ["part"] ∧ file.stem ∉ ["lib", "main"]) ∧
    (Agree crateProject current ["self", "part"] ["crate", "io", "part", "part"] ↔
      ¬(Unreached crateProject (crateSource.along ["io", "part"]) ["part"] ∨
        Hidden crateProject (crateSource.along ["io", "part"]) ["part"])) ∧
    (Agree crateProject current ["super", "part"] ["crate", "io", "part"] ↔
      ¬Hidden crateProject (crateSource.along ["io"]) ["part"]) := by
  intro file current
  have isModule : IsModule crateProject crateSource ["io", "part"] file :=
    isModule_crateProject (by simp) (by decide) (.beside ["io"] (by decide)) (by rfl)
  have placed : crateProject.absolute current = file := by decide +kernel
  have foreign : ∀ keyword ∈ ["self", "super"], isOwnName crateProject keyword = false := by decide
  have item : IsItemPath ["part"] := ⟨by simp, by decide, by decide⟩
  have proper : file.stem ∉ ["lib", "main"] := by decide +kernel
  exact ⟨⟨isModule, placed, foreign, item, proper⟩,
    (module_paths_agree_unless_hidden isModule placed foreign item).1 proper⟩

/-- The spellings part where a module has no directory, where a directory has no module, and in a
file that is named like that of a root module. -/
theorem spellings_part_around_directories :
    (IsItemPath ["tcp", "Socket"] ∧ IsModule crateProject crateSource ["net"]
        (crateSource.along ["net.rs"]) ∧
      ¬Agree crateProject (Path.ofString "src/net.rs") ["self", "tcp", "Socket"]
        ["crate", "net", "tcp", "Socket"]) ∧
    (IsItemPath ["raw"] ∧ IsModule crateProject crateSource ["io"]
        (crateSource.along ["io", "mod.rs"]) ∧
      ¬Agree crateProject (Path.ofString "src/io/mod.rs") ["self", "raw"] ["crate", "io", "raw"]) ∧
    (IsModule crateProject crateSource ["io", "part"] (crateSource.along ["io", "part.rs"]) ∧
      ¬Agree crateProject (Path.ofString "src/io/part.rs") ["super", "raw"] ["crate", "io", "raw"]) ∧
    (IsItemPath ["part"] ∧ IsModule crateProject crateSource ["io", "main"]
        (crateSource.along ["io", "main.rs"]) ∧
      ¬Agree crateProject (Path.ofString "src/io/main.rs") ["self", "part"]
        ["crate", "io", "main", "part"]) := by
  have part {current : Path} {first second : List String}
      (other : (locate? crateProject (spelled first) current).toOption ≠
        (locate? crateProject (spelled second) current).toOption) :
      ¬Agree crateProject current first second :=
    fun same => other (congrArg Except.toOption same)
  refine ⟨⟨⟨by simp, by decide, by decide⟩, ?net, part (by decide +kernel)⟩,
    ⟨⟨by simp, by decide, by decide⟩, ?io, part (by decide +kernel)⟩,
    ⟨?inner, part (by decide +kernel)⟩,
    ⟨⟨by simp, by decide, by decide⟩, ?main, part (by decide +kernel)⟩⟩
  case net => exact isModule_crateProject (by simp) (by decide) (.beside [] (by decide)) (by rfl)
  case io => exact isModule_crateProject (by simp) (by decide) (.index ["io"]) (by rfl)
  case inner =>
    exact isModule_crateProject (by simp) (by decide) (.beside ["io"] (by decide)) (by rfl)
  case main =>
    exact isModule_crateProject (by simp) (by decide) (.beside ["io"] (by decide)) (by rfl)

end Rust

end ScopeAtlas.Location
