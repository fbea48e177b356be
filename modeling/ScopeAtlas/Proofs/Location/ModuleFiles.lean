import ScopeAtlas.Proofs.Location.Locality
import ScopeAtlas.Proofs.Location.ModulePaths

/-!
# Files of modules

Naming a module and finding it undo each other.  The path from the root module to the file of a
module leads back to that file, whatever else lies beside it on the way, and whichever name of the
root module the path begins with.  The file beside the directory of a module comes first, so it is
asked for before the index file of the directory is, and where its name is too long no answer is
given.
-/

namespace ScopeAtlas.Location.Rust

open ScopeAtlas.Files ScopeAtlas.Text

/-- What stands for the root module at the beginning of a path: the keyword, or the name of the
crate, which holds no separator. -/
inductive BeginsAtRoot (project : Project) : String → Prop where
  | keyword : BeginsAtRoot project "crate"
  | ownName {name : String} (named : project.manifest.properName? = some name)
      (plain : ':' ∉ name.toList) : BeginsAtRoot project name

section Files

variable {project : Project} {root current : Path} {head last : String} {above path : List String}

namespace BeginsAtRoot

theorem isRoot (begins : BeginsAtRoot project head) :
    (head == "crate" || isOwnName project head) = true := by
  cases begins with
  | keyword => rfl
  | ownName named plain => simp [isOwnName, named]

theorem colon_not_mem (begins : BeginsAtRoot project head) : ':' ∉ head.toList := by
  cases begins with
  | keyword => decide
  | ownName named plain => exact plain

theorem ne_empty (begins : BeginsAtRoot project head) : head ≠ "" := by
  rintro rfl
  have opens := begins.isRoot
  rw [not_isOwnName_empty] at opens
  contradiction

end BeginsAtRoot

/-- A path that begins at the root module is followed from its directory. -/
theorem locate?_of_beginsAtRoot (rooted : crateRoot project = .ok root)
    (begins : BeginsAtRoot project head) (plain : ∀ segment ∈ path, IsSegment segment)
    (current : Path) :
    locate? project (spelled (head :: path)) current = locateBelow? project root path := by
  have pieces : split "::" (spelled (head :: path)) = head :: path :=
    split_intercalate_pair rfl (by simp) <|
      List.forall_mem_cons.mpr ⟨begins.colon_not_mem, fun name member => (plain name member).2⟩
  have kept : (head :: path).filter (!·.isEmpty) = head :: path := by
    rw [List.filter_eq_self]
    simpa [String.isEmpty_iff] using
      And.intro begins.ne_empty fun name member => (plain name member).ne_empty
  rw [locate?, pieces, kept]
  simp [begins.isRoot, rooted, bind, Except.bind]

/-- A name leads to the file of that name, or else to the index file of the directory of that name.
The first is asked for in any case. -/
theorem lastFile?_of_index (plain : IsSegment last)
    (index : project.files.isFile (root.along (above ++ [last, "mod.rs"])) = .ok true)
    (first : Bool) :
    layout.lastFile? project.files first (root.along above) last =
      ((project.files.isFile (root.along (above ++ [last ++ ".rs"]))).map fun beside =>
        root.along (above ++ if beside then [last ++ ".rs"] else [last, "mod.rs"])).map some := by
  have besideOnly : layout.moduleFiles (root.along above) last =
      [root.along (above ++ [last ++ ".rs"])] := by
    rw [← Path.along_along, ← Path.child_eq_along plain.isName_file]
    rfl
  have inner : (root.along above).child last = root.along (above ++ [last]) := by
    rw [Path.child_eq_along plain.1, Path.along_along]
  have indexOnly : layout.indexPaths (root.along (above ++ [last])) =
      [root.along (above ++ [last, "mod.rs"])] := by
    rw [show layout.indexPaths (root.along (above ++ [last])) =
      [(root.along (above ++ [last])).child "mod.rs"] from rfl, Path.child_eq_along (by decide),
      Path.along_along, List.append_assoc]
    rfl
  have there : project.files.isDirectory (root.along (above ++ [last])) = .ok true := by
    rw [← List.singleton_append, ← List.append_assoc, ← Path.along_along] at index
    exact FileTree.isDirectory_of_isFile_along index (by simp)
  simp only [Layout.lastFile?, besideOnly, inner, there, indexOnly, FileTree.firstFile?, index]
  rcases project.files.isFile (root.along (above ++ [last ++ ".rs"])) with fault | _ | _ <;> rfl

/-- What the last name of a path leads to in the directory of the names before it, the whole path
leads to from the root module. -/
theorem locateBelow?_concat_of_lastFile? {answer : Except PathFault Path}
    (named : ∀ name ∈ above, IsName name)
    (there : project.files.isDirectory (root.along above) = .ok true)
    (leads : ∀ first,
      layout.lastFile? project.files first (root.along above) last = answer.map some) :
    locateBelow? project root (above ++ [last]) =
      answer.map fun file => some (project.files.absolute file) := by
  by_cases below : above = []
  · subst below
    have here := leads true
    rw [Path.along_nil] at here
    rw [List.nil_append, locateBelow?, Layout.follow?, here]
    cases answer <;> rfl
  · rw [locateBelow?_along named below there (by simp), Layout.follow?, leads false]
    cases answer <;> rfl

/-- The path from the root module to a file leads back to that file.  The path to the index file of
a directory does so where no file lies beside the directory, unless the name of such a file would be
too long. -/
theorem module_files_found_unless_refused (rooted : crateRoot project = .ok root)
    (begins : BeginsAtRoot project head) (segments : ∀ name ∈ above ++ [last], IsSegment name)
    (current : Path) :
    let beside := root.along (above ++ [last ++ ".rs"])
    let index := root.along (above ++ [last, "mod.rs"])
    let found := locate? project (spelled (head :: (above ++ [last]))) current
    (project.files.isFile beside = .ok true →
      found = .ok (some (project.files.absolute beside))) ∧
    (project.files.isFile index = .ok true → project.files.isFile beside ≠ .ok true →
      (found = .ok (some (project.files.absolute index)) ↔ ¬project.files.Refuses beside)) := by
  intro beside index found
  have whole : found = locateBelow? project root (above ++ [last]) :=
    locate?_of_beginsAtRoot rooted begins segments current
  obtain ⟨aboveSegments, lastSegment⟩ := List.forall_mem_append.mp segments
  have named : ∀ name ∈ above, IsName name := fun name member => (aboveSegments name member).1
  have lastPlain : IsSegment last := lastSegment last (by simp)
  -- A file below a directory shows that the directory is there.
  have there {later : List String} (beyond : later ≠ [])
      (isFile : project.files.isFile (root.along (above ++ later)) = .ok true) :
      project.files.isDirectory (root.along above) = .ok true := by
    rw [← Path.along_along] at isFile
    exact FileTree.isDirectory_of_isFile_along isFile beyond
  rw [whole]
  refine ⟨fun isFile => ?beside, fun isFile alone => ?index⟩
  case beside =>
    have leads (first : Bool) : layout.lastFile? project.files first (root.along above) last =
        (Except.ok beside : Except PathFault Path).map some := by
      rw [Layout.lastFile?, firstFile?_moduleFiles_of_isFile lastPlain isFile]
      rfl
    exact locateBelow?_concat_of_lastFile? named (there (by simp) isFile) leads
  case index =>
    rw [locateBelow?_concat_of_lastFile? named (there (by simp) isFile)
      (lastFile?_of_index lastPlain isFile)]
    rcases project.files.isFile_cases beside with held | free | refused
    · exact absurd held alone
    · have asked : ¬project.files.Refuses beside := by simp [FileTree.Refuses, free]
      rw [free]
      exact iff_of_true rfl asked
    · refine iff_of_false ?_ (not_not.mpr refused)
      rw [refused]
      simp [Except.map]

/-- The project of the crate, with the name that its manifest gives. -/
def namedCrate : Project := { crateProject with manifest := { name := .text "atlas" } }

/-- A module beside its directory is found by the keyword, and one in a directory by the name of the
crate. -/
theorem io_found_by_crate_name :
    let current := Path.ofString "src/main.rs"
    let index := crateSource.along ["io", "mod.rs"]
    (crateRoot namedCrate = .ok crateSource ∧ BeginsAtRoot namedCrate "atlas" ∧
      (∀ name ∈ ["io"], IsSegment name) ∧ namedCrate.files.isFile index = .ok true ∧
      namedCrate.files.isFile (crateSource.along ["io.rs"]) ≠ .ok true ∧
      ¬namedCrate.files.Refuses (crateSource.along ["io.rs"])) ∧
    locate? namedCrate (spelled ["atlas", "io"]) current =
      .ok (some (namedCrate.files.absolute index)) := by
  intro current index
  have rooted : crateRoot namedCrate = .ok crateSource := by rfl
  have begins : BeginsAtRoot namedCrate "atlas" := .ownName (by rfl) (by decide)
  have segments : ∀ name ∈ [] ++ ["io"], IsSegment name := by decide
  have isFile : namedCrate.files.isFile index = .ok true := by rfl
  have free : namedCrate.files.isFile (crateSource.along ["io.rs"]) = .ok false := by rfl
  have alone : namedCrate.files.isFile (crateSource.along ["io.rs"]) ≠ .ok true := by simp [free]
  have asked : ¬namedCrate.files.Refuses (crateSource.along ["io.rs"]) := by
    simp [FileTree.Refuses, free]
  refine ⟨⟨rooted, begins, segments, isFile, alone, asked⟩, ?_⟩
  exact ((module_files_found_unless_refused rooted begins segments current).2 isFile alone).mpr asked

/-- A crate with a module in a directory of the given name. -/
def crateWith (name : String) : Project :=
  { files :=
      { top := [("p", .directory [("src", .directory [
          (name, .directory [("mod.rs", .file ByteArray.empty)]),
          ("main.rs", .file ByteArray.empty)])])]
        here := Path.ofString "/" }
    root := Path.ofString "/p" }

theorem crateSource_eq : crateSource = ⟨.root, ["p", "src"]⟩ := by rfl

section Long

variable {name : String}

theorem isFile_crateWith_index (plain : IsSegment name)
    (short : (crateSource.along [name, "mod.rs"]).isTooLong = false) :
    (crateWith name).files.isFile (crateSource.along [name, "mod.rs"]) = .ok true := by
  have leads : (crateWith name).files.trace (crateSource.along [name, "mod.rs"]) =
      .found (.file ByteArray.empty) := by
    simp [crateSource_eq, crateWith, FileTree.trace, Path.join, Path.isAbsolute, Path.along,
      Entry.trace, plain.1.ne_dot, plain.1.ne_dots]
  have clean : (crateSource.along [name, "mod.rs"]).hasNull = false :=
    Path.hasNull_along_of_isName (by rfl) (by simpa using ⟨plain.1, by decide⟩)
  rw [FileTree.isFile, FileTree.probe, leads]
  simp [clean, short, Except.map, Entry.isFile]

/-- Where the ending of a module file makes the name too long, the file beside the directory is
refused. -/
theorem refuses_crateWith_beside (plain : IsSegment name)
    (long : isTooLongName (name ++ ".rs") = true) :
    (crateWith name).files.Refuses (crateSource.along [name ++ ".rs"]) := by
  have longer : name ++ ".rs" ≠ name := fun same => by
    have lengths := congrArg String.length same
    simp at lengths
  have notMain : name ++ ".rs" ≠ "main.rs" := fun same => by
    rw [same] at long
    contradiction
  have leads : (crateWith name).files.trace (crateSource.along [name ++ ".rs"]) =
      .missing (name ++ ".rs") := by
    simp [crateSource_eq, crateWith, FileTree.trace, Path.join, Path.isAbsolute, Path.along,
      Entry.trace, List.lookup_cons, plain.isName_file.ne_dot, plain.isName_file.ne_dots,
      beq_eq_false_iff_ne.mpr longer, beq_eq_false_iff_ne.mpr notMain]
  have clean : (crateSource.along [name ++ ".rs"]).hasNull = false :=
    Path.hasNull_along_of_isName (by rfl) (by simpa using plain.isName_file)
  rw [FileTree.Refuses, FileTree.isFile, FileTree.probe, leads]
  simp [clean, long, Except.map]

end Long

/-- The module in a directory of a long name is not found. -/
theorem long_directory_is_refused :
    let name := nameOfLength 253
    let project := crateWith name
    (crateRoot project = .ok crateSource ∧ IsSegment name ∧
      project.files.isFile (crateSource.along [name, "mod.rs"]) = .ok true ∧
      project.files.isFile (crateSource.along [name ++ ".rs"]) ≠ .ok true) ∧
    locate? project (spelled ["crate", name]) (Path.ofString "src/main.rs") = .error .tooLong := by
  intro name project
  have rooted : crateRoot project = .ok crateSource := by rfl
  have plain : IsSegment name :=
    ⟨isName_nameOfLength (by decide), fun member => by simpa using eq_of_mem_nameOfLength member⟩
  have long : isTooLongName (name ++ ".rs") = true := by
    rw [isTooLongName, String.utf8ByteSize_append, utf8ByteSize_nameOfLength]
    rfl
  have isFile : project.files.isFile (crateSource.along ([] ++ [name, "mod.rs"])) = .ok true :=
    isFile_crateWith_index plain (by decide +kernel)
  have refused : project.files.isFile (crateSource.along [name ++ ".rs"]) = .error .tooLong :=
    refuses_crateWith_beside plain long
  have leads (first : Bool) : layout.lastFile? project.files first (crateSource.along []) name =
      (Except.error .tooLong : Except PathFault Path).map some := by
    rw [lastFile?_of_index plain isFile first, List.nil_append, refused]
    rfl
  have there : project.files.isDirectory (crateSource.along []) = .ok true := by rfl
  have found := locateBelow?_concat_of_lastFile? (by simp) there leads
  refine ⟨⟨rooted, plain, isFile, by simp [refused]⟩, ?_⟩
  rw [locate?_of_beginsAtRoot rooted .keyword (by simpa using plain)]
  exact found

end Files

end ScopeAtlas.Location.Rust
