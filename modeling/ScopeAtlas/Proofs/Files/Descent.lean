import Mathlib.Data.List.Induction
import ScopeAtlas.Proofs.Files.Lookup

/-!
# Above and below a path

What is passed on the way to a file is a directory, and nothing lies below what is no directory.  A
path below one that cannot be asked for cannot be asked for either.
-/

namespace ScopeAtlas.Files

open ScopeAtlas.Text

/-! ## Parts of a way -/

namespace Entry

variable {passed : List Entry} {entry found : Entry} {parts : List String} {name : String}

/-- What is passed on the way to an entry is a directory. -/
theorem exists_directory_of_trace_append {rest : List String}
    (leads : trace passed entry (parts ++ rest) = .found found) (beyond : rest ≠ []) :
    ∃ entries, trace passed entry parts = .found (.directory entries) := by
  fun_induction trace passed entry parts with
  | case1 passed entry =>
      obtain ⟨part, later, rfl⟩ := List.exists_cons_of_ne_nil beyond
      cases entry with
      | file content => cases leads
      | directory entries => exact ⟨entries, rfl⟩
  | case2 => cases leads
  | case3 passed part later entries stays ih =>
      exact ih (by simpa [trace.eq_def _ _ (_ :: _), stays] using leads)
  | case4 part later entries moves up ih =>
      exact ih (by simpa [trace.eq_def _ _ (_ :: _), moves, up] using leads)
  | case5 part later entries moves up outer further ih =>
      exact ih (by simpa [trace.eq_def _ _ (_ :: _), moves, up] using leads)
  | case6 passed part later entries moves down missing =>
      simp [trace.eq_def _ _ (_ :: _), moves, down, missing] at leads
  | case7 passed part later entries moves down inner there ih =>
      exact ih (by simpa [trace.eq_def _ _ (_ :: _), moves, down, there] using leads)

/-- A way that ends at a missing entry or at a file ends there however it continues. -/
theorem trace_append_of_not_found (ends : ∀ found, trace passed entry parts ≠ .found found)
    (rest : List String) : trace passed entry (parts ++ rest) = trace passed entry parts := by
  fun_induction trace passed entry parts with
  | case1 passed entry => exact absurd rfl (ends entry)
  | case2 => rfl
  | case3 passed part later entries stays ih =>
      simpa [trace.eq_def _ _ (_ :: _), stays] using ih ends
  | case4 part later entries moves up ih =>
      simpa [trace.eq_def _ _ (_ :: _), moves, up] using ih ends
  | case5 part later entries moves up outer further ih =>
      simpa [trace.eq_def _ _ (_ :: _), moves, up] using ih ends
  | case6 passed part later entries moves down missing =>
      simp [trace.eq_def _ _ (_ :: _), moves, down, missing]
  | case7 passed part later entries moves down inner there ih =>
      simpa [trace.eq_def _ _ (_ :: _), moves, down, there] using ih ends

end Entry

namespace Path

variable {base : Path} {later : List String}

theorem child_eq_along {name : String} (named : IsName name) (path : Path) :
    path.child name = path.along [name] := by
  have read := ofString_render (List.cons_ne_nil name []) (by simpa using named)
  rw [render_relative (List.cons_ne_nil name []), String.intercalate_singleton] at read
  rw [child, read, join_relative]

theorem along_nil (path : Path) : path.along [] = path := by
  simp [along]

theorem parent_along_concat (root : Path) (names : List String) (name : String) :
    (root.along (names ++ [name])).parent = root.along names := by
  simp [parent, along]

theorem name_along_concat (root : Path) (names : List String) (name : String) :
    (root.along (names ++ [name])).name = name := by
  simp [Path.name, along]

theorem hasNull_along (base : Path) (later : List String) :
    (base.along later).hasNull = (base.hasNull || later.any fun part => part.toList.contains '\x00') :=
  List.any_append

theorem utf8ByteSize_intercalate_le (parts later : List String) :
    (String.intercalate "/" parts).utf8ByteSize ≤
      (String.intercalate "/" (parts ++ later)).utf8ByteSize := by
  by_cases first : parts = []
  · simp [first]
  · by_cases last : later = []
    · simp [last]
    · rw [String.intercalate_append_of_ne_nil first last, String.utf8ByteSize_append,
        String.utf8ByteSize_append]
      omega

theorem render_of_parts_ne_nil {path : Path} (nonempty : path.parts ≠ []) :
    path.render = path.anchor.render ++ String.intercalate "/" path.parts := by
  obtain ⟨anchor, parts⟩ := path
  cases anchor <;> cases parts <;> first | contradiction | rfl

theorem hasNull_along_of_isName (clean : base.hasNull = false) (named : ∀ name ∈ later, IsName name) :
    (base.along later).hasNull = false := by
  rw [hasNull_along, clean, Bool.false_or, List.any_eq_false]
  intro name member
  simpa using (named name member).null_not_mem

theorem hasNull_of_along (clean : (base.along later).hasNull = false) : base.hasNull = false :=
  (Bool.or_eq_false_iff.mp (base.hasNull_along later ▸ clean)).1

/-- A path that is too long stays so with components added to it. -/
theorem isTooLong_along (long : base.isTooLong = true) : (base.along later).isTooLong = true := by
  rw [isTooLong, decide_eq_true_eq] at long ⊢
  by_cases nonempty : base.parts = []
  · -- Without components the path is its anchor, or a dot.
    have short : base.render.utf8ByteSize ≤ 2 := by
      obtain ⟨anchor, parts⟩ := base
      obtain rfl : parts = [] := nonempty
      cases anchor <;> decide
    have limit : longestPath = 4095 := rfl
    omega
  · have further : (base.along later).parts ≠ [] := by simp [along, nonempty]
    have longer := utf8ByteSize_intercalate_le base.parts later
    rw [render_of_parts_ne_nil nonempty, String.utf8ByteSize_append] at long
    rw [render_of_parts_ne_nil further, String.utf8ByteSize_append]
    change longestPath < base.anchor.render.utf8ByteSize +
      (String.intercalate "/" (base.parts ++ later)).utf8ByteSize
    omega

end Path

/-! ## Long names -/

/-- A name of the given length. -/
def nameOfLength (length : Nat) : String := String.ofList (List.replicate length 'd')

theorem eq_of_mem_nameOfLength {length : Nat} {c : Char} (member : c ∈ (nameOfLength length).toList) :
    c = 'd' := by
  rw [nameOfLength, String.toList_ofList] at member
  exact List.eq_of_mem_replicate member

theorem utf8ByteSize_nameOfLength (length : Nat) : (nameOfLength length).utf8ByteSize = length := by
  induction length with
  | zero => rfl
  | succ length ih =>
      have first : (String.singleton 'd').utf8ByteSize = 1 := rfl
      rw [nameOfLength, List.replicate_succ, String.ofList_cons, String.utf8ByteSize_append, first,
        ← nameOfLength, ih]
      omega

theorem isName_nameOfLength {length : Nat} (long : 2 < length) : IsName (nameOfLength length) := by
  refine ⟨fun member => ?_, fun c member => ?_⟩
  · have short : (nameOfLength length).utf8ByteSize ≤ 2 := by
      simp only [List.mem_cons, List.not_mem_nil, or_false] at member
      rcases member with same | same | same <;> rw [same] <;> decide
    rw [utf8ByteSize_nameOfLength] at short
    omega
  · rw [eq_of_mem_nameOfLength member]
    decide

/-! ## Paths below a path -/

namespace FileTree

variable {tree : FileTree} {base : Path} {names later : List String} {entry : Entry}

theorem trace_along (tree : FileTree) (base : Path) (later : List String) :
    tree.trace (base.along later) =
      (Entry.directory tree.top).trace [] ((tree.here.join base).parts ++ later) := by
  rw [trace, Path.join_along, Path.along]

theorem trace_along_of_not_found (ends : ∀ found, tree.trace base ≠ .found found)
    (later : List String) : tree.trace (base.along later) = tree.trace base := by
  rw [trace_along, Entry.trace_append_of_not_found ends, ← trace]

/-- What can be asked for below a path can be asked for above. -/
theorem probe_of_trace (here : tree.trace base = .found entry)
    (clean : (base.along later).hasNull = false) (short : (base.along later).isTooLong = false) :
    tree.probe base = .ok (some entry) := by
  refine probe_eq_ok_some_iff.mpr ⟨find?_eq_some_iff.mpr here, Path.hasNull_of_along clean, ?_⟩
  rw [Bool.eq_false_iff] at short ⊢
  exact fun long => short (Path.isTooLong_along long)

theorem isDirectory_of_probe {path : Path} {entries : List (String × Entry)}
    (found : tree.probe path = .ok (some (.directory entries))) : tree.isDirectory path = .ok true := by
  rw [isDirectory, found]
  rfl

/-- A path that leads somewhere on a disk holds no null character. -/
theorem hasNull_of_find? {path : Path} (disk : (Entry.directory tree.top).WellNamed)
    (found : tree.find? path = some entry) : path.hasNull = false := by
  have clean := (Entry.WellNamed.of_trace (by simp) disk (find?_eq_some_iff.mp found)).2
  rw [Path.hasNull, List.any_eq_false]
  intro part member
  rw [List.contains_iff_mem]
  apply clean part
  rw [Path.join]
  split
  · exact member
  · exact List.mem_append_right _ member

/-- The directories on the way to an entry are there. -/
theorem isDirectory_of_probe_along (found : tree.probe (base.along later) = .ok (some entry))
    (beyond : later ≠ []) : tree.isDirectory base = .ok true := by
  obtain ⟨leads, clean, short⟩ := probe_eq_ok_some_iff.mp found
  rw [find?_eq_some_iff, trace_along] at leads
  obtain ⟨entries, there⟩ := Entry.exists_directory_of_trace_append leads beyond
  exact isDirectory_of_probe (probe_of_trace there clean short)

theorem isDirectory_of_isFile_along (there : tree.isFile (base.along later) = .ok true)
    (beyond : later ≠ []) : tree.isDirectory base = .ok true := by
  obtain ⟨entry, found, _⟩ := exists_probe_of_any there
  exact isDirectory_of_probe_along found beyond

theorem isDirectory_of_along (there : tree.isDirectory (base.along later) = .ok true) :
    tree.isDirectory base = .ok true := by
  obtain ⟨entry, found, _⟩ := exists_probe_of_any there
  by_cases beyond : later = []
  · rwa [beyond, Path.along_nil] at there
  · exact isDirectory_of_probe_along found beyond

/-- Where there is no directory, nothing lies below. -/
theorem probe_along_of_isDirectory_false (noDirectory : tree.isDirectory base = .ok false)
    (beyond : later ≠ []) (clean : (base.along later).hasNull = false) :
    tree.probe (base.along later) =
      if (base.along later).isTooLong then .error .tooLong else .ok none := by
  have baseClean := Path.hasNull_of_along clean
  cases short : (base.along later).isTooLong with
  | true => simp [probe, clean, short]
  | false =>
      have baseShort : base.isTooLong = false :=
        Bool.eq_false_iff.mpr fun long => Bool.eq_false_iff.mp short (Path.isTooLong_along long)
      cases here : tree.trace base with
      | found entry =>
          cases entry with
          | directory entries =>
              rw [isDirectory_of_probe (probe_of_trace here clean short)] at noDirectory
              cases noDirectory
          | file content =>
              obtain ⟨above, further⟩ := Entry.trace_append here
              obtain ⟨part, rest, rfl⟩ := List.exists_cons_of_ne_nil beyond
              rw [probe, trace_along, further]
              simp [Entry.trace, clean, short]
      | missing name =>
          have shortName : isTooLongName name = false := by
            cases long : isTooLongName name with
            | false => rfl
            | true =>
                simp [isDirectory, probe, here, baseClean, baseShort, long, Except.map]
                  at noDirectory
          rw [probe, trace_along_of_not_found (by simp [here]), here]
          simp [clean, short, shortName]
      | belowFile =>
          rw [probe, trace_along_of_not_found (by simp [here]), here]
          simp [clean, short]

/-- Below a path that cannot be asked for, no path can be. -/
theorem probe_along_of_error {fault : PathFault} (refused : tree.probe base = .error fault)
    (clean : (base.along later).hasNull = false) : tree.probe (base.along later) = .error fault := by
  have baseClean := Path.hasNull_of_along clean
  rw [probe] at refused
  simp only [baseClean, Bool.false_eq_true, if_false] at refused
  cases long : base.isTooLong with
  | true => simpa [probe, clean, Path.isTooLong_along long, long] using refused
  | false =>
      cases here : tree.trace base with
      | found entry => simp [long, here] at refused
      | belowFile => simp [long, here] at refused
      | missing name =>
          cases longName : isTooLongName name with
          | false => simp [long, here, longName] at refused
          | true =>
              rw [probe, trace_along_of_not_found (by simp [here]), here]
              simpa [long, here, longName, clean] using refused

theorem isFile_along_of_isDirectory_false (noDirectory : tree.isDirectory base = .ok false)
    (beyond : later ≠ []) (clean : (base.along later).hasNull = false) :
    tree.isFile (base.along later) =
      if (base.along later).isTooLong then .error .tooLong else .ok false := by
  rw [isFile, probe_along_of_isDirectory_false noDirectory beyond clean]
  split <;> rfl

theorem isDirectory_along_of_isDirectory_false (noDirectory : tree.isDirectory base = .ok false)
    (beyond : later ≠ []) (clean : (base.along later).hasNull = false) :
    tree.isDirectory (base.along later) =
      if (base.along later).isTooLong then .error .tooLong else .ok false := by
  rw [isDirectory, probe_along_of_isDirectory_false noDirectory beyond clean]
  split <;> rfl

/-- Asking for a directory is refused when the path is. -/
theorem probe_eq_error_of_isDirectory {fault : PathFault}
    (refused : tree.isDirectory base = .error fault) : tree.probe base = .error fault := by
  rw [isDirectory] at refused
  cases probed : tree.probe base with
  | error other =>
      rw [probed] at refused
      rw [Except.error.inj refused]
  | ok found =>
      rw [probed] at refused
      cases refused

/-! ### Paths that cannot be asked for -/

/-- The path is too long to be asked for. -/
def Refuses (tree : FileTree) (path : Path) : Prop := tree.isFile path = .error .tooLong

theorem eq_tooLong_of_probe {path : Path} {fault : PathFault}
    (refused : tree.probe path = .error fault) : fault = .tooLong := by
  simp only [probe] at refused
  grind

/-- A path names a file, or none, or is too long to be asked for. -/
theorem isFile_cases (tree : FileTree) (path : Path) :
    tree.isFile path = .ok true ∨ tree.isFile path = .ok false ∨ tree.Refuses path := by
  rw [Refuses, isFile]
  cases probed : tree.probe path with
  | error fault =>
      obtain rfl := eq_tooLong_of_probe probed
      exact Or.inr (Or.inr rfl)
  | ok found =>
      cases kind : found.any Entry.isFile
      · exact Or.inr (Or.inl (by simp [Except.map, kind]))
      · exact Or.inl (by simp [Except.map, kind])

theorem firstFile?_of_absent {paths : List Path}
    (absent : ∀ path ∈ paths, tree.isFile path = .ok false) : tree.firstFile? paths = .ok none := by
  induction paths with
  | nil => rfl
  | cons path rest ih =>
      obtain ⟨here, later⟩ := List.forall_mem_cons.mp absent
      rw [firstFile?, here]
      exact ih later

/-- Where none of the paths names a file, one that is refused is met. -/
theorem firstFile?_of_refuses {paths : List Path}
    (free : ∀ path ∈ paths, tree.isFile path ≠ .ok true)
    (refused : ∃ path ∈ paths, tree.Refuses path) : tree.firstFile? paths = .error .tooLong := by
  induction paths with
  | nil => simp at refused
  | cons path rest ih =>
      obtain ⟨here, later⟩ := List.forall_mem_cons.mp free
      rw [firstFile?]
      rcases tree.isFile_cases path with held | absent | refusedHere
      · exact absurd held here
      · rw [absent]
        rw [List.exists_mem_cons_iff] at refused
        refine ih later (refused.resolve_left fun refusedHere => ?_)
        rw [Refuses, absent] at refusedHere
        contradiction
      · rw [refusedHere]

theorem eq_tooLong_of_firstFile? {paths : List Path} {fault : PathFault}
    (refused : tree.firstFile? paths = .error fault) : fault = .tooLong := by
  induction paths with
  | nil => cases refused
  | cons path rest ih =>
      rw [firstFile?] at refused
      rcases tree.isFile_cases path with held | absent | refusedHere
      · rw [held] at refused
        cases refused
      · rw [absent] at refused
        exact ih refused
      · rw [refusedHere] at refused
        exact (Except.error.inj refused).symm

theorem absolute_along (down : ∀ name ∈ names, name ≠ "..") :
    tree.absolute (base.along names) = (tree.absolute base).along names := by
  induction names using List.reverseRec with
  | nil => simp only [Path.along_nil]
  | append_singleton front last ih =>
      rw [← Path.along_along, absolute_along_name (down last (by simp)),
        ih fun name member => down name (List.mem_append_left _ member), Path.along_along]

end FileTree

end ScopeAtlas.Files
