import ScopeAtlas.Files.FileTree
import ScopeAtlas.Proofs.Data.Tables
import ScopeAtlas.Proofs.Text.Cutting

/-!
# Names on a disk

On a disk the entries of a directory have different names, and a name holds neither a slash nor a
null character and is none of the components that stay or lead up.  A relative or an absolute path
made of such names is read back as it was written.
-/

namespace ScopeAtlas.Files

open ScopeAtlas.Data ScopeAtlas.Text

/-- The text can be the name of an entry on a disk. -/
def IsName (name : String) : Prop :=
  name ∉ ["", ".", ".."] ∧ ∀ c ∈ name.toList, c ≠ '/' ∧ c ≠ '\x00'

instance (name : String) : Decidable (IsName name) :=
  -- The characters of the name are looked at, not all that there are.
  have := List.decidableBAll (fun c => c ≠ '/' ∧ c ≠ '\x00') name.toList
  inferInstanceAs (Decidable (_ ∧ _))

namespace IsName

variable {name : String}

theorem ne_empty (named : IsName name) : name ≠ "" := by
  rintro rfl
  exact named.1 (by simp)

theorem ne_dot (named : IsName name) : name ≠ "." := by
  rintro rfl
  exact named.1 (by simp)

theorem ne_dots (named : IsName name) : name ≠ ".." := by
  rintro rfl
  exact named.1 (by simp)

theorem slash_not_mem (named : IsName name) : '/' ∉ name.toList :=
  fun member => (named.2 '/' member).1 rfl

theorem null_not_mem (named : IsName name) : '\x00' ∉ name.toList :=
  fun member => (named.2 '\x00' member).2 rfl

end IsName

/-! ## Trees with names -/

namespace Entry

/-- What a disk guarantees of a file or a directory: names are names, and no two entries of one
directory share theirs. -/
inductive WellNamed : Entry → Prop where
  | file (content : ByteArray) : WellNamed (.file content)
  | directory {entries : List (String × Entry)}
      (distinct : (entries.map (·.1)).Nodup)
      (named : ∀ item ∈ entries, IsName item.1)
      (inner : ∀ item ∈ entries, WellNamed item.2) : WellNamed (.directory entries)

/-- On a disk every entry of a directory is the one of its name. -/
theorem WellNamed.lookup_eq {entries : List (String × Entry)} {name : String} {inner : Entry}
    (named : (Entry.directory entries).WellNamed) (member : (name, inner) ∈ entries) :
    entries.lookup name = some inner := by
  cases named with
  | directory distinct _ _ => exact (lookup_eq_some_iff_mem distinct).mpr member

theorem WellNamed.of_lookup {entries : List (String × Entry)} {name : String} {inner : Entry}
    (named : (Entry.directory entries).WellNamed) (found : entries.lookup name = some inner) :
    IsName name ∧ inner.WellNamed := by
  have member := mem_of_lookup found
  cases named with
  | directory distinct names nested => exact ⟨names _ member, nested _ member⟩

/-- A path that leads somewhere on a disk leads to what the disk guarantees and holds no null
character. -/
theorem WellNamed.of_trace {passed : List Entry} {entry found : Entry} {parts : List String}
    (above : ∀ outer ∈ passed, outer.WellNamed) (named : entry.WellNamed)
    (leads : trace passed entry parts = .found found) :
    found.WellNamed ∧ ∀ part ∈ parts, '\x00' ∉ part.toList := by
  fun_induction trace passed entry parts with
  | case1 passed entry =>
      obtain rfl := Trace.found.inj leads
      exact ⟨named, by simp⟩
  | case2 => contradiction
  | case3 passed part rest entries stays ih =>
      obtain ⟨foundNamed, clean⟩ := ih above named leads
      exact ⟨foundNamed, List.forall_mem_cons.mpr ⟨by rw [eq_of_beq stays]; decide, clean⟩⟩
  | case4 part rest entries _ up ih =>
      obtain ⟨foundNamed, clean⟩ := ih above named leads
      exact ⟨foundNamed, List.forall_mem_cons.mpr ⟨by rw [eq_of_beq up]; decide, clean⟩⟩
  | case5 part rest entries _ up outer further ih =>
      obtain ⟨outerNamed, furtherNamed⟩ := List.forall_mem_cons.mp above
      obtain ⟨foundNamed, clean⟩ := ih furtherNamed outerNamed leads
      exact ⟨foundNamed, List.forall_mem_cons.mpr ⟨by rw [eq_of_beq up]; decide, clean⟩⟩
  | case6 => contradiction
  | case7 passed part rest entries _ _ inner there ih =>
      obtain ⟨partNamed, innerNamed⟩ := named.of_lookup there
      have passedNamed := List.forall_mem_cons.mpr ⟨named, above⟩
      obtain ⟨foundNamed, clean⟩ := ih passedNamed innerNamed leads
      exact ⟨foundNamed, List.forall_mem_cons.mpr ⟨partNamed.null_not_mem, clean⟩⟩

/-- What lies beyond an entry that was found is looked for from there. -/
theorem trace_append {passed : List Entry} {entry found : Entry} {parts : List String}
    (leads : trace passed entry parts = .found found) :
    ∃ above, ∀ rest, trace passed entry (parts ++ rest) = trace above found rest := by
  fun_induction trace passed entry parts with
  | case1 passed entry =>
      obtain rfl := Trace.found.inj leads
      exact ⟨passed, fun rest => rfl⟩
  | case2 => contradiction
  | case3 passed part rest entries stays ih =>
      obtain ⟨above, beyond⟩ := ih leads
      exact ⟨above, fun rest => by simp [trace.eq_def _ _ (_ :: _), stays, beyond]⟩
  | case4 part rest entries moves up ih =>
      obtain ⟨above, beyond⟩ := ih leads
      exact ⟨above, fun rest => by simp [trace.eq_def _ _ (_ :: _), moves, up, beyond]⟩
  | case5 part rest entries moves up outer further ih =>
      obtain ⟨above, beyond⟩ := ih leads
      exact ⟨above, fun rest => by simp [trace.eq_def _ _ (_ :: _), moves, up, beyond]⟩
  | case6 => contradiction
  | case7 passed part rest entries moves down inner there ih =>
      obtain ⟨above, beyond⟩ := ih leads
      exact ⟨above, fun rest => by simp [trace.eq_def _ _ (_ :: _), moves, down, there, beyond]⟩

end Entry

/-! ## Paths made of names -/

namespace Path

theorem join_relative (first : Path) (parts : List String) :
    first.join ⟨.relative, parts⟩ = first.along parts := rfl

theorem along_along (first : Path) (parts later : List String) :
    (first.along parts).along later = first.along (parts ++ later) := by
  simp [along]

theorem along_injective (first : Path) : Function.Injective first.along := by
  intro parts others same
  simpa [along] using same

variable {names : List String}

theorem render_relative (nonempty : names ≠ []) :
    render ⟨.relative, names⟩ = String.intercalate "/" names := by
  cases names with
  | nil => contradiction
  | cons name rest => simp [render, Anchor.render]

/-- A text of names does not begin with a slash. -/
theorem exists_start_intercalate (nonempty : names ≠ []) (named : ∀ name ∈ names, IsName name) :
    ∃ c later, (String.intercalate "/" names).toList = c :: later ∧ c ≠ '/' := by
  cases names with
  | nil => contradiction
  | cons name rest =>
      have nameNamed := named name List.mem_cons_self
      -- The text begins with the first character of the first name, which is no slash.
      obtain ⟨c, cs, spelled⟩ := List.exists_cons_of_ne_nil
        (fun blank => nameNamed.ne_empty (String.toList_inj.mp blank) : name.toList ≠ [])
      have plain : c ≠ '/' := (nameNamed.2 c (by simp [spelled])).1
      obtain ⟨later, text⟩ :
          ∃ later, (String.intercalate "/" (name :: rest)).toList = c :: later := by
        rw [String.toList_intercalate, List.map_cons, spelled]
        cases rest <;> simp [List.intercalate_cons_cons]
      exact ⟨c, later, text, plain⟩

theorem filter_names (named : ∀ name ∈ names, IsName name) :
    names.filter (fun part => part != "" && part != ".") = names := by
  rw [List.filter_eq_self]
  intro name member
  simp [(named name member).ne_empty, (named name member).ne_dot]

/-- A relative path made of names is read back as it was written. -/
theorem ofString_render (nonempty : names ≠ []) (named : ∀ name ∈ names, IsName name) :
    ofString (render ⟨.relative, names⟩) = ⟨.relative, names⟩ := by
  have pieces : split "/" (String.intercalate "/" names) = names :=
    split_intercalate rfl nonempty fun name member => (named name member).slash_not_mem
  have anchored : anchorOf (String.intercalate "/" names) = .relative := by
    obtain ⟨c, later, text, plain⟩ := exists_start_intercalate nonempty named
    simp [anchorOf, startsWith, text, plain.symm]
  rw [render_relative nonempty, ofString, anchored, pieces, filter_names named]

/-- So is an absolute one. -/
theorem ofString_render_root (nonempty : names ≠ []) (named : ∀ name ∈ names, IsName name) :
    ofString (render ⟨.root, names⟩) = ⟨.root, names⟩ := by
  have text : render ⟨.root, names⟩ = "/" ++ String.intercalate "/" names := by
    simp [render, Anchor.render]
  have asPieces : "/" ++ String.intercalate "/" names = String.intercalate "/" ("" :: names) := by
    cases names with
    | nil => contradiction
    | cons name rest => simp [String.intercalate_cons_cons]
  have pieces : split "/" (String.intercalate "/" ("" :: names)) = "" :: names := by
    refine split_intercalate rfl (by simp) (List.forall_mem_cons.mpr ⟨by simp, ?_⟩)
    exact fun name member => (named name member).slash_not_mem
  have anchored : anchorOf ("/" ++ String.intercalate "/" names) = .root := by
    obtain ⟨c, later, text, plain⟩ := exists_start_intercalate nonempty named
    simp [anchorOf, startsWith, text, plain.symm]
  rw [text, ofString, anchored, asPieces, pieces, List.filter_cons, if_neg (by simp),
    filter_names named]

end Path

/-! ## Paths that lead somewhere -/

namespace FileTree

theorem find?_eq_some_iff {tree : FileTree} {path : Path} {entry : Entry} :
    tree.find? path = some entry ↔ tree.trace path = .found entry := by
  rw [find?]
  split
  · rename_i other traced
    simp [traced]
  · rename_i missed
    simpa using missed entry

end FileTree

end ScopeAtlas.Files
