import Mathlib.Data.List.DropRight
import ScopeAtlas.Text.Blank

/-!
# Trimmed texts and words

Blanks at the ends of a text have no part in what is left when it is trimmed, and a text that begins
and ends with other characters stays whole.  Words with single spaces between them are the words
that are found again.
-/

namespace ScopeAtlas.Text

/-- A text of blanks. -/
def AllBlank (text : String) : Prop := ∀ c ∈ text.toList, isBlank c = true

instance (text : String) : Decidable (AllBlank text) :=
  decidable_of_iff (text.toList.all isBlank = true) List.all_eq_true

/-- A text that begins and ends with characters that are no blanks. -/
structure Solid (text : String) : Prop where
  begins : ∃ c rest, text.toList = c :: rest ∧ isBlank c = false
  ends : ∃ front c, text.toList = front ++ [c] ∧ isBlank c = false

theorem Solid.ne_empty {text : String} (solid : Solid text) : text ≠ "" := by
  rintro rfl
  obtain ⟨c, rest, shape, _⟩ := solid.begins
  contradiction

/-- A text that is one word. -/
structure IsWord (text : String) : Prop where
  begun : text ≠ ""
  plain : ∀ c ∈ text.toList, isBlank c = false

instance (text : String) : Decidable (IsWord text) :=
  decidable_of_iff (text ≠ "" ∧ text.toList.any isBlank = false)
    ⟨fun both => ⟨both.1, by simpa using both.2⟩,
      fun word => ⟨word.begun, by simpa using word.plain⟩⟩

theorem IsWord.append {front back : String} (first : IsWord front) (second : IsWord back) :
    IsWord (front ++ back) where
  begun := by simp [first.begun]
  plain c member := by
    rw [String.toList_append, List.mem_append] at member
    exact member.elim (first.plain c) (second.plain c)

theorem IsWord.solid {text : String} (word : IsWord text) : Solid text := by
  have nonempty : text.toList ≠ [] := by simpa using word.begun
  constructor
  · obtain ⟨c, rest, shape⟩ := List.exists_cons_of_ne_nil nonempty
    exact ⟨c, rest, shape, word.plain c (by simp [shape])⟩
  · obtain ⟨front, c, shape⟩ := (List.eq_nil_or_concat' text.toList).resolve_left nonempty
    exact ⟨front, c, shape, word.plain c (by simp [shape])⟩

theorem Solid.append {front back : String} (left : Solid front) (right : Solid back)
    (middle : String) : Solid (front ++ middle ++ back) := by
  constructor
  · obtain ⟨c, rest, shape, plain⟩ := left.begins
    exact ⟨c, rest ++ (middle.toList ++ back.toList), by simp [shape], plain⟩
  · obtain ⟨rest, c, shape, plain⟩ := right.ends
    exact ⟨front.toList ++ (middle.toList ++ rest), c, by simp [shape], plain⟩

/-! ## Trimming -/

theorem toList_trimRightWhile (drop : Char → Bool) (text : String) :
    (trimRightWhile drop text).toList = text.toList.rdropWhile drop := by
  simp [trimRightWhile, List.rdropWhile]

theorem toList_trim (text : String) :
    (trim text).toList = (text.toList.dropWhile isBlank).rdropWhile isBlank := by
  rw [trim, trimWhile, toList_trimRightWhile, trimLeftWhile, String.toList_ofList]

/-- A text is what is left of it with blanks around. -/
theorem exists_eq_append_trim (text : String) :
    ∃ front back, AllBlank front ∧ AllBlank back ∧ text = front ++ trim text ++ back := by
  refine ⟨.ofList (text.toList.takeWhile isBlank),
    .ofList ((text.toList.dropWhile isBlank).rtakeWhile isBlank), ?_, ?_, ?_⟩
  · intro c member
    exact List.mem_takeWhile_imp (by simpa using member)
  · intro c member
    exact List.mem_rtakeWhile_imp (by simpa using member)
  · rw [← String.toList_inj]
    simp [toList_trim, List.rdropWhile_append_rtakeWhile]

theorem trim_blank_append {front : String} (blank : AllBlank front) (text : String) :
    trim (front ++ text) = trim text := by
  rw [← String.toList_inj, toList_trim, toList_trim, String.toList_append,
    List.dropWhile_append_of_pos blank]

/-- Behind a solid text only blanks at the end are dropped. -/
theorem trim_solid_append {front : String} (solid : Solid front) (text : String) :
    trim (front ++ text) = front ++ trimRightWhile isBlank text := by
  obtain ⟨first, rest, opens, plain⟩ := solid.begins
  obtain ⟨before, last, closes, plainLast⟩ := solid.ends
  have kept : (front ++ text).toList.dropWhile isBlank = front.toList ++ text.toList := by
    rw [String.toList_append, opens, List.cons_append, List.dropWhile_cons_of_neg (by simp [plain])]
  rw [← String.toList_inj, toList_trim, kept, String.toList_append, toList_trimRightWhile, closes,
    List.rdropWhile, List.reverse_append, List.reverse_append, List.dropWhile_append]
  split
  case isTrue nothing =>
    rw [List.isEmpty_iff] at nothing
    simp [List.rdropWhile, nothing, plainLast]
  case isFalse => simp [List.rdropWhile]

theorem trim_append_blank {text back : String} (solid : Solid text) (blank : AllBlank back) :
    trim (text ++ back) = text := by
  have nothing : trimRightWhile isBlank back = "" := by
    rw [← String.toList_inj, toList_trimRightWhile, String.toList_empty, List.rdropWhile_eq_nil_iff]
    exact blank
  rw [trim_solid_append solid, nothing, String.append_empty]

theorem trim_of_solid {text : String} (solid : Solid text) : trim text = text := by
  simpa using trim_append_blank solid (show AllBlank "" by simp [AllBlank])

/-- Nothing is dropped from a text without the characters that would be dropped. -/
theorem trimWhile_of_forall {drop : Char → Bool} {text : String}
    (kept : ∀ c ∈ text.toList, drop c = false) : trimWhile drop text = text := by
  have keptFront : text.toList.dropWhile drop = text.toList := by
    rw [List.dropWhile_eq_self_iff]
    intro nonempty
    simp [kept _ (List.getElem_mem nonempty)]
  have keptBack : text.toList.rdropWhile drop = text.toList := by
    rw [List.rdropWhile_eq_self_iff]
    intro nonempty
    simp [kept _ (List.getLast_mem nonempty)]
  rw [← String.toList_inj, trimWhile, toList_trimRightWhile, trimLeftWhile, String.toList_ofList,
    keptFront, keptBack]

theorem trim_of_allBlank {text : String} (blank : AllBlank text) : trim text = "" := by
  have nothing : text.toList.dropWhile isBlank = [] := List.dropWhile_eq_nil_iff.mpr blank
  rw [← String.toList_inj, toList_trim, nothing]
  rfl

/-! ## Words -/

theorem wordsFrom_append_of_forall {front : List Char} (plain : ∀ c ∈ front, isBlank c = false)
    (word rest : List Char) :
    wordsFrom word (front ++ rest) = wordsFrom (front.reverse ++ word) rest := by
  induction front generalizing word with
  | nil => rfl
  | cons c front ih =>
      rw [List.forall_mem_cons] at plain
      rw [List.cons_append, wordsFrom, plain.1, if_neg Bool.false_ne_true, ih plain.2,
        List.reverse_cons, List.append_assoc, List.singleton_append]

theorem words_of_isWord {word : String} (isWord : IsWord word) : words word = [word] := by
  have nonempty : word.toList ≠ [] := by simpa using isWord.begun
  have whole := wordsFrom_append_of_forall isWord.plain [] []
  rw [List.append_nil, List.append_nil] at whole
  simp [words, whole, wordsFrom, nonempty]

/-- A blank ends a word. -/
theorem words_append {word : String} (isWord : IsWord word) {c : Char} (blank : isBlank c = true)
    (rest : String) : words (word ++ String.singleton c ++ rest) = word :: words rest := by
  have nonempty : word.toList ≠ [] := by simpa using isWord.begun
  simp only [words, String.toList_append, String.toList_singleton, List.append_assoc,
    List.singleton_append, wordsFrom_append_of_forall isWord.plain]
  simp [wordsFrom, blank, nonempty]

/-- Words with single spaces between them are found again. -/
theorem words_intercalate {pieces : List String} (areWords : ∀ piece ∈ pieces, IsWord piece) :
    words (String.intercalate " " pieces) = pieces := by
  induction pieces with
  | nil => rfl
  | cons piece rest ih =>
      rw [List.forall_mem_cons] at areWords
      cases rest with
      | nil => simpa using words_of_isWord areWords.1
      | cons next rest =>
          have later := words_append areWords.1 (show isBlank ' ' = true from rfl)
            (String.intercalate " " (next :: rest))
          rw [ih areWords.2] at later
          rw [String.intercalate_cons_cons]
          exact later

theorem solid_intercalate {pieces : List String} (nonempty : pieces ≠ [])
    (areWords : ∀ piece ∈ pieces, IsWord piece) : Solid (String.intercalate " " pieces) := by
  induction pieces with
  | nil => contradiction
  | cons piece rest ih =>
      rw [List.forall_mem_cons] at areWords
      cases rest with
      | nil => simpa using areWords.1.solid
      | cons next rest =>
          rw [String.intercalate_cons_cons]
          exact areWords.1.solid.append (ih (by simp) areWords.2) " "

end ScopeAtlas.Text
