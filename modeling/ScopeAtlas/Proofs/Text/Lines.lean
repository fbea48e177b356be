import ScopeAtlas.Text.Blank
import ScopeAtlas.Text.Lines

/-!
# Rows and lines

A row is what stands between two line feeds, and it is read as several lines when it holds a line
boundary of another kind.  Reading the lines of a text one after another, where an empty line does
nothing, is reading its rows one after another.  A row that begins with a text without line
boundaries has this text at the beginning of its first line.
-/

namespace ScopeAtlas.Text

/-! ## Line boundaries -/

theorem isBlank_of_isLineBreak {c : Char} (isBreak : isLineBreak c = true) : isBlank c = true := by
  simp only [isLineBreak, isBlank, Bool.or_eq_true, Bool.and_eq_true, decide_eq_true_eq,
    beq_iff_eq] at isBreak ⊢
  omega

theorem linesFrom_plain {c : Char} (plain : isLineBreak c = false) (line rest : List Char) :
    linesFrom line (c :: rest) = linesFrom (c :: line) rest := by
  rw [linesFrom, plain, if_neg Bool.false_ne_true]
  rintro after rfl rfl
  contradiction

/-- A line boundary ends the line, alone or together with the line feed after it. -/
theorem linesFrom_break {c : Char} (isBreak : isLineBreak c = true) {rest : List Char}
    (alone : c = '\r' → rest.head? ≠ some '\n') (line : List Char) :
    linesFrom line (c :: rest) = line.reverse :: linesFrom [] rest := by
  rw [linesFrom, isBreak, if_pos rfl]
  rintro after rfl rfl
  exact alone rfl rfl

/-- Up to an empty line at the seam, the lines of two texts with a line feed between them are those
of the one and of the other. -/
theorem linesFrom_append_newline (line front back : List Char) :
    linesFrom line (front ++ '\n' :: back) = linesFrom line front ++ linesFrom [] back ∨
      linesFrom line (front ++ '\n' :: back) = linesFrom line front ++ [] :: linesFrom [] back := by
  have feed (line : List Char) :
      linesFrom line ('\n' :: back) = line.reverse :: linesFrom [] back :=
    linesFrom_break (by decide) (fun isReturn => absurd isReturn (by decide)) line
  fun_induction linesFrom line front with
  | case1 line empty =>
      right
      rw [List.nil_append, feed, List.isEmpty_iff.mp empty]
      rfl
  | case2 line more =>
      left
      rw [List.nil_append, feed]
      rfl
  | case3 line rest ih =>
      simpa only [List.cons_append, linesFrom, List.cons.injEq, true_and] using ih
  | case4 line c rest single isBreak ih =>
      by_cases seam : c = '\r' ∧ rest = []
      · obtain ⟨rfl, rfl⟩ := seam
        exact .inl rfl
      · have alone : c = '\r' → (rest ++ '\n' :: back).head? ≠ some '\n' := by
          rintro rfl
          cases rest with
          | nil => exact absurd ⟨rfl, rfl⟩ seam
          | cons next rest =>
              intro isFeed
              exact single rest rfl (by rw [Option.some.inj isFeed])
        rw [List.cons_append, linesFrom_break isBreak alone]
        simpa only [List.cons_append, List.cons.injEq, true_and] using ih
  | case5 line c rest _ plain ih =>
      rw [List.cons_append, linesFrom_plain (eq_false_of_ne_true plain)]
      exact ih

/-! ## Row by row -/

section Rows

variable {α : Type} {step : α → String → α}

theorem foldl_lines_append_newline (skips : ∀ state, step state "" = state) (front back : String)
    (state : α) :
    (lines (front ++ "\n" ++ back)).foldl step state =
      (lines back).foldl step ((lines front).foldl step state) := by
  have cut : (front ++ "\n" ++ back).toList = front.toList ++ '\n' :: back.toList := by simp
  rw [lines, lines, lines, cut]
  rcases linesFrom_append_newline [] front.toList back.toList with same | same
  · rw [same, List.map_append, List.foldl_append]
  · rw [same, List.map_append, List.foldl_append, List.map_cons, List.foldl_cons,
      String.ofList_nil, skips]

/-- Where an empty line does nothing, a text is read row by row. -/
theorem foldl_lines_intercalate (skips : ∀ state, step state "" = state) (rows : List String)
    (state : α) :
    (lines (String.intercalate "\n" rows)).foldl step state =
      rows.foldl (fun state row => (lines row).foldl step state) state := by
  induction rows generalizing state with
  | nil => rfl
  | cons row rest ih =>
      cases rest with
      | nil => simp
      | cons next rest =>
          rw [String.intercalate_cons_cons, foldl_lines_append_newline skips, ih]
          rfl

end Rows

/-! ## The first line of a row -/

/-- A text without line boundaries. -/
def Unbroken (text : String) : Prop := ∀ c ∈ text.toList, isLineBreak c = false

instance (text : String) : Decidable (Unbroken text) :=
  decidable_of_iff (text.toList.any isLineBreak = false) (by simp [Unbroken])

theorem Unbroken.append {front back : String} (first : Unbroken front) (second : Unbroken back) :
    Unbroken (front ++ back) := by
  intro c member
  rw [String.toList_append, List.mem_append] at member
  exact member.elim (first c) (second c)

theorem linesFrom_append_of_unbroken {front : List Char}
    (plain : ∀ c ∈ front, isLineBreak c = false) (line rest : List Char) :
    linesFrom line (front ++ rest) = linesFrom (front.reverse ++ line) rest := by
  induction front generalizing line with
  | nil => rfl
  | cons c front ih =>
      rw [List.forall_mem_cons] at plain
      rw [List.cons_append, linesFrom_plain plain.1, ih plain.2, List.reverse_cons,
        List.append_assoc, List.singleton_append]

/-- What is collected of a line goes in front of the first line of what follows. -/
theorem linesFrom_of_ne_nil {line : List Char} (begun : line ≠ []) (rest : List Char) :
    linesFrom line rest =
      (line.reverse ++ (linesFrom [] rest).headD []) :: (linesFrom [] rest).tail := by
  induction rest generalizing line with
  | nil => simp [linesFrom, begun]
  | cons c rest ih =>
      cases isBreak : isLineBreak c with
      | false =>
          rw [linesFrom_plain isBreak, linesFrom_plain isBreak, ih (List.cons_ne_nil c line),
            ih (List.cons_ne_nil c [])]
          simp
      | true =>
          by_cases pair : c = '\r' ∧ rest.head? = some '\n'
          · obtain ⟨rfl, feed⟩ := pair
            obtain ⟨rest, rfl⟩ := List.head?_eq_some_iff.mp feed
            simp [linesFrom]
          · have alone : c = '\r' → rest.head? ≠ some '\n' := fun isReturn feed =>
              pair ⟨isReturn, feed⟩
            rw [linesFrom_break isBreak alone, linesFrom_break isBreak alone]
            simp

/-- A row has what it begins with at the beginning of its first line, and the other lines of what
follows behind it. -/
theorem lines_append_of_unbroken {front : String} (plain : Unbroken front) (begun : front ≠ "")
    (rest : String) :
    lines (front ++ rest) = (front ++ (lines rest).headD "") :: (lines rest).tail := by
  have nonempty : front.toList.reverse ≠ [] := by simpa using begun
  rw [lines, lines, String.toList_append, linesFrom_append_of_unbroken plain, List.append_nil,
    linesFrom_of_ne_nil nonempty, List.map_cons, List.reverse_reverse]
  cases linesFrom [] rest.toList <;> simp

theorem lines_of_unbroken {text : String} (plain : Unbroken text) (begun : text ≠ "") :
    lines text = [text] := by
  have whole := lines_append_of_unbroken plain begun ""
  simpa [lines, linesFrom] using whole

end ScopeAtlas.Text
