import ScopeAtlas.Text.Split

/-!
# What stands before a separator

Cutting at the first separator and splitting at all of them agree on the first piece.  Writing one
separator for another leaves the text up to the first of the two as it is, which is all that the
first segment of a path depends on.  Pieces that are put together with a separator which none of
them holds are the pieces that splitting finds, and the last of them is what cutting at the last
separator finds.
-/

namespace ScopeAtlas.Text

/-! ## The first piece -/

/-- What stands before the first occurrence of a separator, or the whole text. -/
def beforeFirstChars (separator text : List Char) : List Char :=
  match cutFirstChars separator text with
  | some parts => parts.1
  | none => text

@[simp]
theorem beforeFirstChars_nil (separator : List Char) : beforeFirstChars separator [] = [] := rfl

theorem beforeFirstChars_cons (separator : List Char) (c : Char) (rest : List Char) :
    beforeFirstChars separator (c :: rest) =
      if separator.isPrefixOf (c :: rest) then [] else c :: beforeFirstChars separator rest := by
  rw [beforeFirstChars, cutFirstChars]
  by_cases here : separator.isPrefixOf (c :: rest)
  · simp [here]
  · simp only [here, Bool.false_eq_true, if_false, beforeFirstChars]
    cases cutFirstChars separator rest <;> rfl

@[simp]
theorem toList_beforeFirst (separator text : String) :
    (beforeFirst separator text).toList = beforeFirstChars separator.toList text.toList := by
  rw [beforeFirst, cutFirst?, beforeFirstChars]
  cases cutFirstChars separator.toList text.toList <;> simp

/-- What follows a separator of one character does not change what stands before it. -/
theorem beforeFirstChars_append_mark (mark : Char) (text rest : List Char) :
    beforeFirstChars [mark] (text ++ mark :: rest) = beforeFirstChars [mark] text := by
  induction text with
  | nil => simp [beforeFirstChars_cons]
  | cons c text ih => rw [List.cons_append, beforeFirstChars_cons, beforeFirstChars_cons, ih]; simp

theorem beforeFirst_append_mark {mark : String} {c : Char} (single : mark.toList = [c])
    (text rest : String) : beforeFirst mark (text ++ mark ++ rest) = beforeFirst mark text := by
  simp only [← String.toList_inj, toList_beforeFirst, String.toList_append, single,
    List.append_assoc, List.singleton_append]
  exact beforeFirstChars_append_mark c text.toList rest.toList

/-- In a text without the first character of a separator none begins. -/
theorem beforeFirstChars_append_eq_append {mark : Char} (more rest : List Char) {text : List Char}
    (free : mark ∉ text) :
    beforeFirstChars (mark :: more) (text ++ rest) =
      text ++ beforeFirstChars (mark :: more) rest := by
  induction text with
  | nil => rfl
  | cons c text ih =>
      rw [List.mem_cons, not_or] at free
      rw [List.cons_append, beforeFirstChars_cons, ih free.2]
      simp [free.1]

/-- In a text without the first character of a separator nothing is cut. -/
theorem beforeFirst_append_of_not_mem {separator front : String} {mark : Char} {more : List Char}
    (shape : separator.toList = mark :: more) (free : mark ∉ front.toList) (text : String) :
    beforeFirst separator (front ++ text) = front ++ beforeFirst separator text := by
  rw [← String.toList_inj, String.toList_append, toList_beforeFirst, toList_beforeFirst, shape,
    String.toList_append]
  exact beforeFirstChars_append_eq_append more text.toList free

/-- A text without the first character of a separator stands before it as a whole. -/
theorem beforeFirstChars_append_of_not_mem {mark : Char} (more rest : List Char) {text : List Char}
    (free : mark ∉ text) :
    beforeFirstChars (mark :: more) (text ++ (mark :: more ++ rest)) = text := by
  rw [beforeFirstChars_append_eq_append more _ free, List.cons_append, beforeFirstChars_cons]
  simp

theorem beforeFirstChars_of_not_mem {mark : Char} (more : List Char) {text : List Char}
    (free : mark ∉ text) : beforeFirstChars (mark :: more) text = text := by
  simpa using beforeFirstChars_append_eq_append more [] free

/-- A text in which a doubled separator does not occur stands before it, when another character comes
next. -/
theorem beforeFirstChars_pair_append {mark c : Char} {text : List Char}
    (whole : beforeFirstChars [mark, mark] text = text) (other : c ≠ mark) (rest : List Char) :
    beforeFirstChars [mark, mark] (text ++ c :: rest) =
      text ++ c :: beforeFirstChars [mark, mark] rest := by
  induction text with
  | nil =>
      rw [List.nil_append, beforeFirstChars_cons]
      simp [other.symm]
  | cons first text ih =>
      rw [beforeFirstChars_cons] at whole
      split at whole
      case isTrue => contradiction
      case isFalse away =>
        rw [List.cons_append, beforeFirstChars_cons, ih (List.cons.inj whole).2]
        cases text <;> simp_all [Ne.symm other]

/-- Before a separator of one character stand the characters that are different. -/
theorem beforeFirstChars_singleton (mark : Char) (text : List Char) :
    beforeFirstChars [mark] text = text.takeWhile (· != mark) := by
  induction text with
  | nil => rfl
  | cons c text ih =>
      rw [beforeFirstChars_cons, List.takeWhile_cons, ih]
      by_cases same : mark = c
      · simp [same]
      · simp [same, Ne.symm same]

theorem length_lt_of_cutFirstChars {separator text : List Char} {parts : List Char × List Char}
    (cut : cutFirstChars separator text = some parts) : parts.1.length < text.length := by
  induction text generalizing parts with
  | nil => contradiction
  | cons c rest ih =>
      rw [cutFirstChars] at cut
      split at cut
      · obtain rfl := Option.some.inj cut
        simp
      · obtain ⟨inner, found, rfl⟩ := Option.map_eq_some_iff.mp cut
        simpa using ih found

/-- A separator that occurs cuts something off. -/
theorem beforeFirst_ne_of_contains {separator text : String}
    (occurs : contains separator text = true) : beforeFirst separator text ≠ text := by
  intro same
  rw [contains, Option.isSome_iff_exists] at occurs
  obtain ⟨parts, cut⟩ := occurs
  rw [beforeFirst, cut] at same
  obtain ⟨inner, found, rfl⟩ := Option.map_eq_some_iff.mp cut
  have shorter := length_lt_of_cutFirstChars found
  rw [← same, String.toList_ofList] at shorter
  exact absurd shorter (Nat.lt_irrefl _)

theorem splitFrom_ne_nil (separator : List Char) (skip : Nat) (text : List Char) :
    splitFrom separator skip text ≠ [] := by
  fun_induction splitFrom separator skip text with
  | case1 => simp
  | case2 skip c rest ih => exact ih
  | case3 c rest here ih => simp
  | case4 c rest away ih =>
      cases pieces : splitFrom separator 0 rest with
      | nil => exact absurd pieces ih
      | cons piece later => simp [prependChar]

theorem head?_splitFrom_zero (separator text : List Char) :
    (splitFrom separator 0 text).head? = some (beforeFirstChars separator text) := by
  induction text with
  | nil => simp [splitFrom]
  | cons c rest ih =>
      rw [splitFrom, beforeFirstChars_cons]
      by_cases here : separator.isPrefixOf (c :: rest)
      · simp [here]
      · simp only [here, Bool.false_eq_true, if_false]
        cases pieces : splitFrom separator 0 rest with
        | nil => exact absurd pieces (splitFrom_ne_nil separator 0 rest)
        | cons piece later =>
            rw [pieces, List.head?_cons, Option.some.injEq] at ih
            simp [prependChar, ih]

/-- The first piece is what stands before the first separator. -/
theorem head?_split (separator text : String) :
    (split separator text).head? = some (beforeFirst separator text) := by
  rw [split, splitChars, List.head?_map, head?_splitFrom_zero, Option.map_some,
    ← toList_beforeFirst, String.ofList_toList]

/-! ## One separator for another -/

/-- A text with `new` in place of every occurrence of `old`. -/
def replaceChars (old new text : List Char) : List Char := new.intercalate (splitFrom old 0 text)

@[simp]
theorem toList_replaceAll (old new text : String) :
    (replaceAll old new text).toList = replaceChars old.toList new.toList text.toList := by
  rw [replaceAll, split, splitChars, replaceChars, String.toList_intercalate, List.map_map]
  simp [Function.comp_def]

@[simp]
theorem replaceChars_nil (old new : List Char) : replaceChars old new [] = [] := by
  simp [replaceChars, splitFrom]

theorem intercalate_nil_cons (new : List Char) {pieces : List (List Char)} (nonempty : pieces ≠ []) :
    new.intercalate ([] :: pieces) = new ++ new.intercalate pieces := by
  cases pieces with
  | nil => contradiction
  | cons piece later => simp [List.intercalate_cons_cons]

theorem intercalate_prependChar (new : List Char) (c : Char) {pieces : List (List Char)}
    (nonempty : pieces ≠ []) :
    new.intercalate (prependChar c pieces) = c :: new.intercalate pieces := by
  match pieces with
  | [piece] => simp [prependChar]
  | piece :: next :: later => simp [prependChar, List.intercalate_cons_cons]

/-- Where the old separator stands, the new one is written. -/
theorem replaceChars_of_here {old : List Char} (new : List Char) {c : Char} {rest : List Char}
    (here : old.isPrefixOf (c :: rest) = true) :
    ∃ later, replaceChars old new (c :: rest) = new ++ later := by
  refine ⟨new.intercalate (splitFrom old (old.length - 1) rest), ?_⟩
  rw [replaceChars, splitFrom, if_pos here, intercalate_nil_cons new (splitFrom_ne_nil _ _ _)]

/-- Anywhere else the text stays. -/
theorem replaceChars_of_away {old : List Char} (new : List Char) {c : Char}
    {rest : List Char} (away : old.isPrefixOf (c :: rest) = false) :
    replaceChars old new (c :: rest) = c :: replaceChars old new rest := by
  rw [replaceChars, splitFrom, away, if_neg (by simp),
    intercalate_prependChar new c (splitFrom_ne_nil _ _ _), replaceChars]

theorem beforeFirstChars_replaceChars (old : List Char) (mark : Char) (text : List Char) :
    beforeFirstChars [mark] (replaceChars old [mark] text) = beforeFirstChars [mark] text ∨
      beforeFirstChars [mark] (replaceChars old [mark] text) = beforeFirstChars old text := by
  induction text with
  | nil => simp
  | cons c rest ih =>
      by_cases here : old.isPrefixOf (c :: rest) = true
      · obtain ⟨later, replaced⟩ := replaceChars_of_here [mark] here
        right
        rw [replaced, beforeFirstChars_cons old, if_pos here]
        simp [beforeFirstChars_cons]
      · have away := eq_false_of_ne_true here
        rw [replaceChars_of_away [mark] away, beforeFirstChars_cons old, away,
          beforeFirstChars_cons, beforeFirstChars_cons]
        by_cases marked : mark = c
        · simp [marked]
        · simp only [List.isPrefixOf, beq_iff_eq, marked, Bool.and_true, if_false,
            Bool.false_eq_true, List.cons.injEq, true_and]
          exact ih

/-- With the new separator written for the old one, the first segment ends where the first of the
two stood. -/
theorem beforeFirst_replaceAll (old mark text : String) {c : Char} (single : mark.toList = [c]) :
    beforeFirst mark (replaceAll old mark text) = beforeFirst mark text ∨
      beforeFirst mark (replaceAll old mark text) = beforeFirst old text := by
  simp only [← String.toList_inj, toList_beforeFirst, toList_replaceAll, single]
  exact beforeFirstChars_replaceChars old.toList c text.toList

/-! ## Pieces put together -/

/-- At a single character a text is cut as any list is. -/
theorem splitFrom_singleton (mark : Char) (text : List Char) :
    splitFrom [mark] 0 text = text.splitOn mark := by
  induction text with
  | nil => rfl
  | cons c rest ih =>
      rw [splitFrom, List.splitOn, List.splitOnP_cons_eq_if_modifyHead, ← List.splitOn, ← ih]
      by_cases marked : mark = c
      · simp [marked]
      · have unmarked : ¬c = mark := fun same => marked same.symm
        cases pieces : splitFrom [mark] 0 rest with
        | nil => exact absurd pieces (splitFrom_ne_nil [mark] 0 rest)
        | cons piece later => simp [marked, unmarked, prependChar]

/-- Pieces without the separator are found again in the text that they make up. -/
theorem split_intercalate {mark : String} {c : Char} (single : mark.toList = [c])
    {pieces : List String} (nonempty : pieces ≠ []) (free : ∀ piece ∈ pieces, c ∉ piece.toList) :
    split mark (String.intercalate mark pieces) = pieces := by
  have cut : (List.intercalate [c] (pieces.map String.toList)).splitOn c =
      pieces.map String.toList :=
    List.splitOn_intercalate c (by simpa using free) (by simpa using nonempty)
  rw [split, splitChars, String.toList_intercalate, single, splitFrom_singleton, cut]
  simp [Function.comp_def]

/-- A text without the first character of a separator is one piece. -/
theorem splitFrom_of_not_mem {mark : Char} (more : List Char) {piece : List Char}
    (free : mark ∉ piece) : splitFrom (mark :: more) 0 piece = [piece] := by
  induction piece with
  | nil => rfl
  | cons c piece ih =>
      rw [List.mem_cons, not_or] at free
      rw [splitFrom, ih free.2]
      simp [free.1, prependChar]

theorem splitFrom_append_pair {mark : Char} {piece : List Char} (free : mark ∉ piece)
    (rest : List Char) :
    splitFrom [mark, mark] 0 (piece ++ mark :: mark :: rest) =
      piece :: splitFrom [mark, mark] 0 rest := by
  induction piece with
  | nil => simp [splitFrom]
  | cons c piece ih =>
      rw [List.mem_cons, not_or] at free
      rw [List.cons_append, splitFrom, ih free.2]
      simp [free.1, prependChar]

/-- Pieces without the doubled character of a separator are found again in the text that they make
up. -/
theorem split_intercalate_pair {separator : String} {mark : Char}
    (double : separator.toList = [mark, mark]) {pieces : List String} (nonempty : pieces ≠ [])
    (free : ∀ piece ∈ pieces, mark ∉ piece.toList) :
    split separator (String.intercalate separator pieces) = pieces := by
  induction pieces with
  | nil => contradiction
  | cons piece rest ih =>
      rw [List.forall_mem_cons] at free
      cases rest with
      | nil => simp [split, splitChars, double, splitFrom_of_not_mem [mark] free.1]
      | cons next rest =>
          have later := ih (by simp) free.2
          rw [split, splitChars, double] at later ⊢
          rw [String.intercalate_cons_cons, String.toList_append, String.toList_append, double,
            List.append_assoc]
          have cut := splitFrom_append_pair free.1
            (String.intercalate separator (next :: rest)).toList
          simp only [List.cons_append, List.nil_append, cut, List.map_cons, later,
            String.ofList_toList]

/-! ## The last piece -/

theorem cutLastChars_of_not_mem {mark : Char} (more : List Char) {text : List Char}
    (free : mark ∉ text) : cutLastChars (mark :: more) text = none := by
  induction text with
  | nil => rfl
  | cons c text ih =>
      rw [List.mem_cons, not_or] at free
      rw [cutLastChars, ih free.2]
      simp [free.1]

/-- A text is cut at a separator behind which no other begins. -/
theorem cutLastChars_append {mark : Char} (more first last : List Char)
    (away : cutLastChars (mark :: more) (more ++ last) = none) :
    cutLastChars (mark :: more) (first ++ (mark :: more ++ last)) = some (first, last) := by
  induction first with
  | nil =>
      rw [List.nil_append, List.cons_append, cutLastChars, away]
      simp
  | cons c first ih => rw [List.cons_append, cutLastChars, ih]

theorem cutLast?_append_single {separator : String} {mark : Char}
    (single : separator.toList = [mark]) (first : String) {last : String}
    (free : mark ∉ last.toList) :
    cutLast? separator (first ++ separator ++ last) = some (first, last) := by
  have cut := cutLastChars_append [] first.toList last.toList (cutLastChars_of_not_mem [] free)
  rw [List.singleton_append] at cut
  simp only [cutLast?, String.toList_append, single, List.append_assoc, List.singleton_append, cut,
    Option.map_some, String.ofList_toList]

theorem cutLast?_append_pair {separator : String} {mark : Char}
    (double : separator.toList = [mark, mark]) (first : String) {last : String}
    (free : mark ∉ last.toList) :
    cutLast? separator (first ++ separator ++ last) = some (first, last) := by
  have away : cutLastChars [mark, mark] (mark :: last.toList) = none := by
    rw [cutLastChars, cutLastChars_of_not_mem [mark] free]
    cases shape : last.toList with
    | nil => simp
    | cons c rest => simp_all
  have cut := cutLastChars_append [mark] first.toList last.toList away
  simp only [cutLast?, String.toList_append, double, List.append_assoc, cut, Option.map_some,
    String.ofList_toList]

theorem eq_append_of_cutLastChars {separator text : List Char} {parts : List Char × List Char}
    (cut : cutLastChars separator text = some parts) : text = parts.1 ++ separator ++ parts.2 := by
  induction text generalizing parts with
  | nil => contradiction
  | cons c rest ih =>
      rw [cutLastChars] at cut
      split at cut
      case h_1 inner found =>
        obtain rfl := Option.some.inj cut
        simp [ih found]
      case h_2 =>
        split at cut
        case isTrue here =>
          obtain rfl := Option.some.inj cut
          exact (List.prefix_iff_eq_append.mp (List.isPrefixOf_iff_prefix.mp here)).symm
        case isFalse => contradiction

/-- The parts around the last separator make up the text again. -/
theorem eq_append_of_cutLast? {separator text : String} {parts : String × String}
    (cut : cutLast? separator text = some parts) : text = parts.1 ++ separator ++ parts.2 := by
  obtain ⟨chars, found, rfl⟩ := Option.map_eq_some_iff.mp cut
  have whole := eq_append_of_cutLastChars found
  rw [← String.toList_inj]
  simpa using whole

/-! ## Dropped beginnings and endings -/

theorem startsWith_append_self (start text : String) : startsWith start (start ++ text) = true := by
  simp [startsWith]

/-- A text that begins so begins with the first part of the beginning. -/
theorem startsWith_of_startsWith_append (front back : String) {text : String}
    (starts : startsWith (front ++ back) text = true) : startsWith front text = true := by
  rw [startsWith, List.isPrefixOf_iff_prefix, String.toList_append] at starts
  rw [startsWith, List.isPrefixOf_iff_prefix]
  exact (List.prefix_append _ _).trans starts

theorem startsWith_append_append (front back text : String) :
    startsWith (front ++ back) (front ++ text) = startsWith back text := by
  rw [Bool.eq_iff_iff]
  simp [startsWith, List.isPrefixOf_iff_prefix]

theorem dropChars_append_self (start text : String) :
    dropChars start.length (start ++ text) = text := by
  simp [dropChars, ← String.length_toList]

theorem dropEnd_append_self (text ending : String) : dropEnd ending (text ++ ending) = text := by
  simp [dropEnd, endsWith, dropRightChars, String.length_toList]

/-- What stands in front of a text that is long enough for the ending has no part in it. -/
theorem dropEnd_append (front : String) {ending text : String}
    (long : ending.length ≤ text.length) :
    dropEnd ending (front ++ text) = front ++ dropEnd ending text := by
  have sameEnding : endsWith ending (front ++ text) = endsWith ending text := by
    rw [Bool.eq_iff_iff]
    simp only [endsWith, List.isSuffixOf_iff_suffix, String.toList_append]
    constructor
    · intro ends
      exact List.suffix_of_suffix_length_le ends (List.suffix_append _ _)
        (by simpa only [String.length_toList] using long)
    · exact fun ends => ends.trans (List.suffix_append _ _)
  simp only [dropEnd, sameEnding]
  split
  · simp only [dropRightChars, ← String.toList_inj, String.toList_append, String.toList_ofList,
      List.length_append, String.length_toList]
    rw [Nat.add_sub_assoc long, ← String.length_toList, List.take_length_add_append]
  · rfl

/-- Nothing else is dropped than the ending. -/
theorem length_le_length_dropEnd_add (ending text : String) :
    text.length ≤ (dropEnd ending text).length + ending.length := by
  rw [dropEnd]
  split
  · simp [dropRightChars, String.length_toList]
    omega
  · omega

end ScopeAtlas.Text
