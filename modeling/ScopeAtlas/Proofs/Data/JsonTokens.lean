import ScopeAtlas.Data.Json

/-!
# Tokens of JSON

A string is made of plain characters, escapes and units of four hexadecimal digits.  A number or a
word ends where no further character can belong to it, so what follows it does not change how it is
read.
-/

namespace ScopeAtlas.Data.Json

/-! ## Strings -/

/-- A piece of a string between its quotes. -/
inductive Piece where
  /-- A character that stands for itself. -/
  | plain (c : Char) (isPlain : c ≠ '"' ∧ c ≠ '\\' ∧ 0x20 ≤ c.toNat)
  /-- A character behind a backslash. -/
  | escaped (c : Char) (isEscape : (simpleEscape? c).isSome)
  /-- Four hexadecimal digits behind a backslash. -/
  | unit (a b c d : Char) (isUnit : (hexUnit? a b c d).isSome)

namespace Piece

/-- The characters of a piece. -/
def text : Piece → List Char
  | plain c _ => [c]
  | escaped c _ => ['\\', c]
  | unit a b c d _ => ['\\', 'u', a, b, c, d]

/-- The code points with a piece behind them, latest first. -/
def push (seen : List Nat) : Piece → List Nat
  | plain c _ => c.toNat :: seen
  | escaped c isEscape => ((simpleEscape? c).get isEscape).toNat :: seen
  | unit a b c d isUnit => pushUnit ((hexUnit? a b c d).get isUnit) seen

end Piece

/-- The characters between the quotes of a string. -/
def contentText (content : List Piece) : List Char := content.flatMap Piece.text

/-- The text with the given code points, latest first. -/
def pointText (points : List Nat) : String := String.ofList (points.reverse.map pointChar)

/-- The text that a string stands for. -/
def decoded (content : List Piece) : String := pointText (content.foldl Piece.push [])

@[simp]
theorem contentText_nil : contentText [] = [] := rfl

@[simp]
theorem contentText_cons (piece : Piece) (content : List Piece) :
    contentText (piece :: content) = piece.text ++ contentText content := rfl

/-- The letter of a unit is no escape of its own. -/
theorem ne_of_simpleEscape? {c : Char} (isEscape : (simpleEscape? c).isSome) : c ≠ 'u' := by
  rintro rfl
  contradiction

/-- A hexadecimal digit is neither a quote nor a backslash nor a comma. -/
theorem ne_of_hexValue? {c : Char} {value : Nat} (isHex : hexValue? c = some value) :
    c ≠ '"' ∧ c ≠ '\\' ∧ c ≠ ',' := by
  refine ⟨?_, ?_, ?_⟩
  · rintro rfl
    contradiction
  · rintro rfl
    contradiction
  · rintro rfl
    contradiction

theorem isHex_of_isUnit {a b c d : Char} (isUnit : (hexUnit? a b c d).isSome) :
    ∀ digit ∈ [a, b, c, d], digit ≠ '"' ∧ digit ≠ '\\' ∧ digit ≠ ',' := by
  obtain ⟨unit, found⟩ := Option.isSome_iff_exists.mp isUnit
  simp only [hexUnit?, Option.pure_def, Option.bind_eq_bind, Option.bind_eq_some_iff] at found
  obtain ⟨_, isA, _, isB, _, isC, _, isD, _⟩ := found
  simp only [List.forall_mem_cons, List.not_mem_nil, false_imp_iff, implies_true, and_true]
  exact ⟨ne_of_hexValue? isA, ne_of_hexValue? isB, ne_of_hexValue? isC, ne_of_hexValue? isD⟩

theorem readString_piece (seen : List Nat) (piece : Piece) (rest : List Char) :
    readString seen (piece.text ++ rest) = readString (piece.push seen) rest := by
  cases piece with
  | plain c isPlain =>
      have printable : ¬c.toNat < 0x20 := Nat.not_lt.mpr isPlain.2.2
      simp only [Piece.text, List.singleton_append, Piece.push]
      rw [readString]
      · simp [printable, isPlain.2.1]
      all_goals simp_all
  | escaped c isEscape =>
      obtain ⟨escaped, found⟩ := Option.isSome_iff_exists.mp isEscape
      have notUnit := ne_of_simpleEscape? isEscape
      simp only [Piece.text, List.cons_append, List.nil_append, Piece.push, found, Option.get_some]
      rw [readString]
      · simp [found]
      · simp_all
  | unit a b c d isUnit =>
      obtain ⟨unit, found⟩ := Option.isSome_iff_exists.mp isUnit
      simp [Piece.text, Piece.push, readString, found]

/-- A string is read up to its closing quote. -/
theorem readString_contentText (seen : List Nat) (content : List Piece) (rest : List Char) :
    readString seen (contentText content ++ '"' :: rest) =
      some (pointText (content.foldl Piece.push seen), rest) := by
  induction content generalizing seen with
  | nil => simp [readString, pointText]
  | cons piece content ih =>
      rw [contentText_cons, List.append_assoc, readString_piece, ih, List.foldl_cons]

/-! ## Numbers and words -/

/-- A character of a number or a word. -/
def isAtomChar (c : Char) : Bool :=
  isDigit c || ('a' ≤ c && c ≤ 'z') || ('A' ≤ c && c ≤ 'Z') || ['+', '-', '.'].contains c

/-- The text does not go on with a character of a number or a word. -/
def IsDelimited (rest : List Char) : Prop := ∀ c ∈ rest.head?, isAtomChar c = false

/-- What was read, with more text behind it. -/
def behind {α : Type} (rest : List Char) (read : α × List Char) : α × List Char :=
  (read.1, read.2 ++ rest)

variable {rest : List Char}

theorem isDelimited_cons {c : Char} (apart : isAtomChar c = false) : IsDelimited (c :: rest) := by
  simpa [IsDelimited] using apart

/-- A text that is delimited does not go on with a given character of a number or a word. -/
theorem IsDelimited.ne {c : Char} (delimited : IsDelimited rest) (ofAtom : isAtomChar c = true)
    (more : List Char) : rest ≠ c :: more := by
  rintro rfl
  have apart := delimited c rfl
  rw [ofAtom] at apart
  contradiction

/-- What is delimited adds no first character of a number or a word to a text. -/
theorem IsDelimited.append_ne {c : Char} (delimited : IsDelimited rest)
    (ofAtom : isAtomChar c = true) {text : List Char} (away : ∀ more, text ≠ c :: more)
    (more : List Char) : text ++ rest ≠ c :: more := by
  cases text with
  | nil => exact delimited.ne ofAtom more
  | cons first text =>
      intro same
      exact away text (by rw [(List.cons.inj same).1])

theorem isAtomChar_of_isDigit {c : Char} (digit : isDigit c = true) : isAtomChar c = true := by
  simp [isAtomChar, digit]

/-- Digits end in front of a text that is delimited. -/
theorem takeWhile_isDigit_append (delimited : IsDelimited rest) (text : List Char) :
    (text ++ rest).takeWhile isDigit = text.takeWhile isDigit ∧
      (text ++ rest).dropWhile isDigit = text.dropWhile isDigit ++ rest := by
  induction text with
  | nil =>
      cases rest with
      | nil => simp
      | cons c rest =>
          have noDigit : ¬isDigit c = true := fun digit =>
            delimited.ne (isAtomChar_of_isDigit digit) rest rfl
          simp [noDigit]
  | cons c text ih =>
      by_cases digit : isDigit c = true
      · simp [digit, ih]
      · simp [digit]

/-- The digits in front of a point or an exponent, and what follows them. -/
def wholeDigits : List Char → List Char × List Char
  | '0' :: rest => (['0'], rest)
  | rest => (rest.takeWhile isDigit, rest.dropWhile isDigit)

/-- The number that begins with given digits. -/
def numberFrom (negative : Bool) (whole : List Char × List Char) :
    Except ReadFault (Value × List Char) :=
  if whole.1.isEmpty then .error .malformed
  else
    let fraction := readFraction whole.2
    let exponent := readExponent fraction.2
    if fraction.1.isEmpty && exponent.1.isNone then
      if mostDigits < whole.1.length then .error .valueRefused
      else
        let number : Int := numberOf whole.1
        .ok (.int (if negative then -number else number), whole.2)
    else
      .ok (.real (.finite negative (numberOf (whole.1 ++ fraction.1))
        (exponent.1.getD 0 - fraction.1.length)), exponent.2)

theorem readNumber_minus (rest : List Char) :
    readNumber ('-' :: rest) = numberFrom true (wholeDigits rest) := rfl

theorem readNumber_unsigned {input : List Char} (unsigned : ∀ rest, input ≠ '-' :: rest) :
    readNumber input = numberFrom false (wholeDigits input) := by
  unfold readNumber
  split
  · exact absurd rfl (unsigned _)
  · rfl

theorem wholeDigits_append (delimited : IsDelimited rest) (text : List Char) :
    wholeDigits (text ++ rest) = behind rest (wholeDigits text) := by
  by_cases zero : ∃ more, text = '0' :: more
  · obtain ⟨more, rfl⟩ := zero
    rfl
  · have away (more : List Char) : text ≠ '0' :: more := fun same => zero ⟨more, same⟩
    have digits := takeWhile_isDigit_append delimited text
    rw [wholeDigits, wholeDigits]
    · simp [behind, digits]
    · exact away
    · exact delimited.append_ne (by decide) away

theorem readFraction_append (delimited : IsDelimited rest) (text : List Char) :
    readFraction (text ++ rest) = behind rest (readFraction text) := by
  by_cases point : ∃ more, text = '.' :: more
  · obtain ⟨more, rfl⟩ := point
    have digits := takeWhile_isDigit_append delimited more
    simp only [List.cons_append, readFraction, digits]
    split <;> rfl
  · have away (more : List Char) : text ≠ '.' :: more := fun same => point ⟨more, same⟩
    rw [readFraction, readFraction]
    · rfl
    · exact away
    · exact delimited.append_ne (by decide) away

/-- The sign of an exponent, whether it is a minus, and what follows it. -/
def exponentSign : List Char → Bool × List Char
  | '-' :: after => (true, after)
  | '+' :: after => (false, after)
  | rest => (false, rest)

/-- The exponent whose digits follow a sign. -/
def exponentFrom (signed : Bool × List Char) : Option (Int × List Char) :=
  let digits := signed.2.takeWhile isDigit
  if digits.isEmpty then none
  else
    let size : Int := numberOf digits
    some (if signed.1 then -size else size, signed.2.dropWhile isDigit)

theorem readExponent_nil : readExponent [] = (none, []) := rfl

theorem readExponent_cons (e : Char) (rest : List Char) :
    readExponent (e :: rest) =
      if e == 'e' || e == 'E' then
        match exponentFrom (exponentSign rest) with
        | some exponent => (some exponent.1, exponent.2)
        | none => (none, e :: rest)
      else (none, e :: rest) := by
  fun_cases exponentSign rest with
  | case1 after =>
      simp only [readExponent, exponentFrom]
      split
      · split <;> simp_all
      · rfl
  | case2 after =>
      simp only [readExponent, exponentFrom]
      split
      · split <;> simp_all
      · rfl
  | case3 _ noMinus noPlus =>
      rw [readExponent]
      · simp only [exponentFrom]
        split
        · split <;> simp_all
        · rfl
      · exact noMinus
      · exact noPlus

theorem exponentSign_append (delimited : IsDelimited rest) (text : List Char) :
    exponentSign (text ++ rest) = behind rest (exponentSign text) := by
  fun_cases exponentSign text with
  | case1 after => rfl
  | case2 after => rfl
  | case3 _ noMinus noPlus =>
      rw [exponentSign]
      · rfl
      · exact delimited.append_ne (by decide) noMinus
      · exact delimited.append_ne (by decide) noPlus

theorem exponentFrom_append (delimited : IsDelimited rest) (signed : Bool × List Char) :
    exponentFrom (behind rest signed) = (exponentFrom signed).map (behind rest) := by
  have digits := takeWhile_isDigit_append delimited signed.2
  simp only [exponentFrom, behind, digits]
  split <;> rfl

theorem readExponent_append (delimited : IsDelimited rest) (text : List Char) :
    readExponent (text ++ rest) = behind rest (readExponent text) := by
  cases text with
  | nil =>
      cases rest with
      | nil => rfl
      | cons c rest =>
          have noExponent : ¬(c == 'e' || c == 'E') = true := by
            simp only [Bool.or_eq_true, beq_iff_eq]
            rintro (rfl | rfl)
            · exact delimited.ne (by decide) rest rfl
            · exact delimited.ne (by decide) rest rfl
          simp [readExponent_cons, readExponent_nil, noExponent, behind]
  | cons e text =>
      rw [List.cons_append, readExponent_cons, readExponent_cons,
        exponentSign_append delimited, exponentFrom_append delimited]
      split
      · cases exponentFrom (exponentSign text) <;> rfl
      · rfl

theorem numberFrom_behind (delimited : IsDelimited rest) (negative : Bool)
    (whole : List Char × List Char) :
    numberFrom negative (behind rest whole) =
      (numberFrom negative whole).map (behind rest) := by
  have fraction := readFraction_append delimited whole.2
  have exponent := readExponent_append delimited (readFraction whole.2).2
  simp only [behind] at fraction exponent
  simp only [numberFrom, behind, fraction, exponent]
  by_cases noWhole : whole.1.isEmpty = true
  · simp [noWhole, Except.map]
  by_cases isInteger :
      ((readFraction whole.2).1.isEmpty && (readExponent (readFraction whole.2).2).1.isNone) = true
  · by_cases long : mostDigits < whole.1.length <;>
      simp [noWhole, isInteger, long, Except.map, behind]
  · simp [noWhole, isInteger, Except.map, behind]

/-- What follows a number does not change how it is read. -/
theorem readNumber_append (delimited : IsDelimited rest) (text : List Char) :
    readNumber (text ++ rest) = (readNumber text).map (behind rest) := by
  by_cases minus : ∃ more, text = '-' :: more
  · obtain ⟨more, rfl⟩ := minus
    rw [List.cons_append, readNumber_minus, readNumber_minus, wholeDigits_append delimited,
      numberFrom_behind delimited]
  · have away (more : List Char) : text ≠ '-' :: more := fun same => minus ⟨more, same⟩
    rw [readNumber_unsigned away,
      readNumber_unsigned (delimited.append_ne (by decide) away),
      wholeDigits_append delimited, numberFrom_behind delimited]

/-- A word that is followed by a text that is delimited is found in front of it. -/
theorem isPrefixOf_append {word : List Char} (ofAtoms : word.all isAtomChar = true)
    (delimited : IsDelimited rest) (text : List Char) :
    word.isPrefixOf (text ++ rest) = word.isPrefixOf text := by
  induction word generalizing text with
  | nil => simp
  | cons c word ih =>
      rw [List.all_cons, Bool.and_eq_true] at ofAtoms
      cases text with
      | nil =>
          cases rest with
          | nil => rfl
          | cons first rest =>
              have apart : c ≠ first := by
                rintro rfl
                exact delimited.ne ofAtoms.1 rest rfl
              simp [List.isPrefixOf, apart]
      | cons first text => simp [List.isPrefixOf, ih ofAtoms.2]

theorem dropWord?_append {word : String} (ofAtoms : word.toList.all isAtomChar = true)
    (delimited : IsDelimited rest) (text : List Char) :
    dropWord? word (text ++ rest) = (dropWord? word text).map (· ++ rest) := by
  rw [dropWord?, dropWord?, isPrefixOf_append ofAtoms delimited]
  split
  case isTrue isFront =>
    have short : word.length ≤ text.length := by
      simpa [String.length_toList] using (List.isPrefixOf_iff_prefix.mp isFront).length_le
    simp [List.drop_append_of_le_length short]
  case isFalse => rfl

/-- What follows a word does not change how it is read. -/
theorem readWord_append (delimited : IsDelimited rest) (text : List Char) :
    readWord (text ++ rest) = (readWord text).map (behind rest) := by
  have drop (word : String) (ofAtoms : word.toList.all isAtomChar = true) :=
    dropWord?_append ofAtoms delimited text
  rw [readWord, readWord, List.map_findSome?]
  simp only [List.findSome?_cons, List.findSome?_nil, Function.comp_apply, Option.map_map,
    drop "null" (by decide), drop "true" (by decide), drop "false" (by decide),
    drop "NaN" (by decide), drop "Infinity" (by decide), drop "-Infinity" (by decide)]
  rfl

/-- Reads a word or a number. -/
def readAtom (input : List Char) : Except ReadFault (Value × List Char) :=
  match readWord input with
  | some read => .ok read
  | none => readNumber input

/-- What follows a word or a number does not change how it is read. -/
theorem readAtom_append (delimited : IsDelimited rest) (text : List Char) :
    readAtom (text ++ rest) = (readAtom text).map (behind rest) := by
  rw [readAtom, readAtom, readWord_append delimited, readNumber_append delimited]
  cases readWord text <;> rfl

end ScopeAtlas.Data.Json
