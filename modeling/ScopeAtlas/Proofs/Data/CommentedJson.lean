import ScopeAtlas.Data.JsonComments
import ScopeAtlas.Proofs.Data.JsonTokens

/-!
# JSON with comments and trailing commas

The ways to write a value: tokens with white space and comments between them, and with a comma that
may follow the last item of a list or the last entry of a table.  A text goes through two passes,
one for the comments and one for the commas, and is then read as JSON.  The second pass does not
tell strings from other text, so a string loses the commas in it that stand before a closing
bracket.
-/

namespace ScopeAtlas.Data.JsonComments

open ScopeAtlas.Data.Json ScopeAtlas.Text

/-! ## Ways to write a value -/

/-- The stages of a text. -/
inductive Stage where
  | written
  | uncommented
  | plain
deriving Repr, DecidableEq

/-- A part of what stands between two tokens. -/
inductive GapPiece where
  | space (c : Char) (isSpace : isSpace c = true)
  | line (comment : List Char) (oneLine : '\n' ∉ comment)
  | block (comment : List Char) (noEnd : afterBlock? comment = none)

/-- The characters of a part of a gap.  The line end behind a comment outlives it. -/
def GapPiece.text (stage : Stage) : GapPiece → List Char
  | space c _ => [c]
  | line comment _ =>
      match stage with
      | .written => '/' :: '/' :: (comment ++ ['\n'])
      | _ => ['\n']
  | block comment _ =>
      match stage with
      | .written => '/' :: '*' :: (comment ++ ['*', '/'])
      | _ => []

/-- The characters between two tokens. -/
def gapText (stage : Stage) (gap : List GapPiece) : List Char := gap.flatMap (·.text stage)

theorem gapText_cons (stage : Stage) (piece : GapPiece) (gap : List GapPiece) :
    gapText stage (piece :: gap) = piece.text stage ++ gapText stage gap := rfl

/-- A comma behind the last item or entry, and what follows it. -/
def trailingText (stage : Stage) : Option (List GapPiece) → List Char
  | none => []
  | some gap =>
      match stage with
      | .plain => gapText stage gap
      | _ => ',' :: gapText stage gap

/-- A comma that stands for itself. -/
def isPlainComma : Piece → Bool
  | .plain c _ => c == ','
  | _ => false

/-- A string without the commas that stand before a closing bracket in it. -/
def thinned : List Piece → List Piece
  | [] => []
  | piece :: rest =>
      if isPlainComma piece && closesNext (contentText rest) then thinned rest
      else piece :: thinned rest

/-- A string at a stage. -/
def contentAt (stage : Stage) (content : List Piece) : List Piece :=
  match stage with
  | .plain => thinned content
  | _ => content

/-- A string with its quotes. -/
def quoted (stage : Stage) (content : List Piece) : List Char :=
  '"' :: (contentText (contentAt stage content) ++ ['"'])

mutual

/-- A way to write a value. -/
inductive Writing where
  | atom (text : List Char) (value : Value) (ofAtoms : ∀ c ∈ text, isAtomChar c = true)
      (isRead : readAtom text = .ok (value, []))
  | string (content : List Piece)
  | emptyList (gap : List GapPiece)
  | list (opening : List GapPiece) (items : Items)
  | emptyTable (gap : List GapPiece)
  | table (opening : List GapPiece) (entries : Entries)

/-- A way to write the items of a list. -/
inductive Items where
  | last (item : Writing) (after : List GapPiece) (trailing : Option (List GapPiece))
  | more (item : Writing) (before after : List GapPiece) (rest : Items)

/-- A way to write the entries of a table. -/
inductive Entries where
  | last (key : List Piece) (before after : List GapPiece) (value : Writing)
      (closing : List GapPiece) (trailing : Option (List GapPiece))
  | more (key : List Piece) (before after : List GapPiece) (value : Writing)
      (beforeNext afterComma : List GapPiece) (rest : Entries)

end

mutual

/-- The characters of a value. -/
def Writing.text (stage : Stage) : Writing → List Char
  | .atom text _ _ _ => text
  | .string content => quoted stage content
  | .emptyList gap => '[' :: (gapText stage gap ++ [']'])
  | .list opening items => '[' :: (gapText stage opening ++ (items.text stage ++ [']']))
  | .emptyTable gap => '\x7b' :: (gapText stage gap ++ ['\x7d'])
  | .table opening entries => '\x7b' :: (gapText stage opening ++ (entries.text stage ++ ['\x7d']))

/-- The characters of the items of a list. -/
def Items.text (stage : Stage) : Items → List Char
  | .last item after trailing =>
      item.text stage ++ (gapText stage after ++ trailingText stage trailing)
  | .more item before after rest =>
      item.text stage ++ (gapText stage before ++ ',' :: (gapText stage after ++ rest.text stage))

/-- The characters of the entries of a table. -/
def Entries.text (stage : Stage) : Entries → List Char
  | .last key before after value closing trailing =>
      quoted stage key ++ (gapText stage before ++ ':' :: (gapText stage after ++
        (value.text stage ++ (gapText stage closing ++ trailingText stage trailing))))
  | .more key before after value beforeNext afterComma rest =>
      quoted stage key ++ (gapText stage before ++ ':' :: (gapText stage after ++
        (value.text stage ++ (gapText stage beforeNext ++
          ',' :: (gapText stage afterComma ++ rest.text stage)))))

end

/-- A table in which the last of several entries with one key wins. -/
def tableOf (entries : List (String × Value)) : Value :=
  .table (entries.foldl (fun table entry => putEntry entry.1 entry.2 table) [])

mutual

/-- The value that is written. -/
def Writing.value (stage : Stage) : Writing → Value
  | .atom _ value _ _ => value
  | .string content => .text (decoded (contentAt stage content))
  | .emptyList _ => .list []
  | .list _ items => .list (items.values stage)
  | .emptyTable _ => .table []
  | .table _ entries => tableOf (entries.pairs stage)

/-- The items that are written. -/
def Items.values (stage : Stage) : Items → List Value
  | .last item _ _ => [item.value stage]
  | .more item _ _ rest => item.value stage :: rest.values stage

/-- The entries that are written. -/
def Entries.pairs (stage : Stage) : Entries → List (String × Value)
  | .last key _ _ value _ _ => [(decoded (contentAt stage key), value.value stage)]
  | .more key _ _ value _ _ rest =>
      (decoded (contentAt stage key), value.value stage) :: rest.pairs stage

end

/-- A text that holds a value: what stands around it, and a comment in the last line that has no
line end. -/
structure Document where
  front : List GapPiece
  body : Writing
  back : List GapPiece
  ending : Option { comment : List Char // '\n' ∉ comment }

/-- The last line of a text. -/
def endingText (stage : Stage) : Option { comment : List Char // '\n' ∉ comment } → List Char
  | none => []
  | some comment =>
      match stage with
      | .written => '/' :: '/' :: comment.1
      | _ => []

/-- The characters of a text. -/
def Document.text (stage : Stage) (document : Document) : List Char :=
  gapText stage document.front ++ (document.body.text stage ++
    (gapText stage document.back ++ endingText stage document.ending))

/-! ## Comments -/

theorem length_afterBlock?_le {text after : List Char} (found : afterBlock? text = some after) :
    after.length ≤ text.length := by
  fun_induction afterBlock? text with
  | case1 => contradiction
  | case2 rest =>
      obtain rfl := Option.some.inj found
      simp only [List.length_cons]
      omega
  | case3 c rest _ ih =>
      have shorter := ih found
      simp only [List.length_cons]
      omega

theorem length_cutString?_lt {text : List Char} {parts : List Char × List Char}
    (found : cutString? text = some parts) : parts.2.length < text.length := by
  fun_induction cutString? text generalizing parts with
  | case1 => contradiction
  | case2 rest =>
      obtain rfl := Option.some.inj found
      simp
  | case3 c rest ih =>
      obtain ⟨inner, isInner, rfl⟩ := Option.map_eq_some_iff.mp found
      have shorter := ih isInner
      simp only [List.length_cons]
      omega
  | case4 => contradiction
  | case5 c rest _ _ _ ih =>
      obtain ⟨inner, isInner, rfl⟩ := Option.map_eq_some_iff.mp found
      have shorter := ih isInner
      simp only [List.length_cons]
      omega

/-- More fuel than characters makes no difference. -/
theorem withoutComments_eq_of_lt {text : List Char} {fuel more : Nat}
    (enough : text.length < fuel) (alsoEnough : text.length < more) :
    withoutComments fuel text = withoutComments more text := by
  induction fuel generalizing more text with
  | zero => omega
  | succ fuel ih =>
      obtain ⟨more, rfl⟩ := Nat.exists_eq_succ_of_ne_zero (Nat.ne_of_gt (Nat.zero_lt_of_lt alsoEnough))
      have step {after : List Char} (shorter : after.length < text.length) :
          withoutComments fuel after = withoutComments more after :=
        ih (by omega) (by omega)
      simp only [withoutComments]
      split
      case h_1 => rfl
      case h_2 rest =>
        split
        case h_1 found => rw [step]; simpa using Nat.lt_succ_of_lt (length_cutString?_lt found)
        case h_2 => rw [step]; simp
      case h_3 rest =>
        have shorter := (List.dropWhile_sublist (l := rest) (· != '\n')).length_le
        rw [step]
        simp only [List.length_cons]
        omega
      case h_4 rest =>
        split
        case h_1 found =>
          have shorter := length_afterBlock?_le found
          rw [step]
          simp only [List.length_cons]
          omega
        case h_2 => rw [step]; simp
      case h_5 => rw [step]; simp

/-- The text without comments. -/
def uncomment (text : List Char) : List Char := withoutComments (text.length + 1) text

theorem withoutComments_eq_uncomment {text : List Char} {fuel : Nat}
    (enough : text.length < fuel) : withoutComments fuel text = uncomment text :=
  withoutComments_eq_of_lt enough (Nat.lt_succ_self _)

variable {rest : List Char}

theorem uncomment_cons {c : Char} (noQuote : c ≠ '"') (noSlash : c ≠ '/') :
    uncomment (c :: rest) = c :: uncomment rest := by
  rw [uncomment, List.length_cons, withoutComments]
  · rfl
  · exact noQuote
  · exact fun _ same _ => noSlash same
  · exact fun _ same _ => noSlash same

/-- A string of characters that cannot begin a string or a comment stays as it is. -/
theorem uncomment_append {text : List Char} (apart : ∀ c ∈ text, c ≠ '"' ∧ c ≠ '/')
    (rest : List Char) : uncomment (text ++ rest) = text ++ uncomment rest := by
  induction text with
  | nil => rfl
  | cons c text ih =>
      rw [List.forall_mem_cons] at apart
      rw [List.cons_append, uncomment_cons apart.1.1 apart.1.2, ih apart.2, List.cons_append]

theorem cutString?_cons {c : Char} (noQuote : c ≠ '"') (noBackslash : c ≠ '\\') :
    cutString? (c :: rest) = (cutString? rest).map fun parts => (c :: parts.1, parts.2) := by
  rw [cutString?]
  · simp [noBackslash]
  · exact noQuote
  · exact fun _ _ same _ => noBackslash same

theorem cutString?_piece (piece : Piece) (rest : List Char) :
    cutString? (piece.text ++ rest) =
      (cutString? rest).map fun parts => (piece.text ++ parts.1, parts.2) := by
  cases piece with
  | plain c isPlain => exact cutString?_cons isPlain.1 isPlain.2.1
  | escaped c isEscape => rfl
  | unit a b c d isUnit =>
      obtain ⟨isA, isB, isC, isD, _⟩ := by
        simpa only [List.forall_mem_cons] using isHex_of_isUnit isUnit
      simp only [Piece.text, List.cons_append, List.nil_append, cutString?,
        cutString?_cons isA.1 isA.2.1, cutString?_cons isB.1 isB.2.1,
        cutString?_cons isC.1 isC.2.1, cutString?_cons isD.1 isD.2.1, Option.map_map]
      rfl

/-- A string ends at its closing quote. -/
theorem cutString?_contentText (content : List Piece) (rest : List Char) :
    cutString? (contentText content ++ '"' :: rest) = some (contentText content ++ ['"'], rest) := by
  induction content with
  | nil => simp [cutString?]
  | cons piece content ih => simp [List.append_assoc, cutString?_piece, ih]

theorem uncomment_string (content : List Piece) (rest : List Char) :
    uncomment ('"' :: (contentText content ++ '"' :: rest)) =
      '"' :: (contentText content ++ '"' :: uncomment rest) := by
  rw [uncomment, List.length_cons, withoutComments]
  simp only [cutString?_contentText]
  rw [withoutComments_eq_uncomment]
  · simp
  · simp
    omega

/-- A line comment ends in front of the line end. -/
theorem dropWhile_comment {comment : List Char} (oneLine : '\n' ∉ comment) (rest : List Char) :
    (comment ++ rest).dropWhile (· != '\n') = rest.dropWhile (· != '\n') := by
  rw [List.dropWhile_append_of_pos]
  intro c member
  simpa using ne_of_mem_of_not_mem member oneLine

theorem uncomment_line {comment : List Char} (oneLine : '\n' ∉ comment) (rest : List Char) :
    uncomment ('/' :: '/' :: (comment ++ '\n' :: rest)) = '\n' :: uncomment rest := by
  rw [uncomment, List.length_cons, withoutComments, dropWhile_comment oneLine,
    List.dropWhile_cons_of_neg (by decide), withoutComments_eq_uncomment,
    uncomment_cons (by decide) (by decide)]
  simp
  omega

theorem uncomment_lastLine {comment : List Char} (oneLine : '\n' ∉ comment) :
    uncomment ('/' :: '/' :: comment) = [] := by
  have nothing := dropWhile_comment oneLine []
  rw [List.append_nil, List.dropWhile_nil] at nothing
  rw [uncomment, List.length_cons, withoutComments, nothing]
  rfl

/-- Without an end mark in it a block comment ends at the mark behind it. -/
theorem afterBlock?_append {comment : List Char} (noEnd : afterBlock? comment = none)
    (rest : List Char) : afterBlock? (comment ++ '*' :: '/' :: rest) = some rest := by
  fun_induction afterBlock? comment with
  | case1 => rfl
  | case2 => contradiction
  | case3 c more away ih =>
      rw [List.cons_append, afterBlock?]
      · exact ih noEnd
      · intro after star same
        cases more with
        | nil => exact absurd (List.cons.inj same).1 (by decide)
        | cons next more => exact away more star (by rw [(List.cons.inj same).1])

theorem uncomment_block {comment : List Char} (noEnd : afterBlock? comment = none)
    (rest : List Char) :
    uncomment ('/' :: '*' :: (comment ++ '*' :: '/' :: rest)) = uncomment rest := by
  rw [uncomment, List.length_cons, withoutComments, afterBlock?_append noEnd]
  simp only []
  rw [withoutComments_eq_uncomment]
  simp
  omega

theorem uncomment_gapPiece (piece : GapPiece) (rest : List Char) :
    uncomment (piece.text .written ++ rest) = piece.text .uncommented ++ uncomment rest := by
  cases piece with
  | space c isSpace =>
      refine uncomment_cons ?_ ?_
      · rintro rfl
        contradiction
      · rintro rfl
        contradiction
  | line comment oneLine => simpa [GapPiece.text] using uncomment_line oneLine rest
  | block comment noEnd => simpa [GapPiece.text] using uncomment_block noEnd rest

/-- Of a gap only the white space stays. -/
theorem uncomment_gapText (gap : List GapPiece) (rest : List Char) :
    uncomment (gapText .written gap ++ rest) = gapText .uncommented gap ++ uncomment rest := by
  induction gap with
  | nil => rfl
  | cons piece gap ih =>
      rw [gapText_cons, gapText_cons, List.append_assoc, List.append_assoc, uncomment_gapPiece, ih]

theorem uncomment_quoted (content : List Piece) (rest : List Char) :
    uncomment (quoted .written content ++ rest) = quoted .uncommented content ++ uncomment rest := by
  simp only [quoted, contentAt, List.cons_append, List.append_assoc, List.nil_append,
    uncomment_string]

theorem uncomment_trailingText (trailing : Option (List GapPiece)) (rest : List Char) :
    uncomment (trailingText .written trailing ++ rest) =
      trailingText .uncommented trailing ++ uncomment rest := by
  cases trailing with
  | none => rfl
  | some gap =>
      simp only [trailingText, List.cons_append, uncomment_gapText,
        uncomment_cons (c := ',') (by decide) (by decide)]

/-- A punctuation mark of JSON. -/
def isMark (c : Char) : Bool := ['[', ']', '\x7b', '\x7d', ':', ','].contains c

theorem uncomment_mark {c : Char} (mark : isMark c = true) :
    uncomment (c :: rest) = c :: uncomment rest := by
  refine uncomment_cons ?_ ?_
  · rintro rfl
    contradiction
  · rintro rfl
    contradiction

mutual

/-- A value loses the comments between its tokens. -/
theorem Writing.uncomment_text (writing : Writing) (rest : List Char) :
    uncomment (writing.text .written ++ rest) = writing.text .uncommented ++ uncomment rest := by
  cases writing with
  | atom text value ofAtoms isRead =>
      refine uncomment_append (fun c member => ?_) rest
      have ofAtom := ofAtoms c member
      refine ⟨?_, ?_⟩
      · rintro rfl
        contradiction
      · rintro rfl
        contradiction
  | string content => exact uncomment_quoted content rest
  | emptyList gap => simp [Writing.text, uncomment_mark, uncomment_gapText, isMark]
  | list opening items =>
      simp [Writing.text, uncomment_mark, uncomment_gapText, isMark, items.uncomment_text]
  | emptyTable gap => simp [Writing.text, uncomment_mark, uncomment_gapText, isMark]
  | table opening entries =>
      simp [Writing.text, uncomment_mark, uncomment_gapText, isMark, entries.uncomment_text]

theorem Items.uncomment_text (items : Items) (rest : List Char) :
    uncomment (items.text .written ++ rest) = items.text .uncommented ++ uncomment rest := by
  cases items with
  | last item after trailing =>
      simp [Items.text, item.uncomment_text, uncomment_gapText, uncomment_trailingText]
  | more item before after more =>
      simp [Items.text, item.uncomment_text, uncomment_gapText, uncomment_mark, isMark,
        more.uncomment_text]

theorem Entries.uncomment_text (entries : Entries) (rest : List Char) :
    uncomment (entries.text .written ++ rest) = entries.text .uncommented ++ uncomment rest := by
  cases entries with
  | last key before after value closing trailing =>
      simp [Entries.text, uncomment_quoted, value.uncomment_text, uncomment_gapText,
        uncomment_mark, isMark, uncomment_trailingText]
  | more key before after value beforeNext afterComma more =>
      simp [Entries.text, uncomment_quoted, value.uncomment_text, uncomment_gapText,
        uncomment_mark, isMark, more.uncomment_text]

end

/-- A text loses its comments. -/
theorem Document.uncomment_text (document : Document) :
    uncomment (document.text .written) = document.text .uncommented := by
  have ending : uncomment (endingText .written document.ending) =
      endingText .uncommented document.ending := by
    cases document.ending with
    | none => rfl
    | some comment => exact uncomment_lastLine comment.2
  simp only [Document.text, uncomment_gapText, document.body.uncomment_text, ending]

/-! ## First characters -/

/-- A value begins with this character. -/
def startsValue (c : Char) : Bool := isAtomChar c || ['"', '[', '\x7b'].contains c

/-- The text begins with a value. -/
def StartsWithValue (text : List Char) : Prop := ∃ c more, text = c :: more ∧ startsValue c = true

theorem StartsWithValue.append {text : List Char} (starts : StartsWithValue text)
    (rest : List Char) : StartsWithValue (text ++ rest) := by
  obtain ⟨c, more, rfl, isStart⟩ := starts
  exact ⟨c, more ++ rest, rfl, isStart⟩

theorem readAtom_nil : readAtom [] = .error .malformed := rfl

theorem Writing.startsWithValue (stage : Stage) (writing : Writing) :
    StartsWithValue (writing.text stage) := by
  cases writing with
  | atom text value ofAtoms isRead =>
      cases text with
      | nil =>
          rw [readAtom_nil] at isRead
          cases isRead
      | cons c more =>
          exact ⟨c, more, rfl, by simp [startsValue, ofAtoms c List.mem_cons_self]⟩
  | string content => exact ⟨'"', _, rfl, by decide⟩
  | emptyList gap => exact ⟨'[', _, rfl, by decide⟩
  | list opening items => exact ⟨'[', _, rfl, by decide⟩
  | emptyTable gap => exact ⟨'\x7b', _, rfl, by decide⟩
  | table opening entries => exact ⟨'\x7b', _, rfl, by decide⟩

theorem Items.startsWithValue (stage : Stage) (items : Items) :
    StartsWithValue (items.text stage) := by
  cases items with
  | last item after trailing => exact (item.startsWithValue stage).append _
  | more item before after rest => exact (item.startsWithValue stage).append _

theorem Entries.startsWithValue (stage : Stage) (entries : Entries) :
    StartsWithValue (entries.text stage) := by
  cases entries with
  | last => exact ⟨'"', _, rfl, by decide⟩
  | more => exact ⟨'"', _, rfl, by decide⟩

/-- A value begins with a visible character of ASCII. -/
theorem toNat_of_startsValue {c : Char} (isStart : startsValue c = true) :
    0x21 ≤ c.toNat ∧ c.toNat ≤ 0x7b := by
  simp only [startsValue, isAtomChar, isDigit, Bool.or_eq_true, Bool.and_eq_true,
    decide_eq_true_eq, List.contains_eq_mem, List.mem_cons, List.not_mem_nil, or_false,
    Char.le_def, UInt32.le_iff_toNat_le] at isStart
  simp only [Char.toNat]
  rcases isStart with (((range | range) | range) | rfl | rfl | rfl) | rfl | rfl | rfl
  · have low : '0'.val.toNat = 48 := rfl
    have high : '9'.val.toNat = 57 := rfl
    omega
  · have low : 'a'.val.toNat = 97 := rfl
    have high : 'z'.val.toNat = 122 := rfl
    omega
  · have low : 'A'.val.toNat = 65 := rfl
    have high : 'Z'.val.toNat = 90 := rfl
    omega
  all_goals decide

theorem isBlank_of_startsValue {c : Char} (isStart : startsValue c = true) :
    isBlank c = false := by
  have range := toNat_of_startsValue isStart
  rw [← Bool.not_eq_true]
  intro blank
  simp only [isBlank, Bool.or_eq_true, Bool.and_eq_true, decide_eq_true_eq, beq_iff_eq] at blank
  omega

theorem isBlank_of_isSpace {c : Char} (space : isSpace c = true) : isBlank c = true := by
  simp only [isSpace, Bool.or_eq_true, beq_iff_eq] at space
  rcases space with ((rfl | rfl) | rfl) | rfl <;> decide

/-! ## Commas before closing brackets -/

/-- A closing bracket. -/
def isClosing (c : Char) : Bool := c == ']' || c == '\x7d'

theorem withoutTrailingCommas_cons {c : Char} (noComma : c ≠ ',') :
    withoutTrailingCommas (c :: rest) = c :: withoutTrailingCommas rest := by
  simp [withoutTrailingCommas, noComma]

theorem withoutTrailingCommas_append {text : List Char} (noCommas : ',' ∉ text)
    (rest : List Char) :
    withoutTrailingCommas (text ++ rest) = text ++ withoutTrailingCommas rest := by
  induction text with
  | nil => rfl
  | cons c text ih =>
      rw [List.mem_cons, not_or] at noCommas
      rw [List.cons_append, withoutTrailingCommas_cons (Ne.symm noCommas.1), ih noCommas.2,
        List.cons_append]

theorem closesNext_cons {c : Char} (visible : isBlank c = false) :
    closesNext (c :: rest) = isClosing c := by
  simp [closesNext, visible, isClosing]

/-- What closes next does not depend on white space. -/
theorem closesNext_append {blanks : List Char} (allBlank : ∀ c ∈ blanks, isBlank c = true)
    (rest : List Char) : closesNext (blanks ++ rest) = closesNext rest := by
  rw [closesNext, closesNext, List.dropWhile_append_of_pos allBlank]

/-- A value is no closing bracket. -/
theorem StartsWithValue.closesNext {text : List Char} (starts : StartsWithValue text) :
    closesNext text = false := by
  obtain ⟨c, more, rfl, isStart⟩ := starts
  rw [closesNext_cons (isBlank_of_startsValue isStart)]
  simp only [isClosing, Bool.or_eq_false_iff, beq_eq_false_iff_ne]
  constructor
  · rintro rfl
    contradiction
  · rintro rfl
    contradiction

/-- Without comments a gap is white space. -/
theorem isSpace_of_mem_gapText {stage : Stage} (notWritten : stage ≠ .written)
    {gap : List GapPiece} {c : Char} (member : c ∈ gapText stage gap) : isSpace c = true := by
  obtain ⟨piece, -, inPiece⟩ := List.mem_flatMap.mp member
  cases piece with
  | space c isSpace => rwa [List.mem_singleton.mp inPiece]
  | line comment oneLine =>
      cases stage with
      | written => contradiction
      | uncommented => rw [List.mem_singleton.mp inPiece]; rfl
      | plain => rw [List.mem_singleton.mp inPiece]; rfl
  | block comment noEnd =>
      cases stage with
      | written => contradiction
      | uncommented => contradiction
      | plain => contradiction

theorem withoutTrailingCommas_gapText (gap : List GapPiece) (rest : List Char) :
    withoutTrailingCommas (gapText .uncommented gap ++ rest) =
      gapText .plain gap ++ withoutTrailingCommas rest := by
  refine withoutTrailingCommas_append (fun comma => ?_) rest
  exact absurd (isSpace_of_mem_gapText (by decide) comma) (by decide)

theorem closesNext_gapText (gap : List GapPiece) (rest : List Char) :
    closesNext (gapText .uncommented gap ++ rest) = closesNext rest :=
  closesNext_append
    (fun _ member => isBlank_of_isSpace (isSpace_of_mem_gapText (by decide) member)) rest

/-- A comma in front of a value stays. -/
theorem withoutTrailingCommas_comma {text : List Char} (starts : StartsWithValue text)
    (gap : List GapPiece) :
    withoutTrailingCommas (',' :: (gapText .uncommented gap ++ text)) =
      ',' :: (gapText .plain gap ++ withoutTrailingCommas text) := by
  have stays : closesNext (gapText .uncommented gap ++ text) = false := by
    rw [closesNext_gapText, starts.closesNext]
  rw [withoutTrailingCommas, stays, withoutTrailingCommas_gapText]
  simp

/-- A comma in front of a closing bracket goes. -/
theorem withoutTrailingCommas_trailingText {closing : Char} (closes : isClosing closing = true)
    (trailing : Option (List GapPiece)) (rest : List Char) :
    withoutTrailingCommas (trailingText .uncommented trailing ++ closing :: rest) =
      trailingText .plain trailing ++ withoutTrailingCommas (closing :: rest) := by
  cases trailing with
  | none => rfl
  | some gap =>
      have visible : isBlank closing = false := by
        simp only [isClosing, Bool.or_eq_true, beq_iff_eq] at closes
        rcases closes with rfl | rfl <;> decide
      have goes : closesNext (gapText .uncommented gap ++ closing :: rest) = true := by
        rw [closesNext_gapText, closesNext_cons visible, closes]
      simp only [trailingText, List.cons_append]
      rw [withoutTrailingCommas, goes, withoutTrailingCommas_gapText]
      simp

/-- What closes next in a string does not depend on what follows its closing quote. -/
theorem closesNext_append_quote (text rest : List Char) :
    closesNext (text ++ '"' :: rest) = closesNext text := by
  induction text with
  | nil => rw [List.nil_append, closesNext_cons (by decide)]; rfl
  | cons c text ih =>
      by_cases blank : isBlank c = true
      · simpa [closesNext, blank] using ih
      · simp [closesNext, blank]

/-- A piece that is no plain comma has none in its text. -/
theorem comma_not_mem_text {piece : Piece} (noComma : isPlainComma piece = false) :
    ',' ∉ piece.text := by
  intro comma
  cases piece with
  | plain c isPlain =>
      obtain rfl := List.mem_singleton.mp comma
      contradiction
  | escaped c isEscape =>
      obtain rfl : ',' = c := by simpa [Piece.text] using comma
      contradiction
  | unit a b c d isUnit =>
      have inDigits : ',' ∈ [a, b, c, d] := by simpa [Piece.text] using comma
      exact (isHex_of_isUnit isUnit ',' inDigits).2.2 rfl

theorem text_of_isPlainComma {piece : Piece} (comma : isPlainComma piece = true) :
    piece.text = [','] := by
  cases piece <;> simp_all [isPlainComma, Piece.text]

/-- A string loses the commas that stand before a closing bracket in it. -/
theorem withoutTrailingCommas_contentText (content : List Piece) (rest : List Char) :
    withoutTrailingCommas (contentText content ++ '"' :: rest) =
      contentText (thinned content) ++ '"' :: withoutTrailingCommas rest := by
  induction content with
  | nil => exact withoutTrailingCommas_cons (by decide)
  | cons piece content ih =>
      rw [contentText_cons, List.append_assoc, thinned]
      cases comma : isPlainComma piece with
      | false =>
          rw [withoutTrailingCommas_append (comma_not_mem_text comma), ih]
          simp
      | true =>
          have text := text_of_isPlainComma comma
          rw [text, List.singleton_append, withoutTrailingCommas, closesNext_append_quote]
          cases closesNext (contentText content) <;> simp [ih, text]

theorem withoutTrailingCommas_quoted (content : List Piece) (rest : List Char) :
    withoutTrailingCommas (quoted .uncommented content ++ rest) =
      quoted .plain content ++ withoutTrailingCommas rest := by
  have inside := withoutTrailingCommas_contentText content rest
  simp only [quoted, contentAt, List.cons_append, List.append_assoc, List.nil_append]
  rw [withoutTrailingCommas_cons (by decide), inside]

mutual

/-- A value loses the commas that stand before a closing bracket, those in its strings as well. -/
theorem Writing.withoutTrailingCommas_text (writing : Writing) (rest : List Char) :
    withoutTrailingCommas (writing.text .uncommented ++ rest) =
      writing.text .plain ++ withoutTrailingCommas rest := by
  cases writing with
  | atom text value ofAtoms isRead =>
      exact withoutTrailingCommas_append (fun comma => absurd (ofAtoms ',' comma) (by decide)) rest
  | string content => exact withoutTrailingCommas_quoted content rest
  | emptyList gap =>
      simp [Writing.text, withoutTrailingCommas_cons, withoutTrailingCommas_gapText]
  | list opening items =>
      simp [Writing.text, withoutTrailingCommas_cons, withoutTrailingCommas_gapText,
        items.withoutTrailingCommas_text ']' (by decide)]
  | emptyTable gap =>
      simp [Writing.text, withoutTrailingCommas_cons, withoutTrailingCommas_gapText]
  | table opening entries =>
      simp [Writing.text, withoutTrailingCommas_cons, withoutTrailingCommas_gapText,
        entries.withoutTrailingCommas_text '\x7d' (by decide)]

theorem Items.withoutTrailingCommas_text (items : Items) (closing : Char)
    (closes : isClosing closing = true) (rest : List Char) :
    withoutTrailingCommas (items.text .uncommented ++ closing :: rest) =
      items.text .plain ++ withoutTrailingCommas (closing :: rest) := by
  cases items with
  | last item after trailing =>
      simp only [Items.text, List.append_assoc]
      rw [item.withoutTrailingCommas_text, withoutTrailingCommas_gapText,
        withoutTrailingCommas_trailingText closes]
  | more item before after more =>
      simp only [Items.text, List.append_assoc, List.cons_append]
      rw [item.withoutTrailingCommas_text, withoutTrailingCommas_gapText,
        withoutTrailingCommas_comma ((more.startsWithValue .uncommented).append _),
        more.withoutTrailingCommas_text closing closes]

theorem Entries.withoutTrailingCommas_text (entries : Entries) (closing : Char)
    (closes : isClosing closing = true) (rest : List Char) :
    withoutTrailingCommas (entries.text .uncommented ++ closing :: rest) =
      entries.text .plain ++ withoutTrailingCommas (closing :: rest) := by
  cases entries with
  | last key before after value closingGap trailing =>
      simp only [Entries.text, List.append_assoc, List.cons_append]
      rw [withoutTrailingCommas_quoted, withoutTrailingCommas_gapText,
        withoutTrailingCommas_cons (by decide), withoutTrailingCommas_gapText,
        value.withoutTrailingCommas_text, withoutTrailingCommas_gapText,
        withoutTrailingCommas_trailingText closes]
  | more key before after value beforeNext afterComma more =>
      simp only [Entries.text, List.append_assoc, List.cons_append]
      rw [withoutTrailingCommas_quoted, withoutTrailingCommas_gapText,
        withoutTrailingCommas_cons (by decide), withoutTrailingCommas_gapText,
        value.withoutTrailingCommas_text, withoutTrailingCommas_gapText,
        withoutTrailingCommas_comma ((more.startsWithValue .uncommented).append _),
        more.withoutTrailingCommas_text closing closes]

end

/-- A text loses the commas that stand before a closing bracket. -/
theorem Document.withoutTrailingCommas_text (document : Document) :
    withoutTrailingCommas (document.text .uncommented) = document.text .plain := by
  have noEnding : endingText .uncommented document.ending = [] := by
    cases document.ending <;> rfl
  have stillNone : endingText .plain document.ending = [] := by
    cases document.ending <;> rfl
  simp only [Document.text, noEnding, stillNone, withoutTrailingCommas_gapText,
    document.body.withoutTrailingCommas_text]
  rfl

/-- The two passes lead from the written text to the plain one. -/
theorem toList_strip_text (document : Document) :
    (strip (String.ofList (document.text .written))).toList = document.text .plain := by
  simp only [strip, String.toList_ofList]
  rw [withoutComments_eq_uncomment (Nat.lt_succ_self _), document.uncomment_text,
    document.withoutTrailingCommas_text]

/-! ## Reading -/

theorem skipSpace_gapText (gap : List GapPiece) (rest : List Char) :
    skipSpace (gapText .plain gap ++ rest) = skipSpace rest :=
  List.dropWhile_append_of_pos fun _ member => isSpace_of_mem_gapText (by decide) member

theorem skipSpace_cons {c : Char} (visible : isSpace c = false) :
    skipSpace (c :: rest) = c :: rest := by
  simp [skipSpace, visible]

theorem StartsWithValue.skipSpace {text : List Char} (starts : StartsWithValue text) :
    skipSpace text = text := by
  obtain ⟨c, more, rfl, isStart⟩ := starts
  refine skipSpace_cons ?_
  rw [← Bool.not_eq_true]
  intro space
  have visible := isBlank_of_startsValue isStart
  rw [isBlank_of_isSpace space] at visible
  contradiction

theorem StartsWithValue.ne {text : List Char} (starts : StartsWithValue text) {c : Char}
    (other : startsValue c = false) (more : List Char) : text ≠ c :: more := by
  rintro rfl
  obtain ⟨first, _, same, isStart⟩ := starts
  rw [← (List.cons.inj same).1, other] at isStart
  contradiction

theorem isAtomChar_of_isSpace {c : Char} (space : isSpace c = true) : isAtomChar c = false := by
  simp only [isSpace, Bool.or_eq_true, beq_iff_eq] at space
  rcases space with ((rfl | rfl) | rfl) | rfl <;> decide

/-- Behind a value stands white space or a punctuation mark. -/
theorem isDelimited_gapText {c : Char} (mark : isAtomChar c = false) (gap : List GapPiece)
    (rest : List Char) : IsDelimited (gapText .plain gap ++ c :: rest) := by
  cases shape : gapText .plain gap with
  | nil => exact isDelimited_cons mark
  | cons first more =>
      have inGap : first ∈ gapText .plain gap := by simp [shape]
      exact isDelimited_cons (isAtomChar_of_isSpace (isSpace_of_mem_gapText (by decide) inGap))

theorem isDelimited_trailingText {c : Char} (mark : isAtomChar c = false)
    (gap : List GapPiece) (trailing : Option (List GapPiece)) (rest : List Char) :
    IsDelimited (gapText .plain gap ++ (trailingText .plain trailing ++ c :: rest)) := by
  cases trailing with
  | none => exact isDelimited_gapText mark gap rest
  | some more =>
      have both := isDelimited_gapText mark (gap ++ more) rest
      simpa [gapText, trailingText] using both

theorem skipSpace_trailingText (gap : List GapPiece) (trailing : Option (List GapPiece))
    (rest : List Char) :
    skipSpace (gapText .plain gap ++ (trailingText .plain trailing ++ rest)) = skipSpace rest := by
  rw [skipSpace_gapText]
  cases trailing with
  | none => rfl
  | some more => exact skipSpace_gapText more rest

/-- What begins as a number or a word is read as one. -/
theorem readValue_atom (fuel : Nat) {c : Char} (ofAtom : isAtomChar c = true)
    (rest : List Char) : readValue (fuel + 1) (c :: rest) = readAtom (c :: rest) := by
  have other {d : Char} (mark : isAtomChar d = false) (more : List Char) :
      c :: rest ≠ d :: more := by
    intro same
    rw [(List.cons.inj same).1, mark] at ofAtom
    contradiction
  rw [readValue]
  · rfl
  · exact List.cons_ne_nil c rest
  · exact other (by decide)
  · exact other (by decide)
  · exact other (by decide)

theorem readString_quoted (content : List Piece) (rest : List Char) :
    quoted .plain content ++ rest =
        '"' :: (contentText (contentAt .plain content) ++ '"' :: rest) ∧
      readString [] (contentText (contentAt .plain content) ++ '"' :: rest) =
        some (decoded (contentAt .plain content), rest) :=
  ⟨by simp [quoted], readString_contentText [] _ rest⟩

mutual

/-- A value is read from its plain text. -/
theorem Writing.readValue_text (writing : Writing) {fuel : Nat}
    (enough : (writing.text .plain).length < fuel) {rest : List Char}
    (delimited : IsDelimited rest) :
    readValue fuel (writing.text .plain ++ rest) = .ok (writing.value .plain, rest) := by
  obtain ⟨fuel, rfl⟩ := Nat.exists_eq_succ_of_ne_zero (Nat.ne_of_gt (Nat.zero_lt_of_lt enough))
  cases writing with
  | atom text value ofAtoms isRead =>
      cases text with
      | nil =>
          rw [readAtom_nil] at isRead
          cases isRead
      | cons c more =>
          have ofAtom := ofAtoms c List.mem_cons_self
          have read := readAtom_append delimited (c :: more)
          rw [isRead] at read
          rw [Writing.text, List.cons_append, readValue_atom fuel ofAtom, ← List.cons_append, read]
          rfl
  | string content =>
      obtain ⟨text, read⟩ := readString_quoted content rest
      rw [Writing.text, text, readValue, read]
      rfl
  | emptyList gap =>
      simp only [Writing.text, List.cons_append, List.append_assoc, List.nil_append]
      rw [readValue, skipSpace_gapText, skipSpace_cons (by decide)]
      rfl
  | list opening items =>
      have starts := (items.startsWithValue .plain).append (']' :: rest)
      have short : (items.text .plain).length + 1 < fuel := by
        simp only [Writing.text, List.length_cons, List.length_append] at enough
        omega
      simp only [Writing.text, List.cons_append, List.append_assoc, List.nil_append]
      rw [readValue, skipSpace_gapText, starts.skipSpace]
      split
      case h_1 same => exact absurd same (starts.ne (by decide) _)
      case h_2 => rw [items.readItems_text [] short]; rfl
  | emptyTable gap =>
      simp only [Writing.text, List.cons_append, List.append_assoc, List.nil_append]
      rw [readValue, skipSpace_gapText, skipSpace_cons (by decide)]
      rfl
  | table opening entries =>
      have starts := (entries.startsWithValue .plain).append ('\x7d' :: rest)
      have short : (entries.text .plain).length + 1 < fuel := by
        simp only [Writing.text, List.length_cons, List.length_append] at enough
        omega
      simp only [Writing.text, List.cons_append, List.append_assoc, List.nil_append]
      rw [readValue, skipSpace_gapText, starts.skipSpace]
      split
      case h_1 same => exact absurd same (starts.ne (by decide) _)
      case h_2 => rw [entries.readEntries_text [] short]; rfl

theorem Items.readItems_text (items : Items) (seen : List Value) {fuel : Nat}
    (enough : (items.text .plain).length + 1 < fuel) (rest : List Char) :
    readItems fuel seen (items.text .plain ++ ']' :: rest) =
      .ok (.list (seen.reverse ++ items.values .plain), rest) := by
  have mark : isAtomChar ']' = false := by decide
  have isClosing : isSpace ']' = false := by decide
  have comma : isAtomChar ',' = false := by decide
  have noSpace : isSpace ',' = false := by decide
  obtain ⟨fuel, rfl⟩ := Nat.exists_eq_succ_of_ne_zero (Nat.ne_of_gt (Nat.zero_lt_of_lt enough))
  cases items with
  | last item after trailing =>
      have short : (item.text .plain).length < fuel := by
        simp only [Items.text, List.length_append] at enough
        omega
      simp only [Items.text, List.append_assoc]
      have delimited := isDelimited_trailingText mark after trailing rest
      rw [readItems, item.readValue_text short delimited]
      simp only [skipSpace_trailingText, skipSpace_cons isClosing]
      simp [Items.values]
  | more item before after more =>
      have starts := (more.startsWithValue .plain).append (']' :: rest)
      have short : (item.text .plain).length < fuel ∧ (more.text .plain).length + 1 < fuel := by
        simp only [Items.text, List.length_append, List.length_cons] at enough
        omega
      simp only [Items.text, List.append_assoc, List.cons_append]
      have delimited := isDelimited_gapText comma before
        (gapText .plain after ++ (more.text .plain ++ ']' :: rest))
      rw [readItems, item.readValue_text short.1 delimited]
      simp only [skipSpace_gapText, skipSpace_cons noSpace, starts.skipSpace]
      rw [more.readItems_text _ short.2]
      simp [Items.values]

theorem Entries.readEntries_text (entries : Entries) (seen : List (String × Value)) {fuel : Nat}
    (enough : (entries.text .plain).length + 1 < fuel) (rest : List Char) :
    readEntries fuel seen (entries.text .plain ++ '\x7d' :: rest) =
      .ok (.table ((entries.pairs .plain).foldl (fun table entry =>
        putEntry entry.1 entry.2 table) seen), rest) := by
  have mark : isAtomChar '\x7d' = false := by decide
  have isClosing : isSpace '\x7d' = false := by decide
  have comma : isAtomChar ',' = false := by decide
  have noSpace : isSpace ',' = false := by decide
  have colon : isSpace ':' = false := by decide
  obtain ⟨fuel, rfl⟩ := Nat.exists_eq_succ_of_ne_zero (Nat.ne_of_gt (Nat.zero_lt_of_lt enough))
  cases entries with
  | last key before after value closing trailing =>
      have short : (value.text .plain).length < fuel := by
        simp only [Entries.text, List.length_append, List.length_cons] at enough
        omega
      simp only [Entries.text, List.append_assoc, List.cons_append]
      have delimited := isDelimited_trailingText mark closing trailing rest
      have starts := (value.startsWithValue .plain).append
        (gapText .plain closing ++ (trailingText .plain trailing ++ '\x7d' :: rest))
      obtain ⟨text, read⟩ := readString_quoted key (gapText .plain before ++ ':' ::
        (gapText .plain after ++ (value.text .plain ++ (gapText .plain closing ++
          (trailingText .plain trailing ++ '\x7d' :: rest)))))
      rw [text, readEntries, read]
      simp only [skipSpace_gapText, skipSpace_cons colon, starts.skipSpace]
      rw [value.readValue_text short delimited]
      simp only [skipSpace_trailingText, skipSpace_cons isClosing]
      rfl
  | more key before after value beforeNext afterComma more =>
      have short : (value.text .plain).length < fuel ∧ (more.text .plain).length + 1 < fuel := by
        simp only [Entries.text, List.length_append, List.length_cons] at enough
        omega
      simp only [Entries.text, List.append_assoc, List.cons_append]
      have startsNext := (more.startsWithValue .plain).append ('\x7d' :: rest)
      have delimited := isDelimited_gapText comma beforeNext
        (gapText .plain afterComma ++ (more.text .plain ++ '\x7d' :: rest))
      have starts := (value.startsWithValue .plain).append (gapText .plain beforeNext ++
        ',' :: (gapText .plain afterComma ++ (more.text .plain ++ '\x7d' :: rest)))
      obtain ⟨text, read⟩ := readString_quoted key (gapText .plain before ++ ':' ::
        (gapText .plain after ++ (value.text .plain ++ (gapText .plain beforeNext ++
          ',' :: (gapText .plain afterComma ++ (more.text .plain ++ '\x7d' :: rest))))))
      rw [text, readEntries, read]
      simp only [skipSpace_gapText, skipSpace_cons colon, starts.skipSpace]
      rw [value.readValue_text short.1 delimited]
      simp only [skipSpace_gapText, skipSpace_cons noSpace, startsNext.skipSpace]
      rw [more.readEntries_text _ short.2]
      rfl

end

/-- The value of a text, as it is at a stage. -/
def Document.value (stage : Stage) (document : Document) : Value := document.body.value stage

/-- What is read is the value of the plain text. -/
theorem read_strip_text (document : Document) :
    Json.read (strip (String.ofList (document.text .written))) = .ok (document.value .plain) := by
  have noEnding : endingText .plain document.ending = [] := by
    cases document.ending <;> rfl
  have starts := (document.body.startsWithValue .plain).append (gapText .plain document.back)
  have skipped : skipSpace (document.text .plain) =
      document.body.text .plain ++ gapText .plain document.back := by
    rw [Document.text, noEnding, List.append_nil, skipSpace_gapText, starts.skipSpace]
  have short : (document.body.text .plain).length < (document.text .plain).length + 1 := by
    simp only [Document.text, List.length_append]
    omega
  have delimited : IsDelimited (gapText .plain document.back) := fun c isHead =>
    isAtomChar_of_isSpace (isSpace_of_mem_gapText (by decide) (List.mem_of_mem_head? isHead))
  have nothing : skipSpace (gapText .plain document.back) = [] := by
    have skipped := skipSpace_gapText document.back []
    rwa [List.append_nil] at skipped
  rw [Json.read, toList_strip_text, skipped, document.body.readValue_text short delimited]
  simp [nothing, Document.value]

end ScopeAtlas.Data.JsonComments
