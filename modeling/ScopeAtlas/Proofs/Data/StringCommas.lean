import ScopeAtlas.Proofs.Data.CommentedJson
import ScopeAtlas.Proofs.Data.Tables

/-!
# Commas lost from strings

A text with comments is read as the value that it writes, but for the commas that its strings lose.
Counting the commas in a value shows that a lost one is never made up for, so the text is read
rightly exactly if no string in it holds a comma with nothing but blanks between it and a closing
bracket.
-/

namespace ScopeAtlas.Data.JsonComments

open ScopeAtlas.Data.Json ScopeAtlas.Text

/-! ## Commas of a value -/

/-- The commas in a text. -/
def textCommas (text : String) : Nat := text.toList.count ','

mutual

/-- The commas in the texts and keys of a value. -/
def commas : Value → Nat
  | .text content => textCommas content
  | .list items => itemCommas items
  | .table entries => entryCommas entries
  | _ => 0

/-- The commas in items. -/
def itemCommas : List Value → Nat
  | [] => 0
  | item :: rest => commas item + itemCommas rest

/-- The commas in entries. -/
def entryCommas : List (String × Value) → Nat
  | [] => 0
  | (key, value) :: rest => textCommas key + commas value + entryCommas rest

end

/-- An entry brings its own commas at most. -/
theorem entryCommas_putEntry_le (key : String) (value : Value) (entries : List (String × Value)) :
    entryCommas (putEntry key value entries) ≤
      textCommas key + commas value + entryCommas entries := by
  induction entries with
  | nil => simp [putEntry, entryCommas]
  | cons entry rest ih =>
      rw [putEntry]
      split
      · simp only [entryCommas]
        omega
      · simp only [entryCommas]
        omega

theorem entryCommas_foldl_putEntry_le (entries table : List (String × Value)) :
    entryCommas (entries.foldl (fun table entry => putEntry entry.1 entry.2 table) table) ≤
      entryCommas table + entryCommas entries := by
  induction entries generalizing table with
  | nil => simp [entryCommas]
  | cons entry rest ih =>
      have put := entryCommas_putEntry_le entry.1 entry.2 table
      have later := ih (putEntry entry.1 entry.2 table)
      simp only [List.foldl_cons, entryCommas]
      omega

theorem commas_tableOf_le (entries : List (String × Value)) :
    commas (tableOf entries) ≤ entryCommas entries := by
  have most := entryCommas_foldl_putEntry_le entries []
  simpa [tableOf, commas, entryCommas] using most

/-- Entries with different keys are the table that they make up. -/
theorem tableOf_of_nodup {entries : List (String × Value)}
    (distinct : (entries.map (·.1)).Nodup) : tableOf entries = .table entries := by
  have fromEmpty : (([] : List (String × Value)).map (·.1) ++ entries.map (·.1)).Nodup := by
    simpa using distinct
  have table := foldl_putEntry_of_nodup some [] fromEmpty
  have all : valuesOf some entries = entries := by
    simp [valuesOf]
  rw [all] at table
  simpa [tableOf] using table

theorem commas_of_numberFrom {negative : Bool} {whole : List Char × List Char} {value : Value}
    {rest : List Char} (isRead : numberFrom negative whole = .ok (value, rest)) :
    commas value = 0 := by
  simp only [numberFrom] at isRead
  split at isRead
  case isTrue => contradiction
  case isFalse =>
    split at isRead
    case isTrue =>
      split at isRead
      case isTrue => contradiction
      case isFalse => cases isRead; rfl
    case isFalse => cases isRead; rfl

/-- A number or a word holds no comma. -/
theorem commas_of_readAtom {text rest : List Char} {value : Value}
    (isRead : readAtom text = .ok (value, rest)) : commas value = 0 := by
  rw [readAtom] at isRead
  split at isRead
  case h_1 read found =>
    cases isRead
    obtain ⟨entry, member, isEntry⟩ := List.exists_of_findSome?_eq_some found
    obtain ⟨after, -, same⟩ := Option.map_eq_some_iff.mp isEntry
    obtain rfl : entry.2 = value := congrArg Prod.fst same
    simp only [List.mem_cons, List.not_mem_nil, or_false] at member
    rcases member with rfl | rfl | rfl | rfl | rfl | rfl <;> rfl
  case h_2 =>
    by_cases minus : ∃ more, text = '-' :: more
    · obtain ⟨more, rfl⟩ := minus
      exact commas_of_numberFrom (readNumber_minus more ▸ isRead)
    · have unsigned (more : List Char) : text ≠ '-' :: more := fun same => minus ⟨more, same⟩
      exact commas_of_numberFrom (readNumber_unsigned unsigned ▸ isRead)

/-! ## Commas of a string -/

/-- The piece stands for a comma. -/
def isComma (piece : Piece) : Bool := piece.push [] == [','.toNat]

/-- Halves of a pair are joined to no comma, and no comma is half of a pair. -/
theorem count_pushUnit (unit : Nat) (seen : List Nat) :
    (pushUnit unit seen).count ','.toNat =
      seen.count ','.toNat + if unit == ','.toNat then 1 else 0 := by
  have comma : ','.toNat = 44 := rfl
  cases seen with
  | nil => simp [pushUnit, List.count_cons]
  | cons high rest =>
      rw [pushUnit, comma]
      split
      · have joined : 0x10000 + (high - 0xD800) * 0x400 + (unit - 0xDC00) ≠ 44 := by omega
        have noComma : high ≠ 44 ∧ unit ≠ 44 := by omega
        simp [joined, noComma]
      · simp [List.count_cons]

theorem count_push (seen : List Nat) (piece : Piece) :
    (piece.push seen).count ','.toNat = seen.count ','.toNat + if isComma piece then 1 else 0 := by
  cases piece with
  | plain c isPlain => simp [isComma, Piece.push, List.count_cons]
  | escaped c isEscape => simp [isComma, Piece.push, List.count_cons]
  | unit a b c d isUnit =>
      rw [Piece.push, count_pushUnit]
      simp [isComma, Piece.push, pushUnit]

theorem pointChar_eq_comma_iff (point : Nat) : pointChar point = ',' ↔ point = ','.toNat := by
  constructor
  · intro same
    rw [pointChar] at same
    split at same
    case isTrue => exact absurd same (by decide)
    case isFalse =>
      by_cases valid : point.isValidChar
      · rw [← same, Char.ofNat, dif_pos valid]
        rfl
      · rw [Char.ofNat, dif_neg valid] at same
        exact absurd same (by decide)
  · rintro rfl
    decide

theorem textCommas_pointText (points : List Nat) :
    textCommas (pointText points) = points.count ','.toNat := by
  have sameTest : (fun point => pointChar point == ',') = (· == ','.toNat) := by
    funext point
    rw [Bool.eq_iff_iff, beq_iff_eq, beq_iff_eq, pointChar_eq_comma_iff]
  rw [textCommas, pointText, String.toList_ofList, List.count, List.countP_map,
    List.countP_reverse, List.count]
  exact congrArg (List.countP · points) sameTest

/-- The commas in a string are those of its pieces. -/
theorem textCommas_decoded (content : List Piece) :
    textCommas (decoded content) = content.countP isComma := by
  have behind (seen : List Nat) : (content.foldl Piece.push seen).count ','.toNat =
      seen.count ','.toNat + content.countP isComma := by
    induction content generalizing seen with
    | nil => simp
    | cons piece content ih =>
        rw [List.foldl_cons, ih, count_push, List.countP_cons]
        omega
  rw [decoded, textCommas_pointText, behind]
  simp

/-! ## Commas in front of a closing bracket -/

/-- Somewhere in the string a comma stands before a closing bracket. -/
def HoldsClosingComma (content : List Piece) : Prop :=
  ∃ rest, ',' :: rest <:+ contentText content ∧ closesNext rest = true

theorem isComma_of_isPlainComma {piece : Piece} (comma : isPlainComma piece = true) :
    isComma piece = true := by
  cases piece <;> simp_all [isPlainComma, isComma, Piece.push]

theorem not_holdsClosingComma_nil : ¬HoldsClosingComma [] := by
  rintro ⟨rest, isSuffix, -⟩
  simp at isSuffix

/-- What begins with a comma is no suffix that reaches into a text without commas. -/
theorem suffix_of_suffix_append {text front rest : List Char} (noComma : ',' ∉ front)
    (isSuffix : ',' :: rest <:+ front ++ text) : ',' :: rest <:+ text := by
  induction front with
  | nil => exact isSuffix
  | cons c front ih =>
      rw [List.mem_cons, not_or] at noComma
      rcases List.suffix_cons_iff.mp isSuffix with same | later
      · exact absurd (List.cons.inj same).1 noComma.1
      · exact ih noComma.2 later

theorem holdsClosingComma_cons_iff (piece : Piece) (content : List Piece) :
    HoldsClosingComma (piece :: content) ↔
      (isPlainComma piece && closesNext (contentText content)) = true ∨
        HoldsClosingComma content := by
  rw [Bool.and_eq_true]
  constructor
  · rintro ⟨rest, isSuffix, closes⟩
    rw [contentText_cons] at isSuffix
    cases comma : isPlainComma piece with
    | false =>
        exact Or.inr ⟨rest, suffix_of_suffix_append (comma_not_mem_text comma) isSuffix, closes⟩
    | true =>
        rw [text_of_isPlainComma comma, List.singleton_append] at isSuffix
        rcases List.suffix_cons_iff.mp isSuffix with same | later
        · exact Or.inl ⟨rfl, (List.cons.inj same).2 ▸ closes⟩
        · exact Or.inr ⟨rest, later, closes⟩
  · rintro (⟨comma, closes⟩ | ⟨rest, isSuffix, closes⟩)
    · refine ⟨contentText content, ?_, closes⟩
      rw [contentText_cons, text_of_isPlainComma comma]
      exact List.suffix_refl _
    · exact ⟨rest, isSuffix.trans (List.suffix_append _ _), closes⟩

/-- A string stays as it is if no comma in it stands before a closing bracket. -/
theorem thinned_of_not_holdsClosingComma {content : List Piece}
    (holdsNone : ¬HoldsClosingComma content) : thinned content = content := by
  induction content with
  | nil => rfl
  | cons piece content ih =>
      rw [holdsClosingComma_cons_iff, not_or] at holdsNone
      rw [thinned, if_neg holdsNone.1, ih holdsNone.2]

/-- A string gains no commas. -/
theorem countP_thinned_le (content : List Piece) :
    (thinned content).countP isComma ≤ content.countP isComma := by
  induction content with
  | nil => exact Nat.le_refl _
  | cons piece content ih =>
      rw [thinned]
      split
      · rw [List.countP_cons]
        omega
      · rw [List.countP_cons, List.countP_cons]
        omega

/-- A comma before a closing bracket is lost. -/
theorem countP_thinned_lt {content : List Piece} (holds : HoldsClosingComma content) :
    (thinned content).countP isComma < content.countP isComma := by
  induction content with
  | nil => exact absurd holds not_holdsClosingComma_nil
  | cons piece content ih =>
      have most := countP_thinned_le content
      rw [thinned]
      split
      case isTrue here =>
        rw [Bool.and_eq_true] at here
        rw [List.countP_cons_of_pos (isComma_of_isPlainComma here.1)]
        omega
      case isFalse away =>
        have later := ih (((holdsClosingComma_cons_iff piece content).mp holds).resolve_left away)
        rw [List.countP_cons, List.countP_cons]
        omega

/-! ## Strings of a value -/

mutual

/-- The strings and keys of a value. -/
def Writing.strings : Writing → List (List Piece)
  | .atom _ _ _ _ => []
  | .string content => [content]
  | .emptyList _ => []
  | .list _ items => items.strings
  | .emptyTable _ => []
  | .table _ entries => entries.strings

/-- The strings and keys in items. -/
def Items.strings : Items → List (List Piece)
  | .last item _ _ => item.strings
  | .more item _ _ rest => item.strings ++ rest.strings

/-- The strings and keys in entries. -/
def Entries.strings : Entries → List (List Piece)
  | .last key _ _ value _ _ => key :: value.strings
  | .more key _ _ value _ _ rest => key :: (value.strings ++ rest.strings)

end

mutual

/-- In no table of the value two entries have one key. -/
def Writing.HasDistinctKeys : Writing → Prop
  | .atom _ _ _ _ => True
  | .string _ => True
  | .emptyList _ => True
  | .list _ items => items.HaveDistinctKeys
  | .emptyTable _ => True
  | .table _ entries =>
      ((entries.pairs .written).map (·.1)).Nodup ∧ entries.HaveDistinctKeys

/-- In no table of the items two entries have one key. -/
def Items.HaveDistinctKeys : Items → Prop
  | .last item _ _ => item.HasDistinctKeys
  | .more item _ _ rest => item.HasDistinctKeys ∧ rest.HaveDistinctKeys

/-- In no table of the values of entries two entries have one key. -/
def Entries.HaveDistinctKeys : Entries → Prop
  | .last _ _ _ value _ _ => value.HasDistinctKeys
  | .more _ _ _ value _ _ rest => value.HasDistinctKeys ∧ rest.HaveDistinctKeys

end

/-- The commas in strings at a stage. -/
def stringCommas (stage : Stage) : List (List Piece) → Nat
  | [] => 0
  | content :: strings =>
      textCommas (decoded (contentAt stage content)) + stringCommas stage strings

theorem stringCommas_append (stage : Stage) (first second : List (List Piece)) :
    stringCommas stage (first ++ second) =
      stringCommas stage first + stringCommas stage second := by
  induction first with
  | nil => simp [stringCommas]
  | cons content first ih => rw [List.cons_append, stringCommas, ih, stringCommas, Nat.add_assoc]

mutual

/-- A value has the commas of its strings at most. -/
theorem Writing.commas_value_le (stage : Stage) (writing : Writing) :
    commas (writing.value stage) ≤ stringCommas stage writing.strings := by
  cases writing with
  | atom text value ofAtoms isRead => simp [Writing.value, commas_of_readAtom isRead]
  | string content => simp [Writing.value, Writing.strings, commas, stringCommas]
  | emptyList gap => simp [Writing.value, commas, itemCommas]
  | list opening items => simpa [Writing.value, Writing.strings, commas] using items.commas_values_le stage
  | emptyTable gap => simp [Writing.value, commas, entryCommas]
  | table opening entries =>
      exact Nat.le_trans (commas_tableOf_le _) (entries.commas_pairs_le stage)

theorem Items.commas_values_le (stage : Stage) (items : Items) :
    itemCommas (items.values stage) ≤ stringCommas stage items.strings := by
  cases items with
  | last item after trailing =>
      simpa [Items.values, Items.strings, itemCommas] using item.commas_value_le stage
  | more item before after more =>
      have one := item.commas_value_le stage
      have others := more.commas_values_le stage
      simp only [Items.values, itemCommas, Items.strings, stringCommas_append]
      omega

theorem Entries.commas_pairs_le (stage : Stage) (entries : Entries) :
    entryCommas (entries.pairs stage) ≤ stringCommas stage entries.strings := by
  cases entries with
  | last key before after value closing trailing =>
      have one := value.commas_value_le stage
      simp only [Entries.pairs, entryCommas, Entries.strings, stringCommas]
      omega
  | more key before after value beforeNext afterComma more =>
      have one := value.commas_value_le stage
      have others := more.commas_pairs_le stage
      simp only [Entries.pairs, entryCommas, Entries.strings, stringCommas,
        stringCommas_append]
      omega

end

mutual

/-- With distinct keys a value has all the commas of its strings. -/
theorem Writing.commas_value (writing : Writing) (distinct : writing.HasDistinctKeys) :
    commas (writing.value .written) = stringCommas .written writing.strings := by
  cases writing with
  | atom text value ofAtoms isRead =>
      simp [Writing.value, commas_of_readAtom isRead, Writing.strings, stringCommas]
  | string content => simp [Writing.value, Writing.strings, commas, stringCommas]
  | emptyList gap => simp [Writing.value, commas, itemCommas, Writing.strings, stringCommas]
  | list opening items =>
      simpa [Writing.value, Writing.strings, commas] using items.commas_values distinct
  | emptyTable gap => simp [Writing.value, commas, entryCommas, Writing.strings, stringCommas]
  | table opening entries =>
      rw [Writing.value, tableOf_of_nodup distinct.1, commas]
      exact entries.commas_pairs distinct.2

theorem Items.commas_values (items : Items) (distinct : items.HaveDistinctKeys) :
    itemCommas (items.values .written) = stringCommas .written items.strings := by
  cases items with
  | last item after trailing =>
      simpa [Items.values, Items.strings, itemCommas] using item.commas_value distinct
  | more item before after more =>
      have one := item.commas_value distinct.1
      have others := more.commas_values distinct.2
      simp only [Items.values, itemCommas, Items.strings, stringCommas_append, one, others]

theorem Entries.commas_pairs (entries : Entries) (distinct : entries.HaveDistinctKeys) :
    entryCommas (entries.pairs .written) = stringCommas .written entries.strings := by
  cases entries with
  | last key before after value closing trailing =>
      have one := value.commas_value distinct
      simp only [Entries.pairs, entryCommas, Entries.strings, stringCommas, one,
        Nat.add_zero]
  | more key before after value beforeNext afterComma more =>
      have one := value.commas_value distinct.1
      have others := more.commas_pairs distinct.2
      simp only [Entries.pairs, entryCommas, Entries.strings, stringCommas,
        stringCommas_append, one, others, Nat.add_assoc]

end

mutual

/-- Strings that stay as they are leave the value as it is. -/
theorem Writing.value_plain (writing : Writing)
    (same : ∀ content ∈ writing.strings, thinned content = content) :
    writing.value .plain = writing.value .written := by
  cases writing with
  | atom text value ofAtoms isRead => rfl
  | string content =>
      have thin := same content (List.mem_singleton_self content)
      simp [Writing.value, contentAt, thin]
  | emptyList gap => rfl
  | list opening items => simp only [Writing.value, items.values_plain same]
  | emptyTable gap => rfl
  | table opening entries => simp only [Writing.value, entries.pairs_plain same]

theorem Items.values_plain (items : Items)
    (same : ∀ content ∈ items.strings, thinned content = content) :
    items.values .plain = items.values .written := by
  cases items with
  | last item after trailing => simp only [Items.values, item.value_plain same]
  | more item before after more =>
      simp only [Items.strings, List.forall_mem_append] at same
      simp only [Items.values, item.value_plain same.1, more.values_plain same.2]

theorem Entries.pairs_plain (entries : Entries)
    (same : ∀ content ∈ entries.strings, thinned content = content) :
    entries.pairs .plain = entries.pairs .written := by
  cases entries with
  | last key before after value closing trailing =>
      simp only [Entries.strings, List.forall_mem_cons] at same
      simp only [Entries.pairs, contentAt, same.1, value.value_plain same.2]
  | more key before after value beforeNext afterComma more =>
      simp only [Entries.strings, List.forall_mem_cons, List.forall_mem_append] at same
      simp only [Entries.pairs, contentAt, same.1, value.value_plain same.2.1,
        more.pairs_plain same.2.2]

end

theorem stringCommas_plain_le (strings : List (List Piece)) :
    stringCommas .plain strings ≤ stringCommas .written strings := by
  induction strings with
  | nil => exact Nat.le_refl _
  | cons content strings ih =>
      have here := countP_thinned_le content
      simp only [stringCommas, contentAt, textCommas_decoded] at ih ⊢
      omega

/-- Strings of which one holds a comma before a closing bracket lose commas. -/
theorem stringCommas_plain_lt {strings : List (List Piece)}
    (holds : ∃ content ∈ strings, HoldsClosingComma content) :
    stringCommas .plain strings < stringCommas .written strings := by
  obtain ⟨content, member, holdsComma⟩ := holds
  obtain ⟨before, after, rfl⟩ := List.append_of_mem member
  have front := stringCommas_plain_le before
  have back := stringCommas_plain_le after
  have fewer := countP_thinned_lt holdsComma
  simp only [stringCommas_append, stringCommas, contentAt, textCommas_decoded] at *
  omega

/-- A text with comments and trailing commas is read as its value, with every string without the
commas that stand before a closing bracket in it.  With distinct keys that is the value itself
exactly if no string holds such a comma. -/
theorem commented_text_read_back_unless_closing_comma (document : Document) :
    Json.read (strip (String.ofList (document.text .written))) = .ok (document.value .plain) ∧
      (document.body.HasDistinctKeys →
        (Json.read (strip (String.ofList (document.text .written))) =
            .ok (document.value .written) ↔
          ∀ content ∈ document.body.strings, ¬HoldsClosingComma content)) := by
  have isRead := read_strip_text document
  refine ⟨isRead, fun distinct => ?_⟩
  rw [isRead, Except.ok.injEq]
  constructor
  · intro same content member holds
    have all := document.body.commas_value distinct
    have most := document.body.commas_value_le .plain
    have fewer := stringCommas_plain_lt ⟨content, member, holds⟩
    rw [Document.value, Document.value] at same
    rw [same] at most
    omega
  · intro holdNone
    exact document.body.value_plain fun content member =>
      thinned_of_not_holdsClosingComma (holdNone content member)

/-- A string of characters that stand for themselves. -/
def plainPieces (text : String) : List Piece :=
  text.toList.filterMap fun c =>
    if isPlain : c ≠ '"' ∧ c ≠ '\\' ∧ 0x20 ≤ c.toNat then some (.plain c isPlain) else none

/-- A table with a link in a string, a block comment and a trailing comma. -/
def notedDocument : Document where
  front := []
  body := .table []
    (.more (plainPieces "url") [] [.space ' ' rfl] (.string (plainPieces "http://a.io/x, y")) []
      [.space ' ' rfl, .block " note, ]".toList (by decide), .space ' ' rfl]
      (.last (plainPieces "a") [] [.space ' ' rfl]
        (.atom ['1'] (.int 1) (List.forall_mem_singleton.mpr rfl) rfl) [] (some [])))
  back := []
  ending := some ⟨" end".toList, by decide⟩

theorem noted_document_read_back :
    String.ofList (notedDocument.text .written) =
        "\x7b\"url\": \"http://a.io/x, y\", /* note, ]*/ \"a\": 1,\x7d// end" ∧
      notedDocument.body.HasDistinctKeys ∧
      Json.read (strip (String.ofList (notedDocument.text .written))) =
        .ok (notedDocument.value .written) := by
  have distinct : notedDocument.body.HasDistinctKeys := ⟨by decide +kernel, trivial, trivial⟩
  have kept : ∀ content ∈ notedDocument.body.strings,
      (thinned content).countP isComma = content.countP isComma := by
    decide +kernel
  have noneHolds : ∀ content ∈ notedDocument.body.strings, ¬HoldsClosingComma content := by
    intro content member holds
    exact absurd (countP_thinned_lt holds) (by simp [kept content member])
  have isRead := commented_text_read_back_unless_closing_comma notedDocument
  exact ⟨by decide +kernel, distinct, (isRead.2 distinct).mpr noneHolds⟩

/-- A table with a string in which a comma stands before a bracket. -/
def closingDocument : Document where
  front := []
  body := .table [] (.last (plainPieces "a") [] [.space ' ' rfl] (.string (plainPieces "x,]")) []
    none)
  back := []
  ending := none

/-- The comma is lost though neither a comment nor a trailing comma is in the text. -/
theorem closing_comma_lost_from_string :
    String.ofList (closingDocument.text .written) = "\x7b\"a\": \"x,]\"\x7d" ∧
      closingDocument.value .written = .table [("a", .text "x,]")] ∧
      Json.read (strip (String.ofList (closingDocument.text .written))) =
        .ok (.table [("a", .text "x]")]) := by
  have key : decoded (plainPieces "a") = "a" ∧ decoded (thinned (plainPieces "a")) = "a" := by
    decide +kernel
  have content : decoded (plainPieces "x,]") = "x,]" ∧
      decoded (thinned (plainPieces "x,]")) = "x]" := by
    decide +kernel
  refine ⟨by decide +kernel, ?_, ?_⟩
  · simp only [Document.value, closingDocument, Writing.value, Entries.pairs, contentAt, key,
      content, tableOf, List.foldl_cons, List.foldl_nil, putEntry]
  · rw [read_strip_text]
    simp only [Document.value, closingDocument, Writing.value, Entries.pairs, contentAt, key,
      content, tableOf, List.foldl_cons, List.foldl_nil, putEntry]

end ScopeAtlas.Data.JsonComments
