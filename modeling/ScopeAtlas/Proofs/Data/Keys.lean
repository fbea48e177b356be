import Mathlib.Data.List.Basic
import ScopeAtlas.Data.Key

/-!
# Keys of any kind

Being the same key is symmetric and transitive, and every scalar is the same key as itself.  So what
stands under a key does not depend on how the key is spelled, and setting a key changes what stands
under it and under no other.  A table with texts as keys is a table with keys of any kind, and
setting and looking up a key come to the same in both.  A value is well keyed when at every depth of
its tables each key stands once.
-/

namespace ScopeAtlas.Data

/-! ## Sizes -/

namespace Measure

/-- A finite size has a positive denominator. -/
def IsSize : Measure → Prop
  | .finite _ denominator => 0 < denominator
  | .infinite _ | .notANumber => True

theorem same_self (size : Measure) : size.same size = true := by
  cases size with
  | finite numerator denominator => exact decide_eq_true rfl
  | infinite negative => exact beq_self_eq_true negative
  | notANumber => rfl

theorem same_comm (first second : Measure) : first.same second = second.same first := by
  cases first <;> cases second <;> simp only [same]
  case finite.finite a b c d => exact Bool.beq_comm
  case infinite.infinite => exact Bool.beq_comm

theorem same_trans {first second third : Measure} (isSize : second.IsSize)
    (left : first.same second = true) (right : second.same third = true) :
    first.same third = true := by
  cases first <;> cases second <;> cases third <;> simp_all [same]
  case finite.finite.finite a b c d e f =>
    have nonzero : (d : Int) ≠ 0 := Int.natCast_ne_zero.mpr (Nat.ne_of_gt isSize)
    apply Int.eq_of_mul_eq_mul_right nonzero
    calc a * f * d = c * b * f := by rw [Int.mul_right_comm, left]
      _ = e * d * b := by rw [Int.mul_right_comm, right]
      _ = e * b * d := Int.mul_right_comm e d b

theorem isSize_ofReal (number : RealNumber) : (ofReal number).IsSize := by
  have sized (negative : Bool) : (if number.magnitude.isInf then Measure.infinite negative
      else .finite (if negative then -((Decimal.fraction number.magnitude).1 : Int)
        else (Decimal.fraction number.magnitude).1)
        (Decimal.fraction number.magnitude).2).IsSize := by
    split
    · trivial
    · exact Nat.pow_pos (by decide)
  cases number with
  | finite negative digits exponent => exact sized negative
  | infinite negative => exact sized negative
  | notANumber => trivial

end Measure

/-! ## Moments -/

namespace Moment

theorem same_self (moment : Moment) : moment.same moment = true := by
  rw [same]
  cases moment.universal? <;> exact beq_self_eq_true _

theorem same_comm (first second : Moment) : first.same second = second.same first := by
  rw [same, same]
  cases first.universal? <;> cases second.universal? <;> first | rfl | exact Bool.beq_comm

theorem same_trans {first second third : Moment} (left : first.same second = true)
    (right : second.same third = true) : first.same third = true := by
  simp only [same] at left right ⊢
  cases atFirst : first.universal? <;> cases atSecond : second.universal? <;>
    cases atThird : third.universal? <;> simp_all

end Moment

namespace Value

theorem isSize_of_measure? {value : Value} {size : Measure}
    (measured : value.measure? = some size) : size.IsSize := by
  cases value <;> simp only [measure?, Option.some.injEq, reduceCtorEq] at measured <;>
    subst measured
  case bool => exact Nat.one_pos
  case int => exact Nat.one_pos
  case real number => exact Measure.isSize_ofReal number

/-! ## The same key -/

/-- A scalar that is the same key as no other scalar. -/
def isExact : Value → Bool
  | .null | .text _ | .bytes _ | .halved _ => true
  | _ => false

/-- The same key is the same scalar, an equal moment, or a number of the same size. -/
theorem sameKey_iff {first second : Value} :
    first.sameKey second = true ↔
      first.isExact = true ∧ first = second ∨
        (∃ a b, first = .moment a ∧ second = .moment b ∧ a.same b = true) ∨
        ∃ a b, first.measure? = some a ∧ second.measure? = some b ∧ a.same b = true := by
  cases first <;> cases second <;> simp [sameKey, measure?, isExact]

theorem sameKey_self {value : Value} (scalar : value.isScalar = true) :
    value.sameKey value = true := by
  rw [sameKey_iff]
  cases value <;> simp_all [isScalar, isExact, measure?, Measure.same_self, Moment.same_self]

theorem sameKey_comm (first second : Value) : first.sameKey second = second.sameKey first := by
  have turned {first second : Value} (same : first.sameKey second = true) :
      second.sameKey first = true := by
    rw [sameKey_iff] at same ⊢
    rcases same with ⟨exact, rfl⟩ | ⟨a, b, rfl, rfl, equal⟩ | ⟨a, b, left, right, equal⟩
    · exact .inl ⟨exact, rfl⟩
    · exact .inr (.inl ⟨b, a, rfl, rfl, by rwa [Moment.same_comm]⟩)
    · exact .inr (.inr ⟨b, a, right, left, by rwa [Measure.same_comm]⟩)
  rw [Bool.eq_iff_iff]
  exact ⟨turned, turned⟩

theorem sameKey_trans {first second third : Value} (left : first.sameKey second = true)
    (right : second.sameKey third = true) : first.sameKey third = true := by
  rw [sameKey_iff] at left right ⊢
  rcases left with ⟨exact, rfl⟩ | ⟨a, b, rfl, rfl, equal⟩ | ⟨a, b, sizeFirst, sizeSecond, equal⟩
  · exact right
  · rcases right with ⟨exact, rfl⟩ | ⟨c, d, same, rfl, equalNext⟩ | ⟨c, d, sizeMiddle, _⟩
    · exact .inr (.inl ⟨a, b, rfl, rfl, equal⟩)
    · obtain rfl := Value.moment.inj same
      exact .inr (.inl ⟨a, d, rfl, rfl, Moment.same_trans equal equalNext⟩)
    · cases sizeMiddle
  · rcases right with ⟨exact, rfl⟩ | ⟨c, d, rfl, rfl, _⟩ | ⟨c, d, sizeMiddle, sizeThird, equalNext⟩
    · exact .inr (.inr ⟨a, b, sizeFirst, sizeSecond, equal⟩)
    · cases sizeSecond
    · obtain rfl : b = c := Option.some.inj (sizeSecond.symm.trans sizeMiddle)
      exact .inr (.inr ⟨a, d, sizeFirst, sizeThird,
        Measure.same_trans (isSize_of_measure? sizeSecond) equal equalNext⟩)

@[simp]
theorem sameKey_text (first second : String) :
    (text first).sameKey (text second) = (first == second) := rfl

/-- A key takes the place of another in every comparison with a third one. -/
theorem sameKey_congr {first second : Value} (same : first.sameKey second = true) (third : Value) :
    third.sameKey first = third.sameKey second := by
  rw [Bool.eq_iff_iff]
  exact ⟨fun left => sameKey_trans left same,
    fun left => sameKey_trans left (by rwa [sameKey_comm])⟩

/-! ## Looking up and setting -/

@[simp]
theorem lookupKeyed_nil (key : Value) : lookupKeyed key [] = none := rfl

theorem lookupKeyed_cons (key : Value) (entry : Value × Value) (rest : List (Value × Value)) :
    lookupKeyed key (entry :: rest) =
      if entry.1.sameKey key then some entry.2 else lookupKeyed key rest := by
  rw [lookupKeyed, List.find?_cons]
  cases entry.1.sameKey key <;> rfl

/-- What stands under a key stands under every spelling of it. -/
theorem lookupKeyed_congr {key spelling : Value} (same : key.sameKey spelling = true)
    (entries : List (Value × Value)) : lookupKeyed key entries = lookupKeyed spelling entries := by
  simp only [lookupKeyed, sameKey_congr same]

theorem lookupKeyed_eq_none_iff {key : Value} {entries : List (Value × Value)} :
    lookupKeyed key entries = none ↔ ∀ entry ∈ entries, entry.1.sameKey key = false := by
  simp [lookupKeyed]

theorem exists_mem_of_lookupKeyed {key value : Value} {entries : List (Value × Value)}
    (found : lookupKeyed key entries = some value) : ∃ spelling, (spelling, value) ∈ entries := by
  obtain ⟨entry, first, rfl⟩ := Option.map_eq_some_iff.mp found
  exact ⟨entry.1, List.mem_of_find?_eq_some first⟩

/-- Setting a key changes what stands under it, and nothing else. -/
theorem lookupKeyed_putKeyed (key value : Value) (entries : List (Value × Value)) (other : Value) :
    lookupKeyed other (putKeyed key value entries) =
      if key.sameKey other then some value else lookupKeyed other entries := by
  induction entries with
  | nil => exact lookupKeyed_cons other (key, value) []
  | cons entry rest ih =>
      rw [putKeyed]
      split
      case isTrue here =>
        have spelled : entry.1.sameKey other = key.sameKey other := by
          rw [sameKey_comm, sameKey_congr here, sameKey_comm]
        simp only [lookupKeyed_cons, spelled]
        split <;> rfl
      case isFalse away =>
        rw [lookupKeyed_cons, lookupKeyed_cons, ih]
        by_cases same : key.sameKey other = true
        · have apart : entry.1.sameKey other = false := by
            rw [← sameKey_congr same]
            exact eq_false_of_ne_true away
          simp [same, apart]
        · simp [same]

/-- Setting a key to what stands under it changes nothing. -/
theorem putKeyed_of_lookupKeyed {key value : Value} {entries : List (Value × Value)}
    (found : lookupKeyed key entries = some value) : putKeyed key value entries = entries := by
  induction entries with
  | nil => contradiction
  | cons entry rest ih =>
      rw [lookupKeyed_cons] at found
      rw [putKeyed]
      split at found
      case isTrue here =>
        obtain rfl := Option.some.inj found
        rw [if_pos here]
      case isFalse away => rw [if_neg away, ih found]

/-- A new key goes last. -/
theorem putKeyed_of_new {key : Value} (value : Value) {entries : List (Value × Value)}
    (new : ∀ entry ∈ entries, entry.1.sameKey key = false) :
    putKeyed key value entries = entries ++ [(key, value)] := by
  induction entries with
  | nil => rfl
  | cons entry rest ih =>
      rw [List.forall_mem_cons] at new
      rw [putKeyed, new.1, ih new.2]
      rfl

/-- After a key is set, each entry is the new one under an old or the new spelling, or an old one. -/
theorem mem_putKeyed {key value : Value} {entries : List (Value × Value)} {entry : Value × Value}
    (member : entry ∈ putKeyed key value entries) :
    entry ∈ entries ∨
      entry.2 = value ∧ (entry.1 = key ∨ ∃ old ∈ entries, old.1 = entry.1) := by
  induction entries with
  | nil => exact .inr (by simp_all [putKeyed])
  | cons old rest ih =>
      rw [putKeyed] at member
      split at member
      · rcases List.mem_cons.mp member with rfl | there
        · exact .inr ⟨rfl, .inr ⟨old, List.mem_cons_self, rfl⟩⟩
        · exact .inl (List.mem_cons_of_mem _ there)
      · rcases List.mem_cons.mp member with rfl | there
        · exact .inl List.mem_cons_self
        · rcases ih there with kept | ⟨same, isKey | ⟨before, inRest, spelled⟩⟩
          · exact .inl (List.mem_cons_of_mem _ kept)
          · exact .inr ⟨same, .inl isKey⟩
          · exact .inr ⟨same, .inr ⟨before, List.mem_cons_of_mem _ inRest, spelled⟩⟩

/-! ## Tables with different keys -/

/-- No two entries have the same key. -/
def KeysDiffer (entries : List (Value × Value)) : Prop :=
  entries.Pairwise fun first second => first.1.sameKey second.1 = false

theorem KeysDiffer.putKeyed {entries : List (Value × Value)} (differ : KeysDiffer entries)
    (key value : Value) : KeysDiffer (putKeyed key value entries) := by
  induction entries with
  | nil => exact List.pairwise_singleton _ _
  | cons entry rest ih =>
      obtain ⟨apart, later⟩ := List.pairwise_cons.mp differ
      rw [Value.putKeyed]
      split
      case isTrue => exact List.pairwise_cons.mpr ⟨apart, later⟩
      case isFalse away =>
        refine List.pairwise_cons.mpr ⟨fun other member => ?_, ih later⟩
        rcases mem_putKeyed member with kept | ⟨_, isKey | ⟨old, inRest, spelled⟩⟩
        · exact apart other kept
        · exact isKey ▸ eq_false_of_ne_true away
        · exact spelled ▸ apart old inRest

/-! ## Texts as keys -/

@[simp]
theorem lookupKeyed_keyedEntries (key : String) (entries : List (String × Value)) :
    lookupKeyed (.text key) (keyedEntries entries) = entries.lookup key := by
  induction entries with
  | nil => rfl
  | cons entry rest ih =>
      rw [keyedEntries, List.map_cons, ← keyedEntries, lookupKeyed_cons, ih, List.lookup_cons,
        sameKey_text]
      by_cases same : key = entry.1
      · simp [same]
      · have differs : (key == entry.1) = false := by simpa using same
        simp [differs, Ne.symm same]

theorem keyedEntries_putEntry (key : String) (value : Value) (entries : List (String × Value)) :
    keyedEntries (putEntry key value entries) =
      putKeyed (.text key) value (keyedEntries entries) := by
  induction entries with
  | nil => rfl
  | cons entry rest ih =>
      simp only [keyedEntries, List.map_cons] at ih ⊢
      rw [putEntry, putKeyed, sameKey_text]
      split
      case isTrue here =>
        obtain rfl := eq_of_beq here
        rfl
      case isFalse => rw [List.map_cons, ih]

theorem keyedEntries_injective {first second : List (String × Value)}
    (same : keyedEntries first = keyedEntries second) : first = second := by
  refine List.map_injective_iff.mpr (fun left right equal => ?_) same
  rw [Prod.mk.injEq, text.injEq] at equal
  exact Prod.ext equal.1 equal.2

theorem keysDiffer_keyedEntries_iff {entries : List (String × Value)} :
    KeysDiffer (keyedEntries entries) ↔ (entries.map Prod.fst).Nodup := by
  simp [KeysDiffer, keyedEntries, List.pairwise_map, List.Nodup]

/-! ## Tables at every depth -/

/-- A table, whatever its keys are. -/
def isTable : Value → Bool
  | .table _ | .keyed _ => true
  | _ => false

/-- The entries of a table with the keys as values. -/
def entries? : Value → Option (List (Value × Value))
  | .table entries => some (keyedEntries entries)
  | .keyed entries => some entries
  | _ => none

theorem isSome_entries? (value : Value) : value.entries?.isSome = value.isTable := by
  cases value <;> rfl

theorem entries?_eq_none {value : Value} (flat : value.isTable = false) : value.entries? = none := by
  rwa [← isSome_entries?, Option.isSome_eq_false_iff, Option.isNone_iff_eq_none] at flat

theorem isTable_eq_false_of_isScalar {value : Value} (scalar : value.isScalar = true) :
    value.isTable = false := by
  cases value <;> first | rfl | contradiction

theorem exists_entries? {value : Value} (isTable : value.isTable = true) :
    ∃ entries, value.entries? = some entries := by
  rwa [← isSome_entries?, Option.isSome_iff_exists] at isTable

/-- At every depth of tables each key is a scalar and stands once.  A table of which all keys are
texts has no other form. -/
inductive WellKeyed : Value → Prop
  | flat {value : Value} (flat : value.isTable = false) : WellKeyed value
  | table {entries : List (String × Value)} (differ : (entries.map Prod.fst).Nodup)
      (inner : ∀ entry ∈ entries, WellKeyed entry.2) : WellKeyed (.table entries)
  | keyed {entries : List (Value × Value)} (differ : KeysDiffer entries)
      (scalar : ∀ entry ∈ entries, entry.1.isScalar = true)
      (notText : ∃ entry ∈ entries, entry.1.text? = none)
      (inner : ∀ entry ∈ entries, WellKeyed entry.2) : WellKeyed (.keyed entries)

namespace WellKeyed

variable {value : Value} {entries : List (Value × Value)}

theorem keysDiffer (wellKeyed : value.WellKeyed) (opens : value.entries? = some entries) :
    KeysDiffer entries := by
  cases wellKeyed with
  | flat flat => rw [entries?_eq_none flat] at opens; contradiction
  | table differ inner =>
      obtain rfl := Option.some.inj opens
      exact keysDiffer_keyedEntries_iff.mpr differ
  | keyed differ scalar notText inner =>
      obtain rfl := Option.some.inj opens
      exact differ

theorem isScalar (wellKeyed : value.WellKeyed) (opens : value.entries? = some entries) :
    ∀ entry ∈ entries, entry.1.isScalar = true := by
  cases wellKeyed with
  | flat flat => rw [entries?_eq_none flat] at opens; contradiction
  | table differ inner =>
      obtain rfl := Option.some.inj opens
      exact List.forall_mem_map.mpr fun entry member => rfl
  | keyed differ scalar notText inner =>
      obtain rfl := Option.some.inj opens
      exact scalar

theorem inner (wellKeyed : value.WellKeyed) (opens : value.entries? = some entries) :
    ∀ entry ∈ entries, entry.2.WellKeyed := by
  cases wellKeyed with
  | flat flat => rw [entries?_eq_none flat] at opens; contradiction
  | table differ inner =>
      obtain rfl := Option.some.inj opens
      exact List.forall_mem_map.mpr inner
  | keyed differ scalar notText inner =>
      obtain rfl := Option.some.inj opens
      exact inner

end WellKeyed

/-- The entries of a value as a table, in the form that its keys ask for. -/
theorem ofKeyed_eq (entries : List (Value × Value)) :
    (∃ texts, entries = keyedEntries texts ∧ ofKeyed entries = .table texts) ∨
      (∃ entry ∈ entries, entry.1.text? = none) ∧ ofKeyed entries = .keyed entries := by
  have asTexts : (∃ texts, entries = keyedEntries texts ∧
      (entries.mapM fun entry => entry.1.text?.map fun key => (key, entry.2)) = some texts) ∨
      (∃ entry ∈ entries, entry.1.text? = none) ∧
        (entries.mapM fun entry => entry.1.text?.map fun key => (key, entry.2)) = none := by
    induction entries with
    | nil => exact .inl ⟨[], rfl, rfl⟩
    | cons entry rest ih =>
        rw [List.mapM_cons]
        obtain ⟨key, value⟩ := entry
        cases key
        case text key =>
          rcases ih with ⟨texts, rfl, read⟩ | ⟨⟨other, member, notText⟩, read⟩
          · exact .inl ⟨(key, value) :: texts, rfl, by rw [read]; rfl⟩
          · exact .inr ⟨⟨other, List.mem_cons_of_mem _ member, notText⟩, by rw [read]; rfl⟩
        all_goals exact .inr ⟨⟨_, List.mem_cons_self, rfl⟩, rfl⟩
  rcases asTexts with ⟨texts, same, read⟩ | ⟨notText, read⟩
  · exact .inl ⟨texts, same, by rw [ofKeyed, read]⟩
  · exact .inr ⟨notText, by rw [ofKeyed, read]⟩

theorem wellKeyed_ofKeyed {entries : List (Value × Value)} (differ : KeysDiffer entries)
    (scalar : ∀ entry ∈ entries, entry.1.isScalar = true)
    (inner : ∀ entry ∈ entries, entry.2.WellKeyed) : (ofKeyed entries).WellKeyed := by
  rcases ofKeyed_eq entries with ⟨texts, rfl, same⟩ | ⟨notText, same⟩
  · rw [same]
    refine .table (keysDiffer_keyedEntries_iff.mp differ) fun entry member => ?_
    exact inner (.text entry.1, entry.2) (List.mem_map_of_mem member)
  · rw [same]
    exact .keyed differ scalar notText inner

end Value

end ScopeAtlas.Data
