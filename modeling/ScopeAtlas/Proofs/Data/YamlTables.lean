import ScopeAtlas.Data.Yaml
import ScopeAtlas.Proofs.Data.Keys

/-!
# Tables of a document

What is read of a document is well keyed: a key of a table is a scalar, whatever stands in its place,
and a key that is written again sets what stands under it.
-/

namespace ScopeAtlas.Data.Yaml

theorem isScalar_of_map {α : Type} {result : Except ReadFault α} {change : α → Value} {value : Value}
    (scalar : ∀ found, (change found).isScalar = true) (read : result.map change = .ok value) :
    value.isScalar = true := by
  cases result with
  | error fault => contradiction
  | ok found => exact Except.ok.inj read ▸ scalar found

/-- What a kind of scalar reads is a scalar. -/
theorem Kind.isScalar_of_read {kind : Kind} {points : List Nat} {value : Value}
    (read : kind.read points = .ok value) : value.isScalar = true := by
  cases kind <;> simp only [Kind.read, reduceCtorEq] at read
  case null => exact Except.ok.inj read ▸ rfl
  case bool =>
    rw [readFlag] at read
    split at read
    · exact Except.ok.inj read ▸ rfl
    · contradiction
  case int => exact isScalar_of_map (fun number => rfl) read
  case real =>
    simp only [readReal] at read
    split at read
    · contradiction
    · split at read
      · exact Except.ok.inj read ▸ rfl
      · contradiction
  case text =>
    obtain rfl := Except.ok.inj read
    rw [textValue]
    split <;> rfl
  case moment =>
    rw [readMoment] at read
    split at read
    · split at read
      · exact Except.ok.inj read ▸ rfl
      · contradiction
    · contradiction
  case bytes =>
    rw [readBytes] at read
    split at read
    · exact isScalar_of_map (fun content => rfl) read
    · contradiction

theorem Reading.isScalar_ofExcept_read (depth : Nat) (kind : Kind) (points : List Nat) :
    (Reading.ofExcept depth (kind.read points)).value.isScalar = true := by
  cases read : kind.read points with
  | error fault => rfl
  | ok value => exact Kind.isScalar_of_read read

/-- A node of the kind of a scalar reads as a scalar, whatever it holds. -/
theorem isScalar_valueOf {node : Node} (single : node.kind.isCollection = false)
    (fuel depth : Nat) : (valueOf fuel depth node).value.isScalar = true := by
  cases fuel with
  | zero => rfl
  | succ fuel =>
      cases node with
      | around asTable => cases asTable <;> contradiction
      | scalar kind points =>
          have notCollection : kind.isCollection = false := single
          simp only [valueOf, notCollection, Bool.false_eq_true, if_false]
          exact Reading.isScalar_ofExcept_read depth kind points
      | list kind items => cases kind <;> first | contradiction | rfl
      | table kind entries =>
          -- A table of another kind stands for the scalar under its default key.
          cases kind <;> first | contradiction | skip
          all_goals
            simp only [valueOf]
            split
            · split
              · rfl
              · exact Reading.isScalar_ofExcept_read depth _ _
            · rfl

theorem isScalar_readKeyAt (depth fuel inner : Nat) (key : Node) :
    (readKeyAt depth (valueOf fuel inner) key).value.isScalar = true := by
  rw [readKeyAt]
  split
  case isTrue => rfl
  case isFalse single => exact isScalar_valueOf (eq_false_of_ne_true single) fuel inner

/-- Different scalar keys with well keyed values stay such while further entries are read. -/
theorem readTable_induction (depth : Nat) {fuel inner : Nat}
    (wellKeyed : ∀ node, (valueOf fuel inner node).value.WellKeyed) (entries : List (Node × Node))
    {seen : List (Value × Value)} (differ : Value.KeysDiffer seen)
    (sound : ∀ entry ∈ seen, entry.1.isScalar = true ∧ entry.2.WellKeyed) :
    Value.KeysDiffer (readTable depth (valueOf fuel inner) seen entries).value ∧
      ∀ entry ∈ (readTable depth (valueOf fuel inner) seen entries).value,
        entry.1.isScalar = true ∧ entry.2.WellKeyed := by
  induction entries generalizing seen with
  | nil => exact ⟨differ, sound⟩
  | cons entry rest ih =>
      obtain ⟨key, value⟩ := entry
      refine ih (differ.putKeyed _ _) fun entry member => ?_
      rcases Value.mem_putKeyed member with kept | ⟨isValue, isKey | ⟨old, inSeen, spelled⟩⟩
      · exact sound entry kept
      · exact ⟨isKey ▸ isScalar_readKeyAt depth fuel inner key, isValue ▸ wellKeyed value⟩
      · exact ⟨spelled ▸ (sound old inSeen).1, isValue ▸ wellKeyed value⟩

theorem wellKeyed_valueOf (fuel depth : Nat) (node : Node) :
    (valueOf fuel depth node).value.WellKeyed := by
  induction fuel generalizing depth node with
  | zero => exact .flat rfl
  | succ fuel ih =>
      cases single : node.kind.isCollection with
      | false =>
          have scalar := isScalar_valueOf single (fuel + 1) depth
          exact .flat (Value.isTable_eq_false_of_isScalar scalar)
      | true =>
          cases node with
          | around asTable => exact .flat rfl
          | scalar kind points =>
              have collection : kind.isCollection = true := single
              simp only [valueOf, collection, if_true]
              exact .flat rfl
          | list kind items => cases kind <;> first | contradiction | exact .flat rfl
          | table kind entries =>
              cases kind <;> first | contradiction | skip
              case list => exact .flat rfl
              case pairs => exact .flat rfl
              case set =>
                cases merged : mergedEntries entries <;> simp only [valueOf, merged] <;>
                  exact .flat rfl
              case table =>
                cases merged : mergedEntries entries with
                | none =>
                    simp only [valueOf, merged]
                    exact .flat rfl
                | some parts =>
                    simp only [valueOf, merged]
                    obtain ⟨differ, sound⟩ := readTable_induction (depth + 1)
                      (ih (depth + 1)) parts List.Pairwise.nil (by simp)
                    exact Value.wellKeyed_ofKeyed differ (fun entry member => (sound entry member).1)
                      fun entry member => (sound entry member).2

/-- At every depth of what is read of a document each key is a scalar and stands once. -/
theorem wellKeyed_of_read {text : String} {value : Value} (read : Yaml.read text = .ok value) :
    value.WellKeyed := by
  simp only [Yaml.read, bind, Except.bind] at read
  split at read
  · contradiction
  · split at read
    · exact Except.ok.inj read ▸ .flat rfl
    · split at read
      · contradiction
      · exact Except.ok.inj read ▸ wellKeyed_valueOf _ _ _

end ScopeAtlas.Data.Yaml
