import ScopeAtlas.Text.Lines

/-!
# Similar words

Two words are compared by the characters that they share in order: the longest block
that occurs in both, the blocks before it and the blocks after it.  A word that was
misspelt is close to the words with which it shares six tenths of all characters.
-/

namespace ScopeAtlas.Text

/-- A block of characters that two texts share: where it begins in each, and its length. -/
structure Block where
  first : Nat
  second : Nat
  length : Nat
deriving Repr, DecidableEq

/-- The block that begins at given places of two texts. -/
def blockAt (first second : List Char) (i j : Nat) : Block :=
  { first := i, second := j, length := (commonStart (first.drop i) (second.drop j)).length }

/-- The longest block of two texts; of several the earliest in the first, and then in the second. -/
def longestBlock (first second : List Char) : Block :=
  let places := (List.range first.length).flatMap fun i =>
    (List.range second.length).map (blockAt first second i)
  places.foldl (fun best block => if best.length < block.length then block else best) ⟨0, 0, 0⟩

/-- The number of characters that two texts share.  The length of one of them is enough `fuel`. -/
def sharedFrom : (fuel : Nat) → List Char → List Char → Nat
  | 0, _, _ => 0
  | fuel + 1, first, second =>
      let block := longestBlock first second
      if block.length == 0 then 0
      else
        sharedFrom fuel (first.take block.first) (second.take block.second) + block.length +
          sharedFrom fuel (first.drop (block.first + block.length))
            (second.drop (block.second + block.length))

/-- The number of characters that two words share. -/
def shared (first second : String) : Nat :=
  sharedFrom (first.length + 1) first.toList second.toList

/-- The words share at least six tenths of all their characters. -/
def isClose (first second : String) : Bool :=
  3 * (first.length + second.length) ≤ 10 * shared first second

/-- The first word is at least as similar to the given one as the second; equally similar words come
in descending order. -/
def isCloser (word first second : String) : Bool :=
  let near := shared first word * (second.length + word.length)
  let far := shared second word * (first.length + word.length)
  far < near || (near == far && decide (second ≤ first))

/-- The words that are close to a misspelt one, at most three, in ascending order. -/
def closeWords (word : String) (known : List String) : List String :=
  let close := (known.filter (isClose · word)).mergeSort (isCloser word)
  (close.take 3).mergeSort fun a b => decide (a ≤ b)

end ScopeAtlas.Text
