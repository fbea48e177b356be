/-!
# Reading bytes as text

A byte sequence is read as UTF-8.  Where it is malformed, the longest run of
bytes that still begins some well-formed character is replaced, as a whole, by
one replacement character; a byte that begins no character is replaced alone.
-/

namespace ScopeAtlas.Text.Utf8

/-- What the first byte of a multi-byte character announces: how many bytes follow, the range
allowed for the first of them, and the payload bits seen so far. -/
structure Lead where
  tails : Nat
  low : Nat
  high : Nat
  payload : Nat
deriving Repr, DecidableEq

/-- The announcement of a byte above the single-byte range, absent when no character begins
with it. -/
def lead? (byte : Nat) : Option Lead :=
  if 0xC2 ≤ byte ∧ byte ≤ 0xDF then some ⟨1, 0x80, 0xBF, byte % 0x20⟩
  else if byte = 0xE0 then some ⟨2, 0xA0, 0xBF, 0⟩
  else if byte = 0xED then some ⟨2, 0x80, 0x9F, 0xD⟩
  else if 0xE1 ≤ byte ∧ byte ≤ 0xEF then some ⟨2, 0x80, 0xBF, byte % 0x10⟩
  else if byte = 0xF0 then some ⟨3, 0x90, 0xBF, 0⟩
  else if 0xF1 ≤ byte ∧ byte ≤ 0xF3 then some ⟨3, 0x80, 0xBF, byte % 0x08⟩
  else if byte = 0xF4 then some ⟨3, 0x80, 0x8F, 4⟩
  else none

/-- The character that stands for malformed input. -/
def replacement : Char := Char.ofNat 0xFFFD

/-- Reads `tails` continuation bytes, the first of them in `low..high`.  The result is the
character, or the replacement, and the number of bytes consumed. -/
def readTails : (tails low high payload consumed : Nat) → List UInt8 → Char × Nat
  | 0, _, _, payload, consumed, _ => (Char.ofNat payload, consumed)
  | _ + 1, _, _, _, consumed, [] => (replacement, consumed)
  | tails + 1, low, high, payload, consumed, byte :: rest =>
      if low ≤ byte.toNat ∧ byte.toNat ≤ high then
        readTails tails 0x80 0xBF (payload * 0x40 + byte.toNat % 0x40) (consumed + 1) rest
      else (replacement, consumed)

/-- The first character of `byte :: rest`, and how many bytes of `rest` belong to it. -/
def readChar (byte : UInt8) (rest : List UInt8) : Char × Nat :=
  if byte.toNat < 0x80 then (Char.ofNat byte.toNat, 0)
  else match lead? byte.toNat with
    | some lead => readTails lead.tails lead.low lead.high lead.payload 0 rest
    | none => (replacement, 0)

/-- Reads a byte sequence as text, replacing what is malformed. -/
def decodeBytes : List UInt8 → List Char
  | [] => []
  | byte :: rest =>
      let first := readChar byte rest
      first.1 :: decodeBytes (rest.drop first.2)
termination_by bytes => bytes.length
decreasing_by simp only [List.length_drop, List.length_cons]; omega

/-- Reads a byte sequence as text, or nothing when some of it is malformed.  A replacement character
that was read is well formed when it accounts for its three bytes. -/
def decodeBytes? : List UInt8 → Option (List Char)
  | [] => some []
  | byte :: rest =>
      let first := readChar byte rest
      if first.1 == replacement && !(byte.toNat == 0xEF && first.2 == 2) then none
      else (decodeBytes? (rest.drop first.2)).map (first.1 :: ·)
termination_by bytes => bytes.length
decreasing_by simp only [List.length_drop, List.length_cons]; omega

/-- Reads a byte array as text, replacing what is malformed. -/
def decode (bytes : ByteArray) : String :=
  String.ofList (decodeBytes bytes.data.toList)

/-- Reads a byte array as text, or nothing when some of it is malformed. -/
def decode? (bytes : ByteArray) : Option String :=
  (decodeBytes? bytes.data.toList).map String.ofList

end ScopeAtlas.Text.Utf8
