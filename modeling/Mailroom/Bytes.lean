/-!
# Bytes

Message bodies, digests and server replies are byte strings. This module gives the hexadecimal
notation of a byte string (`hex`, `ofHex?`), repetition, the words of a byte string, that is, what
is left when it is cut at ASCII whitespace, and its pieces of a given size, which together are all
of it (`foldl_append_pieces`).
-/

namespace Mailroom

/-- A byte string. -/
abbrev Bytes := ByteArray

namespace Bytes

/-- The byte string with the given bytes. -/
def ofList (bs : List UInt8) : Bytes := ⟨bs.toArray⟩

/-! ### Hexadecimal notation -/

/-- The lower-case hexadecimal digit of a number below sixteen. -/
def hexDigit (n : Nat) : Char :=
  if n < 10 then Char.ofNat (48 + n) else Char.ofNat (87 + n)

/-- Two lower-case hexadecimal digits for a byte. -/
def hexByte (b : UInt8) : List Char := [hexDigit (b.toNat / 16), hexDigit (b.toNat % 16)]

/-- Lower-case hexadecimal notation, two digits a byte. -/
def hex (b : Bytes) : String :=
  b.foldl (fun s x => (s.push (hexDigit (x.toNat / 16))).push (hexDigit (x.toNat % 16))) ""

/-- The value of a hexadecimal digit in either letter case. -/
def hexValue? (c : Char) : Option Nat :=
  if '0' ≤ c ∧ c ≤ '9' then some (c.toNat - 48)
  else if 'a' ≤ c ∧ c ≤ 'f' then some (c.toNat - 87)
  else if 'A' ≤ c ∧ c ≤ 'F' then some (c.toNat - 55)
  else none

/-- Read pairs of hexadecimal digits onto the end of `acc`. -/
def ofHexFrom? (acc : Bytes) : List Char → Option Bytes
  | [] => some acc
  | h :: l :: r =>
    match hexValue? h, hexValue? l with
    | some a, some b => ofHexFrom? (acc.push (UInt8.ofNat (16 * a + b))) r
    | _, _ => none
  | [_] => none

/-- The byte string a hexadecimal notation stands for. -/
def ofHex? (s : String) : Option Bytes := ofHexFrom? ByteArray.empty s.toList

/-- `b` repeated `n` times. -/
def times (b : Bytes) (n : Nat) : Bytes := n.repeat (· ++ b) ByteArray.empty

/-! ### Words -/

/-- ASCII whitespace: space, and the controls from tab to carriage return. -/
def isBlank (b : UInt8) : Bool := b == 32 || (9 ≤ b && b ≤ 13)

/-- The words of `rest`, given the bytes `word` (last first) of the word that is being read. -/
def wordsFrom (word : List UInt8) : List UInt8 → List (List UInt8)
  | [] => if word.isEmpty then [] else [word.reverse]
  | b :: rest =>
    if isBlank b then
      if word.isEmpty then wordsFrom [] rest else word.reverse :: wordsFrom [] rest
    else wordsFrom (b :: word) rest

/-- The maximal runs of bytes that are not ASCII whitespace, in order. -/
def words (b : Bytes) : List Bytes := (wordsFrom [] b.data.toList).map ofList

/-- The first `n` bytes of `b`, or all of it. -/
def front (b : Bytes) (n : Nat) : Bytes := b.extract 0 (min n b.size)

/-- Cut `b` into consecutive pieces of `size` bytes, the last one possibly shorter. -/
def pieces (b : Bytes) (size : Nat) : List Bytes :=
  let step := max (min size b.size) 1
  (List.range ((b.size + step - 1) / step)).map fun i => b.extract (i * step) (i * step + step)

/-- The first pieces together are a front of `b`, by induction on their number. -/
theorem foldl_append_fronts (b acc : Bytes) (step n : Nat) :
    ((List.range n).map fun i => b.extract (i * step) (i * step + step)).foldl (· ++ ·) acc =
      acc ++ b.extract 0 (n * step) := by
  induction n with
  | zero => simp
  | succ n ih =>
    rw [List.range_succ, List.map_append, List.foldl_append, ih]
    simp only [List.map_cons, List.map_nil, List.foldl_cons, List.foldl_nil]
    rw [ByteArray.append_assoc, ByteArray.extract_append_extract]
    congr 2
    rw [Nat.succ_mul]
    omega

/-- **Nothing is lost**: the pieces together are all of `b`. -/
theorem foldl_append_pieces (b acc : Bytes) (size : Nat) :
    (pieces b size).foldl (· ++ ·) acc = acc ++ b := by
  have hpos : 0 < max (min size b.size) 1 := by omega
  unfold pieces
  dsimp only
  generalize max (min size b.size) 1 = step at hpos
  rw [foldl_append_fronts]
  congr 1
  have hcover : b.size ≤ (b.size + step - 1) / step * step := by
    have hdiv := Nat.div_add_mod (b.size + step - 1) step
    have hmod := Nat.mod_lt (b.size + step - 1) hpos
    rw [Nat.mul_comm] at hdiv
    omega
  apply ByteArray.ext
  rw [ByteArray.data_extract]
  exact Array.extract_eq_self_of_le hcover

end Bytes

end Mailroom
