import Mailroom.Digest.Words

/-!
# RIPEMD-160

Five little-endian words; two lines of eighty steps run over each block and are joined at its end.
-/

namespace Mailroom.Digest.Ripemd

/-- The five words of the state. -/
structure State where
  /-- The first word. -/
  a : UInt32
  /-- The second word. -/
  b : UInt32
  /-- The third word. -/
  c : UInt32
  /-- The fourth word. -/
  d : UInt32
  /-- The fifth word. -/
  e : UInt32

/-- The state before the first block. -/
def start : State := ⟨0x67452301, 0xefcdab89, 0x98badcfe, 0x10325476, 0xc3d2e1f0⟩

/-- The block words that the left line takes. -/
def leftWords : Array Nat := #[
  0, 1, 2, 3, 4, 5, 6, 7, 8, 9, 10, 11, 12, 13, 14, 15,
  7, 4, 13, 1, 10, 6, 15, 3, 12, 0, 9, 5, 2, 14, 11, 8,
  3, 10, 14, 4, 9, 15, 8, 1, 2, 7, 0, 6, 13, 11, 5, 12,
  1, 9, 11, 10, 0, 8, 12, 4, 13, 3, 7, 15, 14, 5, 6, 2,
  4, 0, 5, 9, 7, 12, 2, 10, 14, 1, 3, 8, 11, 6, 15, 13]

/-- The block words that the right line takes. -/
def rightWords : Array Nat := #[
  5, 14, 7, 0, 9, 2, 11, 4, 13, 6, 15, 8, 1, 10, 3, 12,
  6, 11, 3, 7, 0, 13, 5, 10, 14, 15, 8, 12, 4, 9, 1, 2,
  15, 5, 1, 3, 7, 14, 6, 9, 11, 8, 12, 2, 10, 0, 4, 13,
  8, 6, 4, 1, 3, 11, 15, 0, 5, 12, 2, 13, 9, 7, 10, 14,
  12, 15, 10, 4, 1, 5, 8, 7, 6, 2, 13, 14, 0, 3, 9, 11]

/-- The rotations of the left line. -/
def leftShifts : Array UInt32 := #[
  11, 14, 15, 12, 5, 8, 7, 9, 11, 13, 14, 15, 6, 7, 9, 8,
  7, 6, 8, 13, 11, 9, 7, 15, 7, 12, 15, 9, 11, 7, 13, 12,
  11, 13, 6, 7, 14, 9, 13, 15, 14, 8, 13, 6, 5, 12, 7, 5,
  11, 12, 14, 15, 14, 15, 9, 8, 9, 14, 5, 6, 8, 6, 5, 12,
  9, 15, 5, 11, 6, 8, 13, 12, 5, 12, 13, 14, 11, 8, 5, 6]

/-- The rotations of the right line. -/
def rightShifts : Array UInt32 := #[
  8, 9, 9, 11, 13, 15, 15, 5, 7, 7, 8, 11, 14, 14, 12, 6,
  9, 13, 15, 7, 12, 8, 9, 11, 7, 7, 12, 7, 6, 15, 13, 11,
  9, 7, 15, 11, 8, 6, 6, 14, 12, 13, 5, 14, 13, 13, 7, 5,
  15, 5, 8, 11, 14, 14, 6, 14, 6, 9, 12, 9, 12, 5, 15, 8,
  8, 5, 12, 9, 12, 5, 14, 6, 8, 13, 6, 5, 15, 13, 11, 11]

/-- The additive constants of the left line, one for each sixteen steps. -/
def leftConstants : Array UInt32 := #[0, 0x5a827999, 0x6ed9eba1, 0x8f1bbcdc, 0xa953fd4e]

/-- The additive constants of the right line, one for each sixteen steps. -/
def rightConstants : Array UInt32 := #[0x50a28be6, 0x5c4dd124, 0x6d703ef3, 0x7a6d76e9, 0]

/-- The boolean function of a group of sixteen steps. -/
def choose (group : Nat) (x y z : UInt32) : UInt32 :=
  match group with
  | 0 => x ^^^ y ^^^ z
  | 1 => (x &&& y) ||| (~~~x &&& z)
  | 2 => (x ||| ~~~y) ^^^ z
  | 3 => (x &&& z) ||| (y &&& ~~~z)
  | _ => x ^^^ (y ||| ~~~z)

/-- One step of a line. -/
def step (s : State) (group : Nat) (word constant shift : UInt32) : State :=
  let sum := rotl32 (s.a + choose group s.b s.c s.d + word + constant) shift + s.e
  ⟨s.e, sum, s.b, rotl32 s.c 10, s.d⟩

/-- Mix one block into the state. -/
def mix (m : Bytes) (s : State) (off : Nat) : State :=
  let word := fun i => le32 m (off + 4 * i)
  let line := fun (words : Array Nat) (shifts constants : Array UInt32) (group : Nat → Nat) =>
    (List.range 80).foldl (fun t i => step t (group (i / 16)) (word (words.getD i 0))
      (constants.getD (i / 16) 0) (shifts.getD i 0)) s
  let l := line leftWords leftShifts leftConstants id
  let r := line rightWords rightShifts rightConstants (4 - ·)
  ⟨s.b + l.c + r.d, s.c + l.d + r.e, s.d + l.e + r.a, s.e + l.a + r.b, s.a + l.b + r.c⟩

/-- The RIPEMD-160 digest: 20 bytes. -/
def digest (b : Bytes) : Bytes :=
  let m := withLength b 64 (leBytes (8 * b.size) 8)
  let s := overBlocks m 64 start (mix m)
  ofLe32 [s.a, s.b, s.c, s.d, s.e]

end Mailroom.Digest.Ripemd
