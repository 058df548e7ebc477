import Mailroom.Digest.Words

/-!
# SHA-3

A sponge over twenty-five lanes of 64 bits, permuted by twenty-four rounds. Lane `x + 5 y` stands
in column `x` and row `y`.
-/

namespace Mailroom.Digest.Sha3

/-- The constants that the rounds mix into the first lane. -/
def roundConstants : Array UInt64 := #[
  0x0000000000000001, 0x0000000000008082, 0x800000000000808a, 0x8000000080008000,
  0x000000000000808b, 0x0000000080000001, 0x8000000080008081, 0x8000000000008009,
  0x000000000000008a, 0x0000000000000088, 0x0000000080008009, 0x000000008000000a,
  0x000000008000808b, 0x800000000000008b, 0x8000000000008089, 0x8000000000008003,
  0x8000000000008002, 0x8000000000000080, 0x000000000000800a, 0x800000008000000a,
  0x8000000080008081, 0x8000000000008080, 0x0000000080000001, 0x8000000080008008]

/-- The rotation of each lane. -/
def rotations : Array UInt64 := #[
  0, 1, 62, 28, 27, 36, 44, 6, 55, 20, 3, 10, 43, 25, 39, 41, 45, 15, 21, 8, 18, 2, 61, 56, 14]

/-- Rotate by an amount that may be zero. -/
def turn (x : UInt64) (n : UInt64) : UInt64 := if n == 0 then x else rotl64 x n

/-- One round of the permutation. -/
def round (a : Array UInt64) (constant : UInt64) : Array UInt64 :=
  let c := (Array.range 5).map fun x =>
    a.getD x 0 ^^^ a.getD (x + 5) 0 ^^^ a.getD (x + 10) 0 ^^^ a.getD (x + 15) 0 ^^^ a.getD (x + 20) 0
  let d := (Array.range 5).map fun x => c.getD ((x + 4) % 5) 0 ^^^ rotl64 (c.getD ((x + 1) % 5) 0) 1
  let moved := (Array.range 25).map fun i =>
    let x := i % 5
    let y := i / 5
    let source := (x + 3 * y) % 5 + 5 * x
    turn (a.getD source 0 ^^^ d.getD (source % 5) 0) (rotations.getD source 0)
  let mixed := (Array.range 25).map fun i =>
    let y := 5 * (i / 5)
    moved.getD i 0 ^^^
      (~~~(moved.getD (y + (i + 1 - y) % 5) 0) &&& moved.getD (y + (i + 2 - y) % 5) 0)
  mixed.modify 0 (· ^^^ constant)

/-- The permutation: all rounds in order. -/
def permute (a : Array UInt64) : Array UInt64 := roundConstants.foldl round a

/-- Mix a block of `rate` bytes into the lanes and permute. -/
def absorb (m : Bytes) (rate : Nat) (a : Array UInt64) (off : Nat) : Array UInt64 :=
  permute ((Array.range 25).map fun i =>
    if 8 * i < rate then a.getD i 0 ^^^ le64 m (off + 8 * i) else a.getD i 0)

/-- The SHA-3 digest of `size` bytes, at most 64. -/
def digest (size : Nat) (b : Bytes) : Bytes :=
  let rate := 200 - 2 * size
  let room := rate - b.size % rate
  let tail : List UInt8 :=
    if room = 1 then [0x86] else 0x06 :: (List.replicate (room - 2) 0 ++ [0x80])
  let m := b ++ Bytes.ofList tail
  let lanes := overBlocks m rate (Array.replicate 25 0) (absorb m rate)
  (ofLe64 lanes.toList).extract 0 size

end Mailroom.Digest.Sha3
