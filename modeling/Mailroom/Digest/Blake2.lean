import Mailroom.Digest.Words

/-!
# BLAKE2

BLAKE2b works on 64-bit words with twelve rounds a block of 128 bytes, BLAKE2s on 32-bit words with
ten rounds a block of 64 bytes. Only the unkeyed digests of full length are provided.
-/

namespace Mailroom.Digest.Blake2

/-- The order in which the rounds take the words of a block, ten orders used in turn. -/
def orders : Array (Array Nat) := #[
  #[0, 1, 2, 3, 4, 5, 6, 7, 8, 9, 10, 11, 12, 13, 14, 15],
  #[14, 10, 4, 8, 9, 15, 13, 6, 1, 12, 0, 2, 11, 7, 5, 3],
  #[11, 8, 12, 0, 5, 2, 15, 13, 10, 14, 3, 6, 7, 1, 9, 4],
  #[7, 9, 3, 1, 13, 12, 11, 14, 2, 6, 5, 10, 4, 0, 15, 8],
  #[9, 0, 5, 7, 2, 4, 10, 15, 14, 1, 11, 12, 6, 8, 3, 13],
  #[2, 12, 6, 10, 0, 11, 8, 3, 4, 13, 7, 5, 15, 14, 1, 9],
  #[12, 5, 1, 15, 14, 13, 4, 10, 0, 7, 6, 3, 9, 2, 8, 11],
  #[13, 11, 7, 14, 12, 1, 3, 9, 5, 0, 15, 4, 8, 6, 2, 10],
  #[6, 15, 14, 9, 11, 3, 0, 8, 12, 2, 13, 7, 1, 4, 10, 5],
  #[10, 2, 8, 4, 7, 6, 1, 5, 15, 11, 9, 14, 3, 12, 13, 0]]

/-- The four positions that each of the eight mixes of a round touches. -/
def quarters : List (Nat × Nat × Nat × Nat × Nat) :=
  [(0, 0, 4, 8, 12), (1, 1, 5, 9, 13), (2, 2, 6, 10, 14), (3, 3, 7, 11, 15),
   (4, 0, 5, 10, 15), (5, 1, 6, 11, 12), (6, 2, 7, 8, 13), (7, 3, 4, 9, 14)]

/-- The mix of four words with two message words; `rot` gives the four rotations. -/
@[specialize] def quarter {word : Type} [Add word] [XorOp word] [Inhabited word]
    (r1 r2 r3 r4 : word → word) (v : Array word) (m : Nat → word) (order : Array Nat)
    (q : Nat × Nat × Nat × Nat × Nat) : Array word :=
  let (i, pa, pb, pc, pd) := q
  let x := m (order.getD (2 * i) 0)
  let y := m (order.getD (2 * i + 1) 0)
  let a := v[pa]! + v[pb]! + x
  let d := r1 (v[pd]! ^^^ a)
  let c := v[pc]! + d
  let b := r2 (v[pb]! ^^^ c)
  let a := a + b + y
  let d := r3 (d ^^^ a)
  let c := c + d
  let b := r4 (b ^^^ c)
  (((v.setIfInBounds pa a).setIfInBounds pb b).setIfInBounds pc c).setIfInBounds pd d

/-- All rounds on a block. -/
@[specialize] def rounds {word : Type} [Add word] [XorOp word] [Inhabited word]
    (r1 r2 r3 r4 : word → word) (count : Nat) (m : Nat → word) (v : Array word) : Array word :=
  (List.range count).foldl
    (fun v r => quarters.foldl (fun v q => quarter r1 r2 r3 r4 v m (orders.getD (r % 10) #[]) q) v) v

/-! ### BLAKE2b -/

/-- The words BLAKE2b starts from. -/
def start64 : Array UInt64 := #[
  0x6a09e667f3bcc908, 0xbb67ae8584caa73b, 0x3c6ef372fe94f82b, 0xa54ff53a5f1d36f1,
  0x510e527fade682d1, 0x9b05688c2b3e6c1f, 0x1f83d9abfb41bd6b, 0x5be0cd19137e2179]

/-- Mix a block into the state; `total` counts the bytes up to its end. -/
def mix64 (m : Bytes) (size : Nat) (h : Array UInt64) (off : Nat) : Array UInt64 :=
  let last := off + 128 ≥ m.size
  let total := min (off + 128) size
  let v := h ++ start64
  let v := v.modify 12 (· ^^^ UInt64.ofNat total)
  let v := if last then v.modify 14 (~~~ ·) else v
  let v := rounds (rotr64 · 32) (rotr64 · 24) (rotr64 · 16) (rotr64 · 63) 12
    (fun i => le64 m (off + 8 * i)) v
  (Array.range 8).map fun i => h.getD i 0 ^^^ v.getD i 0 ^^^ v.getD (i + 8) 0

/-- The BLAKE2b digest of 64 bytes. -/
def blake2b (b : Bytes) : Bytes :=
  let m := if b.size = 0 then Bytes.ofList (List.replicate 128 0) else fill b 128
  ofLe64 (overBlocks m 128 (start64.modify 0 (· ^^^ 0x01010040)) (mix64 m b.size)).toList

/-! ### BLAKE2s -/

/-- The words BLAKE2s starts from. -/
def start32 : Array UInt32 := #[0x6a09e667, 0xbb67ae85, 0x3c6ef372, 0xa54ff53a,
  0x510e527f, 0x9b05688c, 0x1f83d9ab, 0x5be0cd19]

/-- Mix a block into the state; `total` counts the bytes up to its end. -/
def mix32 (m : Bytes) (size : Nat) (h : Array UInt32) (off : Nat) : Array UInt32 :=
  let last := off + 64 ≥ m.size
  let total := min (off + 64) size
  let v := h ++ start32
  let v := v.modify 12 (· ^^^ UInt32.ofNat total)
  let v := v.modify 13 (· ^^^ UInt32.ofNat (total >>> 32))
  let v := if last then v.modify 14 (~~~ ·) else v
  let v := rounds (rotr32 · 16) (rotr32 · 12) (rotr32 · 8) (rotr32 · 7) 10
    (fun i => le32 m (off + 4 * i)) v
  (Array.range 8).map fun i => h.getD i 0 ^^^ v.getD i 0 ^^^ v.getD (i + 8) 0

/-- The BLAKE2s digest of 32 bytes. -/
def blake2s (b : Bytes) : Bytes :=
  let m := if b.size = 0 then Bytes.ofList (List.replicate 64 0) else fill b 64
  ofLe32 (overBlocks m 64 (start32.modify 0 (· ^^^ 0x01010020)) (mix32 m b.size)).toList

end Mailroom.Digest.Blake2
