import Mailroom.Digest.Algorithm

/-!
# Sizes of digests

Every algorithm gives digests of one size, whatever the message (`Algorithm.size_hash`). A digest is
the words of the last state, written out, or a front of them. A word takes as many bytes as its
width says (`Digest.size_ofList_flatMap`), and there are always as many words as at the start: some
states are records of words, and the others are arrays that no block changes the size of
(`Digest.size_overBlocks`).
-/

namespace Mailroom

namespace Digest

/-! ### Words written out -/

theorem length_leBytes (n width : Nat) : (leBytes n width).length = width := by
  induction width generalizing n with
  | zero => rfl
  | succ width ih => rw [leBytes, List.length_cons, ih]

theorem length_beBytes (n width : Nat) : (beBytes n width).length = width :=
  List.length_reverse.trans (length_leBytes n width)

variable {word : Type}

/-- Words of one width take as many bytes as their number says, by induction on the words. -/
theorem size_ofList_flatMap {write : word → List UInt8} {width : Nat}
    (h : ∀ w, (write w).length = width) (ws : List word) :
    (Bytes.ofList (ws.flatMap write)).size = ws.length * width := by
  show (ws.flatMap write).toArray.size = _
  induction ws with
  | nil => simp
  | cons w ws ih =>
    rw [List.size_toArray] at ih ⊢
    rw [List.flatMap_cons, List.length_append, ih, h, List.length_cons, Nat.succ_mul, Nat.add_comm]

theorem size_ofLe32 (ws : List UInt32) : (ofLe32 ws).size = ws.length * 4 :=
  size_ofList_flatMap (fun _ => length_leBytes _ 4) ws

theorem size_ofBe32 (ws : List UInt32) : (ofBe32 ws).size = ws.length * 4 :=
  size_ofList_flatMap (fun _ => length_beBytes _ 4) ws

theorem size_ofLe64 (ws : List UInt64) : (ofLe64 ws).size = ws.length * 8 :=
  size_ofList_flatMap (fun _ => length_leBytes _ 8) ws

theorem size_ofBe64 (ws : List UInt64) : (ofBe64 ws).size = ws.length * 8 :=
  size_ofList_flatMap (fun _ => length_beBytes _ 8) ws

/-! ### States -/

/-- When no block changes the number of words, there are as many as at the start, by induction on
the blocks. -/
theorem size_overBlocks {count : Nat} {step : Array word → Nat → Array word}
    (hstep : ∀ s off, s.size = count → (step s off).size = count) (m : Bytes) (block : Nat)
    {start : Array word} (h : start.size = count) :
    (overBlocks m block start step).size = count := by
  have hgo (n off : Nat) (s : Array word) (hs : s.size = count) :
      (overBlocks.go block step n off s).size = count := by
    induction n generalizing off s with
    | zero => exact hs
    | succ n ih => exact ih _ _ (hstep s off hs)
  exact hgo _ 0 start h

theorem Sha2.size_digest32 (start : Sha2.State UInt32) {size : Nat} (h : size ≤ 32) (b : Bytes) :
    (Sha2.digest32 start size b).size = size := by
  rw [Sha2.digest32, ByteArray.size_extract, size_ofBe32]
  show min size (8 * 4) - 0 = size
  omega

theorem Sha2.size_digest64 (start : Sha2.State UInt64) {size : Nat} (h : size ≤ 64) (b : Bytes) :
    (Sha2.digest64 start size b).size = size := by
  rw [Sha2.digest64, ByteArray.size_extract, size_ofBe64]
  show min size (8 * 8) - 0 = size
  omega

theorem Sha3.size_permute {a : Array UInt64} (h : a.size = 25) : (Sha3.permute a).size = 25 := by
  have hround (a : Array UInt64) (constant : UInt64) : (Sha3.round a constant).size = 25 := by
    simp [Sha3.round]
  unfold Sha3.permute
  exact Array.foldl_induction (fun _ a => a.size = 25) h fun _ a _ => hround a _

theorem Sha3.size_digest {size : Nat} (h : size ≤ 64) (b : Bytes) :
    (Sha3.digest size b).size = size := by
  have hlanes (m : Bytes) (rate : Nat) :
      (overBlocks m rate (Array.replicate 25 0) (Sha3.absorb m rate)).size = 25 :=
    size_overBlocks (fun _ _ _ => Sha3.size_permute (by simp)) m rate Array.size_replicate
  rw [Sha3.digest, ByteArray.size_extract, size_ofLe64, Array.length_toList, hlanes]
  omega

theorem Blake2.size_blake2b (b : Bytes) : (Blake2.blake2b b).size = 64 := by
  have hstate (m : Bytes) : (overBlocks m 128 (Blake2.start64.modify 0 (· ^^^ 0x01010040))
      (Blake2.mix64 m b.size)).size = 8 :=
    size_overBlocks (fun _ _ _ => by simp [Blake2.mix64]) m 128 (by simp [Blake2.start64])
  rw [Blake2.blake2b, size_ofLe64, Array.length_toList, hstate]

theorem Blake2.size_blake2s (b : Bytes) : (Blake2.blake2s b).size = 32 := by
  have hstate (m : Bytes) : (overBlocks m 64 (Blake2.start32.modify 0 (· ^^^ 0x01010020))
      (Blake2.mix32 m b.size)).size = 8 :=
    size_overBlocks (fun _ _ _ => by simp [Blake2.mix32]) m 64 (by simp [Blake2.start32])
  rw [Blake2.blake2s, size_ofLe32, Array.length_toList, hstate]

end Digest

/-! ### Algorithms -/

namespace Algorithm

/-- How many bytes a digest has. -/
def size : Algorithm → Nat
  | md5 => 16
  | ripemd160 | sha1 => 20
  | sha224 | sha3Of224 | sha512Short224 => 28
  | blake2s | sha256 | sha3Of256 | sha512Short256 | sm3 => 32
  | md5Sha1 => 36
  | sha384 | sha3Of384 => 48
  | blake2b | sha3Of512 | sha512 => 64

theorem size_pos (a : Algorithm) : 0 < a.size := by
  cases a <;> decide

open Digest in
/-- **Every digest of an algorithm has its size**, whatever the message. -/
theorem size_hash (a : Algorithm) (b : Bytes) : (a.hash b).size = a.size := by
  cases a with
  | blake2b => exact Blake2.size_blake2b b
  | blake2s => exact Blake2.size_blake2s b
  | md5 => exact size_ofLe32 _
  | md5Sha1 =>
    have hmd5 : (Md5.digest b).size = 16 := size_ofLe32 _
    have hsha1 : (Sha1.digest b).size = 20 := size_ofBe32 _
    rw [hash, ByteArray.size_append, hmd5, hsha1, size]
  | ripemd160 => exact size_ofLe32 _
  | sha1 => exact size_ofBe32 _
  | sha224 => exact Sha2.size_digest32 _ (by decide) b
  | sha256 => exact Sha2.size_digest32 _ (by decide) b
  | sha384 => exact Sha2.size_digest64 _ (by decide) b
  | sha512 => exact Sha2.size_digest64 _ (by decide) b
  | sha512Short224 => exact Sha2.size_digest64 _ (by decide) b
  | sha512Short256 => exact Sha2.size_digest64 _ (by decide) b
  | sha3Of224 => exact Sha3.size_digest (by decide) b
  | sha3Of256 => exact Sha3.size_digest (by decide) b
  | sha3Of384 => exact Sha3.size_digest (by decide) b
  | sha3Of512 => exact Sha3.size_digest (by decide) b
  | sm3 => exact size_ofBe32 _

end Algorithm

end Mailroom
