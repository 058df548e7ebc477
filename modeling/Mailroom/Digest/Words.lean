import Mailroom.Bytes

/-!
# Words of a digest

The digest algorithms work on a message that is cut into blocks of 32-bit or 64-bit words. This
module reads and writes words in either byte order and pads a message to whole blocks.
-/

namespace Mailroom.Digest

/-- The byte at a position, zero past the end. -/
@[inline] def byteAt (b : Bytes) (i : Nat) : UInt8 :=
  if h : i < b.size then b[i] else 0

/-- Four bytes as a word, least significant first. -/
def le32 (b : Bytes) (i : Nat) : UInt32 :=
  (byteAt b i).toUInt32 ||| (byteAt b (i + 1)).toUInt32 <<< 8 |||
    (byteAt b (i + 2)).toUInt32 <<< 16 ||| (byteAt b (i + 3)).toUInt32 <<< 24

/-- Four bytes as a word, most significant first. -/
def be32 (b : Bytes) (i : Nat) : UInt32 :=
  (byteAt b i).toUInt32 <<< 24 ||| (byteAt b (i + 1)).toUInt32 <<< 16 |||
    (byteAt b (i + 2)).toUInt32 <<< 8 ||| (byteAt b (i + 3)).toUInt32

/-- Eight bytes as a word, least significant first. -/
def le64 (b : Bytes) (i : Nat) : UInt64 :=
  (le32 b i).toUInt64 ||| (le32 b (i + 4)).toUInt64 <<< 32

/-- Eight bytes as a word, most significant first. -/
def be64 (b : Bytes) (i : Nat) : UInt64 :=
  (be32 b i).toUInt64 <<< 32 ||| (be32 b (i + 4)).toUInt64

/-- `n` as `width` bytes, least significant first. -/
def leBytes (n : Nat) : Nat → List UInt8
  | 0 => []
  | width + 1 => UInt8.ofNat (n % 256) :: leBytes (n / 256) width

/-- `n` as `width` bytes, most significant first. -/
def beBytes (n width : Nat) : List UInt8 := (leBytes n width).reverse

/-- The bytes of 32-bit words in little-endian order. -/
def ofLe32 (ws : List UInt32) : Bytes := Bytes.ofList (ws.flatMap fun w => leBytes w.toNat 4)

/-- The bytes of 32-bit words in big-endian order. -/
def ofBe32 (ws : List UInt32) : Bytes := Bytes.ofList (ws.flatMap fun w => beBytes w.toNat 4)

/-- The bytes of 64-bit words in little-endian order. -/
def ofLe64 (ws : List UInt64) : Bytes := Bytes.ofList (ws.flatMap fun w => leBytes w.toNat 8)

/-- The bytes of 64-bit words in big-endian order. -/
def ofBe64 (ws : List UInt64) : Bytes := Bytes.ofList (ws.flatMap fun w => beBytes w.toNat 8)

/-- A message with zero bytes added up to a multiple of `block` bytes. -/
def fill (b : Bytes) (block : Nat) : Bytes :=
  b ++ Bytes.ofList (List.replicate ((block - b.size % block) % block) 0)

/-- A message followed by a single one bit, zeros, and its length in bits as the last bytes of the
last block. -/
def withLength (b : Bytes) (block : Nat) (length : List UInt8) : Bytes :=
  let zeros := (block - (b.size + 1 + length.length) % block) % block
  b ++ Bytes.ofList (0x80 :: (List.replicate zeros 0 ++ length))

/-- Apply `step` to the offset of every block of a padded message, in order. -/
def overBlocks {σ : Type} (padded : Bytes) (block : Nat) (start : σ) (step : σ → Nat → σ) : σ :=
  go (padded.size / block) 0 start
where
  /-- The remaining `n` blocks from offset `off` on. -/
  go : Nat → Nat → σ → σ
    | 0, _, s => s
    | n + 1, off, s => go n (off + block) (step s off)

/-- Rotate a 32-bit word to the left. -/
@[inline] def rotl32 (x : UInt32) (n : UInt32) : UInt32 := x <<< n ||| x >>> (32 - n)

/-- Rotate a 32-bit word to the right. -/
@[inline] def rotr32 (x : UInt32) (n : UInt32) : UInt32 := x >>> n ||| x <<< (32 - n)

/-- Rotate a 64-bit word to the left; the amount is between 1 and 63. -/
@[inline] def rotl64 (x : UInt64) (n : UInt64) : UInt64 := x <<< n ||| x >>> (64 - n)

/-- Rotate a 64-bit word to the right; the amount is between 1 and 63. -/
@[inline] def rotr64 (x : UInt64) (n : UInt64) : UInt64 := x >>> n ||| x <<< (64 - n)

end Mailroom.Digest
