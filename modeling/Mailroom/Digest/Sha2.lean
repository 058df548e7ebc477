import Mailroom.Digest.Words

/-!
# SHA-2

Eight big-endian words: of 32 bits with sixty-four steps a block, or of 64 bits with eighty. The
shorter digests of the family differ in the words they start from and keep only the front of the
last state.
-/

namespace Mailroom.Digest.Sha2

/-- The eight words of a state. -/
structure State (word : Type) where
  /-- The first word. -/
  a : word
  /-- The second word. -/
  b : word
  /-- The third word. -/
  c : word
  /-- The fourth word. -/
  d : word
  /-- The fifth word. -/
  e : word
  /-- The sixth word. -/
  f : word
  /-- The seventh word. -/
  g : word
  /-- The eighth word. -/
  h : word

/-- The words of a state in order. -/
def State.toList {word : Type} (s : State word) : List word :=
  [s.a, s.b, s.c, s.d, s.e, s.f, s.g, s.h]

/-- Word by word addition. -/
def State.add {word : Type} [Add word] (s t : State word) : State word :=
  ⟨s.a + t.a, s.b + t.b, s.c + t.c, s.d + t.d, s.e + t.e, s.f + t.f, s.g + t.g, s.h + t.h⟩

/-! ### Words of 32 bits -/

/-- The additive constants of the steps on 32-bit words. -/
def table32 : Array UInt32 := #[
  0x428a2f98, 0x71374491, 0xb5c0fbcf, 0xe9b5dba5, 0x3956c25b, 0x59f111f1, 0x923f82a4, 0xab1c5ed5,
  0xd807aa98, 0x12835b01, 0x243185be, 0x550c7dc3, 0x72be5d74, 0x80deb1fe, 0x9bdc06a7, 0xc19bf174,
  0xe49b69c1, 0xefbe4786, 0x0fc19dc6, 0x240ca1cc, 0x2de92c6f, 0x4a7484aa, 0x5cb0a9dc, 0x76f988da,
  0x983e5152, 0xa831c66d, 0xb00327c8, 0xbf597fc7, 0xc6e00bf3, 0xd5a79147, 0x06ca6351, 0x14292967,
  0x27b70a85, 0x2e1b2138, 0x4d2c6dfc, 0x53380d13, 0x650a7354, 0x766a0abb, 0x81c2c92e, 0x92722c85,
  0xa2bfe8a1, 0xa81a664b, 0xc24b8b70, 0xc76c51a3, 0xd192e819, 0xd6990624, 0xf40e3585, 0x106aa070,
  0x19a4c116, 0x1e376c08, 0x2748774c, 0x34b0bcb5, 0x391c0cb3, 0x4ed8aa4a, 0x5b9cca4f, 0x682e6ff3,
  0x748f82ee, 0x78a5636f, 0x84c87814, 0x8cc70208, 0x90befffa, 0xa4506ceb, 0xbef9a3f7, 0xc67178f2]

/-- Extend the schedule by `n` words of 32 bits. -/
def extend32 : Nat → Array UInt32 → Array UInt32
  | 0, w => w
  | n + 1, w =>
    let i := w.size
    let x := w.getD (i - 15) 0
    let y := w.getD (i - 2) 0
    let s0 := rotr32 x 7 ^^^ rotr32 x 18 ^^^ x >>> 3
    let s1 := rotr32 y 17 ^^^ rotr32 y 19 ^^^ y >>> 10
    extend32 n (w.push (w.getD (i - 16) 0 + s0 + w.getD (i - 7) 0 + s1))

/-- The steps on 32-bit words from number `64 - n` on. -/
def steps32 (w : Array UInt32) : Nat → State UInt32 → State UInt32
  | 0, s => s
  | n + 1, s =>
    let i := 63 - n
    let s1 := rotr32 s.e 6 ^^^ rotr32 s.e 11 ^^^ rotr32 s.e 25
    let ch := (s.e &&& s.f) ^^^ (~~~s.e &&& s.g)
    let t1 := s.h + s1 + ch + table32.getD i 0 + w.getD i 0
    let s0 := rotr32 s.a 2 ^^^ rotr32 s.a 13 ^^^ rotr32 s.a 22
    let maj := (s.a &&& s.b) ^^^ (s.a &&& s.c) ^^^ (s.b &&& s.c)
    steps32 w n ⟨t1 + s0 + maj, s.a, s.b, s.c, s.d + t1, s.e, s.f, s.g⟩

/-- Mix one block of 64 bytes into the state. -/
def mix32 (m : Bytes) (s : State UInt32) (off : Nat) : State UInt32 :=
  s.add (steps32 (extend32 48 ((Array.range 16).map fun i => be32 m (off + 4 * i))) 64 s)

/-- The front `size` bytes of the last state, for 32-bit words. -/
def digest32 (start : State UInt32) (size : Nat) (b : Bytes) : Bytes :=
  let m := withLength b 64 (beBytes (8 * b.size) 8)
  (ofBe32 (overBlocks m 64 start (mix32 m)).toList).extract 0 size

/-- The SHA-224 digest: 28 bytes. -/
def sha224 : Bytes → Bytes :=
  digest32 ⟨0xc1059ed8, 0x367cd507, 0x3070dd17, 0xf70e5939,
    0xffc00b31, 0x68581511, 0x64f98fa7, 0xbefa4fa4⟩ 28

/-- The SHA-256 digest: 32 bytes. -/
def sha256 : Bytes → Bytes :=
  digest32 ⟨0x6a09e667, 0xbb67ae85, 0x3c6ef372, 0xa54ff53a,
    0x510e527f, 0x9b05688c, 0x1f83d9ab, 0x5be0cd19⟩ 32

/-! ### Words of 64 bits -/

/-- The additive constants of the steps on 64-bit words. -/
def table64 : Array UInt64 := #[
  0x428a2f98d728ae22, 0x7137449123ef65cd, 0xb5c0fbcfec4d3b2f, 0xe9b5dba58189dbbc,
  0x3956c25bf348b538, 0x59f111f1b605d019, 0x923f82a4af194f9b, 0xab1c5ed5da6d8118,
  0xd807aa98a3030242, 0x12835b0145706fbe, 0x243185be4ee4b28c, 0x550c7dc3d5ffb4e2,
  0x72be5d74f27b896f, 0x80deb1fe3b1696b1, 0x9bdc06a725c71235, 0xc19bf174cf692694,
  0xe49b69c19ef14ad2, 0xefbe4786384f25e3, 0x0fc19dc68b8cd5b5, 0x240ca1cc77ac9c65,
  0x2de92c6f592b0275, 0x4a7484aa6ea6e483, 0x5cb0a9dcbd41fbd4, 0x76f988da831153b5,
  0x983e5152ee66dfab, 0xa831c66d2db43210, 0xb00327c898fb213f, 0xbf597fc7beef0ee4,
  0xc6e00bf33da88fc2, 0xd5a79147930aa725, 0x06ca6351e003826f, 0x142929670a0e6e70,
  0x27b70a8546d22ffc, 0x2e1b21385c26c926, 0x4d2c6dfc5ac42aed, 0x53380d139d95b3df,
  0x650a73548baf63de, 0x766a0abb3c77b2a8, 0x81c2c92e47edaee6, 0x92722c851482353b,
  0xa2bfe8a14cf10364, 0xa81a664bbc423001, 0xc24b8b70d0f89791, 0xc76c51a30654be30,
  0xd192e819d6ef5218, 0xd69906245565a910, 0xf40e35855771202a, 0x106aa07032bbd1b8,
  0x19a4c116b8d2d0c8, 0x1e376c085141ab53, 0x2748774cdf8eeb99, 0x34b0bcb5e19b48a8,
  0x391c0cb3c5c95a63, 0x4ed8aa4ae3418acb, 0x5b9cca4f7763e373, 0x682e6ff3d6b2b8a3,
  0x748f82ee5defb2fc, 0x78a5636f43172f60, 0x84c87814a1f0ab72, 0x8cc702081a6439ec,
  0x90befffa23631e28, 0xa4506cebde82bde9, 0xbef9a3f7b2c67915, 0xc67178f2e372532b,
  0xca273eceea26619c, 0xd186b8c721c0c207, 0xeada7dd6cde0eb1e, 0xf57d4f7fee6ed178,
  0x06f067aa72176fba, 0x0a637dc5a2c898a6, 0x113f9804bef90dae, 0x1b710b35131c471b,
  0x28db77f523047d84, 0x32caab7b40c72493, 0x3c9ebe0a15c9bebc, 0x431d67c49c100d4c,
  0x4cc5d4becb3e42b6, 0x597f299cfc657e2a, 0x5fcb6fab3ad6faec, 0x6c44198c4a475817]

/-- Extend the schedule by `n` words of 64 bits. -/
def extend64 : Nat → Array UInt64 → Array UInt64
  | 0, w => w
  | n + 1, w =>
    let i := w.size
    let x := w.getD (i - 15) 0
    let y := w.getD (i - 2) 0
    let s0 := rotr64 x 1 ^^^ rotr64 x 8 ^^^ x >>> 7
    let s1 := rotr64 y 19 ^^^ rotr64 y 61 ^^^ y >>> 6
    extend64 n (w.push (w.getD (i - 16) 0 + s0 + w.getD (i - 7) 0 + s1))

/-- The steps on 64-bit words from number `80 - n` on. -/
def steps64 (w : Array UInt64) : Nat → State UInt64 → State UInt64
  | 0, s => s
  | n + 1, s =>
    let i := 79 - n
    let s1 := rotr64 s.e 14 ^^^ rotr64 s.e 18 ^^^ rotr64 s.e 41
    let ch := (s.e &&& s.f) ^^^ (~~~s.e &&& s.g)
    let t1 := s.h + s1 + ch + table64.getD i 0 + w.getD i 0
    let s0 := rotr64 s.a 28 ^^^ rotr64 s.a 34 ^^^ rotr64 s.a 39
    let maj := (s.a &&& s.b) ^^^ (s.a &&& s.c) ^^^ (s.b &&& s.c)
    steps64 w n ⟨t1 + s0 + maj, s.a, s.b, s.c, s.d + t1, s.e, s.f, s.g⟩

/-- Mix one block of 128 bytes into the state. -/
def mix64 (m : Bytes) (s : State UInt64) (off : Nat) : State UInt64 :=
  s.add (steps64 (extend64 64 ((Array.range 16).map fun i => be64 m (off + 8 * i))) 80 s)

/-- The front `size` bytes of the last state, for 64-bit words. -/
def digest64 (start : State UInt64) (size : Nat) (b : Bytes) : Bytes :=
  let m := withLength b 128 (beBytes (8 * b.size) 16)
  (ofBe64 (overBlocks m 128 start (mix64 m)).toList).extract 0 size

/-- The SHA-384 digest: 48 bytes. -/
def sha384 : Bytes → Bytes :=
  digest64 ⟨0xcbbb9d5dc1059ed8, 0x629a292a367cd507, 0x9159015a3070dd17, 0x152fecd8f70e5939,
    0x67332667ffc00b31, 0x8eb44a8768581511, 0xdb0c2e0d64f98fa7, 0x47b5481dbefa4fa4⟩ 48

/-- The SHA-512 digest: 64 bytes. -/
def sha512 : Bytes → Bytes :=
  digest64 ⟨0x6a09e667f3bcc908, 0xbb67ae8584caa73b, 0x3c6ef372fe94f82b, 0xa54ff53a5f1d36f1,
    0x510e527fade682d1, 0x9b05688c2b3e6c1f, 0x1f83d9abfb41bd6b, 0x5be0cd19137e2179⟩ 64

/-- The SHA-512/224 digest: 28 bytes. -/
def sha512Short224 : Bytes → Bytes :=
  digest64 ⟨0x8c3d37c819544da2, 0x73e1996689dcd4d6, 0x1dfab7ae32ff9c82, 0x679dd514582f9fcf,
    0x0f6d2b697bd44da8, 0x77e36f7304c48942, 0x3f9d85a86a1d36c8, 0x1112e6ad91d692a1⟩ 28

/-- The SHA-512/256 digest: 32 bytes. -/
def sha512Short256 : Bytes → Bytes :=
  digest64 ⟨0x22312194fc2bf72c, 0x9f555fa3c84c64c2, 0x2393b86b6f53b151, 0x963877195940eabd,
    0x96283ee2a88effe3, 0xbe5e1e2553863992, 0x2b0199fc2c85b8aa, 0x0eb72ddc81c52ca2⟩ 32

end Mailroom.Digest.Sha2
