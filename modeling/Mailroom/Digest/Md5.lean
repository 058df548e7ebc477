import Mailroom.Digest.Words

/-!
# MD5

Four little-endian words, sixty-four steps a block.
-/

namespace Mailroom.Digest.Md5

/-- The four words of the state. -/
structure State where
  /-- The first word. -/
  a : UInt32
  /-- The second word. -/
  b : UInt32
  /-- The third word. -/
  c : UInt32
  /-- The fourth word. -/
  d : UInt32

/-- The state before the first block. -/
def start : State := ⟨0x67452301, 0xefcdab89, 0x98badcfe, 0x10325476⟩

/-- The rotation of each of the four steps that a group of sixteen repeats. -/
def shifts : Array UInt32 := #[7, 12, 17, 22, 5, 9, 14, 20, 4, 11, 16, 23, 6, 10, 15, 21]

/-- The additive constants of the steps. -/
def table : Array UInt32 := #[
  0xd76aa478, 0xe8c7b756, 0x242070db, 0xc1bdceee, 0xf57c0faf, 0x4787c62a, 0xa8304613, 0xfd469501,
  0x698098d8, 0x8b44f7af, 0xffff5bb1, 0x895cd7be, 0x6b901122, 0xfd987193, 0xa679438e, 0x49b40821,
  0xf61e2562, 0xc040b340, 0x265e5a51, 0xe9b6c7aa, 0xd62f105d, 0x02441453, 0xd8a1e681, 0xe7d3fbc8,
  0x21e1cde6, 0xc33707d6, 0xf4d50d87, 0x455a14ed, 0xa9e3e905, 0xfcefa3f8, 0x676f02d9, 0x8d2a4c8a,
  0xfffa3942, 0x8771f681, 0x6d9d6122, 0xfde5380c, 0xa4beea44, 0x4bdecfa9, 0xf6bb4b60, 0xbebfbc70,
  0x289b7ec6, 0xeaa127fa, 0xd4ef3085, 0x04881d05, 0xd9d4d039, 0xe6db99e5, 0x1fa27cf8, 0xc4ac5665,
  0xf4292244, 0x432aff97, 0xab9423a7, 0xfc93a039, 0x655b59c3, 0x8f0ccc92, 0xffeff47d, 0x85845dd1,
  0x6fa87e4f, 0xfe2ce6e0, 0xa3014314, 0x4e0811a1, 0xf7537e82, 0xbd3af235, 0x2ad7d2bb, 0xeb86d391]

/-- One step: `i` is its number, `m` the block's word it takes. -/
@[inline] def step (s : State) (i : Nat) (word : Nat → UInt32) : State :=
  let (f, g) : UInt32 × Nat :=
    if i < 16 then ((s.b &&& s.c) ||| (~~~s.b &&& s.d), i)
    else if i < 32 then ((s.d &&& s.b) ||| (~~~s.d &&& s.c), (5 * i + 1) % 16)
    else if i < 48 then (s.b ^^^ s.c ^^^ s.d, (3 * i + 5) % 16)
    else (s.c ^^^ (s.b ||| ~~~s.d), 7 * i % 16)
  let sum := s.a + f + table.getD i 0 + word g
  ⟨s.d, s.b + rotl32 sum (shifts.getD (i / 16 * 4 + i % 4) 0), s.b, s.c⟩

/-- The steps from number `64 - n` on. -/
def steps (word : Nat → UInt32) : Nat → State → State
  | 0, s => s
  | n + 1, s => steps word n (step s (63 - n) word)

/-- Mix one block into the state. -/
def mix (m : Bytes) (s : State) (off : Nat) : State :=
  let t := steps (fun g => le32 m (off + 4 * g)) 64 s
  ⟨s.a + t.a, s.b + t.b, s.c + t.c, s.d + t.d⟩

/-- The MD5 digest of a message: 16 bytes. -/
def digest (b : Bytes) : Bytes :=
  let m := withLength b 64 (leBytes (8 * b.size) 8)
  let s := overBlocks m 64 start (mix m)
  ofLe32 [s.a, s.b, s.c, s.d]

end Mailroom.Digest.Md5
