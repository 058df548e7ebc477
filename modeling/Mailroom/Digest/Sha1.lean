import Mailroom.Digest.Words

/-!
# SHA-1

Five big-endian words, eighty steps a block, with a message schedule of eighty words.
-/

namespace Mailroom.Digest.Sha1

/-- The five words of the state. -/
structure State where
  /-- The first word. -/
  a : UInt32
  /-- The second word. -/
  b : UInt32
  /-- The third word. -/
  c : UInt32
  /-- The fourth word. -/
  d : UInt32
  /-- The fifth word. -/
  e : UInt32

/-- The state before the first block. -/
def start : State := ⟨0x67452301, 0xefcdab89, 0x98badcfe, 0x10325476, 0xc3d2e1f0⟩

/-- Extend the schedule by `n` words, each from four earlier ones. -/
def extend : Nat → Array UInt32 → Array UInt32
  | 0, w => w
  | n + 1, w =>
    let i := w.size
    extend n (w.push (rotl32
      (w.getD (i - 3) 0 ^^^ w.getD (i - 8) 0 ^^^ w.getD (i - 14) 0 ^^^ w.getD (i - 16) 0) 1))

/-- The message schedule of a block. -/
def schedule (m : Bytes) (off : Nat) : Array UInt32 :=
  extend 64 ((Array.range 16).map fun i => be32 m (off + 4 * i))

/-- The step with number `i`. -/
@[inline] def step (w : Array UInt32) (s : State) (i : Nat) : State :=
  let (f, k) : UInt32 × UInt32 :=
    if i < 20 then ((s.b &&& s.c) ||| (~~~s.b &&& s.d), 0x5a827999)
    else if i < 40 then (s.b ^^^ s.c ^^^ s.d, 0x6ed9eba1)
    else if i < 60 then ((s.b &&& s.c) ||| (s.b &&& s.d) ||| (s.c &&& s.d), 0x8f1bbcdc)
    else (s.b ^^^ s.c ^^^ s.d, 0xca62c1d6)
  ⟨rotl32 s.a 5 + f + s.e + k + w.getD i 0, s.a, rotl32 s.b 30, s.c, s.d⟩

/-- The steps from number `80 - n` on. -/
def steps (w : Array UInt32) : Nat → State → State
  | 0, s => s
  | n + 1, s => steps w n (step w s (79 - n))

/-- Mix one block into the state. -/
def mix (m : Bytes) (s : State) (off : Nat) : State :=
  let t := steps (schedule m off) 80 s
  ⟨s.a + t.a, s.b + t.b, s.c + t.c, s.d + t.d, s.e + t.e⟩

/-- The SHA-1 digest of a message: 20 bytes. -/
def digest (b : Bytes) : Bytes :=
  let m := withLength b 64 (beBytes (8 * b.size) 8)
  let s := overBlocks m 64 start (mix m)
  ofBe32 [s.a, s.b, s.c, s.d, s.e]

end Mailroom.Digest.Sha1
