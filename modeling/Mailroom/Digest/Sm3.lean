import Mailroom.Digest.Words
import Mailroom.Digest.Sha2

/-!
# SM3

Eight big-endian words, sixty-four steps a block, with a schedule of sixty-eight words.
-/

namespace Mailroom.Digest.Sm3

open Sha2 (State)

/-- The state before the first block. -/
def start : State UInt32 :=
  ⟨0x7380166f, 0x4914b2b9, 0x172442d7, 0xda8a0600, 0xa96f30bc, 0x163138aa, 0xe38dee4d, 0xb0fb0e4e⟩

/-- Rotate by an amount taken modulo 32. -/
def turn (x : UInt32) (n : Nat) : UInt32 :=
  if n % 32 = 0 then x else rotl32 x (UInt32.ofNat (n % 32))

/-- The permutation inside the compression. -/
def spread (x : UInt32) : UInt32 := x ^^^ rotl32 x 9 ^^^ rotl32 x 17

/-- The permutation inside the schedule. -/
def scatter (x : UInt32) : UInt32 := x ^^^ rotl32 x 15 ^^^ rotl32 x 23

/-- Extend the schedule by `n` words. -/
def extend : Nat → Array UInt32 → Array UInt32
  | 0, w => w
  | n + 1, w =>
    let i := w.size
    let x := scatter (w.getD (i - 16) 0 ^^^ w.getD (i - 9) 0 ^^^ rotl32 (w.getD (i - 3) 0) 15)
    extend n (w.push (x ^^^ rotl32 (w.getD (i - 13) 0) 7 ^^^ w.getD (i - 6) 0))

/-- The step with number `i`. -/
def step (w : Array UInt32) (s : State UInt32) (i : Nat) : State UInt32 :=
  let constant : UInt32 := if i < 16 then 0x79cc4519 else 0x7a879d8a
  let ss1 := rotl32 (rotl32 s.a 12 + s.e + turn constant i) 7
  let ss2 := ss1 ^^^ rotl32 s.a 12
  let ff := if i < 16 then s.a ^^^ s.b ^^^ s.c
    else (s.a &&& s.b) ||| (s.a &&& s.c) ||| (s.b &&& s.c)
  let gg := if i < 16 then s.e ^^^ s.f ^^^ s.g else (s.e &&& s.f) ||| (~~~s.e &&& s.g)
  let tt1 := ff + s.d + ss2 + (w.getD i 0 ^^^ w.getD (i + 4) 0)
  let tt2 := gg + s.h + ss1 + w.getD i 0
  ⟨tt1, s.a, rotl32 s.b 9, s.c, spread tt2, s.e, rotl32 s.f 19, s.g⟩

/-- Mix one block into the state. -/
def mix (m : Bytes) (s : State UInt32) (off : Nat) : State UInt32 :=
  let w := extend 52 ((Array.range 16).map fun i => be32 m (off + 4 * i))
  let t := (List.range 64).foldl (step w) s
  ⟨s.a ^^^ t.a, s.b ^^^ t.b, s.c ^^^ t.c, s.d ^^^ t.d,
    s.e ^^^ t.e, s.f ^^^ t.f, s.g ^^^ t.g, s.h ^^^ t.h⟩

/-- The SM3 digest: 32 bytes. -/
def digest (b : Bytes) : Bytes :=
  let m := withLength b 64 (beBytes (8 * b.size) 8)
  ofBe32 (overBlocks m 64 start (mix m)).toList

end Mailroom.Digest.Sm3
