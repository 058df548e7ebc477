import Mailroom.Bytes
import Mailroom.Text.Shown

/-!
# Strict UTF-8

Reading a byte string as UTF-8 either gives a text or says where and why the first fault lies:
a byte that starts no character, a byte that should continue one and does not, or an end in the
middle of one. Overlong forms, surrogates and values beyond the last code point are faults of the
second byte.
-/

namespace Mailroom.Text

/-- Why a byte string is not UTF-8. -/
inductive Utf8Fault where
  /-- A byte that starts no character. -/
  | invalidStart
  /-- A byte that should continue a character and does not. -/
  | invalidContinuation
  /-- The bytes end within a character. -/
  | unexpectedEnd
  deriving DecidableEq, Repr

/-- The wording of a fault. -/
def Utf8Fault.message : Utf8Fault → String
  | .invalidStart => "invalid start byte"
  | .invalidContinuation => "invalid continuation byte"
  | .unexpectedEnd => "unexpected end of data"

/-- The first fault of a byte string: the bytes `start` to `start + length - 1`. -/
structure Utf8Error where
  /-- The offending bytes. -/
  bytes : List UInt8
  /-- The position of the first of them. -/
  start : Nat
  /-- What is wrong with them. -/
  fault : Utf8Fault
  deriving DecidableEq, Repr

/-- The wording of a decoding error: one offending byte is named, several are located. -/
def Utf8Error.message (e : Utf8Error) : String :=
  let place := match e.bytes with
    | [b] => s!"byte 0x{String.ofList (Bytes.hexByte b)} in position {e.start}"
    | bs => s!"bytes in position {e.start}-{e.start + bs.length - 1}"
  "'utf-8' codec can't decode " ++ place ++ ": " ++ e.fault.message

/-- How many bytes a character has that starts with the given byte, and the bounds of its second
byte; nothing when the byte starts no character. -/
def leadByte? (b : UInt8) : Option (Nat × UInt8 × UInt8) :=
  if b < 0x80 then some (1, 0, 0)
  else if b < 0xC2 then none
  else if b < 0xE0 then some (2, 0x80, 0xBF)
  else if b = 0xE0 then some (3, 0xA0, 0xBF)
  else if b = 0xED then some (3, 0x80, 0x9F)
  else if b < 0xF0 then some (3, 0x80, 0xBF)
  else if b = 0xF0 then some (4, 0x90, 0xBF)
  else if b < 0xF4 then some (4, 0x80, 0xBF)
  else if b = 0xF4 then some (4, 0x80, 0x8F)
  else none

/-- The continuation bytes at the front of `bs`, at most `wanted`, the first of them within the
given bounds. -/
def continuation (lo hi : UInt8) : Nat → List UInt8 → List UInt8
  | 0, _ => []
  | _ + 1, [] => []
  | wanted + 1, b :: bs =>
    if lo ≤ b && b ≤ hi then b :: continuation 0x80 0xBF wanted bs else []

/-- The code point that the bytes of a character encode. -/
def codePoint (lead : UInt8) (rest : List UInt8) : Nat :=
  let bits := match rest.length with
    | 0 => lead.toNat
    | 1 => lead.toNat % 32
    | 2 => lead.toNat % 16
    | _ => lead.toNat % 8
  rest.foldl (fun n b => 64 * n + b.toNat % 64) bits

/-- Decode the bytes from position `start` on; at most `fuel` characters are read, and a byte
string has no more characters than bytes. -/
def decodeFrom (fuel start : Nat) (bs : List UInt8) (acc : List Char) : Except Utf8Error String :=
  match fuel, bs with
  | _, [] => .ok (String.ofList acc.reverse)
  | 0, _ => .ok (String.ofList acc.reverse)
  | fuel + 1, lead :: rest =>
    match leadByte? lead with
    | none => .error ⟨[lead], start, .invalidStart⟩
    | some (size, lo, hi) =>
      let follow := continuation lo hi (size - 1) rest
      if follow.length + 1 = size then
        decodeFrom fuel (start + size) (rest.drop follow.length)
          (Char.ofNat (codePoint lead follow) :: acc)
      else if follow.length = rest.length then .error ⟨lead :: follow, start, .unexpectedEnd⟩
      else .error ⟨lead :: follow, start, .invalidContinuation⟩

/-- Read a byte string as UTF-8. -/
def decodeUtf8 (b : Bytes) : Except Utf8Error String :=
  let bs := b.data.toList
  decodeFrom bs.length 0 bs []

/-- The UTF-8 form of a text. -/
def encodeUtf8 (s : String) : Bytes := s.toUTF8

end Mailroom.Text
