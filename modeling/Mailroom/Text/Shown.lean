import Mailroom.Bytes
import Mailroom.Text.Unprintable

/-!
# Values shown in messages

Messages quote the texts and byte strings they are about. A quoted value stands between single
quotes, or between double quotes when it holds a single quote and no double quote; the backslash,
the quote in use and whatever has no printed form are written as escapes. Byte strings carry a
leading `b` and escape everything outside printable ASCII.
-/

namespace Mailroom.Text

/-- The quote that surrounds a value: double when it holds a single quote and no double quote. -/
def quoteFor (hasSingle hasDouble : Bool) : Char :=
  if hasSingle && !hasDouble then '"' else '\''

/-- The last `width` lower-case hexadecimal digits of a number. -/
def hexDigits (n : Nat) : Nat → List Char
  | 0 => []
  | width + 1 => hexDigits (n / 16) width ++ [Bytes.hexDigit (n % 16)]

/-- Escapes common to texts and byte strings. -/
def escapeCommon? (quote : Char) (c : Char) : Option (List Char) :=
  if c = quote || c = '\\' then some ['\\', c]
  else if c = '\t' then some ['\\', 't']
  else if c = '\n' then some ['\\', 'n']
  else if c = '\r' then some ['\\', 'r']
  else none

/-- A character of a quoted text. -/
def showChar (quote : Char) (c : Char) : List Char :=
  match escapeCommon? quote c with
  | some cs => cs
  | none =>
    let n := c.toNat
    if !isUnprintable c then [c]
    else if n < 0x100 then ['\\', 'x'] ++ hexDigits n 2
    else if n < 0x10000 then ['\\', 'u'] ++ hexDigits n 4
    else ['\\', 'U'] ++ hexDigits n 8

/-- A text in quotes. -/
def shown (s : String) : String :=
  let quote := quoteFor (s.contains '\'') (s.contains '"')
  String.ofList ([quote] ++ s.toList.flatMap (showChar quote) ++ [quote])

/-- A byte of a quoted byte string. -/
def showByte (quote : Char) (b : UInt8) : List Char :=
  match escapeCommon? quote (Char.ofNat b.toNat) with
  | some cs => cs
  | none =>
    if 32 ≤ b && b < 127 then [Char.ofNat b.toNat]
    else ['\\', 'x'] ++ hexDigits b.toNat 2

/-- A byte string in quotes. -/
def shownBytes (b : Bytes) : String :=
  let bytes := b.data.toList
  let quote := quoteFor (bytes.contains 39) (bytes.contains 34)
  String.ofList (['b', quote] ++ bytes.flatMap (showByte quote) ++ [quote])

/-- Items between brackets, separated by a comma and a space. -/
def commaSeparated (items : List String) : String := ", ".intercalate items

/-- At most `limit` bytes of a text in UTF-8: a longer one keeps the larger half from its front and
the rest from its end, cut at whole characters, around an ellipsis. -/
def abridged (limit : Nat) (s : String) : String :=
  if s.utf8ByteSize ≤ limit then s
  else
    let half := (limit + 1) / 2
    let front := s.toList.foldl
      (fun (acc : List Char × Nat) c =>
        if acc.2 + c.utf8Size ≤ half then (c :: acc.1, acc.2 + c.utf8Size) else (acc.1, limit + half))
      ([], 0)
    let back := s.toList.reverse.foldl
      (fun (acc : List Char × Nat) c =>
        if acc.2 + c.utf8Size ≤ half - 1 then (c :: acc.1, acc.2 + c.utf8Size)
        else (acc.1, limit + half))
      ([], 0)
    String.ofList front.1.reverse ++ "..." ++ String.ofList back.1

end Mailroom.Text
