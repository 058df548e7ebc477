import Mailroom.Json.Basic
import Mailroom.Text.Shown

/-!
# Printing JSON

One line of ASCII without spaces. Quotes, backslashes and whatever is not printable ASCII are
escaped; a character beyond the basic plane is escaped as a pair of halves. Floating-point numbers
are handed to the caller's printer, because their notation is the business of whoever reads the
line.
-/

namespace Mailroom.Json

/-- An escape of four hexadecimal digits. -/
def escape4 (n : Nat) : List Char := ['\\', 'u'] ++ Text.hexDigits n 4

/-- A character of a text. -/
def printChar (c : Char) : List Char :=
  if c = '"' then ['\\', '"']
  else if c = '\\' then ['\\', '\\']
  else if c = '\n' then ['\\', 'n']
  else if c = '\r' then ['\\', 'r']
  else if c = '\t' then ['\\', 't']
  else
    let n := c.toNat
    if 32 ≤ n && n < 127 then [c]
    else if n < 0x10000 then escape4 n
    else
      let m := n - 0x10000
      escape4 (0xD800 + m / 0x400) ++ escape4 (0xDC00 + m % 0x400)

/-- A text between double quotes. -/
def printText (s : String) : String := String.ofList ('"' :: (s.toList.flatMap printChar ++ ['"']))

mutual

/-- A value on one line; `number` prints floating-point numbers. -/
def print (number : Float → String) : Json → String
  | null => "null"
  | bool b => if b then "true" else "false"
  | int n => toString n
  | float x => number x
  | text s => printText s
  | list items => "[" ++ ",".intercalate (printItems number items) ++ "]"
  | object members => "\x7b" ++ ",".intercalate (printMembers number members) ++ "\x7d"

/-- The items of a list. -/
def printItems (number : Float → String) : List Json → List String
  | [] => []
  | v :: rest => print number v :: printItems number rest

/-- The members of an object. -/
def printMembers (number : Float → String) : List (String × Json) → List String
  | [] => []
  | (name, v) :: rest => (printText name ++ ":" ++ print number v) :: printMembers number rest

end

end Mailroom.Json
