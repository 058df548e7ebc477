import Mailroom.Json.Basic
import Mailroom.Number

/-!
# Reading JSON

A recursive-descent reader. Beyond the standard grammar it knows `NaN`, `Infinity` and
`-Infinity`; of members with one name the last counts. Every reading step consumes a character, so
the length of the input bounds the depth and the number of steps.
-/

namespace Mailroom.Json

/-- Whether a character may stand between tokens. -/
def isGap (c : Char) : Bool := c = ' ' || c = '\t' || c = '\n' || c = '\r'

/-- The value of a hexadecimal digit. -/
def hexDigit? (c : Char) : Option Nat :=
  if '0' ≤ c ∧ c ≤ '9' then some (c.toNat - 48)
  else if 'a' ≤ c ∧ c ≤ 'f' then some (c.toNat - 87)
  else if 'A' ≤ c ∧ c ≤ 'F' then some (c.toNat - 55)
  else none

/-- Four hexadecimal digits. -/
def hex4? : List Char → Option (Nat × List Char)
  | a :: b :: c :: d :: rest => do
    let a ← hexDigit? a
    let b ← hexDigit? b
    let c ← hexDigit? c
    let d ← hexDigit? d
    pure (((a * 16 + b) * 16 + c) * 16 + d, rest)
  | _ => none

/-- The character of an escape of one letter. -/
def escaped? (c : Char) : Option Char :=
  match c with
  | '"' => some '"'
  | '\\' => some '\\'
  | '/' => some '/'
  | 'b' => some '\x08'
  | 'f' => some '\x0c'
  | 'n' => some '\n'
  | 'r' => some '\r'
  | 't' => some '\t'
  | _ => none

/-- The character of a `\u` escape whose digits follow; two escapes may form one character. A half
of a pair that stands alone reads as the replacement character. -/
def unicode? (cs : List Char) : Option (Char × List Char) := do
  let (high, rest) ← hex4? cs
  if 0xD800 ≤ high ∧ high < 0xDC00 then
    match rest with
    | '\\' :: 'u' :: more =>
      match hex4? more with
      | some (low, rest') =>
        if 0xDC00 ≤ low ∧ low < 0xE000 then
          pure (Char.ofNat (0x10000 + (high - 0xD800) * 0x400 + (low - 0xDC00)), rest')
        else pure ('\uFFFD', rest)
      | none => pure ('\uFFFD', rest)
    | _ => pure ('\uFFFD', rest)
  else if 0xDC00 ≤ high ∧ high < 0xE000 then pure ('\uFFFD', rest)
  else pure (Char.ofNat high, rest)

/-- The rest of a text after its opening quote. -/
def readText (fuel : Nat) (acc : List Char) (cs : List Char) : Option (String × List Char) :=
  match fuel, cs with
  | _, [] => none
  | 0, _ => none
  | fuel + 1, c :: rest =>
    if c = '"' then some (String.ofList acc.reverse, rest)
    else if c = '\\' then
      match rest with
      | 'u' :: digits =>
        match unicode? digits with
        | some (u, rest') => readText fuel (u :: acc) rest'
        | none => none
      | e :: rest' =>
        match escaped? e with
        | some u => readText fuel (u :: acc) rest'
        | none => none
      | [] => none
    else if c.toNat < 32 then none
    else readText fuel (c :: acc) rest

/-- The value of a run of decimal digits. -/
def natOfDigits (cs : List Char) : Nat := cs.foldl (fun n c => 10 * n + (c.toNat - 48)) 0

/-- A number. -/
def readNumber (cs : List Char) : Option (Json × List Char) :=
  let (negative, cs) := match cs with
    | '-' :: rest => (true, rest)
    | _ => (false, cs)
  let whole := cs.takeWhile Char.isDigit
  let rest := cs.dropWhile Char.isDigit
  let sound := match whole with
    | [] => false
    | '0' :: _ :: _ => false
    | _ => true
  if !sound then none
  else
    let (fraction, rest) := match rest with
      | '.' :: more =>
        match more.takeWhile Char.isDigit with
        | [] => (none, rest)
        | ds => (some ds, more.dropWhile Char.isDigit)
      | _ => (none, rest)
    let (exponent, rest) := match rest with
      | e :: more =>
        if e = 'e' ∨ e = 'E' then
          let (minus, digits) := match more with
            | '-' :: ds => (true, ds)
            | '+' :: ds => (false, ds)
            | _ => (false, more)
          match digits.takeWhile Char.isDigit with
          | [] => (none, rest)
          | ds =>
            let n : Int := natOfDigits ds
            (some (if minus then -n else n), digits.dropWhile Char.isDigit)
        else (none, rest)
      | [] => (none, rest)
    match fraction, exponent with
    | none, none =>
      let n : Int := natOfDigits whole
      some (int (if negative then -n else n), rest)
    | _, _ =>
      let ds := fraction.getD []
      some (float (Decimal.toFloat negative (natOfDigits (whole ++ ds))
        (exponent.getD 0 - ds.length)), rest)

/-- Drop the given word from the front. -/
def dropWord? : List Char → List Char → Option (List Char)
  | [], cs => some cs
  | w :: ws, c :: cs => if w = c then dropWord? ws cs else none
  | _ :: _, [] => none

/-- A value named by a word. -/
def readWord (cs : List Char) : Option (Json × List Char) :=
  let words : List (String × Json) :=
    [("null", null), ("true", bool true), ("false", bool false), ("NaN", float Float64.notANumber),
      ("Infinity", float Float64.infinity), ("-Infinity", float (-Float64.infinity))]
  words.findSome? fun (w, v) => (dropWord? w.toList cs).map (v, ·)

mutual

/-- A value, after any gap. -/
def readValue (fuel : Nat) (cs : List Char) : Option (Json × List Char) :=
  match fuel with
  | 0 => none
  | fuel + 1 =>
    match cs.dropWhile isGap with
    | '"' :: rest =>
      match readText (rest.length + 1) [] rest with
      | some (s, rest) => some (text s, rest)
      | none => none
    | '[' :: rest =>
      match rest.dropWhile isGap with
      | ']' :: rest => some (list [], rest)
      | _ => readItems fuel [] rest
    | '{' :: rest =>
      match rest.dropWhile isGap with
      | '}' :: rest => some (object [], rest)
      | _ => readMembers fuel [] rest
    | cs =>
      match readWord cs with
      | some r => some r
      | none => readNumber cs

/-- The items of a list from the next one on; `acc` holds the earlier ones, last first. -/
def readItems (fuel : Nat) (acc : List Json) (cs : List Char) : Option (Json × List Char) :=
  match fuel with
  | 0 => none
  | fuel + 1 =>
    match readValue fuel cs with
    | none => none
    | some (v, rest) =>
      match rest.dropWhile isGap with
      | ',' :: rest => readItems fuel (v :: acc) rest
      | ']' :: rest => some (list (v :: acc).reverse, rest)
      | _ => none

/-- The members of an object from the next one on. -/
def readMembers (fuel : Nat) (acc : List (String × Json)) (cs : List Char) :
    Option (Json × List Char) :=
  match fuel with
  | 0 => none
  | fuel + 1 =>
    match cs.dropWhile isGap with
    | '"' :: rest =>
      match readText (rest.length + 1) [] rest with
      | none => none
      | some (name, rest) =>
        match rest.dropWhile isGap with
        | ':' :: rest =>
          match readValue fuel rest with
          | none => none
          | some (v, rest) =>
            let acc := setMember acc name v
            match rest.dropWhile isGap with
            | ',' :: rest => readMembers fuel acc rest
            | '}' :: rest => some (object acc, rest)
            | _ => none
        | _ => none
    | _ => none

end

/-- The value a text denotes, if it denotes one. -/
def read? (s : String) : Option Json :=
  let cs := s.toList
  match readValue (cs.length + 1) cs with
  | some (v, rest) => if rest.all isGap then some v else none
  | none => none

end Mailroom.Json
