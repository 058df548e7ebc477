import Mailroom.Number
import Mailroom.Settings.Issue
import Mailroom.Text.Blank

/-!
# Reading single values

A setting arrives as a JSON value or, from the environment, as a text. Each reader accepts the
values of its own type and those that stand for one: numbers and truth values for each other where
nothing is lost, and texts that spell one.

* Whole numbers in texts may have a sign, leading zeros, single underscores between digits and a
  fraction of zeros.
* Numbers in texts are decimal or exponent notations, infinities or not-a-number.
* Truth values in texts are one of six words for each value, in any letter case.
-/

namespace Mailroom.Settings

/-- ASCII digits. -/
def isDigit (c : Char) : Bool := '0' ≤ c && c ≤ '9'

/-- The value of a run of decimal digits. -/
def digitsValue (cs : List Char) : Nat := cs.foldl (fun n c => 10 * n + (c.toNat - 48)) 0

/-- Drop underscores that stand singly inside a text; nothing when one stands at an end or beside
another. -/
def withoutUnderscores? (cs : List Char) : Option (List Char) :=
  let rec go (before : Bool) : List Char → Option (List Char)
    | [] => if before then none else some []
    | c :: rest =>
      if c = '_' then (if before then none else go true rest)
      else (go false rest).map (c :: ·)
  go true cs

/-! ### Whole numbers -/

/-- The rest of a notation after zeros at its front; underscores among them are passed over, and a
last zero stays before a point or at the end. -/
def afterZeros (previous : Char) : List Char → Option (List Char)
  | [] => some [previous]
  | c :: rest =>
    if c = '0' ∨ c = '_' then afterZeros c rest
    else if ('1' ≤ c ∧ c ≤ '9') ∨ c = '-' then some (c :: rest)
    else if c = '.' then some (previous :: c :: rest)
    else none

/-- Drop leading zeros. -/
def withoutZeros? : List Char → Option (List Char)
  | '0' :: rest => afterZeros '0' rest
  | c :: rest => if ('1' ≤ c ∧ c ≤ '9') ∨ c = '-' then some (c :: rest) else none
  | [] => none

/-- Drop a fraction of zeros. -/
def withoutFraction (cs : List Char) : List Char :=
  match cs.dropWhile (· ≠ '.') with
  | _ :: fraction => if fraction.all (· = '0') then cs.takeWhile (· ≠ '.') else cs
  | [] => cs

/-- A whole number in its plainest notation. -/
def plainInt? (cs : List Char) : Option Int :=
  let (negative, ds) := match cs with
    | '-' :: ds => (true, ds)
    | ds => (false, ds)
  let sound := match ds with
    | [] => false
    | '0' :: _ :: _ => false
    | _ => ds.all isDigit
  if sound then
    let n : Int := digitsValue ds
    some (if negative then -n else n)
  else none

/-- The most digits a whole number may be spelled with. -/
def maxDigits : Nat := 4300

/-- The whole number a text spells. -/
def intOfText (s : String) : Except Fault Int :=
  let cs := Text.trimmed s.toList
  let cs := match cs with
    | '+' :: rest => if rest.head? = some '-' then [] else rest
    | cs => cs
  match withoutZeros? cs with
  | none => .error .unreadableInt
  | some cs =>
    let cs := withoutFraction cs
    let cs := (withoutUnderscores? cs).getD cs
    if maxDigits < cs.length ∧ (plainInt? cs).isSome then .error .oversizedInt
    else match plainInt? cs with
      | some n => .ok n
      | none => .error .unreadableInt

/-- The whole number a floating-point number equals. -/
def intOfFloat (x : Float) : Except Fault Int :=
  if x.isNaN || x.isInf then .error .notFinite
  else match Float64.toInt? x with
    | none => .error .fractional
    | some n => if -longMax ≤ n ∧ n ≤ longMax then .ok n else .error .oversizedInt

/-- Read a whole number. -/
def int : Json → Except Fault Int
  | .int n => .ok n
  | .bool b => .ok (if b then 1 else 0)
  | .float x => intOfFloat x
  | .text s => intOfText s
  | .null | .list _ | .object _ => .error .notInt

/-! ### Numbers -/

/-- The words for numbers without digits. -/
def numberWord? (cs : List Char) : Option Float :=
  let word := String.ofList (cs.map Char.toLower)
  if word = "inf" ∨ word = "infinity" then some Float64.infinity
  else if word = "nan" then some Float64.notANumber
  else none

/-- An exponent: its letter, an optional sign and digits. -/
def exponent? : List Char → Option Int
  | [] => some 0
  | e :: rest =>
    if e = 'e' ∨ e = 'E' then
      let (negative, ds) := match rest with
        | '-' :: ds => (true, ds)
        | '+' :: ds => (false, ds)
        | ds => (false, ds)
      if ds.isEmpty ∨ !ds.all isDigit then none
      else
        let n : Int := digitsValue ds
        some (if negative then -n else n)
    else none

/-- A decimal or exponent notation, or a word, with an optional sign. -/
def decimal? (cs : List Char) : Option Float :=
  let (negative, cs) := match cs with
    | '-' :: rest => (true, rest)
    | '+' :: rest => (false, rest)
    | cs => (false, cs)
  match numberWord? cs with
  | some x => some (if negative then -x else x)
  | none =>
    let whole := cs.takeWhile isDigit
    let rest := cs.dropWhile isDigit
    let (fraction, rest) := match rest with
      | '.' :: more => (more.takeWhile isDigit, more.dropWhile isDigit)
      | rest => ([], rest)
    if whole.isEmpty && fraction.isEmpty then none
    else (exponent? rest).map fun e =>
      Decimal.toFloat negative (digitsValue (whole ++ fraction)) (e - fraction.length)

/-- The number a text spells. -/
def numberOfText (s : String) : Except Fault Float :=
  match decimal? (Text.trimmed s.toList) with
  | some x => .ok x
  | none =>
    match (withoutUnderscores? (Text.trimmed s.toList)).bind decimal? with
    | some x => .ok x
    | none => .error .unreadableNumber

/-- Read a number. -/
def number : Json → Except Fault Float
  | .float x => .ok x
  | .int n => match Float64.ofInt? n with
    | some x => .ok x
    | none => .error .notNumber
  | .bool b => .ok (if b then 1 else 0)
  | .text s => numberOfText s
  | .null | .list _ | .object _ => .error .notNumber

/-- Read a number, or null for none. -/
def optionalNumber : Json → Except Fault (Option Float)
  | .null => .ok none
  | v => (number v).map some

/-! ### Texts and truth values -/

/-- Read a text. -/
def text : Json → Except Fault String
  | .text s => .ok s
  | .null | .bool _ | .int _ | .float _ | .list _ | .object _ => .error .notText

/-- The truth value of a whole number. -/
def boolOfInt (n : Int) : Except Fault Bool :=
  if n = 0 then .ok false
  else if n = 1 then .ok true
  else if -longMax - 1 ≤ n ∧ n ≤ longMax then .error .unreadableBool
  else .error .notBool

/-- Read a truth value. -/
def bool : Json → Except Fault Bool
  | .bool b => .ok b
  | .int n => boolOfInt n
  | .float x => match intOfFloat x with
    | .ok n => boolOfInt n
    | .error _ => .error .notBool
  | .text s =>
    let word := s.map Char.toLower
    if ["0", "off", "f", "false", "n", "no"].contains word then .ok false
    else if ["1", "on", "t", "true", "y", "yes"].contains word then .ok true
    else .error .unreadableBool
  | .null | .list _ | .object _ => .error .notBool

/-! ### Least values -/

/-- Refuse a whole number below `least`. -/
def atLeast (least : Nat) (n : Int) : Except Fault Nat :=
  if (least : Int) ≤ n then .ok n.toNat else .error (.tooSmall least)

/-- Refuse a number that is not zero or above; not-a-number is refused too. -/
def nonNegative (x : Float) : Except Fault Float :=
  if 0 ≤ x then .ok x else .error (.tooSmall 0)

end Mailroom.Settings
