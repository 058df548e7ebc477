/-!
# Numbers

Amounts of time are double-precision numbers. This module reads a decimal notation as the nearest
double (`Decimal.toFloat`), converts a whole double to an integer exactly, and gives the maximum
and minimum that keep their first argument unless the second is strictly beyond it, which decides
what happens with not-a-number values and signed zeros.
-/

namespace Mailroom

/-- The largest signed number of 64 bits. -/
def longMax : Int := 9223372036854775807

/-- The largest signed number of 32 bits. -/
def shortMax : Int := 2147483647

/-- The largest size of a byte string, which has 33 bytes of its own beside its content. -/
def bytesMax : Int := longMax - 33

namespace Decimal

/-- The double nearest to `±digits · 10 ^ exponent`. Exponents far outside the range of a double
are settled without computing the power. -/
def toFloat (negative : Bool) (digits : Nat) (exponent : Int) : Float :=
  let magnitude : Int := exponent + (Nat.toDigits 10 digits).length
  let x : Float :=
    if digits = 0 then 0
    else if magnitude > 400 then 1.0 / 0.0
    else if magnitude < -400 then 0
    else if exponent < 0 then Float.ofScientific digits true exponent.natAbs
    else Float.ofScientific digits false exponent.natAbs
  if negative then -x else x

end Decimal

namespace Float64

/-- Positive infinity. -/
def infinity : Float := 1.0 / 0.0

/-- Not a number. -/
def notANumber : Float := 0.0 / 0.0

/-- The larger of two: `b` only where it is strictly above `a`. -/
def larger (a b : Float) : Float := if b > a then b else a

/-- The smaller of two: `b` only where it is strictly below `a`. -/
def smaller (a b : Float) : Float := if b < a then b else a

/-- The double `2 ^ e`, exact within the range of a double and zero below it. -/
def twoPow (e : Int) : Float :=
  if e ≥ 1024 then infinity
  else if e ≥ -1022 then Float.ofBits ((e + 1023).toNat.toUInt64 <<< 52)
  else if e ≥ -1074 then Float.ofBits ((1 : UInt64) <<< (e + 1074).toNat.toUInt64)
  else 0

/-- The sign, significand and exponent of a finite double: `±m · 2 ^ e`. -/
def parts (x : Float) : Bool × Nat × Int :=
  let bits : Nat := x.toBits.toNat
  let negative : Bool := bits >>> 63 = 1
  let biased : Nat := (bits >>> 52) % 2048
  let fraction : Nat := bits % (1 <<< 52)
  if biased = 0 then (negative, fraction, -1074)
  else (negative, (1 <<< 52) + fraction, (biased : Int) - 1075)

/-- The integer a double is equal to, if it is whole. -/
def toInt? (x : Float) : Option Int :=
  if x.isNaN || x.isInf then none
  else
    let (negative, m, e) := parts x
    let sign : Int → Int := fun n => if negative then -n else n
    if e ≥ 0 then some (sign (m <<< e.toNat))
    else
      let unit : Nat := 1 <<< e.natAbs
      if m % unit = 0 then some (sign (Int.ofNat (m / unit))) else none

/-- The double nearest to an integer, if the integer is in the range of a double. -/
def ofInt? (n : Int) : Option Float :=
  let x := Decimal.toFloat (n < 0) n.natAbs 0
  if x.isInf then none else some x

end Float64

end Mailroom
