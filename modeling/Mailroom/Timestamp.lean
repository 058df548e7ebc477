import Mailroom.Bytes

/-!
# Points in time

A point in time is a whole number of microseconds since the start of 1970, in universal time. It is
written as a date of the Gregorian calendar, extended into the past, and a time of day; the
fraction of a second appears only where it is not zero.
-/

namespace Mailroom

/-- A date. -/
structure Date where
  /-- The year. -/
  year : Int
  /-- The month, from 1. -/
  month : Nat
  /-- The day of the month, from 1. -/
  day : Nat
  deriving DecidableEq, Repr

/-- The date a number of days after the first of January 1970. Years are counted from March, so
that the leap day is the last of its year, in eras of 400 years, which all have 146097 days. -/
def Date.ofDays (days : Int) : Date :=
  let shifted := days + 719468
  let era := Int.fdiv shifted 146097
  let dayOfEra := (shifted - era * 146097).toNat
  let yearOfEra := (dayOfEra - dayOfEra / 1460 + dayOfEra / 36524 - dayOfEra / 146096) / 365
  let dayOfYear := dayOfEra - (365 * yearOfEra + yearOfEra / 4 - yearOfEra / 100)
  let fromMarch := (5 * dayOfYear + 2) / 153
  let day := dayOfYear - (153 * fromMarch + 2) / 5 + 1
  let month := if fromMarch < 10 then fromMarch + 3 else fromMarch - 9
  ⟨yearOfEra + era * 400 + (if month ≤ 2 then 1 else 0), month, day⟩

namespace Timestamp

/-- A number with zeros in front up to a width. -/
def padded (width n : Nat) : String :=
  let digits := Nat.toDigits 10 n
  String.ofList (List.replicate (width - digits.length) '0' ++ digits)

/-- The microseconds of a day. -/
def perDay : Int := 86400000000

/-- A point in time in the extended form of the international notation. -/
def written (microseconds : Int) : String :=
  let days := Int.fdiv microseconds perDay
  let date := Date.ofDays days
  let rest := (microseconds - days * perDay).toNat
  let seconds := rest / 1000000
  let fraction := rest % 1000000
  padded 4 date.year.toNat ++ "-" ++ padded 2 date.month ++ "-" ++ padded 2 date.day ++ "T" ++
    padded 2 (seconds / 3600) ++ ":" ++ padded 2 (seconds / 60 % 60) ++ ":" ++
    padded 2 (seconds % 60) ++ (if fraction = 0 then "" else "." ++ padded 6 fraction) ++ "Z"

example : written 0 = "1970-01-01T00:00:00Z" := by decide +kernel

example : written 951782400000001 = "2000-02-29T00:00:00.000001Z" := by decide +kernel

end Timestamp

end Mailroom
