/-!
# Ranges of code points

Classes of characters are tables of closed ranges of code points in increasing order.
-/

namespace Mailroom.Text

/-- Search `table` between the positions `lo` (included) and `hi` (excluded), halving the stretch
at each of at most `steps` steps. -/
def inRangesBetween (table : Array (Nat × Nat)) (c : Nat) : Nat → Nat → Nat → Bool
  | 0, _, _ => false
  | steps + 1, lo, hi =>
    if lo ≥ hi then false
    else
      let mid := (lo + hi) / 2
      let (first, last) := table.getD mid (1, 0)
      if c < first then inRangesBetween table c steps lo mid
      else if c > last then inRangesBetween table c steps (mid + 1) hi
      else true

/-- Whether a code point lies in one of the ranges of an increasing table. -/
def inRanges (table : Array (Nat × Nat)) (c : Nat) : Bool :=
  inRangesBetween table c (table.size + 1) 0 table.size

end Mailroom.Text
