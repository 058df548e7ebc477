import Mailroom.Number
import Mailroom.Work

/-!
# Retrying

An operation that fails in a retryable way is tried again, up to a number of attempts, with a wait
after each failed attempt but the last. The wait after attempt `n` is `multiplier · 2 ^ (n - 1)`,
at most the longest wait and at least the initial one. The last failure is the one that counts.

Two corners of the wait are decided apart. Where the power of two is beyond a double, the wait is
the longest one. Where logarithms show already that the product exceeds the longest wait, the
product is not formed.
-/

namespace Mailroom.Backoff

open Settings (Retry)

/-- Whether attempt `n` is the last. -/
def isLast (r : Retry) (n : Int) : Bool := (r.maxAttempts : Int) ≤ n

/-- Whether the logarithms show that `multiplier · 2 ^ e` exceeds the longest wait. -/
def exceeds (r : Retry) (e : Int) : Bool :=
  r.multiplier > 0 && r.maxWait > 0 && !r.maxWait.isInf &&
    Decimal.toFloat (e < 0) e.natAbs 0 > Float.log2 r.maxWait - Float.log2 r.multiplier

/-- The wait after attempt `n`. -/
def waitAfter (r : Retry) (n : Int) : Float :=
  let e := n - 1
  let least := Float64.larger 0 r.initialWait
  if exceeds r e then Float64.larger least r.maxWait
  else if e ≥ 1024 then r.maxWait
  else Float64.larger least (Float64.smaller (r.multiplier * Float64.twoPow e) r.maxWait)

variable {σ κ η α : Type}

/-- Try from attempt `n` on, with at most `left` attempts after it. -/
def tryFrom (r : Retry) (retryable : Failure → Bool) (operation : String) (x : Work σ κ η α) :
    (left n : Nat) → Work σ κ η α
  | 0, _ => x
  | left + 1, n => do
    match ← settle x with
    | .ok a => pure a
    | .error f =>
      if retryable f then
        Work.log (.retrying operation n f.text)
        Work.record (.backoff (waitAfter r n))
        Work.wait (waitAfter r n)
        tryFrom r retryable operation x left (n + 1)
      else throw f

/-- Try an operation as often as the settings allow. -/
def retrying (r : Retry) (retryable : Failure → Bool) (operation : String) (x : Work σ κ η α) :
    Work σ κ η α :=
  tryFrom r retryable operation x (r.maxAttempts - 1) 1

/-- Attempts whose outcomes are fixed: each takes the next one, and the last one repeats. What the
callback keeps is the number of attempts. -/
def rehearsed {σ η α : Type} (outcomes : List (Except Failure α)) : Work σ Nat η α := do
  let n := (← get).receiver
  modify fun b => { b with receiver := n + 1 }
  match outcomes[min n (outcomes.length - 1)]? with
  | some outcome => Work.giveBack outcome
  | none => throw (.plain .index "list index out of range")

end Mailroom.Backoff
