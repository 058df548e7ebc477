import Mailroom.Round.Basic

/-!
# The delivery loop

The loop repeats rounds until it is asked to stop. Between two rounds it sleeps: shortly after a
round that delivered something, long after any other. A request to stop is looked at between
rounds only, and it also ends the sleep; at least one round runs.

A loop need not end, so it is followed for a number of rounds only (`Round.loop`), and the answer
says whether it has ended by then.
-/

namespace Mailroom

/-- What happens after a round, given its result. A failure is the one that comes out of the hook,
in the sense of `Failure.awaited`. -/
abbrev Hook (σ κ η : Type) : Type := RoundResult → Work σ κ η Unit

/-- The sleep after a round. -/
def RoundResult.sleep (result : RoundResult) (d : Settings.Delivery) : Float :=
  if result.ok && result.delivered > 0 then d.shortSleep else d.longSleep

/-- What is logged of a round. -/
def RoundResult.event (result : RoundResult) : Event :=
  match result.error with
  | some f => .roundFailed result.delivered f.text
  | none =>
    .roundComplete result.delivered result.candidates result.rejected result.unreadable

/-- The hook that does nothing. -/
def Hook.idle {σ κ η : Type} : Hook σ κ η := fun _ => pure ()

namespace Round

variable {σ κ η : Type}

/-- Whether a stop was requested; if so, it is logged. -/
def noticesStop : Work σ κ η Bool := do
  if (← get).cancelled then
    Work.log .loopCancelled
    pure true
  else pure false

/-- A round and what follows it up to the next one; the answer says whether there is a next one. -/
def turn (r : Round σ κ) (hook : Hook σ κ η) : Work σ κ η Bool := do
  let result ← r.run
  Work.log result.event
  hook result
  if ← noticesStop then pure false
  else
    Work.pause (result.sleep r.settings)
    return !(← noticesStop)

/-- At most `n` turns; the answer says whether the loop has ended. -/
def loop (r : Round σ κ) (hook : Hook σ κ η) : (n : Nat) → Work σ κ η Bool
  | 0 => pure false
  | n + 1 => do
    if ← r.turn hook then r.loop hook n else pure true

end Round

/-! ### Scripted hooks -/

/-- What happens after chosen rounds of a loop, counted from 1. -/
structure HookScript where
  /-- The round after which a stop is requested. -/
  stopAfter : Option Int
  /-- The round after which there is a failure, and the failure. -/
  failAfter : Option (Int × Failure)

namespace HookScript

/-- Do what is to happen after the `n`-th round; a request to stop comes before a failure. -/
def follow {σ κ η : Type} (s : HookScript) (request : StopRequest) (n : Nat) :
    Work σ κ η Unit := do
  if s.stopAfter = some (n : Int) then Work.requestStop request
  match s.failAfter with
  | some (k, f) => if k = n then throw f
  | none => pure ()

/-- A hook that counts and reports the rounds and follows a script. -/
def hook {σ κ : Type} (s : HookScript) : Hook σ κ Nat := fun result => do
  let n := (← get).ledger + 1
  modify fun b => { b with ledger := n }
  Work.record (.report (← get).clock result)
  s.follow .silent n

end HookScript

end Mailroom
