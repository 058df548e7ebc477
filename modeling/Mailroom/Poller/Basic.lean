import Mailroom.Loop
import Mailroom.Poller.Ledger

/-!
# Pollers

A poller runs the delivery loop over one session and keeps books about it. Beside the loop it runs
a probe server, which ends when a stop is requested.

When the server has failed, that is noticed at the first request to stop, and from then on every
wait of the loop within a round is cancelled. A failure of the server or of the loop is logged; it
does not leave `run`.
-/

namespace Mailroom

/-- A poller. -/
structure Poller (σ κ : Type) where
  /-- The session. -/
  session : Session σ
  /-- The callback. -/
  callback : Callback κ
  /-- Its settings. -/
  settings : Settings.Poller
  /-- Where the bodies go that are too large for memory. -/
  disk : Disk

namespace Poller

variable {σ κ : Type}

/-- The rounds of a poller: staged as its settings say, and with connection retries. -/
def round (p : Poller σ κ) : Round σ κ where
  session := p.session
  callback := p.callback
  settings := p.settings.delivery
  stage := some (.ofSettings p.settings.delivery)
  retry := some p.settings.retry
  disk := p.disk

/-- Take a status. -/
def takeStatus (s : Status) : Work σ κ Ledger Unit := do
  modify fun b => { b with ledger := { b.ledger with status := s } }
  Work.record (.status s)

/-- Enter a round into the books. -/
def recordRound (result : RoundResult) : Work σ κ Ledger Unit := do
  modify fun b => { b with ledger := b.ledger.enter result }
  Work.record (.status (← get).ledger.status)

/-- Ask the poller to stop. -/
def stop (p : Poller σ κ) : Work σ κ Ledger Unit := Work.requestStop (.stop p.settings.name)

/-- A single round outside the loop. -/
def once (p : Poller σ κ) : Work σ κ Ledger RoundResult := do
  let result ← p.round.run
  recordRound result
  pure result

/-- The delivery loop, for at most `fuel` rounds. After each round it is entered into the books,
then `after` happens, given the number of the round in this loop. When the loop ends, also by a
failure, the poller is stopping and a stop counts as requested. -/
def loop (p : Poller σ κ) (after : Nat → Work σ κ Ledger Unit) (fuel : Nat) :
    Work σ κ Ledger Bool := do
  let d := p.settings.delivery
  Work.log (.loopStarted d.mailbox d.pattern d.includeSeen)
  let before := (← get).ledger.rounds
  let hook : Hook σ κ Ledger := fun result => do
    recordRound result
    after ((← get).ledger.rounds - before)
  match ← settle (p.round.loop hook fuel) with
  | .ok false => pure false
  | ended =>
    takeStatus .stopping
    modify fun b => { b with cancelled := true }
    Work.log (.loopStopped (← get).ledger.rounds)
    Work.giveBack ended

/-- The probe server of a poller, once it was told to exit. -/
def server (p : Poller σ κ) : ProbeServer :=
  ⟨p.settings.name ++ " health", "0.0.0.0", p.settings.healthPort, "warning", true⟩

/-- Whether an outcome is an ordinary failure. -/
def isFaulty {α : Type} : Except Failure α → Bool
  | .ok _ => false
  | .error f => f.isFault

/-- Run until a stop is requested, for at most `fuel` rounds; the probe server may fail. -/
def run (p : Poller σ κ) (after : Nat → Work σ κ Ledger Unit) (serving : Except Failure Unit)
    (fuel : Nat) : Work σ κ Ledger Bool := do
  let name := p.settings.name
  Work.record (.configure p.settings.logging name)
  Work.log (.starting name)
  modify fun b => { b with fragile := isFaulty serving }
  let ended ← settle (p.loop after fuel)
  modify fun b => { b with fragile := false }
  match ended with
  | .ok false => pure false
  | ended =>
    Work.record (.serve p.server)
    if isFaulty ended || isFaulty serving then Work.log (.runFailed name)
    takeStatus .stopped
    Work.log (.stopped name (← get).ledger.delivered)
    pure true

end Poller

end Mailroom
