import Mailroom.Json.Basic
import Mailroom.Poller.Status
import Mailroom.Round.Result
import Mailroom.Settings.Groups
import Mailroom.Timestamp

/-!
# The books of a poller

A poller keeps its status, counts its rounds and deliveries, and remembers a summary of the last
round. The time at which a round was finished comes from outside: the ledger holds the readings of
the clock that are still to come.
-/

namespace Mailroom

/-- A summary of a round. -/
structure Summary where
  /-- When the round was finished, in microseconds since the start of 1970. -/
  finishedAt : Int
  /-- How many candidates were delivered. -/
  delivered : Int
  /-- How many candidates were listed. -/
  candidates : Int
  /-- How many candidates were rejected. -/
  rejected : Int
  /-- How many candidates were unreadable. -/
  unreadable : Int
  /-- The text of the connect or listing failure. -/
  error : Option String
  deriving DecidableEq, Repr

/-- The summary of a result. -/
def Summary.ofResult (finishedAt : Int) (r : RoundResult) : Summary :=
  ⟨finishedAt, r.delivered, r.candidates, r.rejected, r.unreadable, r.error.map (·.text)⟩

/-- The summary as probes report it. -/
def Summary.json (s : Summary) : Json :=
  .object [("finished_at", Timestamp.written s.finishedAt), ("delivered", s.delivered),
    ("candidates", s.candidates), ("rejected", s.rejected), ("unreadable", s.unreadable),
    ("error", .ofText? s.error)]

/-- What a poller keeps. -/
structure Ledger where
  /-- Where it stands. -/
  status : Status
  /-- How many rounds were recorded. -/
  rounds : Nat
  /-- How many of them had a connect or listing failure. -/
  failedRounds : Nat
  /-- How many candidates they delivered. -/
  delivered : Int
  /-- The summary of the last one. -/
  lastRound : Option Summary
  /-- The readings of the clock that are still to come. -/
  readings : List Int
  deriving DecidableEq, Repr

namespace Ledger

/-- A ledger without entries. -/
def fresh (readings : List Int) : Ledger := ⟨.starting, 0, 0, 0, none, readings⟩

/-- Enter a round. Without a reading of the clock the round was finished at zero. -/
def enter (l : Ledger) (r : RoundResult) : Ledger :=
  { status := if r.ok then .running else .degraded
    rounds := l.rounds + 1
    failedRounds := if r.ok then l.failedRounds else l.failedRounds + 1
    delivered := l.delivered + r.delivered
    lastRound := some (.ofResult (l.readings.headD 0) r)
    readings := l.readings.tail }

/-- A box name as probes report it: none for an empty one. -/
def boxName (s : String) : Json := if s = "" then .null else .text s

/-- The books as probes report them. -/
def details (l : Ledger) (d : Settings.Delivery) : Json :=
  .object [("mailbox", d.mailbox), ("pattern", d.pattern), ("outbox", boxName d.outbox),
    ("errbox", boxName d.errbox), ("rounds", l.rounds), ("failed_rounds", l.failedRounds),
    ("delivered_total", l.delivered),
    ("last_round", match l.lastRound with
      | some s => s.json
      | none => .null)]

end Ledger

end Mailroom
