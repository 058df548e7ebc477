import Mailroom.Failure

/-!
# The status of a poller

A poller is starting until it has recorded a round, then running or degraded as its last round
went, stopping when its loop has ended, and stopped in the end.
-/

namespace Mailroom

/-- Where a poller stands. -/
inductive Status where
  /-- No round was recorded yet. -/
  | starting
  /-- The last round had no connect or listing failure. -/
  | running
  /-- The last round had one. -/
  | degraded
  /-- The loop has ended. -/
  | stopping
  /-- The poller has ended. -/
  | stopped
  deriving DecidableEq, Repr

namespace Status

/-- The word for a status. -/
def name : Status → String
  | starting => "starting"
  | running => "running"
  | degraded => "degraded"
  | stopping => "stopping"
  | stopped => "stopped"

/-- The status a word stands for. -/
def ofName? (s : String) : Option Status :=
  [starting, running, degraded, stopping, stopped].find? (·.name = s)

/-- A word that stands for no status. -/
def unknown (s : String) : Failure :=
  .plain .value (Text.shown s ++ " is not a valid PollerStatus")

/-- Whether the process counts as alive: a failed round is tried again, so it does not end that. -/
def isLive (s : Status) : Bool := [starting, running, degraded].contains s

/-- Whether the last round went well. -/
def isReady (s : Status) : Bool := s = running

end Status

end Mailroom
