import Mailroom.Event

/-!
# Requests to stop

Work goes on until it is asked to stop. A request comes silently, from a poller's own `stop`, or
from a signal. All of them set the same flag, which is never cleared; they differ in what they
log, and in whether they log again when the flag is already set.
-/

namespace Mailroom

/-- A request to stop. -/
inductive StopRequest where
  /-- A request that logs nothing. -/
  | silent
  /-- A poller's own request, with its name. -/
  | stop (poller : String)
  /-- A signal, by name. -/
  | signal (name : String)
  deriving DecidableEq, Repr

/-- What a request logs, given whether the flag was already set. -/
def StopRequest.event? (r : StopRequest) (already : Bool) : Option Event :=
  match r, already with
  | silent, _ => none
  | stop poller, false => some (.stopRequested poller)
  | stop _, true => none
  | signal name, false => some (.signalReceived name)
  | signal name, true => some (.signalRepeated name)

/-- A request together with the time at which it comes. -/
structure Alarm where
  /-- The time. -/
  time : Float
  /-- The request. -/
  request : StopRequest

/-- The signals that ask a poller to stop. -/
def defaultSignals : List String := ["SIGTERM", "SIGINT"]

/-- What is logged when the signals arrive one after the other, each with the flag after it. -/
def receiveSignals (already : Bool) : List String → List (List Event × Bool)
  | [] => []
  | s :: rest =>
    (((StopRequest.signal s).event? already).toList, true) :: receiveSignals true rest

end Mailroom
