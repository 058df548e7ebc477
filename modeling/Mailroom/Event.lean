import Mailroom.Json.Basic

/-!
# Log events

Everything the poller reports about its own work is an `Event`: it has a level, a name and named
fields. An `Entry` is an event together with the candidate that was being processed when it
happened, whose uid and mailbox join the fields.
-/

namespace Mailroom

/-- How urgent an event is. -/
inductive Level where
  /-- Details of the work. -/
  | debug
  /-- Progress. -/
  | info
  /-- A failure that is about to be retried or does not matter. -/
  | warning
  /-- A failure. -/
  | error
  deriving DecidableEq, Repr

/-- The name of a level. -/
def Level.name : Level → String
  | .debug => "debug"
  | .info => "info"
  | .warning => "warning"
  | .error => "error"

/-- Something worth a log line. -/
inductive Event where
  /-- An operation failed and will be tried again. -/
  | retrying (operation : String) (attempt : Nat) (error : String)
  /-- No connection attempt of a round succeeded. -/
  | connectFailed (error : String)
  /-- The candidates could not be listed. -/
  | listFailed (pattern error : String)
  /-- The session could not be closed cleanly. -/
  | closeFailed (error : String)
  /-- A body could not be read. -/
  | readFailed (error : String)
  /-- A body is complete. -/
  | staged (size : Int) (digest : String)
  /-- The spool of a message was given up. -/
  | released (uid : String) (size : Nat)
  /-- The callback refused a message. -/
  | rejected (error errorKind : String)
  /-- A message could not be marked seen. -/
  | markFailed (error : String)
  /-- A message could not be moved. -/
  | moveFailed (destination error : String)
  /-- A round ended in a connect or listing failure. -/
  | roundFailed (delivered : Int) (error : String)
  /-- A round ended. -/
  | roundComplete (delivered candidates rejected unreadable : Int)
  /-- The loop saw the cancellation and ends. -/
  | loopCancelled
  /-- A poller enters its loop. -/
  | loopStarted (mailbox pattern : String) (includeSeen : Bool)
  /-- A poller left its loop. -/
  | loopStopped (rounds : Nat)
  /-- A poller was asked to stop. -/
  | stopRequested (poller : String)
  /-- A poller starts. -/
  | starting (poller : String)
  /-- A part of a poller failed. -/
  | runFailed (poller : String)
  /-- A poller has stopped. -/
  | stopped (poller : String) (delivered : Int)
  /-- A server connection is up. -/
  | connected (host : String) (port : Int)
  /-- A server connection is down. -/
  | disconnected (expunged : Bool)
  /-- A server answered a search. -/
  | searched (mailbox : String) (criteria : List String) (found : Nat)
  /-- The first shutdown signal. -/
  | signalReceived (signal : String)
  /-- A shutdown signal after the first request to stop. -/
  | signalRepeated (signal : String)
  deriving DecidableEq, Repr

namespace Event

/-- The level of an event. -/
def level : Event → Level
  | staged .. | released .. | searched .. => .debug
  | roundComplete .. | loopCancelled | loopStarted .. | loopStopped .. | stopRequested ..
  | starting .. | stopped .. | connected .. | disconnected .. | signalReceived ..
  | signalRepeated .. => .info
  | retrying .. | closeFailed .. => .warning
  | connectFailed .. | listFailed .. | readFailed .. | rejected .. | markFailed ..
  | moveFailed .. | roundFailed .. | runFailed .. => .error

/-- The name of an event. -/
def name : Event → String
  | retrying .. => "retrying"
  | connectFailed .. => "connect_failed"
  | listFailed .. => "list_failed"
  | closeFailed .. => "session_close_failed"
  | readFailed .. => "message_read_failed"
  | staged .. => "message_staged"
  | released .. => "staged_message_released"
  | rejected .. => "delivery_rejected"
  | markFailed .. => "mark_seen_failed"
  | moveFailed .. => "move_failed"
  | roundFailed .. => "delivery_round_failed"
  | roundComplete .. => "delivery_round_complete"
  | loopCancelled => "delivery_loop_cancelled"
  | loopStarted .. => "delivery_loop_started"
  | loopStopped .. => "delivery_loop_stopped"
  | stopRequested .. => "poller_stop_requested"
  | starting .. => "poller_starting"
  | runFailed .. => "poller_task_group_error"
  | stopped .. => "poller_stopped"
  | connected .. => "imap_connected"
  | disconnected .. => "imap_disconnected"
  | searched .. => "imap_search_complete"
  | signalReceived .. => "shutdown_signal_received"
  | signalRepeated .. => "shutdown_already_requested"

/-- The fields of an event. -/
def fields : Event → List (String × Json)
  | retrying operation attempt error =>
    [("fn", operation), ("attempt", attempt), ("error", error)]
  | connectFailed error => [("error", error)]
  | listFailed pattern error => [("pattern", pattern), ("error", error)]
  | closeFailed error => [("error", error)]
  | readFailed error => [("error", error)]
  | staged size digest => [("size", size), ("digest", digest)]
  | released uid size => [("uid", uid), ("size", size)]
  | rejected error errorKind => [("error", error), ("error_type", errorKind)]
  | markFailed error => [("error", error)]
  | moveFailed destination error => [("destination", destination), ("error", error)]
  | roundFailed delivered error => [("delivered", delivered), ("error", error)]
  | roundComplete d c r u =>
    [("delivered", d), ("candidates", c), ("rejected", r), ("unreadable", u)]
  | loopCancelled => []
  | loopStarted mailbox pattern includeSeen =>
    [("mailbox", mailbox), ("pattern", pattern), ("include_seen", includeSeen)]
  | loopStopped rounds => [("rounds", rounds)]
  | stopRequested poller => [("poller", poller)]
  | starting poller => [("poller", poller)]
  | runFailed poller => [("poller", poller), ("exc_info", true)]
  | stopped poller delivered => [("poller", poller), ("delivered_total", delivered)]
  | connected host port => [("host", host), ("port", port)]
  | disconnected expunged => [("expunged", expunged)]
  | searched mailbox criteria found =>
    [("mailbox", mailbox), ("criteria", .list (criteria.map .text)), ("found", found)]
  | signalReceived signal => [("signal", signal)]
  | signalRepeated signal => [("signal", signal)]

/-- Warnings and errors: the entries that stand for something that went wrong. -/
def isComplaint (e : Event) : Bool := e.level = .warning || e.level = .error

end Event

/-- The candidate that is being processed. -/
structure Subject where
  /-- Its uid. -/
  uid : String
  /-- The polled mailbox. -/
  mailbox : String
  deriving DecidableEq, Repr

/-- An event and the candidate it belongs to. -/
structure Entry where
  /-- What happened. -/
  event : Event
  /-- The candidate that was being processed. -/
  about : Option Subject
  deriving DecidableEq, Repr

/-- The fields of an entry: those of the candidate, with those of the event over them. -/
def Entry.fields (e : Entry) : List (String × Json) :=
  let bound : List (String × Json) := match e.about with
    | some s => [("uid", s.uid), ("mailbox", s.mailbox)]
    | none => []
  Json.override bound e.event.fields

end Mailroom
