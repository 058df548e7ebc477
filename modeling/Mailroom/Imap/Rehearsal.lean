import Mailroom.Imap.Wire
import Mailroom.Schedule

/-!
# Rehearsed servers

A mail server that answers from queues, one for each kind of request and one for each command.
Where nothing is due it accepts: with an empty item, with no message for a fetch, and with a
farewell when the conversation ends.
-/

namespace Mailroom.Imap

/-- What a queue of answers is for. -/
inductive Slot where
  /-- Opening a connection. -/
  | construct
  /-- Authenticating. -/
  | login
  /-- Dropping the connection. -/
  | shutdown
  /-- Selecting a mailbox. -/
  | select
  /-- Leaving a mailbox and removing messages. -/
  | close
  /-- Leaving a mailbox. -/
  | unselect
  /-- Ending the conversation. -/
  | logout
  /-- The command with the given word. -/
  | command (word : String)
  deriving DecidableEq, Repr

/-- The queue that a request takes its answer from. -/
def Request.slot : Request → Slot
  | construct .. => .construct
  | login .. => .login
  | shutdown => .shutdown
  | select _ => .select
  | close => .close
  | unselect => .unselect
  | logout => .logout
  | uid c _ => .command c.word

/-- The answer to a request for which nothing is due. -/
def Request.usualReply : Request → Reply
  | logout => ⟨"BYE", [.bytes ByteArray.empty]⟩
  | uid (.fetch ..) _ => ⟨"OK", [.absent]⟩
  | construct .. | login .. | shutdown | select _ | close | unselect | uid .. =>
    ⟨"OK", [.bytes ByteArray.empty]⟩

/-- The answers that are due. -/
abbrev Rehearsal := Schedule Slot (Except Failure Reply)

/-- A server that answers what is due. -/
def Server.rehearsed (capabilities : List String) : Server Rehearsal where
  capabilities := capabilities
  answer r s :=
    let (due, s) := s.take r.slot
    (due.getD (.ok r.usualReply), s)

end Mailroom.Imap
