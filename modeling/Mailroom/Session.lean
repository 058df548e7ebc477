import Mailroom.Event
import Mailroom.Failure
import Mailroom.Imap.Wire

/-!
# Mailbox sessions

A session is the poller's view of a remote mailbox: six operations, each of which changes the
session's own state, may remark on what it does (log events, requests to a server), and answers or
fails. Any type of state will do, so the in-memory store and the mail-server client are two
sessions, and what is proved of all sessions holds of both. The failure of an operation is the one
that comes out of it, in the sense of `Failure.awaited`.

Reading a body is an exchange: the session writes into the message it was given and sees the
outcome of each write (`Streaming`), so it can also finish or release the message, or stop
halfway.
-/

namespace Mailroom

/-- What a session says while it works. -/
inductive Remark where
  /-- A log event. -/
  | event (e : Event)
  /-- A request to a server, with what came of it. -/
  | wire (x : Imap.Exchange)

/-- The state of a session and the remarks made during one operation. -/
structure Session.Frame (σ : Type) where
  /-- The session's state. -/
  state : σ
  /-- The remarks so far. -/
  remarks : List Remark

/-- An operation of a session. -/
abbrev Session.Op (σ α : Type) : Type := ExceptT Failure (StateM (Session.Frame σ)) α

/-- Run a computation and keep its failure as a value. -/
def settle {m : Type → Type} [Monad m] {α : Type} (x : ExceptT Failure m α) :
    ExceptT Failure m (Except Failure α) :=
  ExceptT.mk do
    let r ← x.run
    pure (.ok r)

namespace Session.Op

variable {σ α : Type}

/-- Make a remark. -/
def remark (r : Remark) : Op σ Unit :=
  modify fun b => { b with remarks := b.remarks ++ [r] }

/-- Log an event. -/
def log (e : Event) : Op σ Unit := remark (.event e)

/-- The session's state. -/
def look : Op σ σ := do return (← get).state

/-- Change the session's state. -/
def change (f : σ → σ) : Op σ Unit := modify fun b => { b with state := f b.state }

end Session.Op

/-- What a session does with the message it writes a body into. -/
inductive Streaming (σ : Type) : Type where
  /-- Done: the answer or failure, and the session's state. -/
  | done (outcome : Except Failure Int) (state : σ)
  /-- Make a remark. -/
  | say (r : Remark) (next : Streaming σ)
  /-- Write a piece; the outcome is its length or a refusal. -/
  | write (data : Bytes) (next : Except Failure Int → Streaming σ)
  /-- Finish the message. -/
  | finish (next : Except Failure Unit → Streaming σ)
  /-- Release the message. -/
  | release (next : Streaming σ)

namespace Streaming

variable {σ : Type}

/-- Make several remarks. -/
def sayAll (rs : List Remark) (next : Streaming σ) : Streaming σ := rs.foldr .say next

/-- Write pieces in order and go on with the sum of the lengths, starting from `total`; a refusal
ends the reading with the state `state`. -/
def writeAll (state : σ) (total : Int) (next : Int → Streaming σ) : List Bytes → Streaming σ
  | [] => next total
  | piece :: rest => .write piece fun
    | .ok n => writeAll state (total + n) next rest
    | .error f => .done (.error f) state

/-- What came of reading into a recorder. -/
structure Recorded (σ : Type) where
  /-- The answer or failure. -/
  outcome : Except Failure Int
  /-- The session's state. -/
  state : σ
  /-- The pieces that were written, last first. -/
  pieces : List Bytes
  /-- The remarks, last first. -/
  remarks : List Remark

/-- Carry out a reading into a recorder, which accepts everything. It answers the first writes with
the given numbers and the others with the true length. -/
def record (answers : List Int) (pieces : List Bytes) (remarks : List Remark) :
    Streaming σ → Recorded σ
  | .done outcome state => ⟨outcome, state, pieces, remarks⟩
  | .say r next => record answers pieces (r :: remarks) next
  | .write data next =>
    record answers.tail (data :: pieces) remarks (next (.ok (answers.headD data.size)))
  | .finish next => record answers pieces remarks (next (.ok ()))
  | .release next => record answers pieces remarks next

end Streaming

/-- A remote mailbox. -/
structure Session (σ : Type) where
  /-- How messages name the session. -/
  title : String
  /-- Open the connection and authenticate. -/
  connect : Session.Op σ Unit
  /-- Close the connection; with `expunge`, remove what is flagged as deleted. -/
  close : (expunge : Bool) → Session.Op σ Unit
  /-- The candidates of a mailbox whose subject holds the pattern, seen ones only on request. -/
  list : (mailbox pattern : String) → (includeSeen : Bool) → Session.Op σ (List String)
  /-- Write the body of a candidate into a message; the answer is the byte count. -/
  readBody : (uid : String) → σ → Streaming σ
  /-- Set or clear the seen flag. -/
  mark : (uid : String) → (seen : Bool) → Session.Op σ Unit
  /-- Move a candidate to another mailbox. -/
  move : (uid mailbox : String) → Session.Op σ Unit

/-- A use of one of the operations. -/
inductive Session.Call where
  /-- Connecting. -/
  | connect
  /-- Closing. -/
  | close (expunge : Bool)
  /-- Listing. -/
  | list (mailbox pattern : String) (includeSeen : Bool)
  /-- Reading a body. -/
  | readBody (uid : String)
  /-- Marking. -/
  | mark (uid : String) (seen : Bool)
  /-- Moving. -/
  | move (uid mailbox : String)
  deriving DecidableEq, Repr

/-- What came of a use of one of the operations. -/
inductive Session.Answer where
  /-- It was done. -/
  | done
  /-- It listed candidates. -/
  | listing (uids : List String)
  /-- It read a body; the number is the session's own count of the bytes. -/
  | count (n : Int)
  /-- It failed. -/
  | failed (f : Failure)
  deriving DecidableEq, Repr

/-- The answer that a value, as `shown`, or a failure stands for. -/
def Session.Answer.of {α : Type} (shown : α → Answer) : Except Failure α → Answer
  | .ok a => shown a
  | .error f => .failed f

end Mailroom
