import Mailroom.Poller.Status
import Mailroom.Round.Result
import Mailroom.Session
import Mailroom.Settings.Groups
import Mailroom.Shutdown
import Mailroom.Staging

/-!
# The work

Rounds, loops and pollers act on one state (`Bench`): a session, what the callback keeps, what the
hook after a round keeps, the time, the flag that asks to stop, and the record of every step so
far. The record is the only thing an observer sees: calls on the session, requests to its server,
spools that are opened and closed, deliveries and what the callback saw of the bodies, log entries,
waits, and what a poller reports.

Time passes in waits only. A request to stop that is due at a certain time is met by the wait in
which that time comes; at equal times the request comes first.
-/

namespace Mailroom

/-- A probe server as a poller starts it. -/
structure ProbeServer where
  /-- The title of what it serves. -/
  title : String
  /-- The address it listens on. -/
  host : String
  /-- The port it listens on. -/
  port : Int
  /-- The least level it logs. -/
  logLevel : String
  /-- Whether it was told to exit. -/
  shouldExit : Bool
  deriving DecidableEq, Repr

/-- A step of the work. -/
inductive Step where
  /-- A call on the session. -/
  | call (c : Session.Call)
  /-- What came of the last call. -/
  | answer (a : Session.Answer)
  /-- A request to the session's server, with what came of it. -/
  | wire (x : Imap.Exchange)
  /-- A log entry. -/
  | log (e : Entry)
  /-- The spool of a candidate's message is opened, or closed. -/
  | spool (uid : String) (isOpen : Bool)
  /-- A message that was read is finished, or cannot be. -/
  | finish (problem : Option StagingError)
  /-- The callback gets a candidate with its digest. -/
  | deliver (uid : String) (digest : Bytes)
  /-- The callback is done with a candidate: it returned, or failed. -/
  | verdict (uid : String) (failure : Option Failure)
  /-- The callback sees something of the body. -/
  | observe (a : Spool.Answer)
  /-- A wait between two attempts. -/
  | backoff (seconds : Float)
  /-- A wait between two rounds. -/
  | pause (seconds : Float)
  /-- A round is reported to the hook. -/
  | report (time : Float) (result : RoundResult)
  /-- A poller takes a status. -/
  | status (s : Status)
  /-- A poller sets up its logging. -/
  | configure (logging : Settings.Logging) (poller : String)
  /-- A poller started a probe server. -/
  | serve (server : ProbeServer)

/-- What work acts on: `σ` is the session's state, `κ` the callback's, `η` the hook's. -/
structure Bench (σ κ η : Type) where
  /-- The session's state. -/
  session : σ
  /-- What the callback keeps. -/
  receiver : κ
  /-- What the hook keeps. -/
  ledger : η
  /-- The time. -/
  clock : Float
  /-- Requests to stop that are still to come. -/
  alarms : List Alarm
  /-- Whether stopping was requested. -/
  cancelled : Bool
  /-- Whether a wait that meets a request to stop is itself cancelled. -/
  fragile : Bool
  /-- The candidate that is being processed. -/
  about : Option Subject
  /-- The steps so far. -/
  steps : List Step

/-- A bench on which nothing has happened yet. -/
def Bench.start {σ κ η : Type} (session : σ) (receiver : κ) (ledger : η) : Bench σ κ η :=
  ⟨session, receiver, ledger, 0, [], false, false, none, []⟩

/-- Work that may fail. -/
abbrev Work (σ κ η α : Type) : Type := ExceptT Failure (StateM (Bench σ κ η)) α

namespace Work

variable {σ κ η α : Type}

/-- Record a step. -/
def record (s : Step) : Work σ κ η Unit :=
  modify fun b => { b with steps := b.steps ++ [s] }

/-- Log an event about the candidate that is being processed. -/
def log (e : Event) : Work σ κ η Unit :=
  modify fun b => { b with steps := b.steps ++ [.log ⟨e, b.about⟩] }

/-- Log an event that belongs to no candidate. -/
def logApart (e : Event) : Work σ κ η Unit := record (.log ⟨e, none⟩)

/-- Give back a value or failure that was kept. -/
def giveBack (r : Except Failure α) : Work σ κ η α := match r with
  | .ok a => pure a
  | .error f => throw f

/-- Do work about a candidate. -/
def about (s : Subject) (x : Work σ κ η α) : Work σ κ η α := do
  let outer := (← get).about
  modify fun b => { b with about := some s }
  let r ← settle x
  modify fun b => { b with about := outer }
  giveBack r

/-- Do work; an ordinary failure is handled, a cancellation goes on. -/
def handling (x : Work σ κ η α) (handler : Failure → Work σ κ η α) : Work σ κ η α := do
  match ← settle x with
  | .ok a => pure a
  | .error f => if f.isFault then handler f else throw f

/-! ### The session -/

/-- The step a remark of the session is. -/
def ofRemark (subject : Option Subject) : Remark → Step
  | .event e => .log ⟨e, subject⟩
  | .wire x => .wire x

/-- Make a call on the session. The call and what came of it are recorded, with the remarks of the
session between them. -/
def call (c : Session.Call) (shown : α → Session.Answer) (op : Session.Op σ α) :
    Work σ κ η α := do
  record (.call c)
  let b ← get
  let (r, after) := (op.run.run ⟨b.session, []⟩)
  set { b with session := after.state,
               steps := b.steps ++ after.remarks.map (ofRemark b.about) }
  record (.answer (.of shown r))
  giveBack r

/-! ### Requests to stop -/

/-- Meet a request to stop: log what it logs, with the given logger, and set the flag. -/
def meetRequest (log : Event → Work σ κ η Unit) (r : StopRequest) : Work σ κ η Unit := do
  match r.event? (← get).cancelled with
  | none => pure ()
  | some e => log e
  modify fun b => { b with cancelled := true }

/-- Meet a request to stop that comes from the work itself. What a poller logs of its own request
belongs to the candidate that is being processed; what a signal logs belongs to none. -/
def requestStop (r : StopRequest) : Work σ κ η Unit :=
  match r with
  | .signal _ => meetRequest logApart r
  | .silent | .stop _ => meetRequest log r

/-! ### Time -/

/-- The earliest alarm that is due by a time. -/
def dueBy (time : Float) (alarms : List Alarm) : Option Alarm :=
  alarms.foldl (fun found a =>
    if a.time ≤ time then
      match found with
      | some f => if a.time < f.time then some a else found
      | none => some a
    else found) none

/-- Meet every request that is due by a time, in the order in which they were set. -/
def meetAlarms (time : Float) : Work σ κ η Unit := do
  let b ← get
  let due := b.alarms.filter (·.time ≤ time)
  set { b with alarms := b.alarms.filter fun a => !(a.time ≤ time) }
  due.forM fun a => meetRequest logApart a.request

/-- How a wait ends that is cancelled from outside. -/
def cutOff : Failure := .plain .cancelled ""

/-- Wait for some time. Requests that come due are met. Where a request to stop cancels waits, the
wait ends in a cancellation as soon as there is one. -/
def wait (seconds : Float) : Work σ κ η Unit := do
  if seconds > 0 then
    let b ← get
    let finish := b.clock + seconds
    if b.fragile && b.cancelled then throw cutOff
    else match (if b.fragile then dueBy finish b.alarms else none) with
      | some a =>
        let time := Float64.larger b.clock a.time
        meetAlarms time
        modify fun b => { b with clock := time }
        throw cutOff
      | none =>
        meetAlarms finish
        modify fun b => { b with clock := finish }
  else pure ()

/-- Wait between two rounds; the first request to stop ends the wait. -/
def pause (seconds : Float) : Work σ κ η Unit := do
  record (.pause seconds)
  let b ← get
  let finish := b.clock + seconds
  let time := match dueBy finish b.alarms with
    | some a => Float64.larger b.clock a.time
    | none => finish
  meetAlarms time
  modify fun b => { b with clock := time }

/-! ### Messages -/

/-- Record whether the spool of a message is open. -/
def showSpool (m : Staged) : Work σ κ η Unit := record (.spool m.uid !m.spool.closed)

/-- Release a message and log it. The first release closes the spool. -/
def release (m : Staged) : Work σ κ η Unit := do
  let (released, events) := m.release
  if !m.released then showSpool released
  events.forM log

/-- Carry out what a session does with the message it writes a body into. -/
def stream : Streaming σ → Staged → Work σ κ η (Except Failure Int × Staged)
  | .done outcome state, m => do
    modify fun b => { b with session := state }
    pure (outcome, m)
  | .say r next, m => do
    modify fun b => { b with steps := b.steps ++ [ofRemark b.about r] }
    stream next m
  | .write data next, m =>
    match m.write data with
    | (.ok n, m) => stream (next (.ok n)) m
    | (.error e, m) => stream (next (.error e.failure)) m
  | .finish next, m =>
    match m.finish with
    | (.ok (), m) => stream (next (.ok ())) m
    | (.error e, m) => stream (next (.error e.failure)) m
  | .release next, m => do
    release m
    stream next m.release.1

/-- Make the call that reads the body of a candidate into a message. -/
def read (s : Session σ) (uid : String) (m : Staged) :
    Work σ κ η (Except Failure Int × Staged) := do
  record (.call (.readBody uid))
  let (size, m) ← stream (s.readBody uid (← get).session) m
  record (.answer (.of .count size))
  pure (size, m)

end Work

end Mailroom
