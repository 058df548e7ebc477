import Mailroom.Backoff
import Mailroom.Callback

/-!
# Rounds

A round connects the session, lists the candidates, and processes them one after the other; then it
closes the session, whatever happened. Processing a candidate stages its body, hands it to the
callback, and relocates the message.

Delivery is at least once: a message is marked seen only after the callback returned. Failures of
a single candidate are logged and the round goes on. Only a failure to connect or to list ends up
in the result. A cancellation ends the round after everything that was opened is closed.
-/

namespace Mailroom

/-- The parts that a round works with. -/
structure Round (σ κ : Type) where
  /-- The session. -/
  session : Session σ
  /-- The callback. -/
  callback : Callback κ
  /-- What to poll and where messages go. -/
  settings : Settings.Delivery
  /-- Where messages are staged, if not as the settings say. -/
  stage : Option Stage
  /-- How connecting is retried, if it is. -/
  retry : Option Settings.Retry
  /-- Where the bodies go that are too large for memory. -/
  disk : Disk

/-- A stage as the settings ask for it. -/
def Stage.ofSettings (d : Settings.Delivery) : Stage :=
  ⟨d.algorithm.name, d.algorithm, d.memoryLimit⟩

namespace Round

variable {σ κ η α : Type}

/-- The stage of a round. -/
def stageInUse (r : Round σ κ) : Stage := r.stage.getD (.ofSettings r.settings)

/-- Close the session; an ordinary failure of that is only logged. -/
def close (r : Round σ κ) : Work σ κ η Unit :=
  Work.handling (Work.call (.close true) (fun _ => .done) (r.session.close true))
    fun f => Work.log (.closeFailed f.text)

/-- Connect the session, with retries if there are any. A failure becomes a connect failure. -/
def connect (r : Round σ κ) : Work σ κ η Unit := do
  let attempt := Work.call .connect (fun _ => .done) r.session.connect
  let attempts := match r.retry with
    | some policy => Backoff.retrying policy (·.isFault) "connect" attempt
    | none => attempt
  Work.handling attempts fun f =>
    if f.kind.isA .connect then throw f
    else throw (f.wrap .connect s!"connect to {r.session.title}: {f.text}")

/-- Do work on the connected session and close it afterwards. -/
def connected (r : Round σ κ) (x : Work σ κ η α) : Work σ κ η α := do
  r.connect
  let outcome ← settle x
  r.close
  Work.giveBack outcome

/-- List the candidates. A failure becomes a listing failure. -/
def list (r : Round σ κ) : Work σ κ η (List String) :=
  let d := r.settings
  Work.handling
    (Work.call (.list d.mailbox d.pattern d.includeSeen) .listing
      (r.session.list d.mailbox d.pattern d.includeSeen))
    fun f => throw (f.wrap .list s!"list {r.session.title}/{d.mailbox}: {f.text}")

/-- Read a body into a message and finish it. -/
def readInto (r : Round σ κ) (uid : String) (m : Staged) :
    Work σ κ η (Except Failure Int × Staged) := do
  let (size, m) ← Work.read r.session uid m
  match size with
  | .error f => pure (.error f, m)
  | .ok n => match m.finish with
    | (.ok (), m) =>
      Work.record (.finish none)
      pure (.ok n, m)
    | (.error e, m) =>
      Work.record (.finish (some e))
      pure (.error e.failure, m)

/-- Hand a finished message to the callback, which is called in a coroutine. -/
def deliver (r : Round σ κ) (uid : String) (size : Int) (m : Staged) :
    Work σ κ η (Except Failure Unit × Staged) := do
  match m.digest, m.body with
  | .ok digest, .ok body =>
    Work.log (.staged size digest.hex)
    Work.record (.deliver uid digest)
    let (outcome, body) ← Work.handle (r.callback uid digest (← get).receiver) body
    let outcome := Failure.awaited outcome
    Work.record (.verdict uid (Failure.of? outcome))
    pure (outcome, { m with spool := body })
  | .error e, _ => pure (.error e.failure, m)
  | _, .error e => pure (.error e.failure, m)

/-- Stage a candidate and hand it to the callback. The message is released in the end, whatever
happened. -/
def stageAndDeliver (r : Round σ κ) (uid : String) : Work σ κ η Outcome := do
  let m := r.stageInUse.openFor r.disk uid
  Work.showSpool m
  let (size, m) ← r.readInto uid m
  match size with
  | .error f =>
    if f.isFault then
      Work.log (.readFailed f.text)
      Work.release m
      pure .unreadable
    else
      Work.release m
      throw f
  | .ok n =>
    let (outcome, m) ← r.deliver uid n m
    match outcome with
    | .ok () =>
      Work.release m
      pure .delivered
    | .error f =>
      if f.isFault then
        Work.log (.rejected f.text f.kind.name)
        Work.release m
        pure .rejected
      else
        Work.release m
        throw f

/-- Move a candidate to a box, unless the box has no name; a failure is only logged. -/
def moveTo (r : Round σ κ) (uid box : String) : Work σ κ η Unit :=
  if box = "" then pure ()
  else Work.handling (Work.call (.move uid box) (fun _ => .done) (r.session.move uid box))
    fun f => Work.log (.moveFailed box f.text)

/-- Mark a candidate seen; a failure is only logged. -/
def markSeen (r : Round σ κ) (uid : String) : Work σ κ η Unit :=
  Work.handling (Work.call (.mark uid true) (fun _ => .done) (r.session.mark uid true))
    fun f => Work.log (.markFailed f.text)

/-- What happens to a message after the attempt to deliver it. -/
def relocate (r : Round σ κ) (uid : String) : Outcome → Work σ κ η Unit
  | .delivered => do
    r.markSeen uid
    r.moveTo uid r.settings.outbox
  | .rejected => r.moveTo uid r.settings.errbox
  | .unreadable => pure ()

/-- Process one candidate. -/
def process (r : Round σ κ) (uid : String) : Work σ κ η Outcome :=
  Work.about ⟨uid, r.settings.mailbox⟩ do
    let outcome ← r.stageAndDeliver uid
    r.relocate uid outcome
    pure outcome

/-- Process the candidates in order. -/
def processAll (r : Round σ κ) : List String → RoundResult → Work σ κ η RoundResult
  | [], result => pure result
  | uid :: rest, result => do
    let outcome ← r.process uid
    r.processAll rest (result.count outcome)

/-- One round. -/
def run (r : Round σ κ) : Work σ κ η RoundResult :=
  Work.handling
    (r.connected do
      let uids ← r.list
      r.processAll uids { RoundResult.empty with candidates := uids.length })
    fun f => do
      if f.kind.isA .connect then
        Work.log (.connectFailed f.text)
        pure (.failed f)
      else if f.kind.isA .list then
        Work.log (.listFailed r.settings.pattern f.text)
        pure (.failed f)
      else throw f

end Round

end Mailroom
