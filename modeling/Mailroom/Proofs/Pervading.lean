import Mailroom.Proofs.Running

/-!
# Properties that pervade rounds

A round is put together from few parts: calls on the session, messages that are read into and
released, deliveries, waits, and entries in the log and the record. A property of work that the
parts have, and that every way of putting work together keeps, pervades the round (`Pervades`); then
the round has it (`Pervades.run`), and so has each of its pieces. The pieces are gone through here
once; a property that is to be shown of rounds is shown of the parts.
-/

namespace Mailroom

variable {σ κ η α : Type}

/-- The event is one that a request to stop logs. -/
def Event.isRequest : Event → Bool
  | stopRequested _ | signalReceived _ | signalRepeated _ => true
  | _ => false

/-- The steps that a round records by itself, outside of calls and deliveries. -/
def Step.isOwn : Step → Bool
  | spool .. | finish _ | verdict .. | backoff _ => true
  | call _ | answer _ | wire _ | log _ | deliver .. | observe _ | pause _ | report .. | status _
  | configure .. | serve _ => false

/-- The property holds of the parts of a round, and is kept by putting work together. -/
structure Pervades (r : Round σ κ) (P : (α : Type) → Work σ κ η α → Prop) : Prop where
  /-- Work that is over. -/
  giveBack {α : Type} (o : Except Failure α) : P α (Work.giveBack o)
  /-- An entry in the log. -/
  log (e : Event) (h : e.isRequest = false) : P Unit (Work.log e)
  /-- An entry in the record. -/
  record (s : Step) (h : s.isOwn = true) : P Unit (Work.record s)
  /-- A wait. -/
  wait (seconds : Float) : P Unit (Work.wait seconds)
  /-- A call on the session. -/
  call {α : Type} (c : Session.Call) (shown : α → Session.Answer) (op : Session.Op σ α) :
    P α (Work.call c shown op)
  /-- The reading of a candidate. -/
  read (uid : String) (m : Staged) :
    P (Except Failure Int × Staged) (Work.read r.session uid m)
  /-- The release of a message. -/
  release (m : Staged) : P Unit (Work.release m)
  /-- A delivery, and what comes after it. -/
  deliver {α : Type} (uid : String) (digest : Bytes) (body : Spool)
    {k : Except Failure Unit × Spool → Work σ κ η α} (hk : ∀ p, P α (k p)) : P α (do
      Work.record (.deliver uid digest)
      let p ← Work.handle (r.callback uid digest (← get).receiver) body
      k p)
  /-- Work in a row. -/
  bind {α β : Type} {x : Work σ κ η α} {k : α → Work σ κ η β} (hx : P α x)
    (hk : ∀ a, P β (k a)) : P β (x >>= k)
  /-- Work that is settled. -/
  settle {α : Type} {x : Work σ κ η α} (hx : P α x) : P (Except Failure α) (settle x)
  /-- Work about a candidate. -/
  about {α : Type} {x : Work σ κ η α} (subject : Subject) (hx : P α x) :
    P α (Work.about subject x)

namespace Pervades

variable {r : Round σ κ} {P : (α : Type) → Work σ κ η α → Prop} (h : Pervades r P)

include h

protected theorem pure (a : α) : P α (pure a) := h.giveBack (.ok a)

protected theorem throw (f : Failure) : P α (throw f) := h.giveBack (.error f)

theorem handling {x : Work σ κ η α} {handler : Failure → Work σ κ η α} (hx : P α x)
    (hh : ∀ f, P α (handler f)) : P α (Work.handling x handler) := by
  refine h.bind (h.settle hx) fun o => ?_
  cases o with
  | ok a => exact h.pure a
  | error f =>
    dsimp only
    split
    · exact hh f
    · exact h.throw f

/-- Trying again and again, by induction on how many attempts are left. -/
theorem tryFrom (policy : Settings.Retry) (retryable : Failure → Bool) (operation : String)
    {x : Work σ κ η α} (hx : P α x) (left n : Nat) :
    P α (Backoff.tryFrom policy retryable operation x left n) := by
  induction left generalizing n with
  | zero => exact hx
  | succ left ih =>
    refine h.bind (h.settle hx) fun o => ?_
    cases o with
    | ok a => exact h.pure a
    | error f =>
      dsimp only
      split
      · exact h.bind (h.log _ rfl) fun _ => h.bind (h.record _ rfl) fun _ =>
          h.bind (h.wait _) fun _ => ih (n + 1)
      · exact h.throw f

/-! ### A candidate -/

theorem readInto (uid : String) (m : Staged) :
    P (Except Failure Int × Staged) (r.readInto uid m) := by
  refine h.bind (h.read uid m) fun p => ?_
  obtain ⟨f | n, m⟩ := p
  · exact h.pure _
  · dsimp only
    rcases m.finish with ⟨e | u, m'⟩
    · exact h.bind (h.record _ rfl) fun _ => h.pure _
    · exact h.bind (h.record _ rfl) fun _ => h.pure _

theorem handOver (uid : String) (size : Int) (m : Staged) :
    P (Except Failure Unit × Staged) (r.deliver uid size m) := by
  unfold Round.deliver
  rcases m.digest with e | digest
  · exact h.pure _
  · rcases m.body with e | body
    · exact h.pure _
    · exact h.bind (h.log _ rfl) fun _ => h.deliver uid digest body fun p =>
        h.bind (h.record _ rfl) fun _ => h.pure _

theorem stageAndDeliver (uid : String) : P Outcome (r.stageAndDeliver uid) := by
  refine h.bind (h.record _ rfl) fun _ => h.bind (h.readInto uid _) fun p => ?_
  obtain ⟨f | n, m⟩ := p
  · dsimp only
    split
    · exact h.bind (h.log _ rfl) fun _ => h.bind (h.release m) fun _ => h.pure _
    · exact h.bind (h.release m) fun _ => h.throw f
  · refine h.bind (h.handOver uid n m) fun p => ?_
    obtain ⟨f | u, m⟩ := p
    · dsimp only
      split
      · exact h.bind (h.log _ rfl) fun _ => h.bind (h.release m) fun _ => h.pure _
      · exact h.bind (h.release m) fun _ => h.throw f
    · exact h.bind (h.release m) fun _ => h.pure _

theorem moveTo (uid box : String) : P Unit (r.moveTo uid box) := by
  unfold Round.moveTo
  split
  · exact h.pure ()
  · exact h.handling (h.call _ _ _) fun _ => h.log _ rfl

theorem relocate (uid : String) (out : Outcome) : P Unit (r.relocate uid out) := by
  cases out with
  | delivered =>
    have hseen : P Unit (r.markSeen uid) := h.handling (h.call _ _ _) fun _ => h.log _ rfl
    exact h.bind hseen fun _ => h.moveTo uid _
  | rejected => exact h.moveTo uid _
  | unreadable => exact h.pure ()

theorem process (uid : String) : P Outcome (r.process uid) :=
  h.about _ (h.bind (h.stageAndDeliver uid) fun out =>
    h.bind (h.relocate uid out) fun _ => h.pure out)

/-- The candidates, by induction on them. -/
theorem processAll (uids : List String) (result : RoundResult) :
    P RoundResult (r.processAll uids result) := by
  induction uids generalizing result with
  | nil => exact h.pure result
  | cons uid uids ih => exact h.bind (h.process uid) fun out => ih _

/-! ### A round -/

theorem connect : P Unit r.connect := by
  refine h.handling ?_ fun f => ?_
  · cases r.retry with
    | some policy => exact h.tryFrom policy _ _ (h.call _ _ _) _ _
    | none => exact h.call _ _ _
  · split <;> exact h.throw _

theorem list : P (List String) r.list := h.handling (h.call _ _ _) fun _ => h.throw _

theorem close : P Unit r.close := h.handling (h.call _ _ _) fun _ => h.log _ rfl

/-- What a round makes of a failure. -/
theorem failed (f : Failure) : P RoundResult (do
    if f.kind.isA .connect then
      Work.log (.connectFailed f.text)
      pure (RoundResult.failed f)
    else if f.kind.isA .list then
      Work.log (.listFailed r.settings.pattern f.text)
      pure (RoundResult.failed f)
    else throw f) := by
  split
  · exact h.bind (h.log _ rfl) fun _ => h.pure _
  · split
    · exact h.bind (h.log _ rfl) fun _ => h.pure _
    · exact h.throw f

/-- **What pervades a round, the round has.** -/
theorem run : P RoundResult r.run :=
  h.handling (h.bind h.connect fun _ => h.bind (h.settle (h.bind h.list fun uids =>
    h.processAll uids _)) fun outcome => h.bind h.close fun _ => h.giveBack outcome) h.failed

end Pervades

end Mailroom
