import Mailroom.Proofs.Pervading
import Mailroom.Proofs.Scenes

/-!
# Work that keeps aloof

What a round does depends neither on the record of earlier steps nor on what the hook keeps. It adds
to the record and leaves the ledger as it is. `Aloof` says so of any work: from the same bench with
another ledger and more on record, it comes to the same, the other ledger stays, and the new steps
are the same. The parts of a round are aloof, and so is the whole round (`Round.aloof_run`).
-/

namespace Mailroom

variable {σ κ η α β : Type}

/-- The bench with another ledger, and with more in front of the record. -/
def Bench.recast (b : Bench σ κ η) (l : η) (t : List Step) : Bench σ κ η :=
  { b with ledger := l, steps := t ++ b.steps }

/-- The work neither depends on the ledger and the record so far, nor changes them. -/
def Aloof (x : Work σ κ η α) : Prop :=
  ∀ b l t, runFrom x (b.recast l t) = ((runFrom x b).1, (runFrom x b).2.recast l t)

namespace Aloof

variable {x : Work σ κ η α}

/-- The ledger stays as it is. -/
theorem ledger_eq (hx : Aloof x) (b : Bench σ κ η) : (runFrom x b).2.ledger = b.ledger := by
  have hsame := congrArg (fun p => p.2.ledger) (hx b b.ledger [])
  exact hsame

theorem pure (a : α) : Aloof (pure a : Work σ κ η α) := fun _ _ _ => rfl

theorem throw (f : Failure) : Aloof (throw f : Work σ κ η α) := fun _ _ _ => rfl

theorem giveBack (r : Except Failure α) : Aloof (Work.giveBack r : Work σ κ η α) := by
  cases r with
  | ok a => exact pure a
  | error f => exact throw f

/-- A change that concerns neither the ledger nor the record so far. -/
theorem modify {f : Bench σ κ η → Bench σ κ η}
    (hf : ∀ b l t, f (b.recast l t) = (f b).recast l t) :
    Aloof (modify f : Work σ κ η PUnit) := fun b l t => by
  rw [runFrom_modify, runFrom_modify, hf]

theorem record (s : Step) : Aloof (Work.record s : Work σ κ η Unit) :=
  modify fun b l t => by simp [Bench.recast]

theorem log (e : Event) : Aloof (Work.log e : Work σ κ η Unit) :=
  modify fun b l t => by simp [Bench.recast]

theorem bind {k : α → Work σ κ η β} (hx : Aloof x) (hk : ∀ a, Aloof (k a)) :
    Aloof (x >>= k) := by
  intro b l t
  rw [runFrom_bind, runFrom_bind, hx]
  rcases runFrom x b with ⟨f | a, b'⟩
  · rfl
  · exact hk a b' l t

/-- What is looked at is neither the ledger nor the record. -/
theorem get_bind {k : Bench σ κ η → Work σ κ η β} (hsame : ∀ b l t, k (b.recast l t) = k b)
    (hk : ∀ b, Aloof (k b)) : Aloof (get >>= k) := by
  intro b l t
  rw [runFrom_bind_ok (runFrom_get _), runFrom_bind_ok (runFrom_get _), hsame]
  exact hk b b l t

theorem settle (hx : Aloof x) : Aloof (settle x) := by
  intro b l t
  rw [runFrom_settle, runFrom_settle, hx]

theorem about (subject : Subject) (hx : Aloof x) : Aloof (Work.about subject x) := by
  intro b l t
  have hswap : { b.recast l t with about := some subject } =
      ({ b with about := some subject } : Bench σ κ η).recast l t := rfl
  rw [Work.runFrom_about, Work.runFrom_about, hswap, hx]
  rfl

theorem forM {f : β → Work σ κ η PUnit} (hf : ∀ a, Aloof (f a)) : ∀ as : List β, Aloof (as.forM f)
  | [] => pure ()
  | a :: as => bind (hf a) fun _ => forM hf as

/-! ### Requests to stop, and time -/

theorem meetRequest {say : Event → Work σ κ η Unit} (hsay : ∀ e, Aloof (say e)) (r : StopRequest) :
    Aloof (Work.meetRequest say r) := by
  refine get_bind (fun _ _ _ => rfl) fun b => ?_
  cases r.event? b.cancelled with
  | none => exact modify fun _ _ _ => rfl
  | some e => exact bind (hsay e) fun _ => modify fun _ _ _ => rfl

theorem requestStop (r : StopRequest) : Aloof (Work.requestStop r : Work σ κ η Unit) := by
  cases r with
  | silent => exact meetRequest log .silent
  | stop poller => exact meetRequest log (.stop poller)
  | signal name => exact meetRequest (fun e => record _) (.signal name)

theorem logApart (e : Event) : Aloof (Work.logApart e : Work σ κ η Unit) := record _

theorem meetAlarms (time : Float) : Aloof (Work.meetAlarms time : Work σ κ η Unit) := by
  have hmeet (as : List Alarm) :
      Aloof (as.forM fun a => Work.meetRequest Work.logApart a.request : Work σ κ η PUnit) :=
    forM (fun a => meetRequest logApart a.request) as
  intro b l t
  unfold Work.meetAlarms
  rw [runFrom_bind_ok (runFrom_get _), runFrom_bind_ok (runFrom_set _ _),
    runFrom_bind_ok (runFrom_get _), runFrom_bind_ok (runFrom_set _ _)]
  exact hmeet _ { b with alarms := b.alarms.filter fun a => !(a.time ≤ time) } l t

theorem wait (seconds : Float) : Aloof (Work.wait seconds : Work σ κ η Unit) := by
  unfold Work.wait
  split
  · refine get_bind (fun _ _ _ => rfl) fun b => ?_
    dsimp only
    split
    · exact throw _
    · split
      · exact bind (meetAlarms _) fun _ => bind (modify fun _ _ _ => rfl) fun _ => throw _
      · exact bind (meetAlarms _) fun _ => modify fun _ _ _ => rfl
  · exact pure ()

theorem pause (seconds : Float) : Aloof (Work.pause seconds : Work σ κ η Unit) := by
  refine bind (record _) fun _ => get_bind (fun _ _ _ => rfl) fun b => ?_
  exact bind (meetAlarms _) fun _ => modify fun _ _ _ => rfl

/-! ### Calls, messages and callbacks -/

theorem call (c : Session.Call) (shown : α → Session.Answer) (op : Session.Op σ α) :
    Aloof (Work.call c shown op : Work σ κ η α) := by
  intro b l t
  rw [Work.runFrom_call, Work.runFrom_call]
  simp [Bench.recast]

theorem release (m : Staged) : Aloof (Work.release m : Work σ κ η Unit) := by
  intro b l t
  rw [Work.runFrom_release, Work.runFrom_release]
  simp [Bench.recast]

theorem read (s : Session σ) (uid : String) (m : Staged) :
    Aloof (Work.read s uid m : Work σ κ η (Except Failure Int × Staged)) := by
  intro b l t
  rw [Work.runFrom_read s uid m b rfl, Work.runFrom_read s uid m (b.recast l t) rfl]
  simp [Bench.recast]

/-- What a callback does with a body, by induction on it. -/
theorem handle (h : Handling κ) (body : Spool) :
    Aloof (Work.handle h body : Work σ κ η (Except Failure Unit × Spool)) := by
  induction h generalizing body with
  | done o k => exact bind (modify fun _ _ _ => rfl) fun _ => pure _
  | access a next ih =>
    intro b l t
    rw [Work.runFrom_handle_access, Work.runFrom_handle_access]
    have hnext := ih (body.access a).1 (body.access a).2
      { b with steps := b.steps ++ (Spool.sighted (body.access a).1).map .observe } l t
    simpa [Bench.recast] using hnext
  | requestStop r next ih => exact bind (requestStop r) fun _ => ih body
  | wait seconds next ih => exact bind (settle (wait seconds)) fun r => ih r body

end Aloof

/-! ### Rounds -/

namespace Round

variable (r : Round σ κ)

/-- The parts of rounds are aloof. -/
theorem pervades_aloof : Pervades r (fun α (x : Work σ κ η α) => Aloof x) where
  giveBack := .giveBack
  log e _ := .log e
  record s _ := .record s
  wait := .wait
  call := .call
  read := .read r.session
  release := .release
  deliver _ _ body _ hk := .bind (.record _) fun _ =>
    .get_bind (fun _ _ _ => rfl) fun _ => .bind (.handle _ body) hk
  bind := .bind
  settle := .settle
  about := .about

theorem aloof_connect : Aloof (r.connect : Work σ κ η Unit) := (pervades_aloof r).connect

theorem aloof_list : Aloof (r.list : Work σ κ η (List String)) := (pervades_aloof r).list

theorem aloof_relocate (uid : String) (out : Outcome) :
    Aloof (r.relocate uid out : Work σ κ η Unit) := (pervades_aloof r).relocate uid out

theorem aloof_close : Aloof (r.close : Work σ κ η Unit) := (pervades_aloof r).close

/-- **Rounds are aloof.** -/
theorem aloof_run : Aloof (r.run : Work σ κ η RoundResult) := (pervades_aloof r).run

end Round

end Mailroom
