import Mailroom.Proofs.Heeding
import Mailroom.Proofs.Retrying

/-!
# Requests to stop that come in calls

The loop looks at the request to stop between its rounds. A round does not look at it, unless waits
are cut off, so it makes no difference when in the round a request comes.

`Interrupted visits x y` says that `y` is the work `x` with requests to stop that come while the
session is at work on its calls. Which ones come in a call may depend on all that was recorded by
then. Rounds can be interrupted in every such way (`Round.exists_interrupted`). The interrupted work
comes to the same as the other, and leaves the same bench but for the flag and for what the requests
log (`Interrupted.tallies`).
-/

namespace Mailroom

open Poller (Happening)

variable {σ κ α β : Type}

/-! ### Kindred benches -/

/-- The same bench but for requests to stop that were met: for the flag, and for what they log. -/
structure Kindred (b₁ b₂ : Bench σ κ Ledger) : Prop where
  /-- All but the flag and the record is the same. -/
  rest : { b₁ with cancelled := b₂.cancelled, steps := b₂.steps } = b₂
  /-- The records differ in what requests log. -/
  steps : b₁.steps.filter (!·.isRequest) = b₂.steps.filter (!·.isRequest)

namespace Kindred

variable {b₁ b₂ b₃ : Bench σ κ Ledger}

theorem refl (b : Bench σ κ Ledger) : Kindred b b := ⟨rfl, rfl⟩

theorem symm (h : Kindred b₁ b₂) : Kindred b₂ b₁ := ⟨by rw [← h.rest], h.steps.symm⟩

theorem trans (h : Kindred b₁ b₂) (k : Kindred b₂ b₃) : Kindred b₁ b₃ :=
  ⟨by rw [← k.rest, ← h.rest], h.steps.trans k.steps⟩

/-- A kindred bench is the same one with another flag and another record. -/
theorem exists_flag (h : Kindred b₁ b₂) : ∃ flag t,
    b₁.steps.filter (!·.isRequest) = t.filter (!·.isRequest) ∧
      b₂ = { b₁ with cancelled := flag, steps := t } :=
  ⟨b₂.cancelled, b₂.steps, h.steps, h.rest.symm⟩

/-- Both records go on with the same steps. -/
theorem append (h : Kindred b₁ b₂) (t : List Step) :
    Kindred { b₁ with steps := b₁.steps ++ t } { b₂ with steps := b₂.steps ++ t } := by
  obtain ⟨flag, u, hsteps, rfl⟩ := h.exists_flag
  exact ⟨rfl, by simp only [List.filter_append, hsteps]⟩

/-- Meeting requests makes no other difference. -/
theorem meets {b b' : Bench σ κ Ledger} {rs : List StopRequest} (h : Meets b rs b') :
    Kindred b b' := by
  obtain ⟨flag, t, rfl, ht⟩ := h.exists_steps
  refine ⟨rfl, ?_⟩
  have hnone : t.filter (!·.isRequest) = [] := List.filter_eq_nil_iff.mpr (by simpa using ht)
  rw [List.filter_append, hnone, List.append_nil]

theorem met (b : Bench σ κ Ledger) (r : StopRequest) (subject : Option Subject) :
    Kindred b (b.met r subject) := meets (.cons subject (.nil _))

end Kindred

/-- Two runs come to the same, and leave kindred benches on which no wait is cut off. -/
structure Tallies (p₁ p₂ : Except Failure α × Bench σ κ Ledger) : Prop where
  /-- What they come to. -/
  outcome : p₁.1 = p₂.1
  /-- The benches. -/
  bench : Kindred p₁.2 p₂.2
  /-- Waits are not cut off. -/
  steady : p₁.2.fragile = false

/-- Two pieces of work keep abreast: from kindred benches on which no wait is cut off, they come to
the same and leave such benches. -/
def Abreast (x y : Work σ κ Ledger α) : Prop :=
  ∀ b₁ b₂ : Bench σ κ Ledger, Kindred b₁ b₂ → b₁.fragile = false →
    Tallies (runFrom x b₁) (runFrom y b₂)

namespace Abreast

variable {x y : Work σ κ Ledger α}

theorem giveBack (o : Except Failure α) :
    Abreast (Work.giveBack o : Work σ κ Ledger α) (Work.giveBack o) := by
  intro b₁ b₂ hb hf
  rw [Work.runFrom_giveBack, Work.runFrom_giveBack]
  exact ⟨rfl, hb, hf⟩

theorem record (s : Step) : Abreast (Work.record s : Work σ κ Ledger Unit) (Work.record s) :=
  fun _ _ hb hf => ⟨rfl, hb.append [s], hf⟩

theorem log (e : Event) : Abreast (Work.log e : Work σ κ Ledger Unit) (Work.log e) := by
  intro b₁ b₂ hb hf
  obtain ⟨flag, t, hsteps, rfl⟩ := hb.exists_flag
  exact ⟨rfl, hb.append [.log ⟨e, b₁.about⟩], hf⟩

theorem bind {k l : α → Work σ κ Ledger β} (h : Abreast x y) (hk : ∀ a, Abreast (k a) (l a)) :
    Abreast (x >>= k) (y >>= l) := by
  intro b₁ b₂ hb hf
  obtain ⟨ho, hb', hf'⟩ := h b₁ b₂ hb hf
  rcases h₁ : runFrom x b₁ with ⟨o, b₁'⟩
  rcases h₂ : runFrom y b₂ with ⟨o₂, b₂'⟩
  rw [h₁, h₂] at ho hb'
  rw [h₁] at hf'
  cases ho
  cases o with
  | error f =>
    rw [runFrom_bind_error h₁, runFrom_bind_error h₂]
    exact ⟨rfl, hb', hf'⟩
  | ok a =>
    rw [runFrom_bind_ok h₁, runFrom_bind_ok h₂]
    exact hk a b₁' b₂' hb' hf'

theorem settle (h : Abreast x y) : Abreast (settle x) (settle y) := by
  intro b₁ b₂ hb hf
  obtain ⟨ho, hb', hf'⟩ := h b₁ b₂ hb hf
  rw [runFrom_settle, runFrom_settle, ho]
  exact ⟨rfl, hb', hf'⟩

theorem about (subject : Subject) (h : Abreast x y) :
    Abreast (Work.about subject x) (Work.about subject y) := by
  intro b₁ b₂ hb hf
  have hturn {c₁ c₂ : Bench σ κ Ledger} (hc : Kindred c₁ c₂) (s : Option Subject) :
      Kindred { c₁ with about := s } { c₂ with about := s } := by
    obtain ⟨flag, t, hsteps, rfl⟩ := hc.exists_flag
    exact ⟨rfl, hsteps⟩
  have habout : b₁.about = b₂.about := (congrArg Bench.about hb.rest :)
  obtain ⟨ho, hb', hf'⟩ := h _ _ (hturn hb (some subject)) hf
  rw [Work.runFrom_about, Work.runFrom_about, ho, habout]
  exact ⟨rfl, hturn hb' _, hf'⟩

/-- The time comes, and what is due is met. -/
theorem arrive (time : Float) : Abreast (do
    Work.meetAlarms time
    modify fun b => { b with clock := time } : Work σ κ Ledger PUnit) (do
      Work.meetAlarms time
      modify fun b => { b with clock := time }) := by
  have harrive (b : Bench σ κ Ledger) : ∃ b', runFrom (do
      Work.meetAlarms time
      modify fun b => { b with clock := time } : Work σ κ Ledger PUnit) b = (.ok (), b') ∧
        Kindred { b with
          alarms := b.alarms.filter fun a => !(a.time ≤ time)
          clock := time } b' := by
    obtain ⟨b', hr, hmeets⟩ := Work.runFrom_meetRequests (b.alarms.filter (·.time ≤ time))
      { b with alarms := b.alarms.filter fun a => !(a.time ≤ time) }
    obtain ⟨flag, t, hsteps, rfl⟩ := (Kindred.meets hmeets).exists_flag
    refine ⟨{ b with
      alarms := b.alarms.filter fun a => !(a.time ≤ time)
      clock := time
      cancelled := flag
      steps := t }, ?_, rfl, hsteps⟩
    rw [Work.meetAlarms, bind_assoc, runFrom_bind_ok (runFrom_get b), bind_assoc,
      runFrom_bind_ok (runFrom_set _ _), runFrom_bind_ok hr, runFrom_modify]
  intro b₁ b₂ hb hf
  obtain ⟨b₁', hr₁, hb₁⟩ := harrive b₁
  obtain ⟨b₂', hr₂, hb₂⟩ := harrive b₂
  obtain ⟨flag, t, hsteps, rfl⟩ := hb.exists_flag
  rw [hr₁, hr₂]
  refine ⟨rfl, hb₁.symm.trans (.trans ⟨rfl, hsteps⟩ hb₂), ?_⟩
  exact (congrArg Bench.fragile hb₁.rest).symm.trans hf

/-- Where no wait is cut off, a wait goes to its end. -/
theorem wait (seconds : Float) :
    Abreast (Work.wait seconds : Work σ κ Ledger Unit) (Work.wait seconds) := by
  by_cases hs : seconds > 0
  · have hend {b : Bench σ κ Ledger} (hb : b.fragile = false) :
        runFrom (Work.wait seconds) b = runFrom (do
          Work.meetAlarms (b.clock + seconds)
          modify fun c => { c with clock := b.clock + seconds }) b := by
      unfold Work.wait
      rw [if_pos hs, runFrom_bind_ok (runFrom_get b)]
      simp [hb]
    intro b₁ b₂ hb hf
    obtain ⟨flag, t, hsteps, rfl⟩ := hb.exists_flag
    rw [hend hf, hend (b := { b₁ with cancelled := flag, steps := t }) hf]
    exact arrive (b₁.clock + seconds) _ _ hb hf
  · unfold Work.wait
    rw [if_neg hs]
    exact giveBack (.ok ())

theorem release (m : Staged) :
    Abreast (Work.release m : Work σ κ Ledger Unit) (Work.release m) := by
  intro b₁ b₂ hb hf
  obtain ⟨flag, t, hsteps, rfl⟩ := hb.exists_flag
  rw [Work.runFrom_release, Work.runFrom_release]
  exact ⟨rfl, hb.append (m.farewell b₁.about), hf⟩

/-- What a callback does with a body, by induction on it. -/
theorem handle (h : Handling κ) (body : Spool) :
    Abreast (Work.handle h body : Work σ κ Ledger (Except Failure Unit × Spool))
      (Work.handle h body) := by
  induction h generalizing body with
  | done o k =>
    intro b₁ b₂ hb hf
    obtain ⟨flag, t, hsteps, rfl⟩ := hb.exists_flag
    exact ⟨rfl, ⟨rfl, hsteps⟩, hf⟩
  | access a next ih =>
    intro b₁ b₂ hb hf
    rw [Work.runFrom_handle_access, Work.runFrom_handle_access]
    exact ih _ _ _ _ (hb.append _) hf
  | requestStop r next ih =>
    intro b₁ b₂ hb hf
    obtain ⟨subject₁, h₁⟩ := Work.runFrom_requestStop r b₁
    obtain ⟨subject₂, h₂⟩ := Work.runFrom_requestStop r b₂
    rw [Work.handle, runFrom_bind_ok h₁, runFrom_bind_ok h₂]
    exact ih body _ _ ((Kindred.met b₁ r subject₁).symm.trans (hb.trans (.met b₂ r subject₂))) hf
  | wait seconds next ih => exact bind (settle (wait seconds)) fun r => ih r body

/-- A delivery, and what comes after it. -/
theorem deliver (callback : Callback κ) (uid : String) (digest : Bytes) (body : Spool)
    {k l : Except Failure Unit × Spool → Work σ κ Ledger α} (hk : ∀ p, Abreast (k p) (l p)) :
    Abreast (do
      Work.record (.deliver uid digest)
      let p ← Work.handle (callback uid digest (← get).receiver) body
      k p) (do
      Work.record (.deliver uid digest)
      let p ← Work.handle (callback uid digest (← get).receiver) body
      l p) := by
  refine bind (record _) fun _ b₁ b₂ hb hf => ?_
  obtain ⟨flag, t, hsteps, rfl⟩ := hb.exists_flag
  rw [runFrom_bind_ok (runFrom_get _), runFrom_bind_ok (runFrom_get _)]
  exact bind (handle _ body) hk _ _ hb hf

end Abreast

/-! ### Calls in which requests come -/

namespace Work

variable {η : Type} (visits : List Step → List StopRequest)

/-- Meet the requests that come now, which may depend on all that was recorded so far. -/
def visited : Work σ κ η Unit := do
  (visits (← get).steps).forM requestStop

/-- Make a call on the session, in which requests to stop come. -/
def callAmid (c : Session.Call) (shown : α → Session.Answer) (op : Session.Op σ α) :
    Work σ κ η α := do
  record (.call c)
  let b ← get
  let (r, after) := (op.run.run ⟨b.session, []⟩)
  set { b with session := after.state,
               steps := b.steps ++ after.remarks.map (ofRemark b.about) }
  visited visits
  record (.answer (.of shown r))
  giveBack r

/-- Make the call that reads the body of a candidate, in which requests to stop come. -/
def readAmid (s : Session σ) (uid : String) (m : Staged) :
    Work σ κ η (Except Failure Int × Staged) := do
  record (.call (.readBody uid))
  let (size, m) ← stream (s.readBody uid (← get).session) m
  visited visits
  record (.answer (.of .count size))
  pure (size, m)

end Work

section

variable (visits : List Step → List StopRequest)

/-- The end of a call: requests come, the answer is recorded, and the outcome is given back. -/
theorem Kindred.answered (s : Step) (o : Except Failure α) (b : Bench σ κ Ledger) :
    ∃ b', runFrom (do
      Work.visited visits
      Work.record s
      Work.giveBack o) b = (o, b') ∧ Kindred { b with steps := b.steps ++ [s] } b' := by
  obtain ⟨b', hr, hmeets⟩ := Work.runFrom_requestStops (visits b.steps) b
  have hvisited : runFrom (Work.visited visits) b = (.ok (), b') := by
    rw [Work.visited, runFrom_bind_ok (runFrom_get b), hr]
  refine ⟨_, ?_, (Kindred.meets hmeets).append [s]⟩
  rw [runFrom_bind_ok hvisited, runFrom_bind_ok (Work.runFrom_record _ _), Work.runFrom_giveBack]

namespace Abreast

theorem call (c : Session.Call) (shown : α → Session.Answer) (op : Session.Op σ α) :
    Abreast (Work.call c shown op : Work σ κ Ledger α) (Work.callAmid visits c shown op) := by
  intro b₁ b₂ hb hf
  obtain ⟨flag, t, hsteps, rfl⟩ := hb.exists_flag
  let p := runFrom op ⟨b₁.session, []⟩
  let said : List Step := p.2.remarks.map (Work.ofRemark b₁.about)
  obtain ⟨b', hr, hanswered⟩ := Kindred.answered visits (.answer (.of shown p.1)) p.1
    { b₁ with session := p.2.state, cancelled := flag, steps := t ++ [Step.call c] ++ said }
  have hamid : runFrom (Work.callAmid visits c shown op)
      { b₁ with cancelled := flag, steps := t } = (p.1, b') := by
    rw [Work.callAmid, runFrom_bind_ok (Work.runFrom_record _ _), runFrom_bind_ok (runFrom_get _)]
    exact (runFrom_bind_ok (runFrom_set _ _) _).trans hr
  rw [Work.runFrom_call, hamid]
  refine ⟨rfl, .trans ⟨rfl, ?_⟩ hanswered, hf⟩
  simp only [List.filter_append, hsteps]
  rfl

theorem read (s : Session σ) (uid : String) (m : Staged) :
    Abreast (Work.read s uid m : Work σ κ Ledger (Except Failure Int × Staged))
      (Work.readAmid visits s uid m) := by
  intro b₁ b₂ hb hf
  obtain ⟨flag, t, hsteps, rfl⟩ := hb.exists_flag
  let f := (s.readBody uid b₁.session).fill b₁.about m
  obtain ⟨b', hr, hanswered⟩ := Kindred.answered visits (.answer (.of .count f.outcome))
    (.ok (f.outcome, f.message)) { b₁ with
      session := f.state
      cancelled := flag
      steps := t ++ [Step.call (.readBody uid)] ++ f.record }
  have hamid : runFrom (Work.readAmid visits s uid m) { b₁ with cancelled := flag, steps := t } =
      (.ok (f.outcome, f.message), b') := by
    rw [Work.readAmid, runFrom_bind_ok (Work.runFrom_record _ _), runFrom_bind_ok (runFrom_get _),
      runFrom_bind_ok (Work.runFrom_stream _ _ _)]
    exact hr
  rw [Work.runFrom_read s uid m b₁ rfl, hamid]
  refine ⟨rfl, .trans ⟨rfl, ?_⟩ hanswered, hf⟩
  simp only [List.append_assoc, List.cons_append, List.nil_append, List.filter_append, hsteps]
  rfl

end Abreast

/-- The second work is the first one, with requests to stop that come while the session is at work
on its calls. -/
inductive Interrupted : {α : Type} → Work σ κ Ledger α → Work σ κ Ledger α → Prop where
  /-- Work that is over. -/
  | giveBack {α : Type} (o : Except Failure α) : Interrupted (Work.giveBack o) (Work.giveBack o)
  /-- An entry in the log. -/
  | log (e : Event) : Interrupted (Work.log e) (Work.log e)
  /-- An entry in the record. -/
  | record (s : Step) : Interrupted (Work.record s) (Work.record s)
  /-- A wait. -/
  | wait (seconds : Float) : Interrupted (Work.wait seconds) (Work.wait seconds)
  /-- A call, in which requests come. -/
  | call {α : Type} (c : Session.Call) (shown : α → Session.Answer) (op : Session.Op σ α) :
    Interrupted (Work.call c shown op) (Work.callAmid visits c shown op)
  /-- The reading of a candidate, in which requests come. -/
  | read (s : Session σ) (uid : String) (m : Staged) :
    Interrupted (Work.read s uid m) (Work.readAmid visits s uid m)
  /-- The release of a message. -/
  | release (m : Staged) : Interrupted (Work.release m) (Work.release m)
  /-- A delivery, and what comes after it. -/
  | deliver {α : Type} (callback : Callback κ) (uid : String) (digest : Bytes) (body : Spool)
    {k l : Except Failure Unit × Spool → Work σ κ Ledger α} (hk : ∀ p, Interrupted (k p) (l p)) :
    Interrupted (do
      Work.record (.deliver uid digest)
      let p ← Work.handle (callback uid digest (← get).receiver) body
      k p) (do
      Work.record (.deliver uid digest)
      let p ← Work.handle (callback uid digest (← get).receiver) body
      l p)
  /-- Work in a row. -/
  | bind {α β : Type} {x y : Work σ κ Ledger α} {k l : α → Work σ κ Ledger β}
    (h : Interrupted x y) (hk : ∀ a, Interrupted (k a) (l a)) : Interrupted (x >>= k) (y >>= l)
  /-- Work that is settled. -/
  | settle {α : Type} {x y : Work σ κ Ledger α} (h : Interrupted x y) :
    Interrupted (settle x) (settle y)
  /-- Work about a candidate. -/
  | about {α : Type} {x y : Work σ κ Ledger α} (subject : Subject) (h : Interrupted x y) :
    Interrupted (Work.about subject x) (Work.about subject y)

namespace Interrupted

variable {visits} {x y : Work σ κ Ledger α}

/-- Interrupted work keeps abreast of the other, by induction on how it is put together. -/
theorem abreast (h : Interrupted visits x y) : Abreast x y := by
  induction h with
  | giveBack o => exact .giveBack o
  | log e => exact .log e
  | record s => exact .record s
  | wait seconds => exact .wait seconds
  | call c shown op => exact .call visits c shown op
  | read s uid m => exact .read visits s uid m
  | release m => exact .release m
  | deliver callback uid digest body _ ih => exact .deliver callback uid digest body ih
  | bind _ _ ih ihk => exact .bind ih ihk
  | settle _ ih => exact .settle ih
  | about subject _ ih => exact .about subject ih

/-- **Requests in calls make no difference** to what work comes to where no wait is cut off, and
they leave the same bench but for the flag and for what they log. -/
theorem tallies (h : Interrupted visits x y) {b : Bench σ κ Ledger} (hb : b.fragile = false) :
    Tallies (runFrom x b) (runFrom y b) := h.abreast b b (.refl b) hb

end Interrupted

/-- Every round can be interrupted in its calls. -/
theorem Round.exists_interrupted (r : Round σ κ) :
    ∃ y, Interrupted visits (r.run : Work σ κ Ledger RoundResult) y := by
  have hparts : Pervades r fun α (x : Work σ κ Ledger α) => ∃ y, Interrupted visits x y := by
    refine ⟨fun o => ⟨_, .giveBack o⟩, fun e _ => ⟨_, .log e⟩, fun s _ => ⟨_, .record s⟩,
      fun seconds => ⟨_, .wait seconds⟩, fun c shown op => ⟨_, .call c shown op⟩,
      fun uid m => ⟨_, .read r.session uid m⟩, fun m => ⟨_, .release m⟩,
      fun uid digest body k hk => ?_, fun hx hk => ?_, fun hx => ?_, fun subject hx => ?_⟩
    · choose l hl using hk
      exact ⟨_, .deliver r.callback uid digest body hl⟩
    · obtain ⟨y, hy⟩ := hx
      choose l hl using hk
      exact ⟨_, .bind hy hl⟩
    · obtain ⟨y, hy⟩ := hx
      exact ⟨_, .settle hy⟩
    · obtain ⟨y, hy⟩ := hx
      exact ⟨_, .about subject hy⟩
  exact hparts.run

end

end Mailroom
