import Mailroom.Poller.Basic
import Mailroom.Proofs.Aloof
import Mailroom.Proofs.Looping

/-!
# The chronicle of a poller

A poller is used from outside in any order (`Poller.Op`): it is run, again and again, does single
rounds, has rounds entered by hand, and is asked to stop. What concerns its books is a row of deeds
(`Poller.Deed`): a use begins, a round completes and is entered, a round is cancelled and is not,
the loop ends, the run ends. `p.Chronicle b ds b'` says that these are all the deeds on the way from
one bench to another, and that whatever else is done there leaves session, callback and books alone.

Every row of uses has its chronicle (`Poller.chronicle_performAll`), and the chronicle up to any of
its deeds is one of a moment on the way (`Poller.Chronicle.split`). The books are what the deeds
make of them, one after the other (`Poller.Chronicle.ledger_eq`).
-/

namespace Mailroom.Poller

variable {σ κ α β : Type}

/-! ### Uses -/

/-- What can be done with a poller from outside. -/
inductive Op where
  /-- Run it, with requests to stop that come at their times and what is to happen after chosen
  rounds; the probe server may fail. The run is followed for at most `fuel` rounds. -/
  | run (alarms : List Alarm) (plan : HookScript) (serving : Except Failure Unit) (fuel : Nat)
  /-- A single round. -/
  | once
  /-- Enter a round by hand. -/
  | record (result : RoundResult)
  /-- Ask it to stop. -/
  | stop
  /-- Send the process a signal. -/
  | signal (name : String)

/-- Whether a use may enter rounds into the books. -/
def Op.enters : Op → Bool
  | run .. | once | record _ => true
  | stop | signal _ => false

/-- Whether a use is a run. -/
def Op.isRun : Op → Bool
  | run .. => true
  | once | record _ | stop | signal _ => false

/-- Carry out a use; the answer says whether it has ended. -/
def perform (p : Poller σ κ) : Op → Work σ κ Ledger Bool
  | .run alarms plan serving fuel => do
    modify fun b => { b with alarms }
    p.run (plan.follow (.stop p.settings.name)) serving fuel
  | .once => do
    let _ ← p.once
    pure true
  | .record result => do
    recordRound result
    pure true
  | .stop => do
    p.stop
    pure true
  | .signal name => do
    Work.requestStop (.signal name)
    pure true

/-- Carry out uses one after the other, whatever each of them ends in. Nothing comes after a run
that is followed no further. -/
def performAll (p : Poller σ κ) : List Op → Work σ κ Ledger Unit
  | [] => pure ()
  | op :: ops => do
    match ← settle (p.perform op) with
    | .ok false => pure ()
    | .ok true | .error _ => p.performAll ops

/-! ### Work beside the books -/

/-- Session, callback and books are left alone, and only idle steps are added to the record. -/
structure Aside (b b' : Bench σ κ Ledger) : Prop where
  /-- The session stays. -/
  session : b'.session = b.session
  /-- What the callback keeps stays. -/
  receiver : b'.receiver = b.receiver
  /-- The books stay. -/
  ledger : b'.ledger = b.ledger
  /-- Only idle steps are added to the record. -/
  steps : ∃ t, b'.steps = b.steps ++ t ∧ ∀ s ∈ t, s.isIdle = true

theorem Aside.of_eq {b b' : Bench σ κ Ledger} (hsession : b'.session = b.session)
    (hreceiver : b'.receiver = b.receiver) (hledger : b'.ledger = b.ledger)
    (hsteps : b'.steps = b.steps) : Aside b b' :=
  ⟨hsession, hreceiver, hledger, [], by rw [hsteps, List.append_nil], by simp⟩

theorem Aside.trans {b₁ b₂ b₃ : Bench σ κ Ledger} (h : Aside b₁ b₂) (k : Aside b₂ b₃) :
    Aside b₁ b₃ := by
  obtain ⟨t, ht, hidle⟩ := h.steps
  obtain ⟨u, hu, hidle'⟩ := k.steps
  refine ⟨k.session.trans h.session, k.receiver.trans h.receiver, k.ledger.trans h.ledger, t ++ u,
    ?_, List.forall_mem_append.mpr ⟨hidle, hidle'⟩⟩
  rw [hu, ht, List.append_assoc]

/-- Work beside the books, whatever it ends in. -/
def Beside (x : Work σ κ Ledger α) : Prop := ∀ b, Aside b (runFrom x b).2

namespace Beside

variable {x : Work σ κ Ledger α}

theorem of_idle (hi : Idle x) (ha : Aloof x) : Beside x := by
  intro b
  obtain ⟨a, b', hr, hidles⟩ := hi b
  have hledger := ha.ledger_eq b
  rw [hr] at hledger ⊢
  exact ⟨hidles.session, hidles.receiver, hledger, hidles.steps⟩

theorem giveBack (r : Except Failure α) : Beside (Work.giveBack r : Work σ κ Ledger α) := by
  intro b
  rw [Work.runFrom_giveBack]
  exact .of_eq rfl rfl rfl rfl

theorem pure (a : α) : Beside (pure a : Work σ κ Ledger α) := giveBack (.ok a)

theorem throw (f : Failure) : Beside (throw f : Work σ κ Ledger α) := giveBack (.error f)

theorem log (e : Event) : Beside (Work.log e : Work σ κ Ledger Unit) := of_idle (.log e) (.log e)

theorem requestStop (r : StopRequest) : Beside (Work.requestStop r : Work σ κ Ledger Unit) :=
  of_idle (.requestStop r) (.requestStop r)

theorem bind {k : α → Work σ κ Ledger β} (hx : Beside x) (hk : ∀ a, Beside (k a)) :
    Beside (x >>= k) := by
  intro b
  have h := hx b
  rw [runFrom_bind]
  rcases hr : runFrom x b with ⟨f | a, b₁⟩ <;> rw [hr] at h
  · exact h
  · exact h.trans (hk a b₁)

theorem get_bind {k : Bench σ κ Ledger → Work σ κ Ledger α} (hk : ∀ b, Beside (k b)) :
    Beside (get >>= k) := fun b => hk b b

theorem noticesStop : Beside (Round.noticesStop : Work σ κ Ledger Bool) := by
  refine get_bind fun b => ?_
  split
  · exact (log _).bind fun _ => pure true
  · exact pure false

theorem pause (seconds : Float) : Beside (Work.pause seconds : Work σ κ Ledger Unit) :=
  of_idle (.pause seconds) (.pause seconds)

end Beside

theorem beside_throwIf (c : Prop) [Decidable c] (f : Failure) :
    Beside (if c then throw f else pure () : Work σ κ Ledger Unit) := by
  split
  · exact .throw f
  · exact .pure ()

/-- What is to happen after a round is beside the books, also where it fails. -/
theorem beside_follow (plan : HookScript) (request : StopRequest) (n : Nat) :
    Beside (plan.follow request n : Work σ κ Ledger Unit) := by
  unfold HookScript.follow
  dsimp only
  split
  · refine (Beside.requestStop request).bind fun _ => ?_
    split
    · exact beside_throwIf _ _
    · exact .pure ()
  · split
    · exact beside_throwIf _ _
    · exact .pure ()

theorem runFrom_recordRound (result : RoundResult) (b : Bench σ κ Ledger) :
    runFrom (recordRound result) b = (.ok (), { b with
      ledger := b.ledger.enter result
      steps := b.steps ++ [.status (b.ledger.enter result).status] }) := rfl

/-! ### Deeds -/

/-- What happens to a poller that concerns its books. -/
inductive Deed where
  /-- A use begins. -/
  | begun (op : Op)
  /-- A round came to a result, with these verdicts of the callback, and was entered. -/
  | round (result : RoundResult) (vs : List Verdict)
  /-- A round was cancelled, after these verdicts, and was not entered. -/
  | broken (vs : List Verdict)
  /-- A round was entered by hand. -/
  | entered (result : RoundResult)
  /-- The loop of a run has ended. -/
  | stopping
  /-- A run has ended. -/
  | stopped

namespace Deed

/-- The verdicts of the callback in a deed. -/
def verdicts : Deed → List Verdict
  | round _ vs | broken vs => vs
  | begun _ | entered _ | stopping | stopped => []

/-- What a deed does to the books. -/
def apply (l : Ledger) : Deed → Ledger
  | round result _ | entered result => l.enter result
  | stopping => { l with status := .stopping }
  | stopped => { l with status := .stopped }
  | begun _ | broken _ => l

/-- A deed from one bench to another. -/
inductive Takes (p : Poller σ κ) : Deed → Bench σ κ Ledger → Bench σ κ Ledger → Prop where
  /-- Nothing changes when a use begins. -/
  | begun (op : Op) (b : Bench σ κ Ledger) : Takes p (.begun op) b b
  /-- A round comes to a result, and is then entered. -/
  | round {b after told : Bench σ κ Ledger} {result : RoundResult} {t : List Step}
    (hround : runFrom p.round.run b = (.ok result, after)) (ht : after.steps = b.steps ++ t)
    (haside : Aside after told) :
    Takes p (.round result (Mailroom.verdicts t)) b (runFrom (recordRound result) told).2
  /-- A round is cancelled. -/
  | broken {b after : Bench σ κ Ledger} {f : Failure} {t : List Step}
    (hround : runFrom p.round.run b = (.error f, after)) (ht : after.steps = b.steps ++ t) :
    Takes p (.broken (Mailroom.verdicts t)) b after
  /-- A round is entered by hand. -/
  | entered (result : RoundResult) (b : Bench σ κ Ledger) :
    Takes p (.entered result) b (runFrom (recordRound result) b).2
  /-- The poller is stopping. -/
  | stopping (b : Bench σ κ Ledger) : Takes p .stopping b (runFrom (takeStatus .stopping) b).2
  /-- The poller has stopped. -/
  | stopped (b : Bench σ κ Ledger) : Takes p .stopped b (runFrom (takeStatus .stopped) b).2

variable {p : Poller σ κ} {d : Deed} {b b' : Bench σ κ Ledger}

theorem Takes.ledger_eq (h : d.Takes p b b') : b'.ledger = d.apply b.ledger := by
  cases h with
  | begun | entered | stopping | stopped => rfl
  | @round b after told result t hround _ haside =>
    have hkept := p.round.aloof_run.ledger_eq b
    rw [hround] at hkept
    show told.ledger.enter result = b.ledger.enter result
    rw [haside.ledger, hkept]
  | broken hround _ =>
    have hkept := p.round.aloof_run.ledger_eq b
    rw [hround] at hkept
    exact hkept

end Deed

/-- These are the deeds on the way from one bench to another; whatever else is done there is beside
the books. -/
inductive Chronicle (p : Poller σ κ) : Bench σ κ Ledger → List Deed → Bench σ κ Ledger → Prop where
  /-- Nothing is done. -/
  | nil (b : Bench σ κ Ledger) : Chronicle p b [] b
  /-- Something is done beside the books. -/
  | aside {b b₁ b' : Bench σ κ Ledger} {ds : List Deed} (h : Aside b b₁)
    (hrest : Chronicle p b₁ ds b') : Chronicle p b ds b'
  /-- A deed is done. -/
  | deed {d : Deed} {b b₁ b' : Bench σ κ Ledger} {ds : List Deed} (h : d.Takes p b b₁)
    (hrest : Chronicle p b₁ ds b') : Chronicle p b (d :: ds) b'

namespace Chronicle

variable {p : Poller σ κ} {b b₁ b' : Bench σ κ Ledger} {ds es : List Deed}

theorem of_aside (h : Aside b b') : p.Chronicle b [] b' := .aside h (.nil b')

theorem of_deed {d : Deed} (h : d.Takes p b b') : p.Chronicle b [d] b' := .deed h (.nil b')

theorem append (h : p.Chronicle b ds b₁) (k : p.Chronicle b₁ es b') :
    p.Chronicle b (ds ++ es) b' := by
  induction h with
  | nil => exact k
  | aside ha _ ih => exact .aside ha (ih k)
  | deed hd _ ih => exact .deed hd (ih k)

theorem append_aside (h : p.Chronicle b ds b₁) (k : Aside b₁ b') : p.Chronicle b ds b' :=
  List.append_nil ds ▸ h.append (.of_aside k)

/-- Up to any of its deeds, a chronicle is one of a moment on the way. -/
theorem split (h : p.Chronicle b (ds ++ es) b') :
    ∃ b₁, p.Chronicle b ds b₁ ∧ p.Chronicle b₁ es b' := by
  generalize hall : ds ++ es = all at h
  induction h generalizing ds with
  | nil b =>
    obtain ⟨rfl, rfl⟩ := List.append_eq_nil_iff.mp hall
    exact ⟨b, .nil b, .nil b⟩
  | aside ha _ ih =>
    obtain ⟨b₁, h₁, h₂⟩ := ih hall
    exact ⟨b₁, .aside ha h₁, h₂⟩
  | @deed d b _ _ _ hd hrest ih =>
    cases ds with
    | nil =>
      obtain rfl : es = _ := hall
      exact ⟨b, .nil b, .deed hd hrest⟩
    | cons d' ds =>
      obtain ⟨rfl, hds⟩ := List.cons.inj hall
      obtain ⟨b₁, h₁, h₂⟩ := ih hds
      exact ⟨b₁, .deed hd h₁, h₂⟩

/-- **The books are what the deeds make of them.** -/
theorem ledger_eq (h : p.Chronicle b ds b') : b'.ledger = ds.foldl Deed.apply b.ledger := by
  induction h with
  | nil => rfl
  | aside ha _ ih => rw [ih, ha.ledger]
  | deed hd _ ih => rw [ih, hd.ledger_eq, List.foldl_cons]

end Chronicle

/-! ### Chronicles of uses -/

/-- The deed is a round of the poller's own. -/
def Deed.isRound : Deed → Bool
  | round .. | broken _ => true
  | begun _ | entered _ | stopping | stopped => false

section

variable (p : Poller σ κ)

/-- The hook of a loop enters the result, and then does what is to happen. -/
def entering (after : Nat → Work σ κ Ledger Unit) (before : Nat) : Hook σ κ Ledger :=
  fun result => do
    recordRound result
    after ((← get).ledger.rounds - before)

variable {after : Nat → Work σ κ Ledger Unit} (hafter : ∀ n, Beside (after n))

include hafter in
/-- What follows a round enters it, and nothing else concerns the books. -/
theorem between_enters (before : Nat) (result : RoundResult) (b : Bench σ κ Ledger) :
    ∃ told, Aside b told ∧ Aside (runFrom (recordRound result) told).2
      (runFrom (p.round.between (entering after before) result) b).2 := by
  have hrest : Beside (do
      after ((← get).ledger.rounds - before)
      if ← Round.noticesStop then pure false
      else
        Work.pause (result.sleep p.round.settings)
        return !(← Round.noticesStop) : Work σ κ Ledger Bool) := by
    refine .get_bind fun c => (hafter _).bind fun _ => Beside.noticesStop.bind fun stop => ?_
    split
    · exact .pure false
    · exact (Beside.pause _).bind fun _ => Beside.noticesStop.bind fun _ => .pure _
  refine ⟨(runFrom (Work.log result.event) b).2, Beside.log _ b, ?_⟩
  unfold Round.between entering
  rw [Work.log, runFrom_bind_ok (runFrom_modify _ _), bind_assoc,
    runFrom_bind_ok (runFrom_recordRound result _), bind_assoc]
  exact hrest _

include hafter in
/-- The deeds of a loop are rounds, by induction on how far it is followed. -/
theorem chronicle_loop (before n : Nat) (b : Bench σ κ Ledger) :
    ∃ ds, p.Chronicle b ds (runFrom (p.round.loop (entering after before) n) b).2 ∧
      ∀ d ∈ ds, d.isRound = true := by
  induction n generalizing b with
  | zero => exact ⟨[], .nil b, by simp⟩
  | succ n ih =>
    rw [Round.loop_succ]
    obtain ⟨-, t, ht, -⟩ := p.round.run_path b
    rcases hround : runFrom (p.round.run : Work σ κ Ledger RoundResult) b with ⟨f | result, b₁⟩
    · rw [hround] at ht
      rw [runFrom_bind_error hround]
      exact ⟨[_], .of_deed (.broken hround ht), by simp [Deed.isRound]⟩
    · rw [hround] at ht
      rw [runFrom_bind_ok hround]
      obtain ⟨told, htold, hbetween⟩ := between_enters p hafter before result b₁
      have hone := (Chronicle.of_deed (Deed.Takes.round hround ht htold)).append_aside hbetween
      rcases hgo : runFrom (p.round.between (entering after before) result) b₁ with ⟨f | go, b₂⟩ <;>
        rw [hgo] at hone
      · rw [runFrom_bind_error hgo]
        exact ⟨_, hone, by simp [Deed.isRound]⟩
      · rw [runFrom_bind_ok hgo]
        cases go with
        | false => exact ⟨_, hone, by simp [Deed.isRound]⟩
        | true =>
          obtain ⟨ds, hds, hrounds⟩ := ih b₂
          exact ⟨_, hone.append hds, by simpa [Deed.isRound] using hrounds⟩

/-- What comes at the end of a loop. -/
def ending (ended : Except Failure Bool) : Work σ κ Ledger Bool := do
  takeStatus .stopping
  modify fun b => { b with cancelled := true }
  Work.log (.loopStopped (← get).ledger.rounds)
  Work.giveBack ended

theorem chronicle_ending (ended : Except Failure Bool) (b : Bench σ κ Ledger) :
    (runFrom (ending ended) b).1 = ended ∧
      p.Chronicle b [.stopping] (runFrom (ending ended) b).2 := by
  have hrest : Beside (do
      modify fun b => { b with cancelled := true }
      Work.log (.loopStopped (← get).ledger.rounds)
      Work.giveBack ended : Work σ κ Ledger Bool) :=
    .bind (fun _ => .of_eq rfl rfl rfl rfl) fun _ =>
      .get_bind fun _ => (Beside.log _).bind fun _ => .giveBack ended
  constructor
  · cases ended <;> rfl
  · exact .deed (.stopping b) (.of_aside (hrest _))

theorem loop_eq (after : Nat → Work σ κ Ledger Unit) (n : Nat) :
    p.loop after n = (do
      let d := p.settings.delivery
      Work.log (.loopStarted d.mailbox d.pattern d.includeSeen)
      let before := (← get).ledger.rounds
      match ← settle (p.round.loop (entering after before) n) with
      | .ok false => pure false
      | ended => ending ended) := rfl

include hafter in
/-- A loop that has ended is stopping, whatever ended it; one that is followed no further is not. -/
theorem chronicle_stopping (n : Nat) (b : Bench σ κ Ledger) :
    ∃ ds, (∀ d ∈ ds, d.isRound = true) ∧
      (((runFrom (p.loop after n) b).1 = .ok false ∧
          p.Chronicle b ds (runFrom (p.loop after n) b).2) ∨
        ((runFrom (p.loop after n) b).1 ≠ .ok false ∧
          p.Chronicle b (ds ++ [.stopping]) (runFrom (p.loop after n) b).2)) := by
  let d := p.settings.delivery
  obtain ⟨b₁, hlog⟩ : ∃ b₁, runFrom (Work.log (.loopStarted d.mailbox d.pattern d.includeSeen)) b =
    (.ok (), b₁) := ⟨_, rfl⟩
  have hstarted : Aside b b₁ := by
    have hlogged := Beside.log (.loopStarted d.mailbox d.pattern d.includeSeen) b
    rwa [hlog] at hlogged
  obtain ⟨ds, hds, hrounds⟩ := chronicle_loop p hafter b₁.ledger.rounds n b₁
  refine ⟨ds, hrounds, ?_⟩
  rw [loop_eq, runFrom_bind_ok hlog, runFrom_bind_ok (runFrom_get b₁),
    runFrom_bind_ok (runFrom_settle _ _)]
  rcases hloop : runFrom (p.round.loop (entering after b₁.ledger.rounds) n) b₁
    with ⟨f | ended, b₂⟩ <;> rw [hloop] at hds
  · obtain ⟨hout, hend⟩ := chronicle_ending p (.error f) b₂
    refine .inr ⟨fun h => ?_, .aside hstarted (hds.append hend)⟩
    cases hout.symm.trans h
  · cases ended with
    | false => exact .inl ⟨rfl, .aside hstarted hds⟩
    | true =>
      obtain ⟨hout, hend⟩ := chronicle_ending p (.ok true) b₂
      refine .inr ⟨fun h => ?_, .aside hstarted (hds.append hend)⟩
      cases hout.symm.trans h

/-- What comes at the end of a run. -/
def leaving (serving : Except Failure Unit) (ended : Except Failure Bool) :
    Work σ κ Ledger Bool := do
  Work.record (.serve p.server)
  if isFaulty ended || isFaulty serving then Work.log (.runFailed p.settings.name)
  takeStatus .stopped
  Work.log (.stopped p.settings.name (← get).ledger.delivered)
  pure true

theorem chronicle_leaving (serving : Except Failure Unit) (ended : Except Failure Bool)
    (b : Bench σ κ Ledger) : (runFrom (p.leaving serving ended) b).1 = .ok true ∧
      p.Chronicle b [.stopped] (runFrom (p.leaving serving ended) b).2 := by
  have hserve : Aside b (runFrom (Work.record (.serve p.server)) b).2 :=
    Beside.of_idle (.record rfl) (.record _) b
  have hrest : Beside (do
      Work.log (.stopped p.settings.name (← get).ledger.delivered)
      pure true : Work σ κ Ledger Bool) :=
    .get_bind fun _ => (Beside.log _).bind fun _ => .pure true
  unfold leaving
  rw [runFrom_bind_ok (Work.runFrom_record _ b)]
  dsimp only
  split
  · refine ⟨rfl, .aside (hserve.trans (Beside.log (.runFailed p.settings.name) _)) ?_⟩
    exact .deed (.stopped _) (.of_aside (hrest _))
  · exact ⟨rfl, .aside hserve (.deed (.stopped _) (.of_aside (hrest _)))⟩

/-- What comes before the loop of a run. -/
def entry (serving : Except Failure Unit) : Work σ κ Ledger Unit := do
  Work.record (.configure p.settings.logging p.settings.name)
  Work.log (.starting p.settings.name)
  modify fun b => { b with fragile := isFaulty serving }

theorem run_eq (after : Nat → Work σ κ Ledger Unit) (serving : Except Failure Unit) (n : Nat) :
    p.run after serving n = (do
      p.entry serving
      let ended ← settle (p.loop after n)
      modify fun b => { b with fragile := false }
      match ended with
      | .ok false => pure false
      | ended => p.leaving serving ended) := rfl

include hafter in
/-- A run that has ended has stopped. -/
theorem chronicle_run (serving : Except Failure Unit) (n : Nat) (b : Bench σ κ Ledger) :
    ∃ ds, (∀ d ∈ ds, d.isRound = true) ∧
      (((runFrom (p.run after serving n) b).1 = .ok false ∧
          p.Chronicle b ds (runFrom (p.run after serving n) b).2) ∨
        ((runFrom (p.run after serving n) b).1 = .ok true ∧
          p.Chronicle b (ds ++ [.stopping, .stopped]) (runFrom (p.run after serving n) b).2)) := by
  obtain ⟨b₁, hentry⟩ : ∃ b₁, runFrom (p.entry serving) b = (.ok (), b₁) := ⟨_, rfl⟩
  have hstarted : Aside b b₁ := by
    have hbeside : Beside (p.entry serving) :=
      .bind (.of_idle (.record rfl) (.record _)) fun _ => (Beside.log _).bind fun _ _ =>
        .of_eq rfl rfl rfl rfl
    have hentered := hbeside b
    rwa [hentry] at hentered
  obtain ⟨ds, hrounds, hends⟩ := chronicle_stopping p hafter n b₁
  refine ⟨ds, hrounds, ?_⟩
  rw [run_eq, runFrom_bind_ok hentry, runFrom_bind_ok (runFrom_settle _ _),
    runFrom_bind_ok (runFrom_modify _ _)]
  rcases hloop : runFrom (p.loop after n) b₁ with ⟨ended, b₂⟩
  rw [hloop] at hends
  have hcalmed : Aside b₂ { b₂ with fragile := false } := .of_eq rfl rfl rfl rfl
  rcases hends with ⟨hout, hds⟩ | ⟨hout, hds⟩
  · obtain rfl : ended = .ok false := hout
    exact .inl ⟨rfl, .aside hstarted (hds.append_aside hcalmed)⟩
  · obtain ⟨hleft, hleave⟩ := p.chronicle_leaving serving ended { b₂ with fragile := false }
    have hall := Chronicle.aside hstarted ((hds.append_aside hcalmed).append hleave)
    rw [List.append_assoc] at hall
    rcases ended with f | (_ | _)
    · exact .inr ⟨hleft, hall⟩
    · exact absurd rfl hout
    · exact .inr ⟨hleft, hall⟩

/-- What is done in a use, followed to its end. -/
def Op.Does : Op → List Deed → Prop
  | .run .., ds => ∃ rounds, (∀ d ∈ rounds, d.isRound = true) ∧ ds = rounds ++ [.stopping, .stopped]
  | .once, ds => ∃ d : Deed, d.isRound = true ∧ ds = [d]
  | .record result, ds => ds = [.entered result]
  | .stop, ds | .signal _, ds => ds = []

/-- What is done in a use, given whether it has ended: only a run may be left before its end. -/
def Op.Comes (op : Op) (ended : Bool) (ds : List Deed) : Prop :=
  if ended then op.Does ds else op.isRun = true ∧ ∀ d ∈ ds, d.isRound = true

/-- The use has ended, unless it is a run that is followed no further. -/
def hasEnded : Except Failure Bool → Bool
  | .ok ended => ended
  | .error _ => true

/-- A request to stop is accepted, beside the books. -/
theorem runFrom_request (request : StopRequest) (b : Bench σ κ Ledger) :
    ∃ b₁, runFrom (do
        Work.requestStop request
        pure true : Work σ κ Ledger Bool) b = (.ok true, b₁) ∧ Aside b b₁ := by
  obtain ⟨_, b₁, hrequest, -⟩ := Idle.requestStop request b
  have haside := Beside.requestStop request b
  rw [hrequest] at haside
  exact ⟨b₁, runFrom_bind_ok hrequest _, haside⟩

/-- Every use has its chronicle. -/
theorem chronicle_perform (op : Op) (b : Bench σ κ Ledger) :
    ∃ ds, p.Chronicle b ds (runFrom (p.perform op) b).2 ∧
      op.Comes (hasEnded (runFrom (p.perform op) b).1) ds := by
  cases op with
  | run alarms plan serving fuel =>
    have hset : Aside b { b with alarms } := .of_eq rfl rfl rfl rfl
    have hperform : runFrom (p.perform (.run alarms plan serving fuel)) b =
      runFrom (p.run (plan.follow (.stop p.settings.name)) serving fuel) { b with alarms } := rfl
    rw [hperform]
    obtain ⟨ds, hrounds, ⟨hout, hds⟩ | ⟨hout, hds⟩⟩ := chronicle_run p
      (beside_follow plan (.stop p.settings.name)) serving fuel { b with alarms }
    · rw [hout]
      exact ⟨ds, .aside hset hds, rfl, hrounds⟩
    · rw [hout]
      exact ⟨_, .aside hset hds, ds, hrounds, rfl⟩
  | once =>
    obtain ⟨-, t, ht, -⟩ := p.round.run_path b
    rcases hround : runFrom (p.round.run : Work σ κ Ledger RoundResult) b with ⟨f | result, b₁⟩ <;>
      rw [hround] at ht
    · have honce : runFrom p.once b = (.error f, b₁) := runFrom_bind_error hround _
      rw [perform, runFrom_bind_error honce]
      exact ⟨_, .of_deed (.broken hround ht), _, rfl, rfl⟩
    · have honce : runFrom p.once b = (.ok result, (runFrom (recordRound result) b₁).2) :=
        runFrom_bind_ok hround _
      rw [perform, runFrom_bind_ok honce]
      exact ⟨_, .of_deed (.round hround ht (.of_eq rfl rfl rfl rfl)), _, rfl, rfl⟩
  | record result => exact ⟨_, .of_deed (.entered result b), rfl⟩
  | stop =>
    obtain ⟨b₁, hstop, haside⟩ := runFrom_request (.stop p.settings.name) b
    have hperform : runFrom (p.perform .stop) b = (.ok true, b₁) := hstop
    rw [hperform]
    exact ⟨[], .of_aside haside, rfl⟩
  | signal name =>
    obtain ⟨b₁, hstop, haside⟩ := runFrom_request (.signal name) b
    have hperform : runFrom (p.perform (.signal name)) b = (.ok true, b₁) := hstop
    rw [hperform]
    exact ⟨[], .of_aside haside, rfl⟩

/-- The uses of a row and what is done in each of them. Only a run that is followed no further keeps
the rest of the row from being done. -/
inductive History : List Op → List Deed → Prop where
  /-- There are no more uses. -/
  | nil : History [] []
  /-- A use, and what comes after it. -/
  | use {op : Op} {ops : List Op} {ds es : List Deed} (h : op.Does ds) (hrest : History ops es) :
    History (op :: ops) (.begun op :: (ds ++ es))
  /-- A run that is followed no further. -/
  | cut {op : Op} {ops : List Op} {ds : List Deed} (hrun : op.isRun = true)
    (hrounds : ∀ d ∈ ds, d.isRound = true) : History (op :: ops) (.begun op :: ds)

/-- **Every row of uses has its chronicle**, by induction on the uses. -/
theorem chronicle_performAll (ops : List Op) (b : Bench σ κ Ledger) :
    ∃ ds, p.Chronicle b ds (runFrom (p.performAll ops) b).2 ∧ History ops ds := by
  induction ops generalizing b with
  | nil => exact ⟨[], .nil b, .nil⟩
  | cons op ops ih =>
    obtain ⟨ds, hds, hcomes⟩ := p.chronicle_perform op b
    have hbegun : (Deed.begun op).Takes p b b := .begun op b
    rw [performAll, runFrom_bind_ok (runFrom_settle _ _)]
    rcases hop : runFrom (p.perform op) b with ⟨f | (_ | _), b₁⟩ <;> rw [hop] at hds hcomes
    · obtain ⟨es, hes, hhistory⟩ := ih b₁
      exact ⟨_, .deed hbegun (hds.append hes), .use hcomes hhistory⟩
    · obtain ⟨hrun, hrounds⟩ := hcomes
      exact ⟨_, .deed hbegun hds, .cut hrun hrounds⟩
    · obtain ⟨es, hes, hhistory⟩ := ih b₁
      exact ⟨_, .deed hbegun (hds.append hes), .use hcomes hhistory⟩

end

end Mailroom.Poller
