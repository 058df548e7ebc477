import Mailroom.Proofs.Cleanup
import Mailroom.Proofs.Heeding
import Mailroom.Proofs.Interrupting
import Mailroom.Store

/-!
# The life of a poller

A new poller is run once. Requests to stop come in any number and at any time (`Circumstances`):
before the run, from the callback while it has a candidate, while a round or the loop waits, after
each round, and when the run is over. The rounds may be cancelled, and the probe server may fail.

A run that ends has taken its course (`Poller.Life`): rounds one after the other, each entered once
when it has completed, and then the end. What happens in the course of it determines every moment on
the way: the status, the books, the flag, and what is announced (`Poller.lives`).

Requests that come while the session is at work on a call need no case of their own: unless waits
are cut off, a round with such requests comes to the same as one with requests after it, and leaves
the same bench but for what the requests log (`Poller.Passes.exchange`). Where waits are cut off, a
request cancels the call it comes in, and that a call is cancelled is among the things that a
session may do. One that comes while the probe server winds down finds the flag set, as those after
the run do.
-/

namespace Mailroom.Poller

variable {σ κ α : Type}

/-! ### Rounds -/

/-- A round of the poller, from one bench to another: what it comes to, and the requests that are
met in it. -/
structure Passes (p : Poller σ κ) (b : Bench σ κ Ledger) (o : Except Failure RoundResult)
    (ms : List Arrival) (b' : Bench σ κ Ledger) : Prop where
  /-- The round is carried out. -/
  run : runFrom (p.round.run : Work σ κ Ledger RoundResult) b = (o, b')
  /-- Nothing happens in it but the requests that come due and those of the callback. -/
  requests : ∃ ds, Heeds b ds ms b' ∧
    Asked p.callback b.fragile b.receiver ds (owns ms) b'.receiver
  /-- A session that was connected is closed by the last act. -/
  closed : ∃ as t, b'.steps = b.steps ++ t ∧ talk t = as.flatMap Act.steps ∧ Round.Closes as
  /-- Unless waits are cut off, it does not matter to the round whether a stop was requested. -/
  heedless : b.fragile = false → ∀ flag, ∃ again,
    runFrom (p.round.run : Work σ κ Ledger RoundResult) { b with cancelled := flag } = (o, again) ∧
      again.session = b'.session ∧ again.receiver = b'.receiver

theorem passes (p : Poller σ κ) (b : Bench σ κ Ledger) :
    ∃ ms, p.Passes b (runFrom (p.round.run : Work σ κ Ledger RoundResult) b).1 ms
      (runFrom (p.round.run : Work σ κ Ledger RoundResult) b).2 := by
  obtain ⟨ds, ms, hheeds, hasked⟩ := p.round.heedful_run b
  obtain ⟨as, t, ht, hpath, hprotocol⟩ := p.round.run_path b
  refine ⟨ms, rfl, ⟨ds, hheeds, hasked⟩, ⟨as, t, ht, hpath.talk_eq, hprotocol.closes⟩, ?_⟩
  intro hfragile flag
  let other : Bench σ κ Ledger := { b with cancelled := flag }
  have hother : other.fragile = false := hfragile
  obtain ⟨hout, hsession, hreceiver, -⟩ := p.round.run_again hother hfragile rfl rfl
  exact ⟨(runFrom p.round.run other).2, Prod.ext hout rfl, hsession, hreceiver⟩

/-- **Requests in the calls of a round count with those after it.** If requests come while the
session is at work on calls of the round, it comes to the same, and leaves the same bench as the
round with requests after it, but for what they log. -/
theorem Passes.exchange {p : Poller σ κ} {b after : Bench σ κ Ledger}
    {o : Except Failure RoundResult} {ms : List Arrival} (h : p.Passes b o ms after)
    (hb : b.fragile = false) {visits : List Step → List StopRequest}
    {y : Work σ κ Ledger RoundResult} (hy : Interrupted visits p.round.run y)
    (rs : List StopRequest) : ∃ later, runFrom (rs.forM Work.requestStop) after = (.ok (), later) ∧
      (runFrom y b).1 = o ∧ Kindred later (runFrom y b).2 ∧
      (rs ≠ [] → later.cancelled = true) := by
  obtain ⟨houtcome, hbench, -⟩ := hy.tallies hb
  rw [h.run] at houtcome hbench
  obtain ⟨later, hr, hmeets⟩ := Work.runFrom_requestStops rs after
  refine ⟨later, hr, houtcome.symm, (Kindred.meets hmeets).symm.trans hbench, fun hne => ?_⟩
  obtain ⟨r, rs, rfl⟩ := List.exists_cons_of_ne_nil hne
  rw [hmeets.happens.cancelled_eq]
  exact Bool.or_true _

/-! ### Outside of rounds -/

/-- Between two benches this happened and these alarms came due, and neither the session nor the
callback had a share in it. -/
structure Interlude (b : Bench σ κ Ledger) (hs : List Happening) (as : List Alarm)
    (b' : Bench σ κ Ledger) : Prop where
  /-- What happened. -/
  happens : Happens b hs b'
  /-- The requests that came due are those that are no longer to come. -/
  alarms : b.alarms.Perm (as ++ b'.alarms)
  /-- The session stays. -/
  session : b'.session = b.session
  /-- What the callback keeps stays. -/
  receiver : b'.receiver = b.receiver
  /-- Only idle steps are added to the record. -/
  steps : ∃ t, b'.steps = b.steps ++ t ∧ ∀ s ∈ t, s.isIdle = true

namespace Interlude

variable {b b₁ b' : Bench σ κ Ledger} {hs hs' : List Happening} {as as' : List Alarm}

theorem trans (h : Interlude b hs as b₁) (k : Interlude b₁ hs' as' b') :
    Interlude b (hs ++ hs') (as ++ as') b' := by
  obtain ⟨t, ht, hidle⟩ := h.steps
  obtain ⟨u, hu, hidle'⟩ := k.steps
  refine ⟨h.happens.append k.happens, ?_, k.session.trans h.session,
    k.receiver.trans h.receiver, t ++ u, ?_, List.forall_mem_append.mpr ⟨hidle, hidle'⟩⟩
  · rw [List.append_assoc]
    exact h.alarms.trans (k.alarms.append_left as)
  · rw [hu, ht, List.append_assoc]

/-- A happening, with a step in the record that shows it. -/
theorem single {h : Happening} (hh : h.Takes b b') (ha : b'.alarms = b.alarms)
    (hs : b'.session = b.session) (hr : b'.receiver = b.receiver)
    (ht : ∃ t, b'.steps = b.steps ++ t ∧ ∀ s ∈ t, s.isIdle = true) : Interlude b [h] [] b' :=
  ⟨.single hh, ha ▸ .refl _, hs, hr, ht⟩

/-- Requests that are met by idle work. -/
theorem of_heeds {ms : List Arrival} (h : Heeds b [] ms b') (hi : Idles b b') :
    Interlude b (asks (ms.map Arrival.request)) (dues ms) b' :=
  ⟨h.happens, h.alarms, hi.session, hi.receiver, hi.steps⟩

/-- Time passes in idle work. -/
theorem of_elapses {x : Work σ κ Ledger α} (he : ∀ b, Elapses b (runFrom x b).2) (hi : Idle x)
    (b : Bench σ κ Ledger) :
    ∃ as : List Alarm, Interlude b (asks (as.map Alarm.request)) as (runFrom x b).2 := by
  obtain ⟨as, hheeds, -⟩ := he b
  have hidles : Idles b (runFrom x b).2 := hi.idles rfl
  have hall := of_heeds hheeds hidles
  rw [List.map_map, dues_map_due] at hall
  exact ⟨as, hall⟩

/-- Nothing happens; idle steps are added to the record. -/
theorem uneventful {t : List Step} (hc : b'.cancelled = b.cancelled) (hl : b'.ledger = b.ledger)
    (ha : b'.alarms = b.alarms) (hs : b'.session = b.session) (hr : b'.receiver = b.receiver)
    (ht : b'.steps = b.steps ++ t) (hi : ∀ s ∈ t, s.isIdle = true)
    (hp : ∀ s ∈ t, s.isPlain = true) : Interlude b [] [] b' :=
  ⟨.of_uneventful ⟨hc, hl, t, ht, .of_plain hp⟩, ha ▸ .refl _, hs, hr, t, ht, hi⟩

/-- An idle step that shows nothing is added to the record. -/
theorem record (b : Bench σ κ Ledger) {s : Step} (hi : s.isIdle = true) (hp : s.isPlain = true) :
    Interlude b [] [] { b with steps := b.steps ++ [s] } :=
  uneventful rfl rfl rfl rfl rfl rfl (by simpa using hi) (by simpa using hp)

theorem saying (b : Bench σ κ Ledger) {e : Event} (h : e.isRequest = false) :
    Interlude b [] [] (b.saying e) := record b rfl (by simpa [Step.isPlain] using h)

/-- From now on waits are cut off, or no longer. -/
theorem fragile (b : Bench σ κ Ledger) (flag : Bool) :
    Interlude b [] [] { b with fragile := flag } :=
  uneventful rfl rfl rfl rfl rfl (List.append_nil _).symm (by simp) (by simp)

end Interlude

/-- Requests to stop are met one after the other. -/
theorem interlude_requestStops (rs : List StopRequest) (b : Bench σ κ Ledger) :
    ∃ b', runFrom (rs.forM Work.requestStop) b = (.ok (), b') ∧ Interlude b (asks rs) [] b' := by
  obtain ⟨b', hr, hmeets⟩ := Work.runFrom_requestStops rs b
  have hidles : Idles b b' := (Idle.forM (fun r => Idle.requestStop r) rs).idles hr
  have halarms : b'.alarms = b.alarms := by
    obtain ⟨flag, t, rfl, -⟩ := hmeets.exists_steps
    rfl
  exact ⟨b', hr, hmeets.happens, halarms ▸ .refl _, hidles.session, hidles.receiver, hidles.steps⟩

theorem interlude_took (s : Status) (b : Bench σ κ Ledger) :
    Interlude b [.took s] [] (runFrom (takeStatus s) b).2 :=
  .single ⟨(Bool.or_false _).symm, rfl, none, rfl⟩ rfl rfl rfl
    ⟨[.status s], rfl, by simp [Step.isIdle]⟩

theorem interlude_entered (result : RoundResult) (b : Bench σ κ Ledger) :
    Interlude b [.entered result] [] (runFrom (recordRound result) b).2 := by
  have hstatus : (b.ledger.enter result).status = standing (some result) :=
    (Happening.entered result).status_apply b.ledger
  refine .single ⟨(Bool.or_false _).symm, rfl, none, ?_⟩ rfl rfl rfl ⟨[.status _], rfl, ?_⟩
  · rw [runFrom_recordRound, hstatus]
    rfl
  · simp [Step.isIdle]

/-- The flag is set without a word. -/
theorem interlude_silent (b : Bench σ κ Ledger) :
    Interlude b [.asked .silent] [] { b with cancelled := true } :=
  .single ⟨(Bool.or_true _).symm, rfl, none, (List.append_nil _).symm⟩ rfl rfl rfl
    ⟨[], (List.append_nil _).symm, by simp⟩

/-! ### The course of a life -/

/-- The circumstances of a run, but for the requests that are set for a time. -/
structure Circumstances where
  /-- The requests before the run. -/
  before : List StopRequest
  /-- The requests after each round, which is given by its number. -/
  told : Nat → List StopRequest
  /-- What else follows each round may fail. -/
  outcome : Nat → Except Failure Unit
  /-- The probe server may fail. -/
  serving : Except Failure Unit
  /-- The requests when the run is over. -/
  later : List StopRequest

/-- What is to happen after a round. -/
def Circumstances.after (c : Circumstances) (n : Nat) : Work σ κ Ledger Unit := do
  (c.told n).forM Work.requestStop
  Work.giveBack (c.outcome n)

/-- Run a poller under some circumstances, for at most `fuel` rounds; the answer says whether the
run has ended. -/
def life (p : Poller σ κ) (c : Circumstances) (fuel : Nat) : Work σ κ Ledger Bool := do
  c.before.forM Work.requestStop
  let ended ← p.run c.after c.serving fuel
  c.later.forM Work.requestStop
  pure ended

/-- What happens after a round up to the next one: the round is entered, and requests come, after it
and in the sleep. -/
def lap (result : RoundResult) (rs : List StopRequest) (as : List Alarm) : List Happening :=
  .entered result :: (asks rs ++ asks (as.map Alarm.request))

/-- The rounds of a loop that ends, with what happens in them and between them; so many rounds came
before. -/
inductive Laps (p : Poller σ κ) (told : Nat → List StopRequest) :
    Nat → Bench σ κ Ledger → List Happening → Bench σ κ Ledger → Prop where
  /-- A round is cancelled, and that ends the loop. The round is not entered. -/
  | broken {k : Nat} {b b' : Bench σ κ Ledger} {f : Failure} {ms : List Arrival}
    (hround : p.Passes b (.error f) ms b') : Laps p told k b (asks (ms.map Arrival.request)) b'
  /-- A round completes and is entered, and the loop ends after it. -/
  | last {k : Nat} {b after b' : Bench σ κ Ledger} {result : RoundResult} {ms : List Arrival}
    {as : List Alarm} (hround : p.Passes b (.ok result) ms after)
    (hinterlude : Interlude after (lap result (told (k + 1)) as) as b') :
    Laps p told k b (asks (ms.map Arrival.request) ++ lap result (told (k + 1)) as) b'
  /-- A round completes and is entered, and another one follows. -/
  | next {k : Nat} {b after b₁ b' : Bench σ κ Ledger} {result : RoundResult} {ms : List Arrival}
    {as : List Alarm} {hs : List Happening} (hround : p.Passes b (.ok result) ms after)
    (hinterlude : Interlude after (lap result (told (k + 1)) as) as b₁)
    (hrest : Laps p told (k + 1) b₁ hs b') :
    Laps p told k b (asks (ms.map Arrival.request) ++ lap result (told (k + 1)) as ++ hs) b'

/-- What happens when the loop has ended: the poller is stopping, the flag is set in any case, and
then the poller has stopped. -/
def ends : List Happening := [.took .stopping, .asked .silent, .took .stopped]

/-- The course of a life: requests before the run, rounds, the end, and requests after the run. -/
inductive Life (p : Poller σ κ) (c : Circumstances) :
    Bench σ κ Ledger → List Happening → Bench σ κ Ledger → Prop where
  /-- There is one course only. -/
  | intro {b first last b' : Bench σ κ Ledger} {hs : List Happening}
    (hbefore : Interlude b (asks c.before) [] first) (hlaps : p.Laps c.told 0 first hs last)
    (hends : Interlude last (ends ++ asks c.later) [] b') :
    Life p c b (asks c.before ++ (hs ++ (ends ++ asks c.later))) b'

/-- The last round is over, and its session closed if it was connected; since then only idle steps
were added to the record. -/
def HasClosed (p : Poller σ κ) (b' : Bench σ κ Ledger) : Prop :=
  ∃ b o ms after u, p.Passes b o ms after ∧ b'.steps = after.steps ++ u ∧
    ∀ s ∈ u, s.isIdle = true

section

variable {p : Poller σ κ} {c : Circumstances} {told : Nat → List StopRequest} {k : Nat}
  {b b' : Bench σ κ Ledger} {hs : List Happening}

theorem Passes.happens {o : Except Failure RoundResult} {ms : List Arrival}
    (h : p.Passes b o ms b') : Happens b (asks (ms.map Arrival.request)) b' := by
  obtain ⟨ds, hheeds, -⟩ := h.requests
  exact hheeds.happens

/-- Laps are a way on which nothing else happens. -/
theorem Laps.happens (h : p.Laps told k b hs b') : Happens b hs b' := by
  induction h with
  | broken hround => exact hround.happens
  | last hround hinterlude => exact hround.happens.append hinterlude.happens
  | next hround hinterlude _ ih => exact (hround.happens.append hinterlude.happens).append ih

theorem Life.happens (h : p.Life c b hs b') : Happens b hs b' := by
  obtain ⟨hbefore, hlaps, hends⟩ := h
  exact hbefore.happens.append (hlaps.happens.append hends.happens)

theorem Laps.hasClosed (h : p.Laps told k b hs b') : p.HasClosed b' := by
  induction h with
  | broken hround => exact ⟨_, _, _, _, [], hround, (List.append_nil _).symm, by simp⟩
  | last hround hinterlude =>
    obtain ⟨u, hu, hidle⟩ := hinterlude.steps
    exact ⟨_, _, _, _, u, hround, hu, hidle⟩
  | next _ _ _ ih => exact ih

theorem Life.hasClosed (h : p.Life c b hs b') : p.HasClosed b' := by
  obtain ⟨-, hlaps, hends⟩ := h
  obtain ⟨begun, o, ms, after, u, hround, hu, hidle⟩ := hlaps.hasClosed
  obtain ⟨v, hv, hidle'⟩ := hends.steps
  refine ⟨begun, o, ms, after, u ++ v, hround, ?_, List.forall_mem_append.mpr ⟨hidle, hidle'⟩⟩
  rw [hv, hu, List.append_assoc]

/-! ### The statuses of a life -/

/-- Requests give a poller no status. -/
theorem statuses_asks (rs : List StopRequest) :
    (asks rs).filterMap Happening.status? = [] :=
  List.filterMap_eq_nil_iff.mpr (by simp [asks, Happening.status?])

/-- Requests enter nothing. -/
theorem results_asks (rs : List StopRequest) : (asks rs).filterMap Happening.result? = [] :=
  List.filterMap_eq_nil_iff.mpr (by simp [asks, Happening.result?])

/-- After each round that is entered the poller stands as its result says, and at no other time of
the loop does it take a status. -/
theorem Laps.statuses (h : p.Laps told k b hs b') : hs.filterMap Happening.status? =
    (hs.filterMap Happening.result?).map fun result => standing (some result) := by
  have hstatus (result : RoundResult) (rs : List StopRequest) (as : List Alarm) :
      (lap result rs as).filterMap Happening.status? = [standing (some result)] := by
    simp [lap, statuses_asks, Happening.status?]
  have hresult (result : RoundResult) (rs : List StopRequest) (as : List Alarm) :
      (lap result rs as).filterMap Happening.result? = [result] := by
    simp [lap, results_asks, Happening.result?]
  induction h with
  | broken _ => rw [statuses_asks, results_asks, List.map_nil]
  | last _ _ =>
    simp only [List.filterMap_append, statuses_asks, results_asks, hstatus, hresult]
    rfl
  | next _ _ _ ih =>
    simp only [List.filterMap_append, statuses_asks, results_asks, hstatus, hresult, ih]
    rfl

/-- In a life the poller stands as each round that is entered says; then it is stopping, and then it
has stopped. -/
theorem Life.statuses (h : p.Life c b hs b') : hs.filterMap Happening.status? =
    (hs.filterMap Happening.result?).map (fun result => standing (some result)) ++
      [.stopping, .stopped] := by
  obtain ⟨-, hlaps, -⟩ := h
  have hstatus : ends.filterMap Happening.status? = [.stopping, .stopped] := rfl
  have hresult : ends.filterMap Happening.result? = [] := rfl
  simp only [List.filterMap_append, statuses_asks, results_asks, hlaps.statuses, hstatus, hresult]
  simp

end

/-! ### Runs take that course -/

section

variable (p : Poller σ κ) (c : Circumstances)

/-- What comes after a round was entered. -/
def resting (d : Settings.Delivery) (result : RoundResult) : Work σ κ Ledger Bool := do
  if ← Round.noticesStop then pure false
  else
    Work.pause (result.sleep d)
    return !(← Round.noticesStop)

theorem interlude_resting (d : Settings.Delivery) (result : RoundResult) (b : Bench σ κ Ledger) :
    ∃ as : List Alarm,
      Interlude b (asks (as.map Alarm.request)) as (runFrom (resting d result) b).2 := by
  have hnotices (b : Bench σ κ Ledger) : Elapses b (runFrom Round.noticesStop b).2 := by
    rw [Round.runFrom_noticesStop]
    split
    · exact Elapses.log rfl b
    · exact .refl b
  have hidle : Idle (Round.noticesStop : Work σ κ Ledger Bool) := by
    refine .bind .get fun b => ?_
    split
    · exact .bind (.log _) fun _ => .pure true
    · exact .pure false
  refine Interlude.of_elapses (.bind hnotices fun stop => ?_) (.bind hidle fun stop => ?_) b
  · cases stop with
    | true => exact .refl
    | false => exact .bind (.pause _) fun _ => .bind hnotices fun _ => .refl
  · cases stop with
    | true => exact .pure false
    | false => exact .bind (.pause _) fun _ => .bind hidle fun _ => .pure _

/-- What follows a round, where so many came before it. -/
theorem interlude_between {before k : Nat} (result : RoundResult) {b : Bench σ κ Ledger}
    (hk : b.ledger.rounds = before + k) : ∃ as, Interlude b (lap result (c.told (k + 1)) as) as
      (runFrom (p.round.between (entering c.after before) result) b).2 := by
  have hevent : result.event.isRequest = false := by
    unfold RoundResult.event
    split <;> rfl
  have hentered :=
    (Interlude.saying b hevent).trans (interlude_entered result (b.saying result.event))
  obtain ⟨b₁, hr, hasked⟩ :=
    interlude_requestStops (c.told (k + 1)) (runFrom (recordRound result) (b.saying result.event)).2
  have hnumber : (b.ledger.enter result).rounds - before = k + 1 := by
    show b.ledger.rounds + 1 - before = k + 1
    omega
  have hbetween : runFrom (p.round.between (entering c.after before) result) b = runFrom (do
      Work.giveBack (c.outcome (k + 1))
      resting p.round.settings result) b₁ := by
    unfold Round.between entering
    rw [Work.log, runFrom_bind_ok (runFrom_modify _ _), bind_assoc,
      runFrom_bind_ok (runFrom_recordRound result _), bind_assoc,
      runFrom_bind_ok (runFrom_get _), hnumber, Circumstances.after, bind_assoc]
    exact runFrom_bind_ok hr _
  rw [hbetween]
  cases ho : c.outcome (k + 1) with
  | error f =>
    have hall := hentered.trans hasked
    rw [← List.append_nil (asks (c.told (k + 1)))] at hall
    exact ⟨[], hall⟩
  | ok u =>
    obtain ⟨as, has⟩ := interlude_resting p.round.settings result b₁
    exact ⟨as, hentered.trans (hasked.trans has)⟩

/-- **A loop that ends is laps**, by induction on how far it is followed. -/
theorem laps_loop {before k : Nat} (n : Nat) {b : Bench σ κ Ledger}
    (hk : b.ledger.rounds = before + k)
    (hended : (runFrom (p.round.loop (entering c.after before) n) b).1 ≠ .ok false) :
    ∃ hs, p.Laps c.told k b hs (runFrom (p.round.loop (entering c.after before) n) b).2 := by
  induction n generalizing b k with
  | zero => exact absurd rfl hended
  | succ n ih =>
    rw [Round.loop_succ] at hended ⊢
    obtain ⟨ms, hround⟩ := p.passes b
    rcases hr : runFrom (p.round.run : Work σ κ Ledger RoundResult) b with ⟨f | result, after⟩ <;>
      rw [hr] at hround
    · rw [runFrom_bind_error hr]
      exact ⟨_, .broken hround⟩
    · have hkept : after.ledger = b.ledger := by
        have hledger := p.round.aloof_run.ledger_eq b
        rwa [hr] at hledger
      obtain ⟨as, has⟩ :=
        interlude_between p c result (hkept ▸ hk : after.ledger.rounds = before + k)
      rw [runFrom_bind_ok hr] at hended ⊢
      rcases hgo : runFrom (p.round.between (entering c.after before) result) after
        with ⟨f | go, b₁⟩ <;> rw [hgo] at has
      · rw [runFrom_bind_error hgo]
        exact ⟨_, .last hround has⟩
      · rw [runFrom_bind_ok hgo] at hended ⊢
        cases go with
        | false => exact ⟨_, .last hround has⟩
        | true =>
          -- What comes between the rounds enters one of them, so the next one has the next number.
          have hk₁ : b₁.ledger.rounds = before + (k + 1) := by
            rw [has.happens.ledger_eq, rounds_foldl, hkept, hk]
            simp [lap, results_asks, Happening.result?, Nat.add_assoc]
          obtain ⟨hs, hlaps⟩ := ih hk₁ hended
          exact ⟨_, .next hround has hlaps⟩

/-- Nothing clears the flag at the end of a loop. -/
theorem interlude_ending (ended : Except Failure Bool) (b : Bench σ κ Ledger) :
    (runFrom (ending ended) b).1 = ended ∧
      Interlude b [.took .stopping, .asked .silent] [] (runFrom (ending ended) b).2 := by
  let taken := (runFrom (takeStatus .stopping) b).2
  have hset := (interlude_took .stopping b).trans (interlude_silent taken)
  have hlogged := hset.trans (Interlude.saying { taken with cancelled := true }
    (e := .loopStopped taken.ledger.rounds) rfl)
  cases ended <;> exact ⟨rfl, hlogged⟩

/-- A loop that ends has begun, had its laps, and is stopping. -/
theorem laps_stopping (n : Nat) (b : Bench σ κ Ledger)
    (hended : (runFrom (p.loop c.after n) b).1 ≠ .ok false) : ∃ first hs last,
      Interlude b [] [] first ∧ p.Laps c.told 0 first hs last ∧
        Interlude last [.took .stopping, .asked .silent] [] (runFrom (p.loop c.after n) b).2 := by
  let d := p.settings.delivery
  let first := b.saying (.loopStarted d.mailbox d.pattern d.includeSeen)
  have hlog : runFrom (Work.log (.loopStarted d.mailbox d.pattern d.includeSeen)) b =
    (.ok (), first) := rfl
  rw [loop_eq, runFrom_bind_ok hlog, runFrom_bind_ok (runFrom_get first),
    runFrom_bind_ok (runFrom_settle _ _)] at hended ⊢
  have hnone : first.ledger.rounds = first.ledger.rounds + 0 := rfl
  have hlaps := laps_loop p c n hnone
  rcases hloop : runFrom (p.round.loop (entering c.after first.ledger.rounds) n) first
    with ⟨f | ended, last⟩ <;> rw [hloop] at hlaps hended
  · obtain ⟨hs, hlaps⟩ := hlaps nofun
    exact ⟨first, hs, last, Interlude.saying b rfl, hlaps, (interlude_ending (.error f) last).2⟩
  · cases ended with
    | false => exact absurd rfl hended
    | true =>
      obtain ⟨hs, hlaps⟩ := hlaps nofun
      exact ⟨first, hs, last, Interlude.saying b rfl, hlaps, (interlude_ending (.ok true) last).2⟩

theorem interlude_leaving (serving : Except Failure Unit) (ended : Except Failure Bool)
    (b : Bench σ κ Ledger) :
    Interlude b [.took .stopped] [] (runFrom (p.leaving serving ended) b).2 := by
  have hserve : Interlude b [] [] { b with steps := b.steps ++ [.serve p.server] } :=
    .record b rfl rfl
  have hrest (b : Bench σ κ Ledger) : Interlude b [.took .stopped] [] (runFrom (do
      takeStatus .stopped
      Work.log (.stopped p.settings.name (← get).ledger.delivered)
      pure true : Work σ κ Ledger Bool) b).2 :=
    (interlude_took .stopped b).trans (Interlude.saying (runFrom (takeStatus .stopped) b).2 rfl)
  unfold leaving
  rw [runFrom_bind_ok (Work.runFrom_record _ b)]
  dsimp only
  split
  · have hlogged := hserve.trans (Interlude.saying _ (e := .runFailed p.settings.name) rfl)
    exact hlogged.trans (hrest _)
  · exact hserve.trans (hrest _)

/-- A run that ends has begun, had its laps, and has stopped. -/
theorem laps_run (n : Nat) (b : Bench σ κ Ledger)
    (hended : (runFrom (p.run c.after c.serving n) b).1 = .ok true) : ∃ first hs last,
      Interlude b [] [] first ∧ p.Laps c.told 0 first hs last ∧
        Interlude last ends [] (runFrom (p.run c.after c.serving n) b).2 := by
  obtain ⟨b₁, hentry, hentered⟩ : ∃ b₁, runFrom (p.entry c.serving) b = (.ok (), b₁) ∧
      Interlude b [] [] b₁ := by
    have hconfigured :=
      Interlude.record b (s := .configure p.settings.logging p.settings.name) rfl rfl
    have hstarting := hconfigured.trans (Interlude.saying _ (e := .starting p.settings.name) rfl)
    exact ⟨_, rfl, hstarting.trans (.fragile _ (isFaulty c.serving))⟩
  rw [run_eq, runFrom_bind_ok hentry, runFrom_bind_ok (runFrom_settle _ _),
    runFrom_bind_ok (runFrom_modify _ _)] at hended ⊢
  have hlaps := laps_stopping p c n b₁
  rcases hloop : runFrom (p.loop c.after n) b₁ with ⟨ended, b₂⟩
  rw [hloop] at hlaps hended
  have hne : ended ≠ .ok false := by
    rintro rfl
    cases hended
  obtain ⟨first, hs, last, hbegun, hlaps, hstopping⟩ := hlaps hne
  refine ⟨first, hs, last, hentered.trans hbegun, hlaps, ?_⟩
  have hstopped := (hstopping.trans (.fragile b₂ false)).trans
    (interlude_leaving p c.serving ended { b₂ with fragile := false })
  rcases ended with f | (_ | _)
  · exact hstopped
  · exact absurd rfl hne
  · exact hstopped

/-- A run that ends has taken its course, with the requests before it and after it. -/
theorem life_of_ended (fuel : Nat) (b : Bench σ κ Ledger)
    (hended : (runFrom (p.life c fuel) b).1 = .ok true) :
    ∃ hs, p.Life c b hs (runFrom (p.life c fuel) b).2 := by
  obtain ⟨b₁, hbefore, hasked⟩ := interlude_requestStops c.before b
  unfold life at hended ⊢
  rw [runFrom_bind_ok hbefore] at hended ⊢
  rcases hrun : runFrom (p.run c.after c.serving fuel) b₁ with ⟨f | ended, b₂⟩
  · rw [runFrom_bind_error hrun] at hended
    cases hended
  · obtain ⟨b₃, hlater, hlate⟩ := interlude_requestStops c.later b₂
    rw [runFrom_bind_ok hrun, runFrom_bind_ok hlater] at hended ⊢
    cases hended
    have hlaps := laps_run p c fuel b₁
    rw [hrun] at hlaps
    obtain ⟨first, hs, last, hbegun, hlaps, hstopped⟩ := hlaps rfl
    have hfirst := hasked.trans hbegun
    rw [List.append_nil] at hfirst
    exact ⟨_, .intro hfirst hlaps (hstopped.trans hlate)⟩

/-- **The life of a poller.** A new poller is run, whatever session and callback do, whatever
requests come, and whatever becomes of the rounds and of the probe server. If the run ends, it has
taken its course; at any moment on the way the happenings so far determine where the poller stands;
and at the end it has stopped, the flag is set, and the last session is closed. -/
theorem lives (fuel : Nat) {readings : List Int} {b : Bench σ κ Ledger}
    (hnew : b.ledger = .fresh readings) (hclear : b.cancelled = false)
    (hended : (runFrom (p.life c fuel) b).1 = .ok true) :
    ∃ hs, p.Life c b hs (runFrom (p.life c fuel) b).2 ∧
      (∀ xs ys, hs = xs ++ ys → ∃ m, Happens b xs m ∧
        Happens m ys (runFrom (p.life c fuel) b).2 ∧ Moment readings b xs m) ∧
      hs.filterMap Happening.status? =
        (hs.filterMap Happening.result?).map (fun result => standing (some result)) ++
          [.stopping, .stopped] ∧
      (runFrom (p.life c fuel) b).2.ledger.status = .stopped ∧
      (runFrom (p.life c fuel) b).2.cancelled = true ∧
      p.HasClosed (runFrom (p.life c fuel) b).2 := by
  obtain ⟨hs, hlife⟩ := life_of_ended p c fuel b hended
  have hmoment := hlife.happens.moment hnew hclear
  have hstatuses := hlife.statuses
  refine ⟨hs, hlife, ?_, hstatuses, ?_, ?_, hlife.hasClosed⟩
  · rintro xs ys rfl
    obtain ⟨m, hbefore, hafter⟩ := hlife.happens.split
    exact ⟨m, hbefore, hafter, hbefore.moment hnew hclear⟩
  · rw [hmoment.status, hstatuses]
    simp
  · rw [hmoment.cancelled]
    obtain ⟨-, -, -⟩ := hlife
    simp [requests, ends, Happening.request?]

/-- The callback stops the poller while it has the only candidate; two signals and another stop come
after that. -/
theorem lives_stopped :
    let d : Settings.Delivery := ⟨"INBOX", "", "", "", 1, 10, 64, .sha256⟩
    let p : Poller Store Unit := ⟨Store.session "mail",
      fun _ _ k => .requestStop (.stop "poller") (.done (.ok ()) k),
      ⟨"poller", 8080, d, ⟨3, 1, 60, 2⟩, ⟨"INFO", false⟩⟩, .usual⟩
    let s : Store := ⟨[("INBOX", [⟨"7", ⟨#[48, 49]⟩, "report", false⟩])], [], [], none, 4, none⟩
    let b : Bench Store Unit Ledger := .start s () (.fresh [5])
    let c : Circumstances := ⟨[], fun _ => [.signal "SIGTERM"], fun _ => .ok (), .ok (),
      [.stop "poller", .signal "SIGINT"]⟩
    ∃ hs, p.Life c b hs (runFrom (p.life c 5) b).2 ∧
      hs.filterMap Happening.status? = [.running, .stopping, .stopped] ∧
      requestsLogged false (runFrom (p.life c 5) b).2.steps =
        [.stopRequested "poller", .signalRepeated "SIGTERM", .signalRepeated "SIGINT"] := by
  intro d p s b c
  have hnew : b.ledger = .fresh [5] := rfl
  have hended : (runFrom (p.life c 5) b).1 = .ok true := by decide +kernel
  have hstatuses : statuses (runFrom (p.life c 5) b).2.steps = [.running, .stopping, .stopped] := by
    decide +kernel
  obtain ⟨hs, hlife, -⟩ := lives p c 5 hnew rfl hended
  obtain ⟨t, ht, hshown, -⟩ := hlife.happens.exists_steps
  refine ⟨hs, hlife, ?_, by decide +kernel⟩
  rw [← hshown, ← hstatuses, ht]
  rfl

end

end Mailroom.Poller
