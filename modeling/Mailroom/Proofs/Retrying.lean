import Mailroom.Proofs.Happenings
import Mailroom.Proofs.Order

/-!
# Trying again

What comes of an operation that is tried again and again (`Backoff.retrying`), for every operation,
whatever it does to the bench and however it ends from one attempt to the next. `Tried … n b b'`
says what lies behind attempt `n + 1`: the `n` attempts before it ended in failures that are worth
another attempt, and after each of them that was logged once and waited for once. `Ends` says how
trying ends: with the first attempt whose outcome is no such failure, or with the last one that the
settings allow; what comes of that attempt comes of the whole, and nothing is logged after it.

A wait can be cut off where waits are cancelled from outside. That ends the trying too.

Rounds try to connect in this way (`Round.retries`). The outcomes of the attempts are those of the
session's own operation, one after the other (`Session.attempt`).
-/

namespace Mailroom

variable {σ κ η α : Type}

/-! ### Waits -/

/-- Time passes, and nothing happens but that requests are met which come due. -/
structure Waits (b b' : Bench σ κ η) : Prop where
  /-- Waits are cancelled from outside as before. -/
  fragile : b'.fragile = b.fragile
  /-- The session stays. -/
  session : b'.session = b.session
  /-- What the callback keeps stays. -/
  receiver : b'.receiver = b.receiver
  /-- The candidate that is being processed stays. -/
  about : b'.about = b.about
  /-- Only log entries of requests are added to the record. -/
  steps : ∃ t, b'.steps = b.steps ++ t ∧ ∀ s ∈ t, s.isRequest = true

namespace Waits

variable {b b₁ b' : Bench σ κ η}

theorem of_eq (hf : b'.fragile = b.fragile) (hs : b'.session = b.session)
    (hr : b'.receiver = b.receiver) (ha : b'.about = b.about) (ht : b'.steps = b.steps) :
    Waits b b' :=
  ⟨hf, hs, hr, ha, [], by rw [ht, List.append_nil], by simp⟩

theorem refl (b : Bench σ κ η) : Waits b b := of_eq rfl rfl rfl rfl rfl

theorem trans (h : Waits b b₁) (k : Waits b₁ b') : Waits b b' := by
  obtain ⟨t, ht, hall⟩ := h.steps
  obtain ⟨u, hu, hall'⟩ := k.steps
  refine ⟨k.fragile.trans h.fragile, k.session.trans h.session, k.receiver.trans h.receiver,
    k.about.trans h.about, t ++ u, by rw [hu, ht, List.append_assoc], ?_⟩
  exact List.forall_mem_append.mpr ⟨hall, hall'⟩

/-- A request that comes due is met. -/
theorem meet (r : StopRequest) (b : Bench σ κ η) :
    ∃ b', runFrom (Work.meetRequest Work.logApart r) b = (.ok (), b') ∧ Waits b b' := by
  unfold Work.meetRequest
  rw [runFrom_bind_ok (runFrom_get b)]
  cases he : r.event? b.cancelled with
  | none => exact ⟨_, rfl, of_eq rfl rfl rfl rfl rfl⟩
  | some e =>
    refine ⟨_, rfl, rfl, rfl, rfl, rfl, [.log ⟨e, none⟩], rfl, ?_⟩
    simp [Step.isRequest, StopRequest.isRequest_of_event? he]

theorem meetAll (as : List Alarm) (b : Bench σ κ η) :
    ∃ b', runFrom (as.forM fun a => Work.meetRequest Work.logApart a.request) b = (.ok (), b') ∧
      Waits b b' := by
  induction as generalizing b with
  | nil => exact ⟨b, rfl, refl b⟩
  | cons a as ih =>
    obtain ⟨b₁, hr, hw⟩ := meet a.request b
    obtain ⟨b', hr', hw'⟩ := ih b₁
    refine ⟨b', ?_, hw.trans hw'⟩
    rw [← hr', ← runFrom_bind_ok hr fun _ => as.forM fun a =>
      Work.meetRequest Work.logApart a.request]
    rfl

/-- Time goes on, and the requests that come due are met. -/
theorem arrive (time : Float) (b : Bench σ κ η) :
    ∃ b', runFrom (do Work.meetAlarms time; modify fun b => { b with clock := time }) b =
      (.ok (), b') ∧ Waits b b' := by
  obtain ⟨b₁, hr, hw⟩ := meetAll (b.alarms.filter (·.time ≤ time))
    { b with alarms := b.alarms.filter fun a => !(a.time ≤ time) }
  have hmeet : runFrom (Work.meetAlarms time) b = (.ok (), b₁) := by
    rw [Work.meetAlarms, runFrom_bind_ok (runFrom_get b), runFrom_bind_ok (runFrom_set _ _), hr]
  refine ⟨{ b₁ with clock := time }, by rw [runFrom_bind_ok hmeet, runFrom_modify], ?_⟩
  exact ⟨hw.fragile, hw.session, hw.receiver, hw.about, hw.steps⟩

/-- A wait is one, also where it is cut off. -/
theorem wait (seconds : Float) (b : Bench σ κ η) :
    Waits b (runFrom (Work.wait seconds) b).2 := by
  unfold Work.wait
  split
  · rw [runFrom_bind_ok (runFrom_get b)]
    dsimp only
    split
    · exact refl b
    · split
      · next a _ =>
        obtain ⟨b', hr, hw⟩ := arrive (Float64.larger b.clock a.time) b
        rw [← bind_assoc, runFrom_bind_ok hr]
        exact hw
      · obtain ⟨b', hr, hw⟩ := arrive (b.clock + seconds) b
        rw [hr]
        exact hw
  · exact refl b

/-- A wait comes to its end, unless waits are cancelled from outside and it is cut off. -/
theorem ends (seconds : Float) (b : Bench σ κ η) :
    ∃ b', Waits b b' ∧ (runFrom (Work.wait seconds) b = (.ok (), b') ∨
      b.fragile = true ∧ runFrom (Work.wait seconds) b = (.error Work.cutOff, b')) := by
  refine ⟨_, wait seconds b, ?_⟩
  rcases (idles_wait seconds b).2 with hok | ⟨hfragile, hcut⟩
  · exact .inl (Prod.ext hok rfl)
  · exact .inr ⟨hfragile, Prod.ext hcut rfl⟩

end Waits

namespace Backoff

open Settings (Retry)

/-! ### What lies behind an attempt -/

/-- The bench once it is logged that attempt `n` failed, and for how long to wait. -/
def noted (policy : Retry) (operation : String) (n : Nat) (f : Failure) (b : Bench σ κ η) :
    Bench σ κ η :=
  { b with steps := b.steps ++
      [.log ⟨.retrying operation n f.text, b.about⟩, .backoff (waitAfter policy n)] }

/-- From a bench the operation was tried so many times. Each attempt ended in a failure that is
worth another one, and then that was logged and waited for. -/
inductive Tried (policy : Retry) (retryable : Failure → Bool) (operation : String)
    (x : Work σ κ η α) (b : Bench σ κ η) : Nat → Bench σ κ η → Prop where
  /-- There was no attempt. -/
  | never : Tried policy retryable operation x b 0 b
  /-- There was one more. -/
  | again {n : Nat} {b₁ b₂ b' : Bench σ κ η} {f : Failure}
    (h : Tried policy retryable operation x b n b₁) (hx : runFrom x b₁ = (.error f, b₂))
    (hf : retryable f = true)
    (hr : runFrom (Work.wait (waitAfter policy (n + 1 : Nat))) (noted policy operation (n + 1) f b₂)
      = (.ok (), b'))
    (hw : Waits (noted policy operation (n + 1) f b₂) b') :
    Tried policy retryable operation x b (n + 1) b'

/-- How trying ends after `n` attempts that were not the last, of `limit` that are allowed. -/
inductive Ends (policy : Retry) (retryable : Failure → Bool) (operation : String)
    (x : Work σ κ η α) (limit n : Nat) (b : Bench σ κ η) :
    Except Failure α × Bench σ κ η → Prop where
  /-- The next attempt is the last: no more are allowed, or it does not end in a failure that is
  worth another one. -/
  | last (h : n + 1 = limit ∨ ∀ f, (runFrom x b).1 = .error f → retryable f = false) :
    Ends policy retryable operation x limit n b (runFrom x b)
  /-- The wait after the next attempt is cancelled from outside. -/
  | cut {f : Failure} {b₁ b' : Bench σ κ η} (hx : runFrom x b = (.error f, b₁))
    (hf : retryable f = true) (hn : n + 1 < limit) (hfragile : b₁.fragile = true)
    (hr : runFrom (Work.wait (waitAfter policy (n + 1 : Nat))) (noted policy operation (n + 1) f b₁)
      = (.error Work.cutOff, b'))
    (hw : Waits (noted policy operation (n + 1) f b₁) b') :
    Ends policy retryable operation x limit n b (.error Work.cutOff, b')

variable {policy : Retry} {retryable : Failure → Bool} {operation : String}
  {x : Work σ κ η α} {b b₁ : Bench σ κ η}

/-- One attempt that others may follow. -/
theorem runFrom_tryFrom_succ (left n : Nat) :
    runFrom (tryFrom policy retryable operation x (left + 1) n) b = match runFrom x b with
      | (.ok a, b') => (.ok a, b')
      | (.error f, b') =>
        if retryable f then
          runFrom (do
            Work.wait (waitAfter policy n)
            tryFrom policy retryable operation x left (n + 1)) (noted policy operation n f b')
        else (.error f, b') := by
  rw [tryFrom, runFrom_bind_ok (runFrom_settle _ _)]
  rcases runFrom x b with ⟨f | a, b'⟩
  · cases hf : retryable f with
    | false => simp [hf]
    | true =>
      simp only [hf, if_true]
      have hlog : runFrom (Work.log (.retrying operation n f.text)) b' = (.ok (), { b' with
          steps := b'.steps ++ [.log ⟨.retrying operation n f.text, b'.about⟩] }) := rfl
      rw [runFrom_bind_ok hlog, runFrom_bind_ok (Work.runFrom_record _ _)]
      simp only [noted, List.append_assoc, List.cons_append, List.nil_append]
  · rfl

/-- Trying goes on from the attempts behind it, by induction on how many are left. -/
theorem Tried.ends {n : Nat} (h : Tried policy retryable operation x b n b₁) (left : Nat) :
    ∃ m b₂, Tried policy retryable operation x b m b₂ ∧ m ≤ n + left ∧
      Ends policy retryable operation x (n + left + 1) m b₂
        (runFrom (tryFrom policy retryable operation x left (n + 1)) b₁) := by
  induction left generalizing n b₁ with
  | zero => exact ⟨n, b₁, h, Nat.le_add_right n 0, .last (.inl rfl)⟩
  | succ left ih =>
    rw [runFrom_tryFrom_succ]
    rcases hx : runFrom x b₁ with ⟨f | a, b₂⟩
    · cases hf : retryable f with
      | false =>
        refine ⟨n, b₁, h, Nat.le_add_right n _, ?_⟩
        simp only [hf, Bool.false_eq_true, if_false]
        rw [← hx]
        refine .last (.inr fun g hg => ?_)
        rw [hx] at hg
        cases hg
        exact hf
      | true =>
        simp only [hf, if_true]
        obtain ⟨b₃, hw, hr | ⟨hfragile, hr⟩⟩ := Waits.ends (waitAfter policy (n + 1 : Nat))
          (noted policy operation (n + 1) f b₂)
        · -- The wait is over, and the next attempt follows.
          obtain ⟨m, b', htried, hm, hends⟩ := ih (h.again hx hf hr hw)
          rw [runFrom_bind_ok hr]
          have hlimit : n + (left + 1) = n + 1 + left := by omega
          rw [hlimit]
          exact ⟨m, b', htried, hm, hends⟩
        · rw [runFrom_bind_error hr]
          exact ⟨n, b₁, h, Nat.le_add_right n _, .cut hx hf (by omega) hfragile hr hw⟩
    · refine ⟨n, b₁, h, Nat.le_add_right n _, ?_⟩
      dsimp only
      rw [← hx]
      refine .last (.inr fun g hg => ?_)
      rw [hx] at hg
      cases hg

/-- An operation is tried again as long as that is worthwhile and allowed. -/
theorem retrying_ends (policy : Retry) (retryable : Failure → Bool) (operation : String)
    (x : Work σ κ η α) (b : Bench σ κ η) (hpolicy : 0 < policy.maxAttempts) :
    ∃ n b₁, n < policy.maxAttempts ∧ Tried policy retryable operation x b n b₁ ∧
      Ends policy retryable operation x policy.maxAttempts n b₁
        (runFrom (retrying policy retryable operation x) b) := by
  obtain ⟨n, b₁, htried, hn, hends⟩ :=
    (Tried.never : Tried policy retryable operation x b 0 b).ends (policy.maxAttempts - 1)
  have hlimit : 0 + (policy.maxAttempts - 1) + 1 = policy.maxAttempts := by omega
  rw [hlimit] at hends
  exact ⟨n, b₁, by omega, htried, hends⟩

end Backoff

/-! ### Attempts to connect -/

/-- What attempt `n + 1` to connect in a row comes to, if the first one is made in a given state. -/
def Session.attempt (s : Session σ) : Nat → σ → Except Failure Unit
  | 0, x => (runFrom s.connect ⟨x, []⟩).1
  | n + 1, x => s.attempt n (runFrom s.connect ⟨x, []⟩).2.state

/-- A call to connect is answered as the first attempt ends; the others come afterwards. -/
theorem Session.Performs.attempt_eq {s : Session σ} {x y : σ} {o : Except Failure Unit}
    {t : List Step} (h : s.Performs (.call .connect (.of (fun _ => .done) o)) x t y) :
    s.attempt 0 x = o ∧ ∀ n, s.attempt (n + 1) x = s.attempt n y := by
  obtain ⟨o', rs, hr, ha, -⟩ := h.does
  have ho : o' = o := by
    cases o <;> cases o' <;> cases ha <;> rfl
  constructor
  · rw [Session.attempt, hr, ho]
  · intro n
    rw [Session.attempt, hr]

namespace Round

/-- The answers to the first attempts to connect. -/
def attemptAnswers (s : Session σ) (x : σ) (n : Nat) : List Session.Answer :=
  (List.range n).map fun i => .of (fun _ => .done) (s.attempt i x)

theorem attemptAnswers_succ {s : Session σ} {x y : σ} {o : Except Failure Unit} {t : List Step}
    (h : s.Performs (.call .connect (.of (fun _ => .done) o)) x t y) (n : Nat) :
    attemptAnswers s x (n + 1) = .of (fun _ => .done) o :: attemptAnswers s y n := by
  obtain ⟨ho, hnext⟩ := h.attempt_eq
  rw [attemptAnswers, List.range_succ_eq_map, List.map_cons, List.map_map, ho]
  congr 1
  exact List.map_congr_left fun i _ => by rw [Function.comp, hnext]

/-- Which attempts to connect a row of them consists of, by induction on the row. -/
theorem Attempts.answers_eq {s : Session σ} {fragile : Bool} {left : Nat} {as : List Act}
    {o : Except Failure Unit} {x y : σ} {t : List Step} (h : Attempts fragile left as o)
    (hp : Path s x as t y) :
    ∃ n ≤ left, answers .connect as = attemptAnswers s x (n + 1) ∧
      (∀ i < n, ∃ f, s.attempt i x = .error f ∧ f.isFault = true) ∧
      ((o = s.attempt n x ∧ (n = left ∨ ∀ f, s.attempt n x = .error f → f.isFault = false)) ∨
        fragile = true ∧ o = .error Work.cutOff) := by
  induction h generalizing x t with
  | connected left =>
    obtain ⟨v, hperf, -⟩ := hp.single_inv
    obtain ⟨hx, -⟩ := hperf.attempt_eq (o := .ok ())
    refine ⟨0, Nat.zero_le left, (attemptAnswers_succ (o := .ok ()) hperf 0).symm, by simp, .inl ?_⟩
    rw [hx]
    exact ⟨rfl, .inr fun f hf => by cases hf⟩
  | exhausted f =>
    obtain ⟨v, hperf, -⟩ := hp.single_inv
    obtain ⟨hx, -⟩ := hperf.attempt_eq (o := .error f)
    refine ⟨0, Nat.le_refl 0, (attemptAnswers_succ (o := .error f) hperf 0).symm, by simp, .inl ?_⟩
    rw [hx]
    exact ⟨rfl, .inl rfl⟩
  | @again left f as o hf _ ih =>
    obtain ⟨v, w, y₁, hperf, hrest, -⟩ := hp.cons_inv
    obtain ⟨hx, hnext⟩ := hperf.attempt_eq (o := .error f)
    obtain ⟨n, hn, hanswers, hbefore, hlast⟩ := ih hrest
    refine ⟨n + 1, Nat.succ_le_succ hn, ?_, ?_, ?_⟩
    · rw [attemptAnswers_succ (o := .error f) hperf, ← hanswers, answers_cons]
      rfl
    · intro i hi
      cases i with
      | zero => exact ⟨f, hx, hf⟩
      | succ i =>
        rw [hnext]
        exact hbefore i (by omega)
    · rw [hnext]
      simpa using hlast
  | @cutAttempt left f hf =>
    obtain ⟨v, hperf, -⟩ := hp.single_inv
    obtain ⟨hx, -⟩ := hperf.attempt_eq (o := .error f)
    refine ⟨0, Nat.zero_le _, (attemptAnswers_succ (o := .error f) hperf 0).symm, by simp, .inl ?_⟩
    rw [hx]
    refine ⟨rfl, .inr fun g hg => ?_⟩
    cases hg
    exact hf
  | @cutWait left f hf hfragile =>
    obtain ⟨v, hperf, -⟩ := hp.single_inv
    have hanswers := attemptAnswers_succ (o := .error f) hperf 0
    exact ⟨0, Nat.zero_le _, hanswers.symm, by simp, .inr ⟨hfragile, rfl⟩⟩

/-! ### Attempts in a round -/

/-- How many attempts to connect are allowed. -/
def attemptsAllowed (r : Round σ κ) : Nat :=
  match r.retry with
  | some policy => policy.maxAttempts
  | none => 1

/-- The settings of retrying allow an attempt. -/
def AllowsAttempt (r : Round σ κ) : Prop := ∀ policy ∈ r.retry, 0 < policy.maxAttempts

theorem AllowsAttempt.left_add_one {r : Round σ κ} (h : r.AllowsAttempt) :
    r.attemptsLeft + 1 = r.attemptsAllowed := by
  unfold attemptsLeft attemptsAllowed
  cases hr : r.retry with
  | none => rfl
  | some policy => exact Nat.sub_add_cancel (h policy hr)

/-- What a round ends in if the last attempt to connect ends in a failure. -/
def unconnectedOutcome (r : Round σ κ) (f : Failure) : Except Failure RoundResult :=
  if f.isFault then .ok (.failed (r.connectFailure f)) else .error f

/-- A round begins with attempts to connect and makes no others. It goes on only if the last one
succeeded. -/
theorem Protocol.attempts {r : Round σ κ} {fragile : Bool} {as : List Act}
    {o : Except Failure RoundResult} (h : Protocol r fragile as o) :
    ∃ bs cs o', as = bs ++ cs ∧ Attempts fragile r.attemptsLeft bs o' ∧ answers .connect cs = [] ∧
      ∀ f, o' = .error f → cs = [] ∧ o = r.unconnectedOutcome f := by
  have hvisit {bs : List Act} {o' : Except Failure RoundResult} (a : Session.Answer)
      (k : Visit r bs o') : answers .connect (bs ++ [.call (.close true) a]) = [] := by
    cases k with
    | unlisted | cutListing => simp [answers, Act.answer?, listing]
    | listed hblocks =>
      rw [List.cons_append, answers_cons, answers_append,
        answers_eq_nil_of_within rfl (hblocks.within fun _ hu => hu)]
      simp [answers, Act.answer?, listing]
  cases h with
  | @unconnected as f hf h =>
    refine ⟨as, [], _, (List.append_nil _).symm, h, rfl, ?_⟩
    rintro g ⟨⟩
    exact ⟨rfl, (if_pos hf).symm⟩
  | @cutConnecting as f hf h =>
    refine ⟨as, [], _, (List.append_nil _).symm, h, rfl, ?_⟩
    rintro g ⟨⟩
    exact ⟨rfl, by simp [unconnectedOutcome, hf]⟩
  | closed h k _ | cutClosing h k _ => exact ⟨_, _, _, rfl, h, hvisit _ k, by simp⟩

/-- Where the first `k` attempts and no more end in ordinary failures, attempts stop at the latest
after one more. -/
theorem le_of_leading {outcome : Nat → Except Failure Unit} {k n left : Nat}
    (hfails : ∀ i < k, ∃ f, outcome i = .error f ∧ f.isFault = true)
    (hends : k ≤ left → ∀ f, outcome k = .error f → f.isFault = false) (hn : n ≤ left)
    (hbefore : ∀ i < n, ∃ f, outcome i = .error f ∧ f.isFault = true) :
    n ≤ k ∧ ((n = left ∨ ∀ f, outcome n = .error f → f.isFault = false) → n = min k left) := by
  have hle : n ≤ k := by
    by_contra hlt
    obtain ⟨f, hf, hfault⟩ := hbefore k (by omega)
    rw [hends (by omega) f hf] at hfault
    cases hfault
  refine ⟨hle, fun hlast => ?_⟩
  rcases hlast with rfl | hlast
  · omega
  · by_cases hlt : n < k
    · obtain ⟨f, hf, hfault⟩ := hfails n hlt
      rw [hlast f hf] at hfault
      cases hfault
    · omega

/-- The acts and the outcome of a round in which the first `k` attempts to connect, or all that are
allowed, end in ordinary failures. The session is in state `x` at first. -/
inductive Connecting (r : Round σ κ) (fragile : Bool) (x : σ) (k : Nat) (as : List Act)
    (o : Except Failure RoundResult) : Prop where
  /-- There is one attempt more than these, if that is allowed. If the last attempt fails, its
  failure decides what the round ends in, and the session is not closed. -/
  | settled
    (hanswers :
      answers .connect as = attemptAnswers r.session x (min (k + 1) r.attemptsAllowed))
    (hlast : ∀ f, r.session.attempt (min k (r.attemptsAllowed - 1)) x = .error f →
      (∀ expunge, answers (.close expunge) as = []) ∧ o = r.unconnectedOutcome f)
  /-- A wait is cut off before. -/
  | cut {n : Nat} (hfragile : fragile = true) (hn : n < min (k + 1) r.attemptsAllowed)
    (hanswers : answers .connect as = attemptAnswers r.session x (n + 1))
    (hclose : ∀ expunge, answers (.close expunge) as = []) (ho : o = .error Work.cutOff)

/-- How a round connects, if exactly `k` attempts at the start end in ordinary failures or more than
are allowed do. -/
theorem run_connecting (r : Round σ κ) (b : Bench σ κ η) (k : Nat) (hr : r.AllowsAttempt)
    (hfails : ∀ i < k, ∃ f, r.session.attempt i b.session = .error f ∧ f.isFault = true)
    (hends : k < r.attemptsAllowed →
      ∀ f, r.session.attempt k b.session = .error f → f.isFault = false) :
    ∃ as t, (runFrom (r.run : Work σ κ η RoundResult) b).2.steps = b.steps ++ t ∧
      talk t = as.flatMap Act.steps ∧
      Connecting r b.fragile b.session k as
        (runFrom (r.run : Work σ κ η RoundResult) b).1 := by
  obtain ⟨as, t, ht, hpath, hp⟩ := r.run_path b
  refine ⟨as, t, ht, hpath.talk_eq, ?_⟩
  obtain ⟨bs, cs, o, rfl, hattempts, hcs, ho⟩ := hp.attempts
  obtain ⟨y, t₁, t₂, hpath₁, -, -⟩ := hpath.append_inv
  obtain ⟨n, hn, hanswers, hbefore, hlast⟩ := hattempts.answers_eq hpath₁
  have hallowed := hr.left_add_one
  obtain ⟨hle, hmin⟩ := le_of_leading hfails (fun h => hends (by omega)) hn hbefore
  have hclose (expunge : Bool) : answers (.close expunge) bs = [] :=
    hattempts.answers_eq_nil Session.Call.noConfusion
  have hall : answers .connect (bs ++ cs) = attemptAnswers r.session b.session (n + 1) := by
    rw [answers_append, hcs, List.append_nil, hanswers]
  rcases hlast with ⟨rfl, hstop⟩ | ⟨hfragile, rfl⟩
  · have hn' := hmin hstop
    have hcount : min (k + 1) r.attemptsAllowed = n + 1 := by omega
    have hindex : min k (r.attemptsAllowed - 1) = n := by omega
    refine .settled (by rw [hall, hcount]) fun f hf => ?_
    rw [hindex] at hf
    obtain ⟨rfl, hout⟩ := ho f hf
    exact ⟨by simpa using hclose, hout⟩
  · obtain ⟨rfl, hout⟩ := ho _ rfl
    exact .cut hfragile (by omega) hall (by simpa using hclose) hout

/-- **Retrying**: whatever the settings, the failures that are worth another attempt and the
operation, it is tried again exactly as long as it ends in such a failure and the settings allow
another attempt; the last attempt decides what comes of it all. Between two attempts there are one
log entry, about the failure just seen, and one wait, and after the last one there is neither. In a
round, connecting is tried so: `k` ordinary failures at the start mean `k + 1` attempts, or as many
as are allowed. -/
theorem retries :
    (∀ (policy : Settings.Retry) (retryable : Failure → Bool) (operation : String)
      (x : Work σ κ η α) (b : Bench σ κ η), 0 < policy.maxAttempts →
      ∃ n b₁, n < policy.maxAttempts ∧ Backoff.Tried policy retryable operation x b n b₁ ∧
        Backoff.Ends policy retryable operation x policy.maxAttempts n b₁
          (runFrom (Backoff.retrying policy retryable operation x) b)) ∧
    ∀ (r : Round σ κ) (b : Bench σ κ η) (k : Nat), r.AllowsAttempt →
      (∀ i < k, ∃ f, r.session.attempt i b.session = .error f ∧ f.isFault = true) →
      (k < r.attemptsAllowed →
        ∀ f, r.session.attempt k b.session = .error f → f.isFault = false) →
      ∃ as t, (runFrom (r.run : Work σ κ η RoundResult) b).2.steps = b.steps ++ t ∧
        talk t = as.flatMap Act.steps ∧
        Connecting r b.fragile b.session k as
          (runFrom (r.run : Work σ κ η RoundResult) b).1 :=
  ⟨Backoff.retrying_ends, run_connecting⟩

/-- An operation that fails with a refused connection, with a value out of bounds and never again,
of which only the first is worth another attempt; and a round that is cancelled in its third of four
attempts to connect. -/
theorem retries_refused :
    let policy : Settings.Retry := ⟨4, 0, 0, 0⟩
    let refused : Failure := .plain .connectionRefused "refused"
    let cancelled : Failure := .plain .cancelled ""
    let x : Work Nat Nat Unit Unit :=
      Backoff.rehearsed [.error refused, .error (.plain .value "odd"), .ok ()]
    let connect : Session.Op Nat Unit := do
      let n ← Session.Op.look
      Session.Op.change (· + 1)
      throw (if n < 2 then refused else cancelled)
    let r : Round Nat Nat := ⟨⟨"mail", connect, fun _ => pure (), fun _ _ _ => pure [],
      fun _ => .done (.ok 0), fun _ _ => pure (), fun _ _ => pure ()⟩,
      fun _ _ => .done (.ok ()), ⟨"INBOX", "", "", "", 1, 10, 0, .sha256⟩, none, some policy,
      .usual⟩
    let b : Bench Nat Nat Unit := Bench.start 0 0 ()
    (∃ n b₁, n < 4 ∧ Backoff.Tried policy (·.kind.isA .os) "connect" x b n b₁ ∧
      Backoff.Ends policy (·.kind.isA .os) "connect" x 4 n b₁
        (runFrom (Backoff.retrying policy (·.kind.isA .os) "connect" x) b)) ∧
    ∃ as, answers .connect as = [.failed refused, .failed refused, .failed cancelled] ∧
      (∀ expunge, answers (.close expunge) as = []) ∧
      (runFrom (r.run : Work Nat Nat Unit RoundResult) b).1 = .error cancelled := by
  intro policy refused cancelled x connect r b
  have hr : r.AllowsAttempt := by
    rintro _ ⟨⟩
    decide
  have hfails : ∀ i < 2, ∃ f, r.session.attempt i b.session = .error f ∧ f.isFault = true := by
    intro i hi
    obtain rfl | rfl : i = 0 ∨ i = 1 := by omega
    · exact ⟨refused, rfl, rfl⟩
    · exact ⟨refused, rfl, rfl⟩
  have hends : 2 < r.attemptsAllowed →
      ∀ f, r.session.attempt 2 b.session = .error f → f.isFault = false := by
    rintro - _ ⟨⟩
    rfl
  obtain ⟨hwhole, hround⟩ := retries (σ := Nat) (κ := Nat) (η := Unit) (α := Unit)
  refine ⟨hwhole policy (·.kind.isA .os) "connect" x b (by decide), ?_⟩
  obtain ⟨as, t, -, -, ⟨hanswers, hlast⟩ | ⟨⟨⟩⟩⟩ := hround r b 2 hr hfails hends
  obtain ⟨hclose, ho⟩ := hlast cancelled rfl
  exact ⟨as, hanswers, hclose, ho⟩

end Round

end Mailroom
