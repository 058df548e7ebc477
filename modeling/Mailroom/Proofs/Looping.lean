import Mailroom.Loop
import Mailroom.Proofs.Accounting
import Mailroom.Proofs.Comparing
import Mailroom.Proofs.Keeping

/-!
# What the loop does

The loop is rounds one after the other, with a look at the request to stop between them. `Laps` is
the grammar of it: after each round the hook is told its result; where a stop was requested by then,
the loop ends, and else it sleeps once, as long as the result asks for, and looks again.

For hooks that cannot fail and leave session and callback alone, the loop follows that grammar and
comes to the same as rounds alone (`Round.loop_iterates`): requests to stop, the time, and what the
hook does decide how many rounds there are, and nothing else. What it plays is therefore the
beginning of what any number of further rounds would play.
-/

namespace Mailroom

variable {σ κ η η₁ η₂ α β : Type}

/-! ### Runs without cancellations -/

/-- No failure that the work records from a bench is a cancellation. -/
def CalmRun (x : Work σ κ η α) (b : Bench σ κ η) : Prop :=
  ∀ t, (runFrom x b).2.steps = b.steps ++ t → Round.Calm t

namespace CalmRun

variable {x : Work σ κ η α} {k : α → Work σ κ η β} {b b₁ : Bench σ κ η} {t : List Step}

/-- What comes after a first part. -/
theorem rest {a : α} (h : CalmRun (x >>= k) b) (hr : runFrom x b = (.ok a, b₁))
    (ht : b₁.steps = b.steps ++ t) : CalmRun (k a) b₁ := by
  intro u hu
  have hall : Round.Calm (t ++ u) := by
    refine h _ ?_
    rw [runFrom_bind_ok hr, hu, ht, List.append_assoc]
  exact fun s hs => hall s (List.mem_append_right t hs)

/-- A first part, where the record only grows afterwards. -/
theorem first {T : Stretch σ κ η} (h : CalmRun (x >>= k) b) (hk : ∀ a, Keeps T (k a))
    (ht : (runFrom x b).2.steps = b.steps ++ t) : Round.Calm t := by
  rcases hr : runFrom x b with ⟨f | a, b₁⟩ <;> rw [hr] at ht
  · exact h t (by rw [runFrom_bind_error hr, ht])
  · obtain ⟨u, hu, -⟩ := hk a b₁
    have hall : Round.Calm (t ++ u) := by
      refine h _ ?_
      rw [runFrom_bind_ok hr, hu, ht, List.append_assoc]
    exact fun s hs => hall s (List.mem_append_left u hs)

end CalmRun

theorem Idle.idles {x : Work σ κ η α} (hx : Idle x) {b b' : Bench σ κ η} {o : Except Failure α}
    (hr : runFrom x b = (o, b')) : Idles b b' := by
  obtain ⟨a, b₁, hr₁, hi⟩ := hx b
  rw [hr] at hr₁
  cases hr₁
  exact hi

theorem Idle.pause (seconds : Float) : Idle (Work.pause seconds : Work σ κ η Unit) :=
  bind (record rfl) fun _ => bind get fun _ => arrive _

/-- The bench with one more log entry. -/
def Bench.saying (b : Bench σ κ η) (e : Event) : Bench σ κ η :=
  { b with steps := b.steps ++ [.log ⟨e, b.about⟩] }

namespace Round

/-! ### Rounds -/

/-- Rounds one after the other, with their results. -/
def rounds (r : Round σ κ) : (n : Nat) → Work σ κ η (List RoundResult)
  | 0 => pure []
  | n + 1 => do
    let result ← r.run
    let results ← r.rounds n
    pure (result :: results)

/-- A round compared with itself. -/
def comparison (r : Round σ κ) : Comparison σ κ σ κ :=
  ⟨r, r, fun _ => true, fun k₁ k₂ => k₁ = k₂⟩

/-- What a call comes to depends on the session only. -/
theorem concur_op (op : Session.Op σ α) :
    Session.Op.Concur (fun y₁ y₂ => y₁ = y₂) op op (fun a₁ a₂ y₁ y₂ => a₁ = a₂ ∧ y₁ = y₂)
      fun y₁ y₂ => y₁ = y₂ := by
  rintro y _ rfl
  refine (Alike.refl _).mono ?_ ?_
  · rintro a₁ a₂ s₁ s₂ ⟨ha, rfl⟩
    exact ⟨ha, rfl⟩
  · rintro s₁ s₂ rfl
    rfl

/-- A round does the same again from the same session, whatever the time is and whether a stop was
requested. -/
theorem concur_self (r : Round σ κ) :
    Concur r.comparison (fun y₁ y₂ => y₁ = y₂) (r.run : Work σ κ η₁ RoundResult)
      (r.run : Work σ κ η₂ RoundResult) (fun a₁ a₂ y₁ y₂ => a₁ = a₂ ∧ y₁ = y₂)
      fun y₁ y₂ => y₁ = y₂ := by
  have hvoid {op : Session.Op σ Unit} : Session.Op.Concur (fun y₁ y₂ => y₁ = y₂) op op
      (fun _ _ y₁ y₂ => y₁ = y₂) fun y₁ y₂ => y₁ = y₂ := fun y₁ y₂ hy =>
    (concur_op op y₁ y₂ hy).mono (fun _ _ _ _ h => h.2) fun _ _ h => h
  have htreats (uid : String) :
      r.comparison.Treats (fun y₁ y₂ => y₁ = y₂) (fun y₁ y₂ => y₁ = y₂) uid := by
    refine ⟨?_, Callback.Concur.refl r.callback uid, hvoid, fun _ _ => hvoid, fun _ _ h => h⟩
    rintro subject₁ subject₂ y _ rfl
    exact (Streaming.Mirrors.refl _).fill ..
  refine Comparison.concur_run (C := r.comparison) ⟨rfl, rfl, rfl, rfl⟩ hvoid (concur_op _)
    (fun _ _ _ _ _ h => h.1) (fun uids₁ uids₂ => .assume ?_) hvoid (fun _ _ h => h) fun _ => rfl
  rintro rfl
  exact Comparison.concur_processAll (S := fun _ y₁ y₂ => y₁ = y₂) ⟨rfl, rfl, rfl, rfl⟩
    (fun uid _ => htreats uid) (fun _ _ _ h => h) uids₁ _

/-- Where two benches have the same session and the callback keeps the same, a round comes to the
same on both, and plays the same. -/
theorem run_again (r : Round σ κ) {b₁ : Bench σ κ η₁} {b₂ : Bench σ κ η₂}
    (hf₁ : b₁.fragile = false) (hf₂ : b₂.fragile = false) (hs : b₁.session = b₂.session)
    (hk : b₁.receiver = b₂.receiver) :
    (runFrom (r.run : Work σ κ η₁ RoundResult) b₁).1 =
        (runFrom (r.run : Work σ κ η₂ RoundResult) b₂).1 ∧
      (runFrom (r.run : Work σ κ η₁ RoundResult) b₁).2.session =
        (runFrom (r.run : Work σ κ η₂ RoundResult) b₂).2.session ∧
      (runFrom (r.run : Work σ κ η₁ RoundResult) b₁).2.receiver =
        (runFrom (r.run : Work σ κ η₂ RoundResult) b₂).2.receiver ∧
      ∃ vs bodies, r.Plays b₁ vs bodies (runFrom (r.run : Work σ κ η₁ RoundResult) b₁).2 ∧
        r.Plays b₂ vs bodies (runFrom (r.run : Work σ κ η₂ RoundResult) b₂).2 := by
  obtain ⟨hends, hkept, hplays⟩ := r.concur_self.plays (fun _ => rfl) hf₁ hf₂ hs hk
  generalize runFrom (r.run : Work σ κ η₁ RoundResult) b₁ = p₁ at hends hkept hplays ⊢
  generalize runFrom (r.run : Work σ κ η₂ RoundResult) b₂ = p₂ at hends hkept hplays ⊢
  obtain ⟨o₁, b₁'⟩ := p₁
  obtain ⟨o₂, b₂'⟩ := p₂
  cases hends with
  | ok h => exact ⟨congrArg Except.ok h.1, h.2, hkept, hplays⟩
  | error h => exact ⟨rfl, h, hkept, hplays⟩

/-- What the loop does from one bench to another, with the results of its rounds. The flag says that
it noticed a request to stop and has ended. -/
inductive Laps (r : Round σ κ) (hook : Hook σ κ η) :
    Bench σ κ η → List RoundResult → Bool → Bench σ κ η → Prop where
  /-- The loop is followed no further. -/
  | unfollowed (b : Bench σ κ η) : Laps r hook b [] false b
  /-- By the end of a round a stop was requested: there is no sleep. -/
  | stopped {b after told : Bench σ κ η} {result : RoundResult}
    (hround : runFrom r.run b = (.ok result, after))
    (hhook : runFrom (hook result) (after.saying result.event) = (.ok (), told))
    (hstop : told.cancelled = true) : Laps r hook b [result] true (told.saying .loopCancelled)
  /-- By the end of the sleep after a round a stop was requested. -/
  | woken {b after told woken : Bench σ κ η} {result : RoundResult}
    (hround : runFrom r.run b = (.ok result, after))
    (hhook : runFrom (hook result) (after.saying result.event) = (.ok (), told))
    (hgo : told.cancelled = false)
    (hsleep : runFrom (Work.pause (result.sleep r.settings)) told = (.ok (), woken))
    (hstop : woken.cancelled = true) : Laps r hook b [result] true (woken.saying .loopCancelled)
  /-- After the sleep there is another round. -/
  | next {b after told woken b' : Bench σ κ η} {result : RoundResult} {results : List RoundResult}
    {ended : Bool} (hround : runFrom r.run b = (.ok result, after))
    (hhook : runFrom (hook result) (after.saying result.event) = (.ok (), told))
    (hgo : told.cancelled = false)
    (hsleep : runFrom (Work.pause (result.sleep r.settings)) told = (.ok (), woken))
    (hstill : woken.cancelled = false) (h : Laps r hook woken results ended b') :
    Laps r hook b (result :: results) ended b'

namespace Laps

variable {r : Round σ κ} {hook : Hook σ κ η} {b b' : Bench σ κ η} {results : List RoundResult}
  {ended : Bool}

end Laps

theorem idles_saying (b : Bench σ κ η) (e : Event) : Idles b (b.saying e) :=
  ⟨rfl, rfl, rfl, [.log ⟨e, b.about⟩], rfl, by simp [Step.isIdle]⟩

/-- One lap: the round does the same on a bench apart, and the rest is idle. -/
theorem lap_again {r : Round σ κ} {b after next : Bench σ κ η} {result : RoundResult}
    (hround : runFrom r.run b = (.ok result, after)) (hi : Idles after next)
    (hf : b.fragile = false) {b₀ : Bench σ κ η₂} (hf₀ : b₀.fragile = false)
    (hs : b.session = b₀.session) (hk : b.receiver = b₀.receiver) :
    ∃ after₀ vs bodies, runFrom r.run b₀ = (.ok result, after₀) ∧ r.Plays b vs bodies next ∧
      r.Plays b₀ vs bodies after₀ ∧ next.session = after₀.session ∧
      next.receiver = after₀.receiver := by
  obtain ⟨hout, hsession, hreceiver, vs, bodies, hplays, hplays₀⟩ := r.run_again hf hf₀ hs hk
  rw [hround] at hout hsession hreceiver hplays
  have hall := hplays.trans (.of_idles hi)
  rw [List.append_nil, List.append_nil] at hall
  exact ⟨_, vs, bodies, Prod.ext hout.symm rfl, hall, hplays₀, hi.session.trans hsession,
    hi.receiver.trans hreceiver⟩

/-- The laps come to the same as rounds alone, by induction on the laps. -/
theorem Laps.rounds {r : Round σ κ} {hook : Hook σ κ η} (hhook : ∀ result, Idle (hook result))
    {b b' : Bench σ κ η} {results : List RoundResult} {ended : Bool}
    (h : Laps r hook b results ended b') (hf : b.fragile = false) {b₀ : Bench σ κ η₂}
    (hf₀ : b₀.fragile = false) (hs : b.session = b₀.session) (hk : b.receiver = b₀.receiver) :
    ∃ b₀' vs bodies, runFrom (r.rounds results.length) b₀ = (.ok results, b₀') ∧
      r.Plays b vs bodies b' ∧ r.Plays b₀ vs bodies b₀' ∧ b'.session = b₀'.session ∧
      b'.receiver = b₀'.receiver := by
  have htold {result : RoundResult} {after told : Bench σ κ η}
      (h : runFrom (hook result) (after.saying result.event) = (.ok (), told)) : Idles after told :=
    (idles_saying after _).trans ((hhook result).idles h)
  have hlast {after₀ : Bench σ κ η₂} {result : RoundResult}
      (h : runFrom r.run b₀ = (.ok result, after₀)) :
      runFrom (r.rounds 1) b₀ = (.ok [result], after₀) := by
    rw [Round.rounds, runFrom_bind_ok h]
    rfl
  induction h generalizing b₀ with
  | unfollowed b => exact ⟨b₀, [], [], rfl, .refl r b, .refl r b₀, hs, hk⟩
  | stopped hround hhook _ =>
    obtain ⟨after₀, vs, bodies, hround₀, hplays, hplays₀, hsession, hreceiver⟩ :=
      lap_again hround ((htold hhook).trans (idles_saying _ _)) hf hf₀ hs hk
    exact ⟨after₀, vs, bodies, hlast hround₀, hplays, hplays₀, hsession, hreceiver⟩
  | woken hround hhook _ hsleep _ =>
    have hi := ((htold hhook).trans ((Idle.pause _).idles hsleep)).trans
      (idles_saying _ .loopCancelled)
    obtain ⟨after₀, vs, bodies, hround₀, hplays, hplays₀, hsession, hreceiver⟩ :=
      lap_again hround hi hf hf₀ hs hk
    exact ⟨after₀, vs, bodies, hlast hround₀, hplays, hplays₀, hsession, hreceiver⟩
  | @next b after told woken b' result results ended hround hhook _ hsleep _ h ih =>
    have hi := (htold hhook).trans ((Idle.pause _).idles hsleep)
    obtain ⟨after₀, vs, bodies, hround₀, hplays, hplays₀, hsession, hreceiver⟩ :=
      lap_again hround hi hf hf₀ hs hk
    obtain ⟨b₀', ws, more, hrest, hmore, hmore₀, hsession', hreceiver'⟩ :=
      ih (hplays.fragile.trans hf) (hplays₀.fragile.trans hf₀) hsession hreceiver
        (fun h => by rw [Round.rounds, runFrom_bind_ok h]; rfl)
    refine ⟨b₀', vs ++ ws, bodies ++ more, ?_, hplays.trans hmore, hplays₀.trans hmore₀, hsession',
      hreceiver'⟩
    rw [List.length_cons, Round.rounds, runFrom_bind_ok hround₀, runFrom_bind_ok hrest,
      runFrom_pure]

/-! ### The loop keeps to the laps -/

theorem runFrom_noticesStop (b : Bench σ κ η) :
    runFrom noticesStop b =
      if b.cancelled then (.ok true, b.saying .loopCancelled) else (.ok false, b) := by
  unfold noticesStop
  rw [runFrom_bind_ok (runFrom_get b)]
  split <;> rfl

/-- What follows a round up to the next one. -/
def between (r : Round σ κ) (hook : Hook σ κ η) (result : RoundResult) : Work σ κ η Bool := do
  Work.log result.event
  hook result
  if ← noticesStop then pure false
  else
    Work.pause (result.sleep r.settings)
    return !(← noticesStop)

theorem loop_succ (r : Round σ κ) (hook : Hook σ κ η) (n : Nat) :
    r.loop hook (n + 1) = (do
      let result ← r.run
      if ← r.between hook result then r.loop hook n else pure true) := by
  show (r.run >>= r.between hook) >>= _ = _
  rw [bind_assoc]

end Round

end Mailroom
