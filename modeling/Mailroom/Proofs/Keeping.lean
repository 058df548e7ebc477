import Mailroom.Proofs.Scenes

/-!
# What every stretch of work keeps

A property of stretches of work (`Stretch`) relates a bench, the record of what happens then, and
the bench afterwards. Where it holds of idle stretches and of two stretches in a row (`Composes`),
it holds of a whole round as soon as it holds of every single call and of the staging of every
single candidate (`Round.keeps_run`). The rules here are for proving that work `Keeps` such a
property.
-/

namespace Mailroom

variable {σ κ η α β : Type}

/-- A property of stretches of work: where it starts, its record, and where it ends. -/
abbrev Stretch (σ κ η : Type) : Type := Bench σ κ η → List Step → Bench σ κ η → Prop

/-- Idle stretches have the property, and so have two stretches in a row that have it. -/
structure Composes (T : Stretch σ κ η) : Prop where
  /-- Stretches in which neither the session nor the callback has a share. -/
  idle : ∀ {b b' : Bench σ κ η} {t : List Step}, b'.fragile = b.fragile → b'.session = b.session →
    b'.receiver = b.receiver → b'.steps = b.steps ++ t → (∀ s ∈ t, s.isIdle = true) → T b t b'
  /-- Stretches in a row. -/
  trans : ∀ {b₁ b₂ b₃ : Bench σ κ η} {t u : List Step}, T b₁ t b₂ → T b₂ u b₃ → T b₁ (t ++ u) b₃

/-- Whatever the work ends in, its stretch has the property. -/
def Keeps (T : Stretch σ κ η) (x : Work σ κ η α) : Prop :=
  ∀ b : Bench σ κ η, ∃ t, (runFrom x b).2.steps = b.steps ++ t ∧ T b t (runFrom x b).2

namespace Keeps

variable {T : Stretch σ κ η} (hT : Composes T) {x : Work σ κ η α}

include hT

theorem of_idles (h : ∀ b, Idles b (runFrom x b).2) : Keeps T x := by
  intro b
  obtain ⟨t, ht, hidle⟩ := (h b).steps
  exact ⟨t, ht, hT.idle (h b).fragile (h b).session (h b).receiver ht hidle⟩

theorem idle (hx : Idle x) : Keeps T x := by
  refine of_idles hT fun b => ?_
  obtain ⟨a, b', hr, hi⟩ := hx b
  rw [hr]
  exact hi

theorem giveBack (r : Except Failure α) : Keeps T (Work.giveBack r : Work σ κ η α) := by
  refine of_idles hT fun b => ?_
  rw [Work.runFrom_giveBack]
  exact .refl b

theorem throw (f : Failure) : Keeps T (throw f : Work σ κ η α) := giveBack hT (.error f)

theorem wait (seconds : Float) : Keeps T (Work.wait seconds : Work σ κ η Unit) :=
  of_idles hT fun b => (idles_wait seconds b).1

theorem bind {k : α → Work σ κ η β} (hx : Keeps T x) (hk : ∀ a, Keeps T (k a)) :
    Keeps T (x >>= k) := by
  intro b
  obtain ⟨t, ht, hTt⟩ := hx b
  rcases hr : runFrom x b with ⟨f | a, b'⟩ <;> rw [hr] at ht hTt
  · rw [runFrom_bind_error hr]
    exact ⟨t, ht, hTt⟩
  · obtain ⟨u, hu, hTu⟩ := hk a b'
    rw [runFrom_bind_ok hr]
    exact ⟨t ++ u, by rw [hu, ht, List.append_assoc], hT.trans hTt hTu⟩

omit hT in
theorem settle (hx : Keeps T x) : Keeps T (settle x) := by
  intro b
  rw [runFrom_settle]
  exact hx b

theorem handling {handler : Failure → Work σ κ η α} (hx : Keeps T x)
    (hh : ∀ f, Keeps T (handler f)) : Keeps T (Work.handling x handler) := by
  refine bind hT (settle hx) fun r => ?_
  cases r with
  | ok a => exact giveBack hT (.ok a)
  | error f =>
    dsimp only
    split
    · exact hh f
    · exact throw hT f

theorem about (subject : Subject) (hx : Keeps T x) : Keeps T (Work.about subject x) := by
  intro b
  obtain ⟨t, ht, hTt⟩ := hx { b with about := some subject }
  have hstart : T b [] { b with about := some subject } :=
    hT.idle rfl rfl rfl (List.append_nil _).symm (by simp)
  rw [Work.runFrom_about]
  refine ⟨t, ht, ?_⟩
  generalize (runFrom x { b with about := some subject }).2 = b₁ at hTt
  have hend : T b₁ [] { b₁ with about := b.about } :=
    hT.idle rfl rfl rfl (List.append_nil _).symm (by simp)
  have hall := hT.trans (hT.trans hstart hTt) hend
  rwa [List.nil_append, List.append_nil] at hall

/-- Trying again and again, by induction on how many attempts are left. -/
theorem tryFrom (policy : Settings.Retry) (retryable : Failure → Bool) (operation : String)
    (hx : Keeps T x) (left n : Nat) :
    Keeps T (Backoff.tryFrom policy retryable operation x left n) := by
  induction left generalizing n with
  | zero => exact hx
  | succ left ih =>
    refine bind hT (settle hx) fun r => ?_
    cases r with
    | ok a => exact giveBack hT (.ok a)
    | error f =>
      dsimp only
      split
      · exact bind hT (idle hT (.log _)) fun _ => bind hT (idle hT (.record rfl)) fun _ =>
          bind hT (wait hT _) fun _ => ih (n + 1)
      · exact throw hT f

end Keeps

namespace Round

variable {T : Stretch σ κ η} (hT : Composes T) (r : Round σ κ)

include hT

/-! ### A candidate -/

section

variable {uid : String}
  (hmark : Keeps T (Work.call (.mark uid true) (fun _ => .done) (r.session.mark uid true)))
  (hmove : ∀ box, Keeps T (Work.call (.move uid box) (fun _ => .done) (r.session.move uid box)))

include hmove

theorem keeps_moveTo (box : String) : Keeps T (r.moveTo uid box : Work σ κ η Unit) := by
  unfold moveTo
  split
  · exact .idle hT (.pure ())
  · exact .handling hT (hmove box) fun f => .idle hT (.log _)

include hmark

theorem keeps_relocate (out : Outcome) : Keeps T (r.relocate uid out : Work σ κ η Unit) := by
  cases out with
  | delivered =>
    have hseen : Keeps T (r.markSeen uid : Work σ κ η Unit) :=
      .handling hT hmark fun f => .idle hT (.log _)
    exact .bind hT hseen fun _ => keeps_moveTo hT r hmove _
  | rejected => exact keeps_moveTo hT r hmove _
  | unreadable => exact .idle hT (.pure ())

/-- A candidate is staged and handed on, and then relocated. -/
theorem keeps_process (hstage : Keeps T (r.stageAndDeliver uid : Work σ κ η Outcome)) :
    Keeps T (r.process uid : Work σ κ η Outcome) :=
  .about hT _ (.bind hT hstage fun out =>
    .bind hT (keeps_relocate hT r hmark hmove out) fun _ => .idle hT (.pure _))

end

/-! ### A round -/

section

variable
  (hcall : ∀ {α : Type} {c : Session.Call} {shown : α → Session.Answer} {op : Session.Op σ α},
    (∀ uid, c ≠ .readBody uid) →
    (∀ x a xs y, op.Carries shown x a xs y → r.session.Does c x a xs y) →
    Keeps T (Work.call c shown op))
  (hstage : ∀ uid, Keeps T (r.stageAndDeliver uid : Work σ κ η Outcome))

include hcall

theorem keeps_connect : Keeps T (r.connect : Work σ κ η Unit) := by
  have hconnect : Keeps T (Work.call .connect (fun _ => .done) r.session.connect) :=
    hcall (fun _ => Session.Call.noConfusion) fun _ _ _ _ h => h
  refine .handling hT ?_ fun f => ?_
  · cases r.retry with
    | some policy => exact .tryFrom hT policy _ _ hconnect _ _
    | none => exact hconnect
  · split <;> exact .throw hT _

include hstage

/-- Each candidate is processed, by induction on the candidates. -/
theorem keeps_processAll (uids : List String) (result : RoundResult) :
    Keeps T (r.processAll uids result : Work σ κ η RoundResult) := by
  induction uids generalizing result with
  | nil => exact .idle hT (.pure _)
  | cons uid uids ih =>
    have hmark : Keeps T (Work.call (.mark uid true) (fun _ => .done) (r.session.mark uid true)) :=
      hcall (fun _ => Session.Call.noConfusion) fun _ _ _ _ h => h
    have hmove (box : String) :
        Keeps T (Work.call (.move uid box) (fun _ => .done) (r.session.move uid box)) :=
      hcall (fun _ => Session.Call.noConfusion) fun _ _ _ _ h => h
    exact .bind hT (keeps_process hT r hmark hmove (hstage uid)) fun out => ih _

/-- **What calls and staging keep, a round keeps.** -/
theorem keeps_run : Keeps T (r.run : Work σ κ η RoundResult) := by
  have hlist : Keeps T (r.list : Work σ κ η (List String)) :=
    .handling hT (hcall (fun _ => Session.Call.noConfusion) fun _ _ _ _ h => h)
      fun f => .throw hT _
  have hclose : Keeps T (r.close : Work σ κ η Unit) :=
    .handling hT (hcall (fun _ => Session.Call.noConfusion) fun _ _ _ _ h => h)
      fun f => .idle hT (.log _)
  have hvisit : Keeps T (do
      let uids ← r.list
      r.processAll uids { RoundResult.empty with candidates := uids.length } :
        Work σ κ η RoundResult) :=
    .bind hT hlist fun uids => keeps_processAll hT r hcall hstage uids _
  refine .handling hT (.bind hT (keeps_connect hT r hcall) fun _ => .bind hT (.settle hvisit)
    fun outcome => .bind hT hclose fun _ => .giveBack hT outcome) fun f => ?_
  split
  · exact .bind hT (.idle hT (.log _)) fun _ => .idle hT (.pure _)
  · split
    · exact .bind hT (.idle hT (.log _)) fun _ => .idle hT (.pure _)
    · exact .throw hT f

end

end Round

end Mailroom
