import Mailroom.Proofs.Scenes

/-!
# Runs that agree

Two runs are compared step by step. `Agree R x₁ x₂ Q E` says that two computations which start in
states related by `R` end alike: both with values, and `Q` relates the values and the states, or
both with the same failure, and `E` relates the states. There is one rule for each way of putting
computations together.

A `Comparison` is of two rounds, as far as chosen candidates go. `Concur C S x₁ x₂ Q E` says of two
pieces of work, one for each round: the sessions start related by `S` and end related by `Q` or `E`,
what the callbacks keep stays related, and the same is played of the chosen candidates. Requests to
stop, the time, the hooks and the log may differ. Rounds concur when their calls and callbacks do
(`Comparison.concur_run`).
-/

namespace Mailroom

/-! ### Computations -/

section

variable {S₁ S₂ α₁ α₂ β₁ β₂ : Type}

/-- Two computations end alike: with values and states that `Q` relates, or with one failure in
states that `E` relates. -/
inductive Alike (Q : α₁ → α₂ → S₁ → S₂ → Prop) (E : S₁ → S₂ → Prop) :
    Except Failure α₁ × S₁ → Except Failure α₂ × S₂ → Prop where
  /-- Both end with a value. -/
  | ok {a₁ : α₁} {a₂ : α₂} {s₁ : S₁} {s₂ : S₂} (h : Q a₁ a₂ s₁ s₂) :
    Alike Q E (.ok a₁, s₁) (.ok a₂, s₂)
  /-- Both end with the same failure. -/
  | error {f : Failure} {s₁ : S₁} {s₂ : S₂} (h : E s₁ s₂) : Alike Q E (.error f, s₁) (.error f, s₂)

theorem Alike.mono {Q Q' : α₁ → α₂ → S₁ → S₂ → Prop} {E E' : S₁ → S₂ → Prop}
    {p₁ : Except Failure α₁ × S₁} {p₂ : Except Failure α₂ × S₂} (h : Alike Q E p₁ p₂)
    (hq : ∀ a₁ a₂ s₁ s₂, Q a₁ a₂ s₁ s₂ → Q' a₁ a₂ s₁ s₂) (he : ∀ s₁ s₂, E s₁ s₂ → E' s₁ s₂) :
    Alike Q' E' p₁ p₂ := by
  cases h with
  | ok h => exact .ok (hq _ _ _ _ h)
  | error h => exact .error (he _ _ h)

/-- A computation ends like itself. -/
theorem Alike.refl (p : Except Failure α₁ × S₁) :
    Alike (fun a₁ a₂ s₁ s₂ => a₁ = a₂ ∧ s₁ = s₂) (fun s₁ s₂ => s₁ = s₂) p p := by
  obtain ⟨f | a, s⟩ := p
  · exact .error rfl
  · exact .ok ⟨rfl, rfl⟩

/-- From related states, two computations end alike. -/
def Agree (R : S₁ → S₂ → Prop) (x₁ : ExceptT Failure (StateM S₁) α₁)
    (x₂ : ExceptT Failure (StateM S₂) α₂) (Q : α₁ → α₂ → S₁ → S₂ → Prop) (E : S₁ → S₂ → Prop) :
    Prop :=
  ∀ s₁ s₂, R s₁ s₂ → Alike Q E (runFrom x₁ s₁) (runFrom x₂ s₂)

namespace Agree

variable {R : S₁ → S₂ → Prop} {x₁ : ExceptT Failure (StateM S₁) α₁}
  {x₂ : ExceptT Failure (StateM S₂) α₂} {Q : α₁ → α₂ → S₁ → S₂ → Prop} {E : S₁ → S₂ → Prop}

theorem mono {R' : S₁ → S₂ → Prop} {Q' : α₁ → α₂ → S₁ → S₂ → Prop} {E' : S₁ → S₂ → Prop}
    (h : Agree R x₁ x₂ Q E) (hr : ∀ s₁ s₂, R' s₁ s₂ → R s₁ s₂)
    (hq : ∀ a₁ a₂ s₁ s₂, Q a₁ a₂ s₁ s₂ → Q' a₁ a₂ s₁ s₂) (he : ∀ s₁ s₂, E s₁ s₂ → E' s₁ s₂) :
    Agree R' x₁ x₂ Q' E' :=
  fun s₁ s₂ hs => (h s₁ s₂ (hr s₁ s₂ hs)).mono hq he

theorem pure {a₁ : α₁} {a₂ : α₂} (h : ∀ s₁ s₂, R s₁ s₂ → Q a₁ a₂ s₁ s₂) :
    Agree R (pure a₁) (pure a₂) Q E := fun s₁ s₂ hs => .ok (h s₁ s₂ hs)

theorem throw {f : Failure} (h : ∀ s₁ s₂, R s₁ s₂ → E s₁ s₂) :
    Agree R (throw f) (throw f) Q E := fun s₁ s₂ hs => .error (h s₁ s₂ hs)

/-- Two computations in a row. -/
theorem bind {k₁ : α₁ → ExceptT Failure (StateM S₁) β₁} {k₂ : α₂ → ExceptT Failure (StateM S₂) β₂}
    {Q' : β₁ → β₂ → S₁ → S₂ → Prop} (hx : Agree R x₁ x₂ Q E)
    (hk : ∀ a₁ a₂, Agree (Q a₁ a₂) (k₁ a₁) (k₂ a₂) Q' E) :
    Agree R (x₁ >>= k₁) (x₂ >>= k₂) Q' E := by
  intro s₁ s₂ hs
  have h := hx s₁ s₂ hs
  rcases h₁ : runFrom x₁ s₁ with ⟨o₁, s₁'⟩
  rcases h₂ : runFrom x₂ s₂ with ⟨o₂, s₂'⟩
  rw [h₁, h₂] at h
  cases h with
  | ok h =>
    rw [runFrom_bind_ok h₁, runFrom_bind_ok h₂]
    exact hk _ _ _ _ h
  | error h =>
    rw [runFrom_bind_error h₁, runFrom_bind_error h₂]
    exact .error h

theorem change_bind {f₁ : S₁ → S₁} {f₂ : S₂ → S₂}
    {k₁ : PUnit → ExceptT Failure (StateM S₁) α₁} {k₂ : PUnit → ExceptT Failure (StateM S₂) α₂}
    {R' : S₁ → S₂ → Prop} (h : ∀ s₁ s₂, R s₁ s₂ → R' (f₁ s₁) (f₂ s₂))
    (hk : Agree R' (k₁ ()) (k₂ ()) Q E) : Agree R (modify f₁ >>= k₁) (modify f₂ >>= k₂) Q E :=
  fun s₁ s₂ hs => hk _ _ (h s₁ s₂ hs)

end Agree

end

/-! ### Work -/

variable {σ₁ σ₂ κ₁ κ₂ η₁ η₂ α₁ α₂ β₁ β₂ : Type}

/-- Two rounds to compare. -/
structure Comparison (σ₁ κ₁ σ₂ κ₂ : Type) where
  /-- The one. -/
  first : Round σ₁ κ₁
  /-- The other. -/
  second : Round σ₂ κ₂
  /-- Which candidates are compared, and whether what concerns no candidate is. -/
  picks : Option String → Bool
  /-- How what the callbacks keep is related. -/
  kept : κ₁ → κ₂ → Prop

namespace Comparison

/-- The other way round. -/
def swap (C : Comparison σ₁ κ₁ σ₂ κ₂) : Comparison σ₂ κ₂ σ₁ κ₁ :=
  ⟨C.second, C.first, C.picks, fun k₂ k₁ => C.kept k₁ k₂⟩

/-- The scenes that are compared. -/
def scenes (C : Comparison σ₁ κ₁ σ₂ κ₂) (vs : List Scene) : List Scene :=
  vs.filter fun v => C.picks v.uid?

/-- The bodies that are compared. -/
def bodies (C : Comparison σ₁ κ₁ σ₂ κ₂) (hs : List (String × Bytes)) : List (String × Bytes) :=
  hs.filter fun h => C.picks (some h.1)

theorem scenes_eq_self {C : Comparison σ₁ κ₁ σ₂ κ₂} (h : ∀ o, C.picks o = true) (vs : List Scene) :
    C.scenes vs = vs := List.filter_eq_self.mpr fun v _ => h v.uid?

theorem bodies_eq_self {C : Comparison σ₁ κ₁ σ₂ κ₂} (h : ∀ o, C.picks o = true)
    (hs : List (String × Bytes)) : C.bodies hs = hs :=
  List.filter_eq_self.mpr fun p _ => h (some p.1)

/-- From a bench each, the two runs go on, and the same is played as far as it is compared. -/
def Same (C : Comparison σ₁ κ₁ σ₂ κ₂) (b₁ b₁' : Bench σ₁ κ₁ η₁) (b₂ b₂' : Bench σ₂ κ₂ η₂) : Prop :=
  ∃ vs₁ vs₂ hs₁ hs₂, C.first.Plays b₁ vs₁ hs₁ b₁' ∧ C.second.Plays b₂ vs₂ hs₂ b₂' ∧
    C.scenes vs₁ = C.scenes vs₂ ∧ C.bodies hs₁ = C.bodies hs₂

/-- The benches of two runs that started at two given ones meet: the sessions are related by `S`,
what the callbacks keep is related, and the same was played. No wait is cancelled from outside. -/
structure Meets (C : Comparison σ₁ κ₁ σ₂ κ₂) (base₁ : Bench σ₁ κ₁ η₁) (base₂ : Bench σ₂ κ₂ η₂)
    (S : σ₁ → σ₂ → Prop) (b₁ : Bench σ₁ κ₁ η₁) (b₂ : Bench σ₂ κ₂ η₂) : Prop where
  /-- No wait of the first run is cancelled. -/
  fragile₁ : b₁.fragile = false
  /-- No wait of the second run is cancelled. -/
  fragile₂ : b₂.fragile = false
  /-- The sessions. -/
  session : S b₁.session b₂.session
  /-- What the callbacks keep. -/
  receiver : C.kept b₁.receiver b₂.receiver
  /-- What was played. -/
  same : C.Same base₁ b₁ base₂ b₂

section

variable {C : Comparison σ₁ κ₁ σ₂ κ₂} {base₁ b₁ b₁' : Bench σ₁ κ₁ η₁}
  {base₂ b₂ b₂' : Bench σ₂ κ₂ η₂} {S S' : σ₁ → σ₂ → Prop}

theorem Same.refl (C : Comparison σ₁ κ₁ σ₂ κ₂) (b₁ : Bench σ₁ κ₁ η₁) (b₂ : Bench σ₂ κ₂ η₂) :
    C.Same b₁ b₁ b₂ b₂ := ⟨[], [], [], [], .refl _ _, .refl _ _, rfl, rfl⟩

theorem Same.trans (h : C.Same base₁ b₁ base₂ b₂) (k : C.Same b₁ b₁' b₂ b₂') :
    C.Same base₁ b₁' base₂ b₂' := by
  obtain ⟨vs₁, vs₂, hs₁, hs₂, h₁, h₂, hscenes, hbodies⟩ := h
  obtain ⟨ws₁, ws₂, ks₁, ks₂, k₁, k₂, kscenes, kbodies⟩ := k
  refine ⟨_, _, _, _, h₁.trans k₁, h₂.trans k₂, ?_, ?_⟩
  · unfold scenes at hscenes kscenes ⊢
    rw [List.filter_append, List.filter_append, hscenes, kscenes]
  · unfold bodies at hbodies kbodies ⊢
    rw [List.filter_append, List.filter_append, hbodies, kbodies]

theorem Same.swap (h : C.Same b₁ b₁' b₂ b₂') : C.swap.Same b₂ b₂' b₁ b₁' := by
  obtain ⟨vs₁, vs₂, hs₁, hs₂, h₁, h₂, hscenes, hbodies⟩ := h
  exact ⟨vs₂, vs₁, hs₂, hs₁, h₂, h₁, hscenes.symm, hbodies.symm⟩

theorem Same.of_idles (h₁ : Idles b₁ b₁') (h₂ : Idles b₂ b₂') : C.Same b₁ b₁' b₂ b₂' :=
  ⟨[], [], [], [], .of_idles h₁, .of_idles h₂, rfl, rfl⟩

theorem Meets.mono (h : C.Meets base₁ base₂ S b₁ b₂) (hs : ∀ y₁ y₂, S y₁ y₂ → S' y₁ y₂) :
    C.Meets base₁ base₂ S' b₁ b₂ := ⟨h.fragile₁, h.fragile₂, hs _ _ h.session, h.receiver, h.same⟩

/-- Both runs go on, and the same is played. -/
theorem Meets.go (h : C.Meets base₁ base₂ S b₁ b₂) (hs : S' b₁'.session b₂'.session)
    (hr : C.kept b₁'.receiver b₂'.receiver) (hsame : C.Same b₁ b₁' b₂ b₂') :
    C.Meets base₁ base₂ S' b₁' b₂' := by
  have hsame' := hsame
  obtain ⟨_, _, _, _, h₁, h₂, -, -⟩ := hsame'
  exact ⟨h₁.fragile.trans h.fragile₁, h₂.fragile.trans h.fragile₂, hs, hr, h.same.trans hsame⟩

/-- Two runs that meet and end in the same end alike. -/
theorem Meets.alike (h : C.Meets base₁ base₂ S b₁ b₂) (o : Except Failure α₁) :
    Alike (fun a₁ a₂ => C.Meets base₁ base₂ fun y₁ y₂ => a₁ = a₂ ∧ S y₁ y₂) (C.Meets base₁ base₂ S)
      (o, b₁) (o, b₂) := by
  cases o with
  | error f => exact .error h
  | ok a => exact .ok ⟨h.fragile₁, h.fragile₂, ⟨rfl, h.session⟩, h.receiver, h.same⟩

/-- Idle stretches change nothing about it. -/
theorem Meets.idle (h : C.Meets base₁ base₂ S b₁ b₂) (h₁ : Idles b₁ b₁') (h₂ : Idles b₂ b₂') :
    C.Meets base₁ base₂ S b₁' b₂' := by
  refine h.go ?_ ?_ (.of_idles h₁ h₂)
  · rw [h₁.session, h₂.session]
    exact h.session
  · rw [h₁.receiver, h₂.receiver]
    exact h.receiver

theorem Meets.swap (h : C.Meets base₁ base₂ S b₁ b₂) :
    C.swap.Meets base₂ base₁ (fun y₂ y₁ => S y₁ y₂) b₂ b₁ :=
  ⟨h.fragile₂, h.fragile₁, h.session, h.receiver, h.same.swap⟩

end

end Comparison

/-- From related sessions, two pieces of work end alike, and the same is played. -/
def Concur (C : Comparison σ₁ κ₁ σ₂ κ₂) (S : σ₁ → σ₂ → Prop) (x₁ : Work σ₁ κ₁ η₁ α₁)
    (x₂ : Work σ₂ κ₂ η₂ α₂) (Q : α₁ → α₂ → σ₁ → σ₂ → Prop) (E : σ₁ → σ₂ → Prop) : Prop :=
  ∀ base₁ base₂, Agree (C.Meets base₁ base₂ S) x₁ x₂
    (fun a₁ a₂ => C.Meets base₁ base₂ (Q a₁ a₂)) (C.Meets base₁ base₂ E)

/-- From related states of two sessions, two operations end alike. -/
def Session.Op.Concur (S : σ₁ → σ₂ → Prop) (op₁ : Op σ₁ α₁) (op₂ : Op σ₂ α₂)
    (Q : α₁ → α₂ → σ₁ → σ₂ → Prop) (E : σ₁ → σ₂ → Prop) : Prop :=
  ∀ y₁ y₂, S y₁ y₂ → Alike (fun a₁ a₂ r₁ r₂ => Q a₁ a₂ r₁.state r₂.state)
    (fun r₁ r₂ => E r₁.state r₂.state) (runFrom op₁ ⟨y₁, []⟩) (runFrom op₂ ⟨y₂, []⟩)

theorem Session.Op.Concur.of_agree {S E : σ₁ → σ₂ → Prop} {op₁ : Op σ₁ α₁} {op₂ : Op σ₂ α₂}
    {Q : α₁ → α₂ → σ₁ → σ₂ → Prop} (h : Agree (fun r₁ r₂ => S r₁.state r₂.state) op₁ op₂
      (fun a₁ a₂ r₁ r₂ => Q a₁ a₂ r₁.state r₂.state) fun r₁ r₂ => E r₁.state r₂.state) :
    Op.Concur S op₁ op₂ Q E := fun y₁ y₂ hy => h ⟨y₁, []⟩ ⟨y₂, []⟩ hy

namespace Concur

variable {C : Comparison σ₁ κ₁ σ₂ κ₂} {S S' E : σ₁ → σ₂ → Prop} {x₁ : Work σ₁ κ₁ η₁ α₁}
  {x₂ : Work σ₂ κ₂ η₂ α₂} {Q Q' : α₁ → α₂ → σ₁ → σ₂ → Prop}

theorem mono {E' : σ₁ → σ₂ → Prop} (h : Concur C S x₁ x₂ Q E)
    (hs : ∀ y₁ y₂, S' y₁ y₂ → S y₁ y₂) (hq : ∀ a₁ a₂ y₁ y₂, Q a₁ a₂ y₁ y₂ → Q' a₁ a₂ y₁ y₂)
    (he : ∀ y₁ y₂, E y₁ y₂ → E' y₁ y₂) : Concur C S' x₁ x₂ Q' E' := fun base₁ base₂ =>
  (h base₁ base₂).mono (fun _ _ hb => hb.mono hs) (fun a₁ a₂ _ _ hb => hb.mono (hq a₁ a₂))
    fun _ _ hb => hb.mono he

/-- More may end in other relations. -/
theorem weaken {E' : σ₁ → σ₂ → Prop} (h : Concur C S x₁ x₂ Q E)
    (hq : ∀ a₁ a₂ y₁ y₂, Q a₁ a₂ y₁ y₂ → Q' a₁ a₂ y₁ y₂) (he : ∀ y₁ y₂, E y₁ y₂ → E' y₁ y₂) :
    Concur C S x₁ x₂ Q' E' := h.mono (fun _ _ hy => hy) hq he

/-- What is known whatever the sessions are may be used. -/
theorem assume {p : Prop} (h : p → Concur C S x₁ x₂ Q E) :
    Concur C (fun y₁ y₂ => p ∧ S y₁ y₂) x₁ x₂ Q E := fun base₁ base₂ b₁ b₂ hb =>
  h hb.session.1 base₁ base₂ b₁ b₂ (hb.mono fun _ _ hy => hy.2)

/-- Where two runs meet in the end. -/
theorem meets (h : Concur C S x₁ x₂ Q E) {b₁ : Bench σ₁ κ₁ η₁} {b₂ : Bench σ₂ κ₂ η₂}
    (hf₁ : b₁.fragile = false) (hf₂ : b₂.fragile = false) (hs : S b₁.session b₂.session)
    (hk : C.kept b₁.receiver b₂.receiver) :
    C.Meets b₁ b₂ (fun y₁ y₂ => Alike Q E ((runFrom x₁ b₁).1, y₁) ((runFrom x₂ b₂).1, y₂))
      (runFrom x₁ b₁).2 (runFrom x₂ b₂).2 := by
  have hends := h b₁ b₂ b₁ b₂ ⟨hf₁, hf₂, hs, hk, .refl _ _ _⟩
  generalize runFrom x₁ b₁ = p₁ at hends
  generalize runFrom x₂ b₂ = p₂ at hends
  cases hends with
  | ok h => exact ⟨h.fragile₁, h.fragile₂, .ok h.session, h.receiver, h.same⟩
  | error h => exact ⟨h.fragile₁, h.fragile₂, .error h.session, h.receiver, h.same⟩

/-- Where everything is compared, the same is played. -/
theorem plays (h : Concur C S x₁ x₂ Q E) (hall : ∀ o, C.picks o = true) {b₁ : Bench σ₁ κ₁ η₁}
    {b₂ : Bench σ₂ κ₂ η₂} (hf₁ : b₁.fragile = false) (hf₂ : b₂.fragile = false)
    (hs : S b₁.session b₂.session) (hk : C.kept b₁.receiver b₂.receiver) :
    Alike Q E ((runFrom x₁ b₁).1, (runFrom x₁ b₁).2.session)
        ((runFrom x₂ b₂).1, (runFrom x₂ b₂).2.session) ∧
      C.kept (runFrom x₁ b₁).2.receiver (runFrom x₂ b₂).2.receiver ∧
      ∃ vs bodies, C.first.Plays b₁ vs bodies (runFrom x₁ b₁).2 ∧
        C.second.Plays b₂ vs bodies (runFrom x₂ b₂).2 := by
  obtain ⟨-, -, hends, hkept, vs₁, vs₂, bodies₁, bodies₂, hplays₁, hplays₂, hscenes, hbodies⟩ :=
    h.meets hf₁ hf₂ hs hk
  rw [Comparison.scenes_eq_self hall, Comparison.scenes_eq_self hall] at hscenes
  rw [Comparison.bodies_eq_self hall, Comparison.bodies_eq_self hall] at hbodies
  subst hscenes hbodies
  exact ⟨hends, hkept, vs₁, bodies₁, hplays₁, hplays₂⟩

theorem swap (h : Concur C.swap (fun y₂ y₁ => S y₁ y₂) x₂ x₁ (fun a₂ a₁ y₂ y₁ => Q a₁ a₂ y₁ y₂)
    fun y₂ y₁ => E y₁ y₂) : Concur C S x₁ x₂ Q E := by
  intro base₁ base₂ b₁ b₂ hb
  have hends := h base₂ base₁ b₂ b₁ hb.swap
  generalize runFrom x₁ b₁ = p₁ at hends
  generalize runFrom x₂ b₂ = p₂ at hends
  cases hends with
  | ok h => exact .ok h.swap
  | error h => exact .error h.swap

theorem pure {a₁ : α₁} {a₂ : α₂} (h : ∀ y₁ y₂, S y₁ y₂ → Q a₁ a₂ y₁ y₂) :
    Concur C S (pure a₁ : Work σ₁ κ₁ η₁ α₁) (pure a₂ : Work σ₂ κ₂ η₂ α₂) Q E :=
  fun _ _ => .pure fun _ _ hb => hb.mono h

theorem throw {f : Failure} (h : ∀ y₁ y₂, S y₁ y₂ → E y₁ y₂) :
    Concur C S (throw f : Work σ₁ κ₁ η₁ α₁) (throw f : Work σ₂ κ₂ η₂ α₂) Q E :=
  fun _ _ => .throw fun _ _ hb => hb.mono h

theorem bind {k₁ : α₁ → Work σ₁ κ₁ η₁ β₁} {k₂ : α₂ → Work σ₂ κ₂ η₂ β₂}
    {Q' : β₁ → β₂ → σ₁ → σ₂ → Prop} (hx : Concur C S x₁ x₂ Q E)
    (hk : ∀ a₁ a₂, Concur C (Q a₁ a₂) (k₁ a₁) (k₂ a₂) Q' E) :
    Concur C S (x₁ >>= k₁) (x₂ >>= k₂) Q' E :=
  fun base₁ base₂ => (hx base₁ base₂).bind fun a₁ a₂ => hk a₁ a₂ base₁ base₂

/-- Work that settles, and what follows each outcome. -/
theorem settle_bind {k₁ : Except Failure α₁ → Work σ₁ κ₁ η₁ β₁}
    {k₂ : Except Failure α₂ → Work σ₂ κ₂ η₂ β₂} {Q' : β₁ → β₂ → σ₁ → σ₂ → Prop}
    {E' : σ₁ → σ₂ → Prop} (hx : Concur C S x₁ x₂ Q E)
    (hok : ∀ a₁ a₂, Concur C (Q a₁ a₂) (k₁ (.ok a₁)) (k₂ (.ok a₂)) Q' E')
    (herror : ∀ f, Concur C E (k₁ (.error f)) (k₂ (.error f)) Q' E') :
    Concur C S (settle x₁ >>= k₁) (settle x₂ >>= k₂) Q' E' := by
  intro base₁ base₂ b₁ b₂ hb
  have h := hx base₁ base₂ b₁ b₂ hb
  rw [runFrom_bind_ok (runFrom_settle _ _), runFrom_bind_ok (runFrom_settle _ _)]
  generalize runFrom x₁ b₁ = p₁ at h
  generalize runFrom x₂ b₂ = p₂ at h
  cases h with
  | ok h => exact hok _ _ base₁ base₂ _ _ h
  | error h => exact herror _ base₁ base₂ _ _ h

/-- Idle work may come first on both sides. -/
theorem idle_bind {y₁ : Work σ₁ κ₁ η₁ β₁} {y₂ : Work σ₂ κ₂ η₂ β₂}
    {k₁ : β₁ → Work σ₁ κ₁ η₁ α₁} {k₂ : β₂ → Work σ₂ κ₂ η₂ α₂} (h₁ : Idle y₁) (h₂ : Idle y₂)
    (hk : ∀ a₁ a₂, Concur C S (k₁ a₁) (k₂ a₂) Q E) :
    Concur C S (y₁ >>= k₁) (y₂ >>= k₂) Q E := by
  intro base₁ base₂ b₁ b₂ hb
  obtain ⟨a₁, b₁', hr₁, hi₁⟩ := h₁ b₁
  obtain ⟨a₂, b₂', hr₂, hi₂⟩ := h₂ b₂
  rw [runFrom_bind_ok hr₁, runFrom_bind_ok hr₂]
  exact hk a₁ a₂ base₁ base₂ b₁' b₂' (hb.idle hi₁ hi₂)

/-- Idle work on both sides. -/
theorem idle (h₁ : Idle x₁) (h₂ : Idle x₂) (h : ∀ a₁ a₂ y₁ y₂, S y₁ y₂ → Q a₁ a₂ y₁ y₂) :
    Concur C S x₁ x₂ Q E := by
  rw [← bind_pure x₁, ← bind_pure x₂]
  exact idle_bind h₁ h₂ fun a₁ a₂ => .pure (h a₁ a₂)

theorem wait_bind {seconds : Float} {k₁ : Unit → Work σ₁ κ₁ η₁ α₁} {k₂ : Unit → Work σ₂ κ₂ η₂ α₂}
    (hk : Concur C S (k₁ ()) (k₂ ()) Q E) :
    Concur C S (Work.wait seconds >>= k₁) (Work.wait seconds >>= k₂) Q E := by
  intro base₁ base₂ b₁ b₂ hb
  obtain ⟨hi₁, ho₁⟩ := idles_wait seconds b₁
  obtain ⟨hi₂, ho₂⟩ := idles_wait seconds b₂
  have hok₁ := ho₁.resolve_right fun h => Bool.false_ne_true (hb.fragile₁.symm.trans h.1)
  have hok₂ := ho₂.resolve_right fun h => Bool.false_ne_true (hb.fragile₂.symm.trans h.1)
  rw [runFrom_bind_ok (Prod.ext hok₁ rfl), runFrom_bind_ok (Prod.ext hok₂ rfl)]
  exact hk base₁ base₂ _ _ (hb.idle hi₁ hi₂)

theorem about (subject₁ subject₂ : Subject) (hx : Concur C S x₁ x₂ Q E) :
    Concur C S (Work.about subject₁ x₁) (Work.about subject₂ x₂) Q E := by
  intro base₁ base₂ b₁ b₂ hb
  have hidles₁ (b : Bench σ₁ κ₁ η₁) (o : Option Subject) : Idles b { b with about := o } :=
    ⟨rfl, rfl, rfl, [], (List.append_nil _).symm, by simp⟩
  have hidles₂ (b : Bench σ₂ κ₂ η₂) (o : Option Subject) : Idles b { b with about := o } :=
    ⟨rfl, rfl, rfl, [], (List.append_nil _).symm, by simp⟩
  have h := hx base₁ base₂ _ _ (hb.idle (hidles₁ b₁ (some subject₁)) (hidles₂ b₂ (some subject₂)))
  rw [Work.runFrom_about, Work.runFrom_about]
  generalize runFrom x₁ { b₁ with about := some subject₁ } = p₁ at h
  generalize runFrom x₂ { b₂ with about := some subject₂ } = p₂ at h
  cases h with
  | ok h => exact .ok (h.idle (hidles₁ _ _) (hidles₂ _ _))
  | error h => exact .error (h.idle (hidles₁ _ _) (hidles₂ _ _))

/-- Ordinary failures are handled alike; a cancellation goes on. -/
theorem handling {handler₁ : Failure → Work σ₁ κ₁ η₁ α₁} {handler₂ : Failure → Work σ₂ κ₂ η₂ α₂}
    {E' : σ₁ → σ₂ → Prop} (hx : Concur C S x₁ x₂ Q E)
    (hh : ∀ f, f.isFault = true → Concur C E (handler₁ f) (handler₂ f) Q E')
    (he : ∀ y₁ y₂, E y₁ y₂ → E' y₁ y₂) :
    Concur C S (Work.handling x₁ handler₁) (Work.handling x₂ handler₂) Q E' := by
  refine settle_bind hx (fun a₁ a₂ => .pure fun _ _ h => h) fun f => ?_
  dsimp only
  split
  · next hf => exact hh f hf
  · exact .throw he

/-- A call: the operations end alike, and so do the answers, where they are compared. -/
theorem call {c : Session.Call} {shown₁ : α₁ → Session.Answer} {shown₂ : α₂ → Session.Answer}
    {op₁ : Session.Op σ₁ α₁} {op₂ : Session.Op σ₂ α₂} (h : Session.Op.Concur S op₁ op₂ Q E)
    (hshown : C.picks c.uid? = true → ∀ a₁ a₂ y₁ y₂, Q a₁ a₂ y₁ y₂ → shown₁ a₁ = shown₂ a₂) :
    Concur C S (Work.call c shown₁ op₁ : Work σ₁ κ₁ η₁ α₁)
      (Work.call c shown₂ op₂ : Work σ₂ κ₂ η₂ α₂) Q E := by
  intro base₁ base₂ b₁ b₂ hb
  have hop := h _ _ hb.session
  have hhidden (subject : Option Subject) (rs : List Remark) :
      ∀ s ∈ rs.map (Work.ofRemark subject), s.isScene = false := by
    simp only [List.mem_map, forall_exists_index, and_imp, forall_apply_eq_imp_iff₂]
    exact fun r _ => Work.isScene_ofRemark subject r
  have hplays₁ (y : σ₁) (a : Session.Answer) (rs : List Remark) :
      C.first.Plays b₁ [.call c a] [] { b₁ with
        session := y
        steps := b₁.steps ++ [.call c] ++ rs.map (Work.ofRemark b₁.about) ++ [.answer a] } :=
    .of_shows rfl rfl (by simp) (.call c a (hhidden b₁.about rs)) (by simp [Scene.isDelivery])
  have hplays₂ (y : σ₂) (a : Session.Answer) (rs : List Remark) :
      C.second.Plays b₂ [.call c a] [] { b₂ with
        session := y
        steps := b₂.steps ++ [.call c] ++ rs.map (Work.ofRemark b₂.about) ++ [.answer a] } :=
    .of_shows rfl rfl (by simp) (.call c a (hhidden b₂.about rs)) (by simp [Scene.isDelivery])
  rw [Work.runFrom_call, Work.runFrom_call]
  generalize runFrom op₁ ⟨b₁.session, []⟩ = p₁ at hop
  generalize runFrom op₂ ⟨b₂.session, []⟩ = p₂ at hop
  cases hop with
  | @ok a₁ a₂ s₁ s₂ hq =>
    refine .ok (hb.go hq hb.receiver ⟨_, _, _, _, hplays₁ _ _ _, hplays₂ _ _ _, ?_, rfl⟩)
    show List.filter _ [Scene.call c (shown₁ a₁)] = List.filter _ [Scene.call c (shown₂ a₂)]
    cases hpick : C.picks c.uid? with
    | true => rw [hshown hpick _ _ _ _ hq]
    | false => simp [Scene.uid?, hpick]
  | @error f s₁ s₂ he =>
    exact .error (hb.go he hb.receiver ⟨_, _, _, _, hplays₁ _ _ _, hplays₂ _ _ _, rfl, rfl⟩)

/-- Trying again and again, by induction on how many attempts are left. -/
theorem tryFrom (policy : Settings.Retry) (retryable : Failure → Bool) (operation : String)
    (hx : Concur C S x₁ x₂ Q S) (left n : Nat) :
    Concur C S (Backoff.tryFrom policy retryable operation x₁ left n)
      (Backoff.tryFrom policy retryable operation x₂ left n) Q S := by
  induction left generalizing n with
  | zero => exact hx
  | succ left ih =>
    refine settle_bind hx (fun a₁ a₂ => .pure fun _ _ h => h) fun f => ?_
    dsimp only
    split
    · exact idle_bind (.log _) (.log _) fun _ _ => idle_bind (.record rfl) (.record rfl) fun _ _ =>
        wait_bind (ih (n + 1))
    · exact .throw fun _ _ h => h

end Concur

/-! ### Readings -/

/-- Two readings leave the same, in related states. -/
structure Filled.Match (S : σ₁ → σ₂ → Prop) (f₁ : Filled σ₁) (f₂ : Filled σ₂) : Prop where
  /-- The answer or failure. -/
  outcome : f₁.outcome = f₂.outcome
  /-- The message. -/
  message : f₁.message = f₂.message
  /-- The sessions. -/
  state : S f₁.state f₂.state

theorem Filled.Match.offer_eq {S : σ₁ → σ₂ → Prop} {f₁ : Filled σ₁} {f₂ : Filled σ₂}
    (h : Filled.Match S f₁ f₂) : f₁.offer = f₂.offer := by
  unfold offer
  rw [h.outcome, h.message]

/-- Two readings do the same with a message, but for remarks, and end alike in related states. -/
inductive Streaming.Mirrors (S : σ₁ → σ₂ → Prop) : Streaming σ₁ → Streaming σ₂ → Prop where
  /-- Both are done. -/
  | done (o : Except Failure Int) {y₁ : σ₁} {y₂ : σ₂} (h : S y₁ y₂) :
    Mirrors S (.done o y₁) (.done o y₂)
  /-- The first makes a remark. -/
  | say_left (r : Remark) {st₁ : Streaming σ₁} {st₂ : Streaming σ₂} (h : Mirrors S st₁ st₂) :
    Mirrors S (.say r st₁) st₂
  /-- The second makes a remark. -/
  | say_right (r : Remark) {st₁ : Streaming σ₁} {st₂ : Streaming σ₂} (h : Mirrors S st₁ st₂) :
    Mirrors S st₁ (.say r st₂)
  /-- Both write a piece. -/
  | write (data : Bytes) {next₁ : Except Failure Int → Streaming σ₁}
    {next₂ : Except Failure Int → Streaming σ₂} (h : ∀ r, Mirrors S (next₁ r) (next₂ r)) :
    Mirrors S (.write data next₁) (.write data next₂)
  /-- Both finish the message. -/
  | finish {next₁ : Except Failure Unit → Streaming σ₁} {next₂ : Except Failure Unit → Streaming σ₂}
    (h : ∀ r, Mirrors S (next₁ r) (next₂ r)) : Mirrors S (.finish next₁) (.finish next₂)
  /-- Both release the message. -/
  | release {st₁ : Streaming σ₁} {st₂ : Streaming σ₂} (h : Mirrors S st₁ st₂) :
    Mirrors S (.release st₁) (.release st₂)

namespace Streaming.Mirrors

variable {S : σ₁ → σ₂ → Prop} {st₁ : Streaming σ₁} {st₂ : Streaming σ₂}

/-- What they leave matches, by induction on what they do. -/
theorem fill (h : Mirrors S st₁ st₂) (subject₁ subject₂ : Option Subject) (m : Staged) :
    Filled.Match S (st₁.fill subject₁ m) (st₂.fill subject₂ m) := by
  induction h generalizing m with
  | done o h => exact ⟨rfl, rfl, h⟩
  | say_left r _ ih =>
    obtain ⟨ho, hm, hs⟩ := ih m
    exact ⟨ho, hm, hs⟩
  | say_right r _ ih =>
    obtain ⟨ho, hm, hs⟩ := ih m
    exact ⟨ho, hm, hs⟩
  | write data _ ih =>
    simp only [Streaming.fill]
    rcases m.write data with ⟨e | n, m'⟩
    · exact ih _ m'
    · exact ih _ m'
  | finish _ ih =>
    simp only [Streaming.fill]
    rcases m.finish with ⟨e | u, m'⟩
    · exact ih _ m'
    · exact ih _ m'
  | release _ ih =>
    obtain ⟨ho, hm, hs⟩ := ih m.release.1
    exact ⟨ho, hm, hs⟩

/-- A reading mirrors itself. -/
theorem refl (st : Streaming σ₁) : Mirrors (fun y₁ y₂ => y₁ = y₂) st st := by
  induction st with
  | done o y => exact .done o rfl
  | say r next ih => exact .say_left r (.say_right r ih)
  | write data next ih => exact .write data ih
  | finish next ih => exact .finish ih
  | release next ih => exact .release ih

/-- Several remarks on both sides. -/
theorem sayAll (rs₁ rs₂ : List Remark) (h : Mirrors S st₁ st₂) :
    Mirrors S (Streaming.sayAll rs₁ st₁) (Streaming.sayAll rs₂ st₂) := by
  induction rs₁ with
  | nil =>
    induction rs₂ with
    | nil => exact h
    | cons r rs₂ ih => exact .say_right r ih
  | cons r rs₁ ih => exact .say_left r ih

/-- Writing the same pieces, by induction on the pieces. -/
theorem writeAll {y₁ : σ₁} {y₂ : σ₂} (hs : S y₁ y₂) {next₁ : Int → Streaming σ₁}
    {next₂ : Int → Streaming σ₂} (h : ∀ total, Mirrors S (next₁ total) (next₂ total)) (total : Int)
    (pieces : List Bytes) :
    Mirrors S (Streaming.writeAll y₁ total next₁ pieces)
      (Streaming.writeAll y₂ total next₂ pieces) := by
  induction pieces generalizing total with
  | nil => exact h total
  | cons piece pieces ih =>
    refine .write piece fun r => ?_
    cases r with
    | ok n => exact ih _
    | error f => exact .done _ hs

end Streaming.Mirrors

end Mailroom
