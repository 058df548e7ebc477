import Mailroom.Proofs.Doubles
import Mailroom.Proofs.Retrying

/-!
# The waits between attempts

How the waits go on from attempt to attempt (`Backoff.Climbs`), if the initial wait is not above the
longest one and the multiplier is at least one (`Settings.Retry.Rising`). They never become shorter,
and each lies between the initial wait and the longest one. From the attempt on where the power of
two is no longer a double, the wait is the longest one.

The first wait is the multiplier, held between these bounds. The initial wait is only a bound, so
that it is not the first wait where the multiplier is above it, as it is in the settings that are
read from nothing (`Backoff.first_wait_above_initial`).

The products of the waits are exact as long as they count, and the logarithms that cut them short do
so for good once they do (`Backoff.exceeds_mono`), whatever the logarithm of a double is.
-/

namespace Mailroom

open Settings (Retry)

variable {σ κ η α : Type}

/-- The waits between attempts that were asked for, in order. -/
def Bench.backoffs (b : Bench σ κ η) : List Float :=
  b.steps.filterMap fun
    | .backoff seconds => some seconds
    | _ => none

/-- Waiting asks for no wait between attempts. -/
theorem Waits.backoffs_eq {b b' : Bench σ κ η} (h : Waits b b') : b'.backoffs = b.backoffs := by
  obtain ⟨t, ht, hall⟩ := h.steps
  have hnone : t.filterMap (fun | .backoff seconds => some seconds | _ => none) = [] := by
    refine List.filterMap_eq_nil_iff.mpr fun s hs => ?_
    have := hall s hs
    cases s <;> first | rfl | contradiction
  rw [Bench.backoffs, Bench.backoffs, ht, List.filterMap_append, hnone, List.append_nil]

/-- The bounds of the waits are in order, and the multiplier is finite and lets no wait shrink. -/
structure Settings.Retry.Rising (r : Retry) : Prop where
  /-- The initial wait is not negative. -/
  nonneg : 0 ≤ r.initialWait
  /-- The initial wait is not above the longest one. -/
  initial_le : r.initialWait ≤ r.maxWait
  /-- The multiplier is at least one. -/
  one_le : 1 ≤ r.multiplier
  /-- The multiplier is finite. -/
  finite : r.multiplier.isFinite = true

/-- A wait held between the initial and the longest one. -/
def Settings.Retry.held (r : Retry) (seconds : Float) : Float :=
  Float64.larger (Float64.larger 0 r.initialWait) (Float64.smaller seconds r.maxWait)

/-! ### Bounds -/

namespace Settings.Retry.Rising

open Float64

variable {r : Retry} {v w : Float}

theorem isNumber_initial (h : r.Rising) : IsNumber r.initialWait := (le_iff.mp h.nonneg).2.1

theorem isNumber_max (h : r.Rising) : IsNumber r.maxWait := (le_iff.mp h.initial_le).2.1

theorem least_le_max (h : r.Rising) : larger 0 r.initialWait ≤ r.maxWait :=
  larger_le (le_trans h.nonneg h.initial_le) h.initial_le

theorem isNumber_least (h : r.Rising) : IsNumber (larger 0 r.initialWait) :=
  (le_iff.mp h.least_le_max).1

theorem initial_le_least (h : r.Rising) : r.initialWait ≤ larger 0 r.initialWait :=
  le_larger_right nofun h.isNumber_initial

theorem held_le_max (h : r.Rising) (hw : IsNumber w) : r.held w ≤ r.maxWait :=
  larger_le h.least_le_max (smaller_le_right hw h.isNumber_max)

theorem initial_le_held (h : r.Rising) : r.initialWait ≤ r.held w :=
  le_trans h.initial_le_least (le_larger_left h.isNumber_least)

/-- Longer waits are held to longer waits. -/
theorem held_mono (h : r.Rising) (hvw : v ≤ w) : r.held v ≤ r.held w := by
  obtain ⟨hv, hw, -⟩ := le_iff.mp hvw
  have hsmaller : smaller v r.maxWait ≤ smaller w r.maxWait :=
    le_smaller (le_trans (smaller_le_left hv) hvw) (smaller_le_right hv h.isNumber_max)
  exact larger_le (le_larger_left h.isNumber_least)
    (le_trans hsmaller (le_larger_right h.isNumber_least (le_iff.mp hsmaller).2.1))

end Settings.Retry.Rising

namespace Backoff

open Float64

variable {r : Retry}

/-! ### One wait -/

/-- Once the logarithms show that the product exceeds the longest wait, they go on to do so. -/
theorem exceeds_mono {i j : Nat} (hij : i ≤ j) (hj : j < 2 ^ 53) (h : exceeds r i = true) :
    exceeds r j = true := by
  have hneg (k : Nat) : decide ((k : Int) < 0) = false := decide_eq_false (by omega)
  simp only [exceeds, hneg, Int.natAbs_natCast, Bool.and_eq_true, decide_eq_true_eq] at h ⊢
  exact ⟨h.1, lt_of_lt_of_le h.2 (toFloat_mono hij hj)⟩

/-- The wait after an attempt is the longest one, or the product held between the bounds. -/
theorem waitAfter_cases (h : r.Rising) (i : Nat) :
    ((exceeds r i = true ∨ 1024 ≤ i) ∧
      r.maxWait ≤ waitAfter r (i + 1 : Nat) ∧ waitAfter r (i + 1 : Nat) ≤ r.maxWait) ∨
    (exceeds r i = false ∧ i < 1024 ∧
      waitAfter r (i + 1 : Nat) = r.held (r.multiplier * twoPow i)) := by
  have hmax := le_refl h.isNumber_max
  have he : ((i + 1 : Nat) : Int) - 1 = i := by omega
  unfold waitAfter
  simp only [he]
  split
  · next hexceeds =>
    exact .inl ⟨.inl hexceeds, le_larger_right h.isNumber_least h.isNumber_max,
      larger_le h.least_le_max hmax⟩
  · next hexceeds =>
    split
    · next hlarge => exact .inl ⟨.inr (by omega), hmax, hmax⟩
    · next hlarge => exact .inr ⟨Bool.not_eq_true _ ▸ hexceeds, by omega, rfl⟩

/-- The products grow from attempt to attempt. -/
theorem product_mono (h : r.Rising) {i j : Nat} (hij : i ≤ j) (hj : j < 1024) :
    r.multiplier * twoPow i ≤ r.multiplier * twoPow j := by
  obtain ⟨m, e, hnormal⟩ := normal_of_one_le h.one_le h.finite
  exact hnormal.mul_twoPow_mono hij hj

theorem isNumber_product (h : r.Rising) {i : Nat} (hi : i < 1024) :
    IsNumber (r.multiplier * twoPow i) :=
  (le_iff.mp (product_mono h (Nat.le_refl i) hi)).1

theorem waitAfter_le_max (h : r.Rising) (i : Nat) : waitAfter r (i + 1 : Nat) ≤ r.maxWait := by
  rcases waitAfter_cases h i with ⟨-, -, hle⟩ | ⟨-, hi, heq⟩
  · exact hle
  · rw [heq]
    exact h.held_le_max (isNumber_product h hi)

theorem initial_le_waitAfter (h : r.Rising) (i : Nat) :
    r.initialWait ≤ waitAfter r (i + 1 : Nat) := by
  rcases waitAfter_cases h i with ⟨-, hle, -⟩ | ⟨-, -, heq⟩
  · exact le_trans h.initial_le hle
  · rw [heq]
    exact h.initial_le_held

/-- No wait is shorter than one before it. -/
theorem waitAfter_mono (h : r.Rising) {i j : Nat} (hij : i ≤ j) :
    waitAfter r (i + 1 : Nat) ≤ waitAfter r (j + 1 : Nat) := by
  rcases waitAfter_cases h j with ⟨-, hle, -⟩ | ⟨hj, hj', heq⟩
  · exact le_trans (waitAfter_le_max h i) hle
  · -- Nothing exceeds the longest wait here, so nothing did before.
    have hi : exceeds r i = false := by
      by_contra hexceeds
      have := exceeds_mono hij (hj'.trans (by decide)) (Bool.not_eq_false _ ▸ hexceeds)
      rw [hj] at this
      cases this
    rcases waitAfter_cases h i with ⟨hi' | hi', -⟩ | ⟨-, -, heq'⟩
    · rw [hi] at hi'
      cases hi'
    · omega
    · rw [heq, heq']
      exact h.held_mono (product_mono h hij hj')

/-! ### All waits -/

/-- The waits after the first attempts that failed, so many of them. -/
def waitsAfter (r : Retry) (n : Nat) : List Float :=
  (List.range n).map fun i => waitAfter r (i + 1 : Nat)

/-- How the waits go on. -/
structure Climbs (r : Retry) (ws : List Float) : Prop where
  /-- Each lies between the initial and the longest one. -/
  within : ∀ w ∈ ws, r.initialWait ≤ w ∧ w ≤ r.maxWait
  /-- None is shorter than one before it. -/
  rising : ws.Pairwise (· ≤ ·)
  /-- The first is the multiplier, held between the bounds, unless logarithms show that the
  multiplier exceeds the longest wait. Then it is the longest one. -/
  first : ∀ w ∈ ws.head?, if exceeds r 0 then r.maxWait ≤ w else w = r.held r.multiplier
  /-- Where the power of two is not a double, it is the longest one. -/
  last : ∀ i w, 1024 ≤ i → ws[i]? = some w → r.maxWait ≤ w

theorem climbs_waitsAfter (h : r.Rising) (n : Nat) : Climbs r (waitsAfter r n) where
  within := by
    intro w hw
    obtain ⟨i, -, rfl⟩ := List.mem_map.mp hw
    exact ⟨initial_le_waitAfter h i, waitAfter_le_max h i⟩
  rising := by
    refine List.pairwise_map.mpr (List.pairwise_lt_range.imp fun hij => ?_)
    exact waitAfter_mono h hij.le
  first := by
    intro w hw
    have hw : waitAfter r (0 + 1 : Nat) = w := by
      cases n with
      | zero => cases hw
      | succ n => simpa [waitsAfter, List.range_succ_eq_map] using hw
    obtain ⟨m, e, hnormal⟩ := normal_of_one_le h.one_le h.finite
    rcases waitAfter_cases h 0 with ⟨hexceeds | hlarge, hle, -⟩ | ⟨hexceeds, -, heq⟩
    · rw [← hw, if_pos (show exceeds r 0 = true from hexceeds)]
      exact hle
    · omega
    · rw [← hw, if_neg (Bool.not_eq_true _ ▸ show exceeds r 0 = false from hexceeds), heq]
      exact congrArg r.held hnormal.mul_twoPow_zero
  last := by
    intro i w hi hw
    have hw : waitAfter r (i + 1 : Nat) = w := by
      obtain ⟨hlt, hw⟩ := List.getElem?_eq_some_iff.mp hw
      simpa [waitsAfter] using hw
    rcases waitAfter_cases h i with ⟨-, hle, -⟩ | ⟨-, hi', -⟩
    · rw [← hw]
      exact hle
    · omega

/-- After some attempts that failed, these are the waits, by induction on the attempts. -/
theorem Tried.backoffs_eq {policy : Retry} {retryable : Failure → Bool} {operation : String}
    {x : Work σ κ η α} {b b' : Bench σ κ η} {n : Nat}
    (hx : ∀ b, (runFrom x b).2.backoffs = b.backoffs)
    (h : Tried policy retryable operation x b n b') :
    b'.backoffs = b.backoffs ++ waitsAfter policy n := by
  induction h with
  | never => simp [waitsAfter]
  | @again n b₁ b₂ b' f _ hrun _ _ hwaits ih =>
    have hattempt := hx b₁
    rw [hrun] at hattempt
    have hnoted : (noted policy operation (n + 1) f b₂).backoffs =
        b₂.backoffs ++ [waitAfter policy (n + 1 : Nat)] := by
      simp [Bench.backoffs, noted]
    rw [hwaits.backoffs_eq, hnoted, hattempt, ih, waitsAfter, waitsAfter, List.range_succ,
      List.map_append, List.append_assoc]
    rfl

/-- Where waits are not cancelled from outside, one more attempt that fails is followed by its
wait. -/
theorem Tried.succ {policy : Retry} {retryable : Failure → Bool} {operation : String}
    {x : Work σ κ η α} {b b₁ b₂ : Bench σ κ η} {n : Nat} {f : Failure}
    (h : Tried policy retryable operation x b n b₁) (hrun : runFrom x b₁ = (.error f, b₂))
    (hf : retryable f = true) (hfragile : b₂.fragile = false) :
    ∃ b', Tried policy retryable operation x b (n + 1) b' ∧ b'.fragile = false := by
  obtain ⟨b', hwaits, hr | ⟨htrue, -⟩⟩ := Waits.ends (waitAfter policy (n + 1 : Nat))
    (noted policy operation (n + 1) f b₂)
  · exact ⟨b', h.again hrun hf hr hwaits, hwaits.fragile.trans hfragile⟩
  · cases hfragile.symm.trans htrue

/-- **Back-off**: if the bounds of the waits are in order and the multiplier is finite and at least
one, then after any number of attempts that failed the waits lie between the bounds, none is
shorter than one before it, and the first is the multiplier, held between the bounds. These are the
waits that are asked for whenever an operation that asks for none is tried so often. -/
theorem waits_climb {policy : Retry} (hpolicy : policy.Rising) (n : Nat) :
    Climbs policy (waitsAfter policy n) ∧
    ∀ (retryable : Failure → Bool) (operation : String) (x : Work σ κ η α) (b b' : Bench σ κ η),
      (∀ b, (runFrom x b).2.backoffs = b.backoffs) →
      Tried policy retryable operation x b n b' →
      b'.backoffs = b.backoffs ++ waitsAfter policy n :=
  ⟨climbs_waitsAfter hpolicy n, fun _ _ _ _ _ hx h => h.backoffs_eq hx⟩

theorem rising_default : (⟨3, 1, 10, 2⟩ : Retry).Rising :=
  ⟨by decide, by decide, by decide, by decide⟩

/-- Two attempts that are refused, with the settings that are read from nothing. -/
theorem waits_climb_refused :
    let policy : Retry := ⟨3, 1, 10, 2⟩
    let refused : Failure := .plain .connectionRefused "refused"
    let x : Work Nat Nat Unit Unit := rehearsed [.error refused]
    let b : Bench Nat Nat Unit := Bench.start 0 0 ()
    Climbs policy (waitsAfter policy 2) ∧
      ∃ b', Tried policy (·.kind.isA .os) "connect" x b 2 b' ∧
        b'.backoffs = [waitAfter policy 1, waitAfter policy 2] := by
  intro policy refused x b
  have hx (b : Bench Nat Nat Unit) :
      runFrom x b = (.error refused, { b with receiver := b.receiver + 1 }) := by
    simp only [x, rehearsed]
    rw [runFrom_bind_ok (runFrom_get b), runFrom_bind_ok (runFrom_modify _ b)]
    simp only [List.length_singleton, Nat.sub_self, Nat.min_zero]
    rfl
  obtain ⟨hclimbs, hruns⟩ :=
    waits_climb (σ := Nat) (κ := Nat) (η := Unit) (α := Unit) rising_default 2
  have hnever : Tried policy (·.kind.isA .os) "connect" x b 0 b := .never
  obtain ⟨b₁, htried, hfragile⟩ := hnever.succ (hx b) rfl rfl
  obtain ⟨b₂, htried, -⟩ := htried.succ (hx b₁) rfl hfragile
  refine ⟨hclimbs, b₂, htried, hruns _ _ x b b₂ (fun b => ?_) htried⟩
  rw [hx]
  rfl

/-- With the settings that are read from nothing, the first wait is longer than the initial one. -/
theorem first_wait_above_initial : ∃ policy, Retry.read [] [] = .ok policy ∧ policy.Rising ∧
    policy.initialWait < waitAfter policy 1 := by
  refine ⟨⟨3, 1, 10, 2⟩, rfl, rising_default, ?_⟩
  change _ < waitAfter _ (0 + 1 : Nat)
  -- What the logarithms show is not known here. The wait is ten seconds or two.
  rcases waitAfter_cases rising_default 0 with ⟨-, hle, -⟩ | ⟨-, -, heq⟩
  · exact lt_of_lt_of_le (by decide) hle
  · rw [heq]
    decide +kernel

end Backoff

end Mailroom
