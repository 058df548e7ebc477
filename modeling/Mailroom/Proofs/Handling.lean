import Mailroom.Proofs.Idle

/-!
# What a callback makes of a body

A callback uses the body it is given, requests stops, and waits; in the end it returns or fails.
`h.Goes fragile body seen o k` says that the handling `h` of a body sees `seen` of it and ends in
`o`, with `k` kept. It depends on nothing but the body, but for one thing: where waits may be
cancelled from outside (`fragile`), each of them may come to its end or be cut off. Everywhere else
a handling goes in one way only (`Handling.Goes.unique`).

Work carries out a handling exactly so, and records what was seen (`Work.runFrom_handle`).
-/

namespace Mailroom

variable {σ κ η : Type}

/-- What the record shows of a use of the body. -/
def Spool.sighted : Except Failure Spool.Answer → List Spool.Answer
  | .ok (.bytes b) => [.bytes b]
  | .ok (.position n) => [.position n]
  | .ok .none | .error _ => []

/-- What a handling sees of a body, what it ends in, and what the callback keeps then. -/
inductive Handling.Goes (fragile : Bool) :
    Handling κ → Spool → List Spool.Answer → Except Failure Unit → κ → Prop where
  /-- The callback is done. -/
  | done (o : Except Failure Unit) (k : κ) (body : Spool) : Goes fragile (.done o k) body [] o k
  /-- The callback uses the body. -/
  | access {a : Spool.Access} {next : Except Failure Spool.Answer → Handling κ} {body : Spool}
    {seen : List Spool.Answer} {o : Except Failure Unit} {k : κ}
    (h : Goes fragile (next (body.access a).1) (body.access a).2 seen o k) :
    Goes fragile (.access a next) body (Spool.sighted (body.access a).1 ++ seen) o k
  /-- The callback requests a stop. -/
  | requestStop {r : StopRequest} {next : Handling κ} {body : Spool} {seen : List Spool.Answer}
    {o : Except Failure Unit} {k : κ} (h : Goes fragile next body seen o k) :
    Goes fragile (.requestStop r next) body seen o k
  /-- The callback waits. -/
  | wait {seconds : Float} {next : Except Failure Unit → Handling κ} {r : Except Failure Unit}
    {body : Spool} {seen : List Spool.Answer} {o : Except Failure Unit} {k : κ}
    (hr : r = .ok () ∨ fragile = true ∧ r = .error Work.cutOff)
    (h : Goes fragile (next r) body seen o k) : Goes fragile (.wait seconds next) body seen o k

/-- Where no wait is cut off, a handling goes in one way only, by induction on the first way. -/
theorem Handling.Goes.unique {h : Handling κ} {body : Spool} {seen₁ seen₂ : List Spool.Answer}
    {o₁ o₂ : Except Failure Unit} {k₁ k₂ : κ} (h₁ : h.Goes false body seen₁ o₁ k₁)
    (h₂ : h.Goes false body seen₂ o₂ k₂) : seen₁ = seen₂ ∧ o₁ = o₂ ∧ k₁ = k₂ := by
  induction h₁ generalizing seen₂ with
  | done =>
    cases h₂
    exact ⟨rfl, rfl, rfl⟩
  | access _ ih =>
    cases h₂ with
    | access h₂ =>
      obtain ⟨hseen, ho, hk⟩ := ih h₂
      exact ⟨by rw [hseen], ho, hk⟩
  | requestStop _ ih =>
    cases h₂ with
    | requestStop h₂ => exact ih h₂
  | wait hr₁ _ ih =>
    cases h₂ with
    | wait hr₂ h₂ =>
      obtain rfl := hr₁.resolve_right fun h => Bool.false_ne_true h.1
      obtain rfl := hr₂.resolve_right fun h => Bool.false_ne_true h.1
      exact ih h₂

/-- The callback's share of a delivery: the session stays, and notes are added to the record, which
show what the callback sees of the body. -/
structure Attends (b : Bench σ κ η) (t : List Step) (seen : List Spool.Answer)
    (b' : Bench σ κ η) : Prop where
  /-- Waits are cancelled from outside as before. -/
  fragile : b'.fragile = b.fragile
  /-- The session stays. -/
  session : b'.session = b.session
  /-- What is added to the record. -/
  steps : b'.steps = b.steps ++ t
  /-- Only notes are. -/
  notes : ∀ m ∈ t, m.isNote = true
  /-- They show what the callback sees. -/
  scenes : scenes t = seen.map .observe

/-- Idle work may come first. -/
theorem Attends.after_idle {b b₁ b' : Bench σ κ η} {t : List Step} {seen : List Spool.Answer}
    (hi : Idles b b₁) (h : Attends b₁ t seen b') : ∃ u, Attends b u seen b' := by
  obtain ⟨u, hu, hidle⟩ := hi.steps
  refine ⟨u ++ t, h.fragile.trans hi.fragile, h.session.trans hi.session, ?_, ?_, ?_⟩
  · rw [h.steps, hu, List.append_assoc]
  · exact List.forall_mem_append.mpr ⟨fun m hm => Step.isNote_of_isIdle (hidle m hm), h.notes⟩
  · have hnone : Mailroom.scenes u = [] :=
      scenes_eq_nil fun m hm => Step.isScene_of_isIdle (hidle m hm)
    rw [scenes_append, hnone, List.nil_append]
    exact h.scenes

/-- What is seen may come first. -/
theorem Attends.after_sight {b b' : Bench σ κ η} {t : List Step} {first seen : List Spool.Answer}
    (h : Attends { b with steps := b.steps ++ first.map .observe } t seen b') :
    Attends b (first.map .observe ++ t) (first ++ seen) b' := by
  refine ⟨h.fragile, h.session, ?_, ?_, ?_⟩
  · rw [h.steps, List.append_assoc]
  · refine List.forall_mem_append.mpr ⟨?_, h.notes⟩
    simp [Step.isNote]
  · have hfirst : Mailroom.scenes (first.map Step.observe) = first.map .observe :=
      List.filter_eq_self.mpr (by simp [Step.isScene])
    rw [scenes_append, hfirst, h.scenes, List.map_append]

namespace Work

/-- A use of the body is recorded by what is seen. -/
theorem runFrom_handle_access (a : Spool.Access) (next : Except Failure Spool.Answer → Handling κ)
    (body : Spool) (b : Bench σ κ η) :
    runFrom (handle (.access a next) body) b =
      runFrom (handle (next (body.access a).1) (body.access a).2)
        { b with steps := b.steps ++ (Spool.sighted (body.access a).1).map .observe } := by
  rw [handle]
  rcases body.access a with ⟨f | (x | n | _), body'⟩
  · simp [Spool.sighted]
  · rw [runFrom_bind_ok (runFrom_record _ _)]
    rfl
  · rw [runFrom_bind_ok (runFrom_record _ _)]
    rfl
  · simp [Spool.sighted]

/-- **Handlings are carried out** as they go, by induction on the handling. -/
theorem runFrom_handle (h : Handling κ) (body : Spool) (b : Bench σ κ η) :
    ∃ o body' b' t seen, runFrom (handle h body) b = (.ok (o, body'), b') ∧
      Attends b t seen b' ∧ h.Goes b.fragile body seen o b'.receiver := by
  induction h generalizing body b with
  | done o k =>
    exact ⟨o, body, _, [], [], rfl, ⟨rfl, rfl, (List.append_nil _).symm, by simp, rfl⟩,
      .done o k body⟩
  | access a next ih =>
    rw [runFrom_handle_access]
    obtain ⟨o, body', b', t, seen, hr, hat, hgo⟩ := ih _ (body.access a).2
      { b with steps := b.steps ++ (Spool.sighted (body.access a).1).map .observe }
    exact ⟨o, body', b', _, _, hr, hat.after_sight, .access hgo⟩
  | requestStop r next ih =>
    obtain ⟨_, b₁, hr₁, hi⟩ := Idle.requestStop r b
    obtain ⟨o, body', b', t, seen, hr, hat, hgo⟩ := ih body b₁
    obtain ⟨u, hat⟩ := hat.after_idle hi
    rw [handle, runFrom_bind_ok hr₁]
    exact ⟨o, body', b', u, seen, hr, hat, .requestStop (hi.fragile ▸ hgo)⟩
  | wait seconds next ih =>
    obtain ⟨hi, hwait⟩ := idles_wait seconds b
    obtain ⟨o, body', b', t, seen, hr, hat, hgo⟩ :=
      ih (runFrom (Work.wait seconds) b).1 body (runFrom (Work.wait seconds) b).2
    obtain ⟨u, hat⟩ := hat.after_idle hi
    rw [handle, runFrom_bind_ok (runFrom_settle _ _)]
    exact ⟨o, body', b', u, seen, hr, hat, .wait hwait (hi.fragile ▸ hgo)⟩

end Work

end Mailroom
