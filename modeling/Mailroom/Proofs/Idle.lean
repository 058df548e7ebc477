import Mailroom.Proofs.Paths

/-!
# Idle work

Much of what a round does concerns neither its session nor its callback: it logs, it waits, it meets
requests to stop. Such work is `Idle`: it cannot fail, leaves both alone, and adds log entries,
waits and reports to the record only. A wait is idle as well, but fails where waits are cancelled
from outside (`idles_wait`).
-/

namespace Mailroom

variable {σ κ η α β : Type}

/-- The steps in which neither the session nor the callback has a share. -/
def Step.isIdle : Step → Bool
  | log _ | backoff _ | pause _ | report .. | status _ | configure .. | serve _ => true
  | call _ | answer _ | wire _ | spool .. | finish _ | deliver .. | verdict .. | observe _ => false

theorem Step.isNote_of_isIdle {s : Step} (h : s.isIdle = true) : s.isNote = true := by
  cases s <;> first | rfl | cases h

theorem Step.isScene_of_isIdle {s : Step} (h : s.isIdle = true) : s.isScene = false := by
  cases s <;> first | rfl | cases h

/-- The bench keeps its session and what the callback keeps; only idle steps are added to the
record. -/
structure Idles (b b' : Bench σ κ η) : Prop where
  /-- Waits are cancelled from outside as before. -/
  fragile : b'.fragile = b.fragile
  /-- The session stays. -/
  session : b'.session = b.session
  /-- What the callback keeps stays. -/
  receiver : b'.receiver = b.receiver
  /-- Only idle steps are added to the record. -/
  steps : ∃ t, b'.steps = b.steps ++ t ∧ ∀ m ∈ t, m.isIdle = true

theorem Idles.refl (b : Bench σ κ η) : Idles b b :=
  ⟨rfl, rfl, rfl, [], (List.append_nil _).symm, by simp⟩

theorem Idles.trans {b₁ b₂ b₃ : Bench σ κ η} (h : Idles b₁ b₂) (k : Idles b₂ b₃) :
    Idles b₁ b₃ := by
  obtain ⟨t, ht, hn⟩ := h.steps
  obtain ⟨u, hu, hm⟩ := k.steps
  refine ⟨k.fragile.trans h.fragile, k.session.trans h.session, k.receiver.trans h.receiver,
    t ++ u, ?_, List.forall_mem_append.mpr ⟨hn, hm⟩⟩
  rw [hu, ht, List.append_assoc]

/-- The work cannot fail, and concerns neither the session nor the callback. -/
def Idle (x : Work σ κ η α) : Prop :=
  ∀ b : Bench σ κ η, ∃ a b', runFrom x b = (.ok a, b') ∧ Idles b b'

namespace Idle

theorem pure (a : α) : Idle (pure a : Work σ κ η α) := fun b => ⟨a, b, rfl, .refl b⟩

theorem bind {x : Work σ κ η α} {k : α → Work σ κ η β} (hx : Idle x) (hk : ∀ a, Idle (k a)) :
    Idle (x >>= k) := by
  intro b
  obtain ⟨a, b₁, hr, hn⟩ := hx b
  obtain ⟨c, b₂, hr', hn'⟩ := hk a b₁
  exact ⟨c, b₂, by rw [runFrom_bind_ok hr, hr'], hn.trans hn'⟩

theorem get : Idle (get : Work σ κ η (Bench σ κ η)) := fun b => ⟨b, b, rfl, .refl b⟩

/-- A change of the time, of what the hook keeps, or of the requests to stop. -/
theorem change {f : Bench σ κ η → Bench σ κ η} (hf : ∀ b, (f b).fragile = b.fragile)
    (hs : ∀ b, (f b).session = b.session) (hr : ∀ b, (f b).receiver = b.receiver)
    (ht : ∀ b, (f b).steps = b.steps) : Idle (modify f : Work σ κ η PUnit) := fun b =>
  ⟨(), f b, rfl, hf b, hs b, hr b, [], by simp [ht], by simp⟩

theorem record {step : Step} (h : step.isIdle = true) : Idle (Work.record step : Work σ κ η _) :=
  fun _ => ⟨(), _, rfl, rfl, rfl, rfl, [step], rfl, by simpa using h⟩

theorem log (e : Event) : Idle (Work.log e : Work σ κ η _) := fun b =>
  ⟨(), _, rfl, rfl, rfl, rfl, [.log ⟨e, b.about⟩], rfl, by simp [Step.isIdle]⟩

theorem logApart (e : Event) : Idle (Work.logApart e : Work σ κ η _) := record rfl

theorem forM {f : α → Work σ κ η PUnit} (hf : ∀ a, Idle (f a)) : ∀ l : List α, Idle (l.forM f)
  | [] => pure ()
  | a :: l => bind (hf a) fun _ => forM hf l

theorem meetRequest {say : Event → Work σ κ η Unit} (hsay : ∀ e, Idle (say e)) (r : StopRequest) :
    Idle (Work.meetRequest say r) := by
  have hset : Idle (modify fun b => { b with cancelled := true } : Work σ κ η PUnit) :=
    change (fun _ => rfl) (fun _ => rfl) (fun _ => rfl) fun _ => rfl
  refine bind get fun b => ?_
  cases r.event? b.cancelled with
  | none => exact hset
  | some e => exact bind (hsay e) fun _ => hset

theorem requestStop (r : StopRequest) : Idle (Work.requestStop r : Work σ κ η _) := by
  cases r with
  | silent => exact meetRequest log .silent
  | stop poller => exact meetRequest log (.stop poller)
  | signal name => exact meetRequest logApart (.signal name)

theorem meetAlarms (time : Float) : Idle (Work.meetAlarms time : Work σ κ η _) := by
  intro b
  have hmeet : Idle ((b.alarms.filter (·.time ≤ time)).forM fun a =>
      Work.meetRequest Work.logApart a.request : Work σ κ η PUnit) :=
    forM (fun a : Alarm => meetRequest logApart a.request) _
  obtain ⟨a, b', hr, hi⟩ := hmeet { b with alarms := b.alarms.filter fun a => !(a.time ≤ time) }
  refine ⟨a, b', ?_, hi.fragile, hi.session, hi.receiver, hi.steps⟩
  rw [Work.meetAlarms, runFrom_bind_ok (runFrom_get b), runFrom_bind_ok (runFrom_set _ _), hr]

/-- Time goes on, and the requests that come due are met. -/
theorem arrive (time : Float) : Idle (do
    Work.meetAlarms time
    modify fun b => { b with clock := time } : Work σ κ η PUnit) :=
  bind (meetAlarms time) fun _ =>
    change (fun _ => rfl) (fun _ => rfl) (fun _ => rfl) fun _ => rfl

end Idle

/-- A wait concerns nobody; it fails only where waits are cancelled from outside. -/
theorem idles_wait (seconds : Float) (b : Bench σ κ η) :
    Idles b (runFrom (Work.wait seconds) b).2 ∧
      ((runFrom (Work.wait seconds) b).1 = .ok () ∨
        b.fragile = true ∧ (runFrom (Work.wait seconds) b).1 = .error Work.cutOff) := by
  unfold Work.wait
  split
  · rw [runFrom_bind_ok (runFrom_get b)]
    dsimp only
    split
    · next hcut =>
      rw [Bool.and_eq_true] at hcut
      exact ⟨.refl b, .inr ⟨hcut.1, rfl⟩⟩
    · split
      · next a hdue =>
        have hfragile : b.fragile = true := by
          split at hdue
          · assumption
          · cases hdue
        obtain ⟨_, b', hr, hi⟩ := Idle.arrive (Float64.larger b.clock a.time) b
        rw [← bind_assoc, runFrom_bind_ok hr]
        exact ⟨hi, .inr ⟨hfragile, rfl⟩⟩
      · obtain ⟨_, b', hr, hi⟩ := Idle.arrive (b.clock + seconds) b
        rw [hr]
        exact ⟨hi, .inl rfl⟩
  · exact ⟨.refl b, .inl rfl⟩

end Mailroom
