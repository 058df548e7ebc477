import Mailroom.Proofs.Order
import Mathlib.Data.List.Forall2

/-!
# Rounds in turn

Several rounds on one bench, one after the other. Each starts where the one before it ended,
whatever that ended in: a result, or a cancellation that the caller caught. What every single round
keeps, rounds in turn keep, and the record they leave is a row of records, one for each round.
-/

namespace Mailroom.Round

variable {σ κ η : Type}

/-- Rounds one after the other, whatever each of them ends in. -/
def inTurn : List (Round σ κ) → Work σ κ η Unit
  | [] => pure ()
  | r :: rs => do
    let _ ← settle r.run
    inTurn rs

theorem runFrom_inTurn_cons (r : Round σ κ) (rs : List (Round σ κ)) (b : Bench σ κ η) :
    runFrom (inTurn (r :: rs)) b =
      runFrom (inTurn rs) (runFrom (r.run : Work σ κ η RoundResult) b).2 := by
  rw [inTurn, runFrom_bind_ok (runFrom_settle _ _)]

/-- What every round keeps, by induction on the rounds. -/
theorem inTurn_keeps {I : Bench σ κ η → Prop} {rs : List (Round σ κ)}
    (step : ∀ r ∈ rs, ∀ b, I b → I (runFrom (r.run : Work σ κ η RoundResult) b).2)
    {b : Bench σ κ η} (hb : I b) : I (runFrom (inTurn rs) b).2 := by
  induction rs generalizing b with
  | nil => exact hb
  | cons r rs ih =>
    rw [runFrom_inTurn_cons]
    exact ih (fun r' hr' => step r' (List.mem_cons_of_mem r hr'))
      (step r List.mem_cons_self b hb)

/-- The records that rounds leave, while each keeps what the next one needs. -/
theorem inTurn_records {I : Bench σ κ η → Prop} {P : Round σ κ → List Step → Prop}
    {rs : List (Round σ κ)}
    (step : ∀ r ∈ rs, ∀ b, I b → ∃ t,
      (runFrom (r.run : Work σ κ η RoundResult) b).2.steps = b.steps ++ t ∧ P r t ∧
        I (runFrom (r.run : Work σ κ η RoundResult) b).2)
    {b : Bench σ κ η} (hb : I b) :
    ∃ ts, (runFrom (inTurn rs) b).2.steps = b.steps ++ ts.flatten ∧ List.Forall₂ P rs ts ∧
      I (runFrom (inTurn rs) b).2 := by
  induction rs generalizing b with
  | nil => exact ⟨[], (List.append_nil _).symm, .nil, hb⟩
  | cons r rs ih =>
    obtain ⟨t, ht, hP, hI⟩ := step r List.mem_cons_self b hb
    obtain ⟨ts, hts, hPs, hIs⟩ := ih (fun r' hr' => step r' (List.mem_cons_of_mem r hr')) hI
    rw [runFrom_inTurn_cons]
    refine ⟨t :: ts, ?_, .cons hP hPs, hIs⟩
    rw [hts, ht, List.append_assoc, List.flatten_cons]

end Mailroom.Round
