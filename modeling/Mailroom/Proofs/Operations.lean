import Mailroom.Proofs.Paths

/-!
# What operations of a session ensure

`op.Ensures x Q` says how an operation of a session ends when it starts in state `x`: `Q` holds of
the exchanges it had with its server, of its outcome, and of the state afterwards. There is one rule
for each way of putting operations together, and what is ensured is what a call on the session may
rely on (`Session.Op.Ensures.of_carries`).

A reading of a body is `Silent` when it makes no remark of its own; all it does to the session is
then in the states in which it can end.
-/

namespace Mailroom

open Imap (Exchange)

variable {σ α β : Type}

namespace Session.Op

/-- What is ensured at the end: of the exchanges, the outcome and the state. -/
abbrev Post (σ α : Type) : Type := List Exchange → Except Failure α → σ → Prop

/-- From a state, the operation ends as `Q` says. -/
def Ensures (op : Op σ α) (x : σ) (Q : Post σ α) : Prop :=
  ∀ rs, ∃ o y rs', runFrom op ⟨x, rs⟩ = (o, ⟨y, rs ++ rs'⟩) ∧
    Q (rs'.filterMap Remark.exchange?) o y

namespace Ensures

variable {op : Op σ α} {x : σ} {P Q : Post σ α}

theorem mono (h : op.Ensures x P) (hPQ : ∀ xs o y, P xs o y → Q xs o y) : op.Ensures x Q := by
  intro rs
  obtain ⟨o, y, rs', hr, hp⟩ := h rs
  exact ⟨o, y, rs', hr, hPQ _ o y hp⟩

theorem pure {a : α} (h : Q [] (.ok a) x) : (pure a : Op σ α).Ensures x Q := fun rs =>
  ⟨.ok a, x, [], by rw [runFrom_pure, List.append_nil], h⟩

theorem throw {f : Failure} (h : Q [] (.error f) x) : (throw f : Op σ α).Ensures x Q := fun rs =>
  ⟨.error f, x, [], by rw [runFrom_throw, List.append_nil], h⟩

/-- One operation after the other; a failure of the first is the failure of both. -/
theorem bind {k : α → Op σ β} {Q : Post σ β} (hx : op.Ensures x P)
    (hok : ∀ xs a y, P xs (.ok a) y → (k a).Ensures y fun ys o z => Q (xs ++ ys) o z)
    (herror : ∀ xs f y, P xs (.error f) y → Q xs (.error f) y) : (op >>= k).Ensures x Q := by
  intro rs
  obtain ⟨o, y, rs', hr, hp⟩ := hx rs
  cases o with
  | error f => exact ⟨.error f, y, rs', runFrom_bind_error hr k, herror _ f y hp⟩
  | ok a =>
    obtain ⟨o, z, rs'', hr', hq⟩ := hok _ a y hp (rs ++ rs')
    refine ⟨o, z, rs' ++ rs'', ?_, ?_⟩
    · rw [runFrom_bind_ok hr, hr', List.append_assoc]
    · rwa [List.filterMap_append]

theorem look_bind {k : σ → Op σ α} (h : (k x).Ensures x Q) : (look >>= k).Ensures x Q := h

theorem change {Q : Post σ PUnit} {f : σ → σ} (h : Q [] (.ok ()) (f x)) :
    (change f).Ensures x Q := fun rs =>
  ⟨.ok (), f x, [], by rw [List.append_nil]; rfl, h⟩

theorem change_bind {f : σ → σ} {k : PUnit → Op σ α} (h : (k ()).Ensures (f x) Q) :
    (Op.change f >>= k).Ensures x Q := h

theorem remark {Q : Post σ PUnit} {r : Remark} (h : Q ([r].filterMap Remark.exchange?) (.ok ()) x) :
    (remark r : Op σ PUnit).Ensures x Q := fun _ => ⟨.ok (), x, [r], rfl, h⟩

theorem remark_bind {r : Remark} {k : PUnit → Op σ α}
    (h : (k ()).Ensures x fun xs o y => Q ([r].filterMap Remark.exchange? ++ xs) o y) :
    (Op.remark r >>= k).Ensures x Q := by
  refine bind (remark (Q := fun xs o y => xs = [r].filterMap Remark.exchange? ∧ y = x ∧ o = .ok ())
    ⟨rfl, rfl, rfl⟩) ?_ ?_
  · rintro xs a y ⟨rfl, rfl, -⟩
    exact h
  · rintro xs f y ⟨-, -, ⟨⟩⟩

theorem settle_bind {k : Except Failure α → Op σ β} {Q : Post σ β} (hx : op.Ensures x P)
    (hk : ∀ xs r y, P xs r y → (k r).Ensures y fun ys o z => Q (xs ++ ys) o z) :
    Ensures (settle op >>= k) x Q := by
  intro rs
  obtain ⟨r, y, rs', hr, hp⟩ := hx rs
  obtain ⟨o, z, rs'', hr', hq⟩ := hk _ r y hp (rs ++ rs')
  refine ⟨o, z, rs' ++ rs'', ?_, ?_⟩
  · rw [runFrom_bind_ok (runFrom_settle op _), hr, hr', List.append_assoc]
  · rwa [List.filterMap_append]

/-- A call on the session ends as its operation does. -/
theorem of_carries {shown : α → Answer} {a : Answer} {xs : List Exchange} {y : σ}
    (h : op.Ensures x Q) (hc : op.Carries shown x a xs y) : ∃ o, a = .of shown o ∧ Q xs o y := by
  obtain ⟨o, rs, hr, ha, hxs⟩ := hc
  obtain ⟨o', y', rs', hr', hq⟩ := h []
  rw [hr, List.nil_append] at hr'
  cases hr'
  exact ⟨o, ha, hxs ▸ hq⟩

end Ensures

end Session.Op

namespace Streaming

/-- The reading makes no remark, and whatever it is answered it ends in a state with a property. -/
def Silent (I : σ → Prop) : Streaming σ → Prop
  | done _ x => I x
  | say .. => False
  | write _ next => ∀ r, (next r).Silent I
  | finish next => ∀ r, (next r).Silent I
  | release next => next.Silent I

variable {I : σ → Prop} {st : Streaming σ} {xs : List Exchange} {o : Except Failure Int} {y : σ}

/-- A silent reading has no exchange, and ends in a state with the property. -/
theorem Silent.ends (h : st.Silent I) (he : st.Ends xs o y) : xs = [] ∧ I y := by
  induction he with
  | done => exact ⟨rfl, h⟩
  | wire | event => exact h.elim
  | write _ r _ ih | finish r _ ih => exact ih (h r)
  | release _ ih => exact ih h

/-- Writing pieces is silent where what comes after it is, by induction on the pieces. -/
theorem silent_writeAll {x : σ} {next : Int → Streaming σ} (hx : I x)
    (hnext : ∀ total, (next total).Silent I) (total : Int) (pieces : List Bytes) :
    (writeAll x total next pieces).Silent I := by
  induction pieces generalizing total with
  | nil => exact hnext total
  | cons piece pieces ih =>
    rintro (f | n)
    · exact hx
    · exact ih _

/-- Remarks come first, and their exchanges with them. -/
theorem ends_sayAll {rs : List Remark} (h : (sayAll rs st).Ends xs o y) :
    ∃ ys, xs = rs.filterMap Remark.exchange? ++ ys ∧ st.Ends ys o y := by
  induction rs generalizing xs with
  | nil => exact ⟨xs, rfl, h⟩
  | cons r rs ih =>
    cases h with
    | wire x h =>
      obtain ⟨ys, rfl, hys⟩ := ih h
      exact ⟨ys, rfl, hys⟩
    | event e h => exact ih h

end Streaming

end Mailroom
