import Mailroom.Proofs.Order
import Mailroom.Proofs.Spools

/-!
# Cleaning up

Whatever happens in a round, everything it opened is closed in the end (`Round.run_cleans_up`).

* Spools: at most one is open at any moment, and none in the end (`Round.tidy_run`).
* The session: it is closed exactly if it was connected, once and as the last call
  (`Round.Protocol.closes`).
* Cancellations: a cancelled act is followed by nothing but closing, and the round ends in a
  cancellation (`Round.Protocol.cut`).
-/

namespace Mailroom

variable {σ κ η α β : Type}

/-! ### Cancellations -/

/-- What `P` says of a cancellation and of the acts after it holds of every act that ends in one. -/
def AtCut (P : Failure → List Act → Prop) : List Act → Prop
  | [] => True
  | a :: as => (∀ f, a.CutBy f → P f as) ∧ AtCut P as

section

variable {P Q : Failure → List Act → Prop} {as bs : List Act}

theorem AtCut.mono (h : AtCut P as) (hpq : ∀ f rest, f.isFault = false → P f rest → Q f rest) :
    AtCut Q as := by
  induction as with
  | nil => trivial
  | cons a as ih => exact ⟨fun f hf => hpq f as hf.2 (h.1 f hf), ih h.2⟩

theorem atCut_append :
    AtCut P (as ++ bs) ↔ AtCut (fun f rest => P f (rest ++ bs)) as ∧ AtCut P bs := by
  induction as with
  | nil => simp [AtCut]
  | cons a as ih => simp [AtCut, ih, and_assoc]

theorem AtCut.spec {pre post : List Act} {a : Act} {f : Failure} (h : AtCut P (pre ++ a :: post))
    (hf : a.CutBy f) : P f post :=
  (atCut_append.mp h).2.1 f hf

/-- Nothing follows a cancelled act, and its failure is the outcome. -/
abbrev CutAtEnd (as : List Act) (o : Except Failure α) : Prop :=
  AtCut (fun f rest => rest = [] ∧ o = .error f) as

namespace CutAtEnd

variable {o : Except Failure α}

/-- Acts that end well are not cancelled. -/
theorem atCut {v : α} (h : CutAtEnd as (.ok v : Except Failure α)) : AtCut P as :=
  h.mono fun _ _ _ ⟨_, h⟩ => by cases h

theorem append {v : β} (h : CutAtEnd as (.ok v : Except Failure β)) (k : CutAtEnd bs o) :
    CutAtEnd (as ++ bs) o :=
  atCut_append.mpr ⟨h.atCut, k⟩

theorem map (h : CutAtEnd as o) (g : α → β) : CutAtEnd as (o.map g) := by
  refine h.mono ?_
  rintro f rest - ⟨hrest, rfl⟩
  exact ⟨hrest, rfl⟩

end CutAtEnd

end

theorem Session.Answer.cutAtEnd (c : Session.Call) (a : Session.Answer) :
    CutAtEnd [.call c a] a.absorbed := by
  refine ⟨fun f hf => ⟨rfl, ?_⟩, trivial⟩
  obtain ⟨hfailed, hfault⟩ := hf
  cases a <;> cases hfailed
  exact absorbed_eq_error.mpr ⟨rfl, hfault⟩

namespace Round

variable {d : Settings.Delivery} {uid : String} {uids : List String} {as : List Act}

theorem Attempts.cutAtEnd {fragile : Bool} {left : Nat} {o : Except Failure Unit}
    (h : Attempts fragile left as o) : CutAtEnd as o := by
  induction h with
  | connected | exhausted | cutAttempt => simp [AtCut, Act.CutBy, Act.failure?]
  | again hf _ ih => simpa [AtCut, Act.CutBy, Act.failure?, hf] using ih
  | cutWait hf => simp [AtCut, Act.CutBy, Act.failure?, hf]

theorem Filing.cutAtEnd {box : String} {o : Except Failure Unit} (h : Filing uid box as o) :
    CutAtEnd as o := by
  cases h with
  | stay => trivial
  | move _ a => exact a.cutAtEnd _

theorem Handover.cutAtEnd {o : Except Failure Outcome} (h : Handover uid as o) :
    CutAtEnd as o := by
  cases h with
  | unread hf | rejected _ _ hf => simp [AtCut, Act.CutBy, Act.failure?, hf]
  | unfinished | delivered | cutReading | cutDelivery => simp [AtCut, Act.CutBy, Act.failure?]

theorem Relocation.cutAtEnd {out : Outcome} {o : Except Failure Unit}
    (h : Relocation d uid out as o) : CutAtEnd as o := by
  cases h with
  | unreadable => trivial
  | rejected h => exact h.cutAtEnd
  | @delivered a _ _ ha h =>
    have hmark := a.cutAtEnd (.mark uid true)
    rw [ha] at hmark
    exact hmark.append h.cutAtEnd
  | cutMarking => simp [AtCut, Act.CutBy, Act.failure?]

theorem Block.cutAtEnd {o : Except Failure Outcome} (h : Block d uid as o) : CutAtEnd as o := by
  cases h with
  | whole h k => exact h.cutAtEnd.append (k.cutAtEnd.map _)
  | cutHandover h => exact h.cutAtEnd

/-- No candidate is processed after a cancellation, by induction on the candidates. -/
theorem Blocks.cutAtEnd {o : Except Failure (List Outcome)} (h : Blocks d uids as o) :
    CutAtEnd as o := by
  induction h with
  | nil => trivial
  | cons h _ ih => exact h.cutAtEnd.append (ih.map _)
  | cut h => exact h.cutAtEnd.map fun out => [out]

variable {r : Round σ κ}

theorem Visit.cutAtEnd {o : Except Failure RoundResult} (h : Visit r as o) : CutAtEnd as o := by
  cases h with
  | unlisted hf => simp [AtCut, Act.CutBy, Act.failure?, hf]
  | listed h =>
    refine ⟨fun f hf => ?_, h.cutAtEnd.map _⟩
    cases hf.1
  | cutListing => simp [AtCut, Act.CutBy, Act.failure?]

/-- How a round ends after an act that was cancelled: at once, or after closing, in the
cancellation of the act or of closing. -/
def CutShort (o : Except Failure RoundResult) (f : Failure) (rest : List Act) : Prop :=
  ∃ g, o = .error g ∧ g.kind.isA .cancelled ∧
    (rest = [] ∧ g = f ∨ ∃ a, rest = [.call (.close true) a] ∧ (g = f ∨ a = .failed g))

/-- A cancellation ends the round. -/
theorem Protocol.cut {fragile : Bool} {o : Except Failure RoundResult}
    (h : Protocol r fragile as o) : AtCut (CutShort o) as := by
  have hkind {f : Failure} (hf : f.isFault = false) : f.kind.isA .cancelled :=
    (Failure.isFault_eq_false_iff f).mp hf
  cases h with
  | @unconnected _ f hf h =>
    refine h.cutAtEnd.mono ?_
    rintro _ rest hf' ⟨-, ⟨⟩⟩
    rw [hf] at hf'
    cases hf'
  | cutConnecting hf h =>
    refine h.cutAtEnd.mono ?_
    rintro _ rest - ⟨rfl, ⟨⟩⟩
    exact ⟨_, rfl, hkind hf, .inl ⟨rfl, rfl⟩⟩
  | @closed as bs _ a h k ha =>
    refine atCut_append.mpr ⟨h.cutAtEnd.atCut, atCut_append.mpr ⟨k.cutAtEnd.mono ?_, ?_, trivial⟩⟩
    · rintro f _ hf ⟨rfl, rfl⟩
      exact ⟨f, rfl, hkind hf, .inr ⟨a, rfl, .inl rfl⟩⟩
    · -- A close that is absorbed was not cancelled.
      intro f hf
      obtain ⟨-, hcut⟩ := (a.cutAtEnd (.close true)).1 f hf
      rw [ha] at hcut
      cases hcut
  | @cutClosing as bs _ g h k hg =>
    refine atCut_append.mpr ⟨h.cutAtEnd.atCut, atCut_append.mpr ⟨k.cutAtEnd.mono ?_, ?_, trivial⟩⟩
    · rintro f _ - ⟨rfl, -⟩
      exact ⟨g, rfl, hkind hg, .inr ⟨.failed g, rfl, .inr rfl⟩⟩
    · rintro f ⟨⟨⟩, -⟩
      exact ⟨g, rfl, hkind hg, .inl ⟨rfl, rfl⟩⟩

/-! ### Closing -/

theorem Visit.answers_close {o : Except Failure RoundResult} (h : Visit r as o) (expunge : Bool) :
    answers (.close expunge) as = [] := by
  cases h with
  | unlisted | cutListing => simp [answers, Act.answer?, listing]
  | listed h =>
    rw [answers_cons, answers_eq_nil_of_within rfl (h.within fun _ hu => hu)]
    simp [Act.answer?, listing]

/-- What closing a round does: it comes last, and happens exactly if connecting succeeded. -/
structure Closes (as : List Act) : Prop where
  /-- A connected session is closed once, by the last act. -/
  connected : .done ∈ answers .connect as → ∃ init a, as = init ++ [.call (.close true) a] ∧
    ∀ expunge, answers (.close expunge) init = []
  /-- No other session is closed. -/
  unconnected : .done ∉ answers .connect as → ∀ expunge, answers (.close expunge) as = []

theorem Protocol.closes {fragile : Bool} {o : Except Failure RoundResult}
    (h : Protocol r fragile as o) : Closes as := by
  have hclose (expunge : Bool) : Session.Call.close expunge ≠ .connect := Session.Call.noConfusion
  cases h with
  | unconnected _ h | cutConnecting _ h =>
    exact ⟨fun hdone => by simp [h.done_mem_iff] at hdone,
      fun _ expunge => h.answers_eq_nil (hclose expunge)⟩
  | closed h k _ | cutClosing h k _ =>
    refine ⟨fun _ => ⟨_, _, (List.append_assoc ..).symm, fun expunge => ?_⟩, fun hdone => ?_⟩
    · rw [answers_append, h.answers_eq_nil (hclose expunge), k.answers_close]
      rfl
    · simp [h.done_mem_iff] at hdone

/-- **Cleaning up**: every round, whatever its calls and callbacks end in, cleans up. Where its
record shows a call, only a candidate that is read or handed to the callback has an open spool, its
own, and no spool is open in the end. If connecting succeeded, the last act closes the session, and
no other act does; otherwise the session is not closed. After an act that is cancelled there is
nothing but closing, and the round ends in a cancellation, also when closing fails. -/
theorem run_cleans_up (r : Round σ κ) (b : Bench σ κ η) :
    ∃ as t, (runFrom (r.run : Work σ κ η RoundResult) b).2.steps = b.steps ++ t ∧
      talk t = as.flatMap Act.steps ∧ spoolsAfter none t = some none ∧ Closes as ∧
      ∀ pre a post f, as = pre ++ a :: post → a.CutBy f →
        CutShort (runFrom (r.run : Work σ κ η RoundResult) b).1 f post := by
  obtain ⟨as, t, ht, hpath, hp⟩ := r.run_path b
  obtain ⟨u, held, hu, hspools, rfl⟩ := tidy_run r b
  obtain rfl : t = u := List.append_cancel_left (ht.symm.trans hu)
  refine ⟨as, t, ht, hpath.talk_eq, hspools, hp.closes, ?_⟩
  rintro pre a post f rfl hf
  exact hp.cut.spec hf

/-- A round with two candidates, in which the callback closes the first body itself and is cancelled
then; closing the session fails. -/
theorem run_cleans_up_cancelled :
    let s : Session Unit := ⟨"mail", pure (), fun _ => throw (.plain .os "gone"),
      fun _ _ _ => pure ["7", "8"], fun _ => .done (.ok 0), fun _ _ => pure (), fun _ _ => pure ()⟩
    let r : Round Unit Unit := ⟨s,
      fun _ _ k => .access .close fun _ => .done (.error (.plain .cancelled "")) k,
      ⟨"INBOX", "", "Done", "", 1, 10, 0, .sha256⟩, none, none, .usual⟩
    ∃ t g, (runFrom (r.run : Work Unit Unit Unit RoundResult) (Bench.start () () ())).2.steps = t ∧
      spoolsAfter none t = some none ∧ .verdict "7" (some (.plain .cancelled "")) ∈ t ∧
      (runFrom (r.run : Work Unit Unit Unit RoundResult) (Bench.start () () ())).1 = .error g ∧
        g.kind.isA .cancelled := by
  intro s r
  obtain ⟨as, t, ht, htalk, hspools, -, hcut⟩ :=
    r.run_cleans_up (Bench.start () () () : Bench _ _ Unit)
  have hverdicts : verdicts (runFrom (r.run : Work Unit Unit Unit RoundResult)
    (Bench.start () () ())).2.steps = [("7", some (.plain .cancelled ""))] := by decide +kernel
  have hverdict : .verdict "7" (some (.plain .cancelled "")) ∈ t := by
    obtain ⟨step, hstep, hv⟩ := List.mem_filterMap.mp (hverdicts ▸ List.mem_singleton_self _)
    rw [ht] at hstep
    cases step <;> cases hv
    exact hstep
  have htalking : .verdict "7" (some (.plain .cancelled "")) ∈ talk t :=
    List.mem_filter.mpr ⟨hverdict, rfl⟩
  rw [htalk] at htalking
  obtain ⟨a, ha, hstep⟩ := List.mem_flatMap.mp htalking
  obtain ⟨pre, post, has⟩ := List.append_of_mem ha
  obtain ⟨g, ho, hg, -⟩ := hcut pre a post _ has ⟨a.failure?_of_step hstep rfl, rfl⟩
  exact ⟨t, g, ht, hspools, hverdict, ho, hg⟩

end Round

end Mailroom
