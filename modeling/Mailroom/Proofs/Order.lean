import Mailroom.Proofs.Protocol

/-!
# The order of acts

A round does something to a message only on a verdict: it marks a message seen when the last thing
the callback did was to accept it, and it moves a message to the box for delivered or for rejected
messages according to the last verdict, which was about that message (`Warranted`). Every row of
acts in the grammar of rounds is orderly in this sense (`Round.Protocol.orderly`), also where a
cancellation cuts it short. What is kept through rounds is proved from this order alone, not from
the grammar.

The calls in a round are as orderly: attempts to connect come first, and what is done for candidates
calls for these only (`Act.Within`). So the other calls are answered where the grammar says so and
nowhere else (`answers`).
-/

namespace Mailroom

/-- What came of handing a candidate to the callback: the candidate, and the failure if there was
one. -/
abbrev Verdict : Type := String × Option Failure

/-- The verdict that a step is. -/
def Step.verdict? : Step → Option Verdict
  | verdict uid failure => some (uid, failure)
  | _ => none

/-- The verdicts in a record. -/
def verdicts (t : List Step) : List Verdict := t.filterMap Step.verdict?

@[simp] theorem verdicts_nil : verdicts [] = [] := rfl

@[simp] theorem verdicts_append (t u : List Step) : verdicts (t ++ u) = verdicts t ++ verdicts u :=
  List.filterMap_append

theorem verdicts_cons (s : Step) (t : List Step) : verdicts (s :: t) = verdicts [s] ++ verdicts t :=
  verdicts_append [s] t

theorem Step.verdict?_of_not_talk {s : Step} (h : s.isTalk = false) : s.verdict? = none := by
  cases s <;> first | rfl | cases h

theorem verdicts_eq_nil {t : List Step} (h : ∀ s ∈ t, s.isTalk = false) : verdicts t = [] :=
  List.filterMap_eq_nil_iff.mpr fun s hs => Step.verdict?_of_not_talk (h s hs)

/-- The box that a verdict sends a message to; where messages stay, it has no name. -/
def Settings.Delivery.boxFor (d : Settings.Delivery) : Option Failure → String
  | none => d.outbox
  | some _ => d.errbox

/-- The verdict that an act is. -/
def Act.verdict? : Act → Option Verdict
  | deliver uid _ failure => some (uid, failure)
  | call .. | finish _ => none

/-- The verdicts among acts. -/
def handed (as : List Act) : List Verdict := as.filterMap Act.verdict?

@[simp] theorem handed_append (as bs : List Act) : handed (as ++ bs) = handed as ++ handed bs :=
  List.filterMap_append

/-- The last verdict after some acts. -/
def latest (last : Option Verdict) (as : List Act) : Option Verdict :=
  as.foldl (fun last a => a.verdict?.or last) last

/-- The last verdict warrants what an act does to a message. -/
def Act.Warranted (d : Settings.Delivery) (last : Option Verdict) : Act → Prop
  | call (.mark uid seen) _ => seen = true ∧ last = some (uid, none)
  | call (.move uid box) _ =>
    ∃ failure, last = some (uid, failure) ∧ box = d.boxFor failure ∧ box ≠ ""
  | _ => True

/-- Each act is warranted by the last verdict before it. -/
def Orderly (d : Settings.Delivery) : Option Verdict → List Act → Prop
  | _, [] => True
  | last, a :: as => a.Warranted d last ∧ Orderly d (a.verdict?.or last) as

variable {d : Settings.Delivery} {last : Option Verdict} {as bs : List Act}

theorem orderly_append :
    Orderly d last (as ++ bs) ↔ Orderly d last as ∧ Orderly d (latest last as) bs := by
  induction as generalizing last with
  | nil => simp [Orderly, latest]
  | cons a as ih => simp [Orderly, latest, ih, and_assoc]

/-- The verdict that an act is stands in its record, and no other. -/
theorem Session.Performs.verdicts_eq {σ : Type} {s : Session σ} {a : Act} {x y : σ} {t : List Step}
    (h : s.Performs a x t y) : verdicts t = a.verdict?.toList := by
  cases h with
  | call hd hmid =>
    rw [verdicts_cons, verdicts_append, verdicts_eq_nil hmid]
    rfl
  | finish => rfl
  | deliver _ hmid =>
    rw [verdicts_cons, verdicts_append,
      verdicts_eq_nil fun m hm => Step.isTalk_of_isAside (hmid m hm)]
    rfl

/-- The verdicts that acts are stand in their record, and no others. -/
theorem Path.verdicts_eq {σ : Type} {s : Session σ} {x y : σ} {t : List Step}
    (h : Path s x as t y) : verdicts t = handed as := by
  induction h with
  | stay => rfl
  | @aside _ _ _ t step hstep _ ih =>
    rw [verdicts_cons, verdicts_eq_nil (t := [step]) (by simpa using Step.isTalk_of_isAside hstep)]
    exact ih
  | @act _ _ _ a as _ _ hp _ ih =>
    rw [verdicts_append, hp.verdicts_eq, ih, handed, handed, List.filterMap_cons]
    cases a.verdict? <;> rfl

namespace Round

variable {uid : String}

theorem Attempts.orderly {fragile : Bool} {left : Nat} {o : Except Failure Unit}
    (h : Attempts fragile left as o) : Orderly d last as := by
  induction h with
  | connected | exhausted | cutAttempt | cutWait => simp [Orderly, Act.Warranted]
  | again _ _ ih => exact ⟨trivial, ih⟩

theorem Handover.orderly {o : Except Failure Outcome} (h : Handover uid as o) :
    Orderly d last as := by
  cases h <;> simp [Orderly, Act.Warranted]

theorem Handover.latest_of_delivered (last : Option Verdict)
    (h : Handover uid as (.ok .delivered)) : latest last as = some (uid, none) := by
  cases h
  rfl

theorem Handover.latest_of_rejected (last : Option Verdict)
    (h : Handover uid as (.ok .rejected)) : ∃ f, latest last as = some (uid, some f) := by
  cases h with
  | @rejected _ _ f _ => exact ⟨f, rfl⟩

theorem Filing.orderly (failure : Option Failure) {o : Except Failure Unit}
    (h : Filing uid (d.boxFor failure) as o) : Orderly d (some (uid, failure)) as := by
  cases h with
  | stay => trivial
  | move hbox a => exact ⟨⟨failure, rfl, rfl, hbox⟩, trivial⟩

/-- What follows a handover is warranted by its verdict. -/
theorem Relocation.orderly {out : Outcome} {o : Except Failure Unit} (h : Handover uid as (.ok out))
    (k : Relocation d uid out bs o) : Orderly d (latest last as) bs := by
  cases k with
  | unreadable => trivial
  | rejected k =>
    obtain ⟨f, hf⟩ := h.latest_of_rejected last
    rw [hf]
    exact Filing.orderly (some f) k
  | delivered _ k =>
    rw [h.latest_of_delivered last]
    exact ⟨⟨rfl, rfl⟩, Filing.orderly none k⟩
  | cutMarking =>
    rw [h.latest_of_delivered last]
    exact ⟨⟨rfl, rfl⟩, trivial⟩

theorem Block.orderly {o : Except Failure Outcome} (h : Block d uid as o) : Orderly d last as := by
  cases h with
  | whole h k => exact orderly_append.mpr ⟨h.orderly, k.orderly h⟩
  | cutHandover h => exact h.orderly

theorem Blocks.orderly {uids : List String} {o : Except Failure (List Outcome)}
    (h : Blocks d uids as o) : Orderly d last as := by
  induction h generalizing last with
  | nil => trivial
  | cons h _ ih => exact orderly_append.mpr ⟨h.orderly, ih⟩
  | cut h => exact h.orderly

variable {σ κ : Type} {r : Round σ κ}

theorem Visit.orderly {o : Except Failure RoundResult} (h : Visit r as o) :
    Orderly r.settings last as := by
  cases h with
  | unlisted | cutListing => exact ⟨trivial, trivial⟩
  | listed h => exact ⟨trivial, h.orderly⟩

/-- **Rounds are orderly**, whatever they end in. -/
theorem Protocol.orderly {fragile : Bool} {o : Except Failure RoundResult}
    (h : Protocol r fragile as o) : Orderly r.settings last as := by
  cases h with
  | unconnected _ h | cutConnecting _ h => exact h.orderly
  | closed h k _ | cutClosing h k _ =>
    exact orderly_append.mpr ⟨h.orderly, orderly_append.mpr ⟨k.orderly, trivial, trivial⟩⟩

/-! Connecting and relocating hand nothing to the callback. -/

theorem Attempts.handed_eq {fragile : Bool} {left : Nat} {o : Except Failure Unit}
    (h : Attempts fragile left as o) : handed as = [] := by
  induction h with
  | connected | exhausted | cutAttempt | cutWait => rfl
  | again _ _ ih => exact ih

theorem Filing.handed_eq {box : String} {o : Except Failure Unit} (h : Filing uid box as o) :
    handed as = [] := by
  cases h <;> rfl

theorem Relocation.handed_eq {out : Outcome} {o : Except Failure Unit}
    (h : Relocation d uid out as o) : handed as = [] := by
  cases h with
  | unreadable | cutMarking => rfl
  | rejected h | delivered _ h => exact h.handed_eq

end Round

/-! ### Calls in a round -/

/-- A call that an act is, is about one of some candidates. -/
def Act.Within (uids : List String) : Act → Prop
  | call c _ => ∃ uid ∈ uids, c.uid? = some uid
  | finish _ | deliver .. => True

/-- The answer to a call that an act is. -/
def Act.answer? (c : Session.Call) : Act → Option Session.Answer
  | call c' a => if c' = c then some a else none
  | finish _ | deliver .. => none

/-- The answers to a call. -/
def answers (c : Session.Call) (as : List Act) : List Session.Answer := as.filterMap (Act.answer? c)

@[simp] theorem answers_append (c : Session.Call) (as bs : List Act) :
    answers c (as ++ bs) = answers c as ++ answers c bs := List.filterMap_append

theorem answers_cons (c : Session.Call) (a : Act) (as : List Act) :
    answers c (a :: as) = (a.answer? c).toList ++ answers c as := by
  rw [answers, List.filterMap_cons]
  cases a.answer? c <;> rfl

/-- What is done for candidates answers no other call. -/
theorem answers_eq_nil_of_within {c : Session.Call} (hc : c.uid? = none) {uids : List String}
    {as : List Act} (h : ∀ a ∈ as, a.Within uids) : answers c as = [] := by
  refine List.filterMap_eq_nil_iff.mpr fun a ha => ?_
  cases a with
  | call c' _ =>
    obtain ⟨uid, -, hc'⟩ := h _ ha
    refine if_neg fun hcc => ?_
    rw [hcc, hc] at hc'
    cases hc'
  | finish | deliver => rfl

namespace Round

variable {d : Settings.Delivery} {uid : String} {uids all : List String} {as : List Act}

theorem Attempts.answers_eq_nil {fragile : Bool} {left : Nat} {o : Except Failure Unit}
    {c : Session.Call} (hc : c ≠ .connect) (h : Attempts fragile left as o) :
    answers c as = [] := by
  induction h with
  | connected | exhausted | cutAttempt | cutWait =>
    simp [answers, Act.answer?, hc.symm]
  | again _ _ ih => simpa [answers, Act.answer?, hc.symm] using ih

/-- Connecting succeeds with the attempt that is answered so. -/
theorem Attempts.done_mem_iff {fragile : Bool} {left : Nat} {o : Except Failure Unit}
    (h : Attempts fragile left as o) : .done ∈ answers .connect as ↔ o = .ok () := by
  induction h with
  | connected | exhausted | cutAttempt | cutWait => simp [answers, Act.answer?]
  | again _ _ ih => simpa [answers, Act.answer?] using ih

theorem Filing.within {box : String} {o : Except Failure Unit} (hu : uid ∈ all)
    (h : Filing uid box as o) : ∀ a ∈ as, a.Within all := by
  cases h <;> simp [Act.Within, Session.Call.uid?, hu]

theorem Handover.within {o : Except Failure Outcome} (hu : uid ∈ all) (h : Handover uid as o) :
    ∀ a ∈ as, a.Within all := by
  cases h <;> simp [Act.Within, Session.Call.uid?, hu]

theorem Relocation.within {out : Outcome} {o : Except Failure Unit} (hu : uid ∈ all)
    (h : Relocation d uid out as o) : ∀ a ∈ as, a.Within all := by
  cases h with
  | unreadable => simp
  | rejected h => exact h.within hu
  | delivered _ h =>
    rw [List.forall_mem_cons]
    exact ⟨⟨uid, hu, rfl⟩, h.within hu⟩
  | cutMarking =>
    rw [List.forall_mem_singleton]
    exact ⟨uid, hu, rfl⟩

theorem Block.within {o : Except Failure Outcome} (hu : uid ∈ all) (h : Block d uid as o) :
    ∀ a ∈ as, a.Within all := by
  cases h with
  | whole h k =>
    rw [List.forall_mem_append]
    exact ⟨h.within hu, k.within hu⟩
  | cutHandover h => exact h.within hu

theorem Blocks.within {o : Except Failure (List Outcome)} (hu : ∀ uid ∈ uids, uid ∈ all)
    (h : Blocks d uids as o) : ∀ a ∈ as, a.Within all := by
  induction h with
  | nil => simp
  | cons h _ ih =>
    rw [List.forall_mem_cons] at hu
    rw [List.forall_mem_append]
    exact ⟨h.within hu.1, ih hu.2⟩
  | cut h =>
    rw [List.forall_mem_cons] at hu
    exact h.within hu.1

end Round

end Mailroom
