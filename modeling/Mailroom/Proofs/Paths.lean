import Mailroom.Proofs.Running

/-!
# Acts and paths

What a round does to the world is a row of acts (`Act`): a call on the session with its answer, the
end of staging a message, and a delivery with its verdict. Log entries, waits and what a callback
sees of a body stand aside, and the requests to a server are exchanges that belong to a call.

`Path s x as t y` says that the session `s` goes from state `x` to state `y` by the acts `as`, with
the record `t`: each call is one that the session really answers so (`Session.Does`), and between
the acts there are steps aside only. A path determines what an observer of calls and deliveries sees
(`Path.talk_eq`), and the exchanges of each call stand in the record of that call.
-/

namespace Mailroom

open Imap (Exchange)

/-! ### Kinds of steps -/

namespace Step

/-- The steps that make up acts. -/
def isTalk : Step → Bool
  | call _ | answer _ | finish _ | deliver .. | verdict .. => true
  | wire _ | log _ | spool .. | observe _ | backoff _ | pause _ | report .. | status _
  | configure .. | serve _ => false

/-- The exchange with a server that a step is. -/
def wire? : Step → Option Exchange
  | wire x => some x
  | _ => none

/-- The steps that are neither part of an act nor an exchange with a server. -/
def isAside (s : Step) : Bool := !s.isTalk && s.wire?.isNone

/-- The steps aside that are not about a spool either. -/
def isNote : Step → Bool
  | log _ | observe _ | backoff _ | pause _ | report .. | status _ | configure .. | serve _ => true
  | call _ | answer _ | wire _ | spool .. | finish _ | deliver .. | verdict .. => false

/-- The steps that an observer of the session and the callback sees. -/
def isScene : Step → Bool
  | call _ | answer _ | deliver .. | verdict .. | observe _ => true
  | wire _ | log _ | spool .. | finish _ | backoff _ | pause _ | report .. | status _ | configure ..
  | serve _ => false

theorem isAside_of_isNote {s : Step} (h : s.isNote = true) : s.isAside = true := by
  cases s <;> first | rfl | cases h

theorem isTalk_of_isAside {s : Step} (h : s.isAside = true) : s.isTalk = false := by
  rw [isAside, Bool.and_eq_true, Bool.not_eq_true'] at h
  exact h.1

theorem wire?_of_isAside {s : Step} (h : s.isAside = true) : s.wire? = none := by
  rw [isAside, Bool.and_eq_true, Option.isNone_iff_eq_none] at h
  exact h.2

end Step

/-- The part of a record that makes up acts. -/
def talk (t : List Step) : List Step := t.filter Step.isTalk

/-- What an observer of the session and the callback sees of a record. -/
def scenes (t : List Step) : List Step := t.filter Step.isScene

/-- The exchanges in a record. -/
def wires (t : List Step) : List Exchange := t.filterMap Step.wire?

@[simp] theorem wires_nil : wires [] = [] := rfl

@[simp] theorem wires_append (t u : List Step) : wires (t ++ u) = wires t ++ wires u :=
  List.filterMap_append

@[simp] theorem talk_append (t u : List Step) : talk (t ++ u) = talk t ++ talk u :=
  List.filter_append ..

@[simp] theorem scenes_append (t u : List Step) : scenes (t ++ u) = scenes t ++ scenes u :=
  List.filter_append ..

theorem scenes_cons (s : Step) (t : List Step) : scenes (s :: t) = scenes [s] ++ scenes t :=
  scenes_append [s] t

theorem scenes_eq_nil {t : List Step} (h : ∀ s ∈ t, s.isScene = false) : scenes t = [] :=
  List.filter_eq_nil_iff.mpr fun s hs => by simp [h s hs]

theorem wires_cons (s : Step) (t : List Step) : wires (s :: t) = wires [s] ++ wires t :=
  wires_append [s] t

theorem talk_cons (s : Step) (t : List Step) : talk (s :: t) = talk [s] ++ talk t :=
  talk_append [s] t

/-- Where an exchange stands in a record. -/
theorem wires_split {t : List Step} {us vs : List Exchange} {x : Exchange}
    (h : wires t = us ++ x :: vs) : ∃ pre post, t = pre ++ .wire x :: post ∧ wires pre = us := by
  obtain ⟨t₁, t₂, rfl, rfl, h₂⟩ := List.filterMap_eq_append_iff.mp h
  obtain ⟨u, step, post, rfl, hu, hstep, -⟩ := List.filterMap_eq_cons_iff.mp h₂
  obtain rfl : step = .wire x := by
    cases step <;> simp_all [Step.wire?]
  refine ⟨t₁ ++ u, post, (List.append_assoc ..).symm, ?_⟩
  rw [wires_append, show wires u = [] from List.filterMap_eq_nil_iff.mpr hu, List.append_nil]
  rfl

theorem wires_eq_nil_of_aside {t : List Step} (h : ∀ s ∈ t, s.isAside = true) : wires t = [] :=
  List.filterMap_eq_nil_iff.mpr fun s hs => Step.wire?_of_isAside (h s hs)

theorem talk_eq_nil {t : List Step} (h : ∀ s ∈ t, s.isTalk = false) : talk t = [] :=
  List.filter_eq_nil_iff.mpr fun s hs => by simp [h s hs]

theorem talk_eq_nil_of_aside {t : List Step} (h : ∀ s ∈ t, s.isAside = true) : talk t = [] :=
  talk_eq_nil fun s hs => Step.isTalk_of_isAside (h s hs)

/-! ### Acts -/

/-- Something a round does to the world. -/
inductive Act where
  /-- A call on the session, and the answer. -/
  | call (c : Session.Call) (a : Session.Answer)
  /-- The message that was read is finished, or cannot be. -/
  | finish (problem : Option StagingError)
  /-- The callback gets a candidate; it returns, or fails. -/
  | deliver (uid : String) (digest : Bytes) (failure : Option Failure)

/-- The steps that an act is recorded as. -/
def Act.steps : Act → List Step
  | call c a => [.call c, .answer a]
  | finish problem => [.finish problem]
  | deliver uid digest failure => [.deliver uid digest, .verdict uid failure]

/-- The failure that an act ends in, if it does. -/
def Act.failure? : Act → Option Failure
  | call _ (.failed f) => some f
  | call _ _ => none
  | finish _ => none
  | deliver _ _ failure => failure

/-- The failure that a step shows. -/
def Step.failure? : Step → Option Failure
  | answer (.failed f) => some f
  | verdict _ failure => failure
  | _ => none

/-- The step says that a call failed. -/
def Step.isFailedCall : Step → Bool
  | answer (.failed _) => true
  | _ => false

/-- The failure that an act ends in shows in one of its steps. -/
theorem Act.exists_step_of_failure {a : Act} {f : Failure} (h : a.failure? = some f) :
    ∃ s ∈ a.steps, s.failure? = some f := by
  cases a with
  | call c a =>
    cases a <;> cases h
    exact ⟨.answer (.failed f), by simp [steps], rfl⟩
  | finish => cases h
  | deliver uid digest failure => exact ⟨.verdict uid failure, by simp [steps], h⟩

/-- A failure that a step of an act shows is the one that the act ends in. -/
theorem Act.failure?_of_step {a : Act} {s : Step} {f : Failure} (hs : s ∈ a.steps)
    (h : s.failure? = some f) : a.failure? = some f := by
  cases a with
  | call c a =>
    obtain rfl | rfl : s = .call c ∨ s = .answer a := by simpa [steps] using hs
    · cases h
    · cases a <;> exact h
  | finish problem =>
    obtain rfl : s = .finish problem := by simpa [steps] using hs
    cases h
  | deliver uid digest failure =>
    obtain rfl | rfl : s = .deliver uid digest ∨ s = .verdict uid failure := by
      simpa [steps] using hs
    · cases h
    · exact h

/-- The candidate that a call is about. -/
def Session.Call.uid? : Session.Call → Option String
  | readBody uid | mark uid _ | move uid _ => some uid
  | connect | close _ | list .. => none

/-- The act ends in a cancellation. -/
def Act.CutBy (f : Failure) (a : Act) : Prop := a.failure? = some f ∧ f.isFault = false

/-! ### What a session does -/

/-- The exchange with a server that a remark is. -/
def Remark.exchange? : Remark → Option Exchange
  | wire x => some x
  | event _ => none

/-- `op.Carries shown x a xs y`: from `x` the operation ends in `y` with the answer `a`, having had
the exchanges `xs`. -/
def Session.Op.Carries {σ α : Type} (op : Session.Op σ α) (shown : α → Session.Answer) (x : σ)
    (a : Session.Answer) (xs : List Exchange) (y : σ) : Prop :=
  ∃ o rs, runFrom op ⟨x, []⟩ = (o, ⟨y, rs⟩) ∧ a = .of shown o ∧ xs = rs.filterMap Remark.exchange?

/-- `st.Ends xs o y`: for some answers of the message it writes into, the reading ends in `y` with
`o`, having had the exchanges `xs`. -/
inductive Streaming.Ends {σ : Type} :
    Streaming σ → List Exchange → Except Failure Int → σ → Prop where
  /-- The reading is done. -/
  | done (o : Except Failure Int) (y : σ) : Ends (.done o y) [] o y
  /-- An exchange with a server. -/
  | wire {next : Streaming σ} {xs : List Exchange} {o : Except Failure Int} {y : σ} (x : Exchange) :
    Ends next xs o y → Ends (.say (.wire x) next) (x :: xs) o y
  /-- A log event. -/
  | event {next : Streaming σ} {xs : List Exchange} {o : Except Failure Int} {y : σ} (e : Event) :
    Ends next xs o y → Ends (.say (.event e) next) xs o y
  /-- A piece is written, or refused. -/
  | write {next : Except Failure Int → Streaming σ} {xs : List Exchange} {o : Except Failure Int}
    {y : σ} (data : Bytes) (r : Except Failure Int) :
    Ends (next r) xs o y → Ends (.write data next) xs o y
  /-- The message is finished, or refuses. -/
  | finish {next : Except Failure Unit → Streaming σ} {xs : List Exchange}
    {o : Except Failure Int} {y : σ} (r : Except Failure Unit) :
    Ends (next r) xs o y → Ends (.finish next) xs o y
  /-- The message is released. -/
  | release {next : Streaming σ} {xs : List Exchange} {o : Except Failure Int} {y : σ} :
    Ends next xs o y → Ends (.release next) xs o y

/-- `s.Does c x a xs y`: called with `c` in state `x`, the session answers `a` and goes to state
`y`, having had the exchanges `xs` with its server. -/
def Session.Does {σ : Type} (s : Session σ) :
    Session.Call → σ → Session.Answer → List Exchange → σ → Prop
  | .connect => s.connect.Carries fun _ => .done
  | .close expunge => (s.close expunge).Carries fun _ => .done
  | .list mailbox pattern includeSeen => (s.list mailbox pattern includeSeen).Carries .listing
  | .readBody uid => fun x a xs y => ∃ o, (s.readBody uid x).Ends xs o y ∧ a = .of .count o
  | .mark uid seen => (s.mark uid seen).Carries fun _ => .done
  | .move uid mailbox => (s.move uid mailbox).Carries fun _ => .done

/-! ### Paths -/

/-- The session goes from one state to another by an act, with a record. -/
inductive Session.Performs {σ : Type} (s : Session σ) : Act → σ → List Step → σ → Prop where
  /-- A call; what is recorded between call and answer is the session's own. -/
  | call {x y : σ} {mid : List Step} {c : Session.Call} {a : Session.Answer}
    (hd : s.Does c x a (wires mid) y) (hmid : ∀ m ∈ mid, m.isTalk = false) :
    Performs s (.call c a) x (.call c :: (mid ++ [.answer a])) y
  /-- The end of staging a message. -/
  | finish (x : σ) (problem : Option StagingError) :
    Performs s (.finish problem) x [.finish problem] x
  /-- A delivery; between it and the verdict there are steps aside. -/
  | deliver (x : σ) {mid : List Step} {uid : String} {digest : Bytes} {failure : Option Failure}
    (hmid : ∀ m ∈ mid, m.isAside = true) :
    Performs s (.deliver uid digest failure) x
      (.deliver uid digest :: (mid ++ [.verdict uid failure])) x

/-- The session goes from one state to another by acts, with a record. -/
inductive Path {σ : Type} (s : Session σ) : σ → List Act → List Step → σ → Prop where
  /-- Nothing happens. -/
  | stay (x : σ) : Path s x [] [] x
  /-- A step aside. -/
  | aside {x y : σ} {as : List Act} {t : List Step} {step : Step} (h : step.isAside = true) :
    Path s x as t y → Path s x as (step :: t) y
  /-- An act. -/
  | act {x y z : σ} {a : Act} {as : List Act} {t u : List Step} :
    s.Performs a x t y → Path s y as u z → Path s x (a :: as) (t ++ u) z

variable {σ : Type} {s : Session σ} {x y z : σ} {a : Act} {as bs : List Act} {t u : List Step}

/-- The record of an act shows the act and nothing else of calls and deliveries. -/
theorem Session.Performs.talk_eq (h : s.Performs a x t y) : talk t = a.steps := by
  cases h with
  | call hd hmid =>
    rw [talk_cons, talk_append, talk_eq_nil hmid]
    rfl
  | finish => rfl
  | deliver _ hmid =>
    rw [talk_cons, talk_append, talk_eq_nil_of_aside hmid]
    rfl

/-- A call is one that the session does, with the exchanges in its record. -/
theorem Session.Performs.does {c : Session.Call} {a : Session.Answer}
    (h : s.Performs (.call c a) x t y) : s.Does c x a (wires t) y := by
  cases h with
  | @call _ _ mid _ _ hd _ =>
    have hw : wires (.call c :: (mid ++ [.answer a])) = wires mid := by
      rw [wires_cons, wires_append]
      exact List.append_nil _
    rwa [hw]

/-- The end of staging says nothing to a server. -/
theorem Session.Performs.of_finish {problem : Option StagingError}
    (h : s.Performs (.finish problem) x t y) : wires t = [] ∧ y = x := by
  cases h
  exact ⟨rfl, rfl⟩

/-- Neither does a delivery. -/
theorem Session.Performs.of_deliver {uid : String} {digest : Bytes} {failure : Option Failure}
    (h : s.Performs (.deliver uid digest failure) x t y) : wires t = [] ∧ y = x := by
  cases h with
  | deliver _ hmid =>
    rw [wires_cons, wires_append, wires_eq_nil_of_aside hmid]
    exact ⟨rfl, rfl⟩

namespace Path

theorem append (h : Path s x as t y) (k : Path s y bs u z) : Path s x (as ++ bs) (t ++ u) z := by
  induction h with
  | stay => exact k
  | aside ha _ ih => exact .aside ha (ih k)
  | act hp _ ih =>
    rw [List.cons_append, List.append_assoc]
    exact .act hp (ih k)

theorem of_aside (x : σ) (h : ∀ m ∈ t, m.isAside = true) : Path s x [] t x := by
  induction t with
  | nil => exact .stay x
  | cons m t ih =>
    exact .aside (h m List.mem_cons_self) (ih fun n hn => h n (List.mem_cons_of_mem m hn))

theorem of_act (h : s.Performs a x t y) : Path s x [a] t y := by
  rw [← List.append_nil t]
  exact .act h (.stay y)

/-- The acts are all that a record shows of calls and deliveries. -/
theorem talk_eq (h : Path s x as t y) : talk t = as.flatMap Act.steps := by
  induction h with
  | stay => rfl
  | @aside _ _ _ _ m ha _ ih =>
    rw [talk_cons, ih, talk_eq_nil_of_aside (t := [m]) (by simpa using ha)]
    rfl
  | act hp _ ih => rw [talk_append, ih, hp.talk_eq, List.flatMap_cons]

/-- A path without acts stays where it is. -/
theorem nil_inv (h : Path s x [] t y) : y = x ∧ ∀ m ∈ t, m.isAside = true := by
  generalize has : ([] : List Act) = as at h
  induction h with
  | stay => exact ⟨rfl, by simp⟩
  | aside ha _ ih =>
    obtain ⟨rfl, hall⟩ := ih has
    exact ⟨rfl, by simpa using ⟨ha, hall⟩⟩
  | act => cases has

/-- The first act of a path, and the path after it. -/
theorem cons_inv (h : Path s x (a :: as) t z) :
    ∃ v w y, s.Performs a x v y ∧ Path s y as w z ∧ wires t = wires v ++ wires w := by
  generalize hcs : a :: as = cs at h
  induction h with
  | stay => cases hcs
  | @aside _ _ _ _ m ha _ ih =>
    obtain ⟨v, w, y, hp, hpath, hw⟩ := ih hcs
    refine ⟨v, w, y, hp, hpath, ?_⟩
    rw [wires_cons, hw, wires_eq_nil_of_aside (t := [m]) (by simpa using ha)]
    rfl
  | act hp hpath _ =>
    cases hcs
    exact ⟨_, _, _, hp, hpath, wires_append _ _⟩

/-- A path of one act. -/
theorem single_inv (h : Path s x [a] t y) : ∃ v, s.Performs a x v y ∧ wires t = wires v := by
  obtain ⟨v, w, _, hp, hpath, hw⟩ := h.cons_inv
  obtain ⟨rfl, ha⟩ := hpath.nil_inv
  exact ⟨v, hp, by rw [hw, wires_eq_nil_of_aside ha, List.append_nil]⟩

/-- A path by two rows of acts is two paths. -/
theorem append_inv (h : Path s x (as ++ bs) t z) :
    ∃ y t₁ t₂, Path s x as t₁ y ∧ Path s y bs t₂ z ∧ t = t₁ ++ t₂ := by
  generalize hcs : as ++ bs = cs at h
  induction h generalizing as with
  | stay x =>
    obtain ⟨rfl, rfl⟩ := List.append_eq_nil_iff.mp hcs
    exact ⟨x, [], [], .stay x, .stay x, rfl⟩
  | aside ha _ ih =>
    obtain ⟨y, t₁, t₂, h₁, h₂, rfl⟩ := ih hcs
    exact ⟨y, _, t₂, .aside ha h₁, h₂, rfl⟩
  | act hp hpath ih =>
    cases as with
    | nil =>
      rw [List.nil_append] at hcs
      exact ⟨_, [], _, .stay _, hcs ▸ .act hp hpath, rfl⟩
    | cons a as =>
      obtain ⟨rfl, has⟩ := List.cons.inj hcs
      obtain ⟨y, t₁, t₂, h₁, h₂, rfl⟩ := ih has
      exact ⟨y, _, t₂, .act hp h₁, h₂, (List.append_assoc ..).symm⟩

end Path

end Mailroom
