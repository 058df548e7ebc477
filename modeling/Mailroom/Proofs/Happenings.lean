import Mailroom.Poller.Basic
import Mailroom.Proofs.Bookkeeping
import Mailroom.Proofs.Filling

/-!
# What happens to a poller

Requests to stop come at any time, and meanwhile rounds are entered into the books and the poller
takes its status. These are the happenings (`Poller.Happening`). `Poller.Happens b hs b'` says that
these and no others lie on the way from one bench to another: whatever else changes there concerns
neither the flag nor the books, and nothing of it shows among the statuses and the log entries of
requests. Such a way can be parted between any two happenings (`Poller.Happens.split`).

At every moment of the life of a new poller, what happened so far determines its books, its status,
its flag, and what requests have logged (`Poller.Happens.moment`): the first request sets the flag
and logs what it announces, and from then on nothing clears it and nothing announces a stop.
-/

namespace Mailroom

variable {σ κ : Type}

/-! ### What requests log -/

/-- The event announces a stop. -/
def Event.isAnnouncement : Event → Bool
  | stopRequested _ | signalReceived _ => true
  | _ => false

/-- The step is a log entry of a request to stop. -/
def Step.isRequest : Step → Bool
  | log e => e.event.isRequest
  | _ => false

theorem StopRequest.isRequest_of_event? {r : StopRequest} {already : Bool} {e : Event}
    (h : r.event? already = some e) : e.isRequest = true := by
  cases r <;> cases already <;> cases h <;> rfl

/-- Once the flag is set, nothing announces a stop. -/
theorem StopRequest.not_isAnnouncement {r : StopRequest} {e : Event}
    (h : r.event? true = some e) : e.isAnnouncement = false := by
  cases r <;> cases h
  rfl

theorem StopRequest.isAnnouncement_of_event? {r : StopRequest} {e : Event}
    (h : r.event? false = some e) : e.isAnnouncement = true := by
  cases r <;> cases h <;> rfl

/-- What requests log one after the other, while the flag is not set at first. -/
def announced : List StopRequest → List Event
  | [] => []
  | r :: rs => (r.event? false).toList ++ rs.filterMap (·.event? true)

/-- What requests log one after the other, given whether the flag is set at first. -/
def logged (already : Bool) (rs : List StopRequest) : List Event :=
  if already then rs.filterMap (·.event? true) else announced rs

@[simp] theorem logged_nil (already : Bool) : logged already [] = [] := by
  cases already <;> rfl

theorem logged_cons (already : Bool) (r : StopRequest) (rs : List StopRequest) :
    logged already (r :: rs) = (r.event? already).toList ++ logged true rs := by
  cases already with
  | false => rfl
  | true =>
    show (r :: rs).filterMap (·.event? true) = _ ++ rs.filterMap (·.event? true)
    rw [List.filterMap_cons]
    cases r.event? true <;> rfl

/-- A stop is announced once, by the first request, unless that one is silent. -/
theorem filter_announced (rs : List StopRequest) :
    (announced rs).filter Event.isAnnouncement = (rs.head?.bind (·.event? false)).toList := by
  cases rs with
  | nil => rfl
  | cons r rs =>
    have hlater : (rs.filterMap (·.event? true)).filter Event.isAnnouncement = [] := by
      rw [List.filter_eq_nil_iff]
      intro e he
      obtain ⟨r', -, hr'⟩ := List.mem_filterMap.mp he
      rw [StopRequest.not_isAnnouncement hr']
      exact Bool.false_ne_true
    rw [announced, List.filter_append, hlater, List.append_nil]
    show _ = (r.event? false).toList
    cases h : r.event? false with
    | none => rfl
    | some e => exact List.filter_cons_of_pos (StopRequest.isAnnouncement_of_event? h)

/-! ### What the record shows -/

/-- The status that a step shows. -/
def Step.status? : Step → Option Status
  | status s => some s
  | _ => none

/-- The statuses in a record. -/
def statuses (t : List Step) : List Status := t.filterMap Step.status?

@[simp] theorem statuses_append (t u : List Step) : statuses (t ++ u) = statuses t ++ statuses u :=
  List.filterMap_append

/-- The log entries of requests in a record. What is logged within a call is the session's own; the
flag says whether a call is under way. -/
def requestsLogged : Bool → List Step → List Event
  | _, [] => []
  | inCall, s :: t => match s with
    | .call _ => requestsLogged true t
    | .answer _ => requestsLogged false t
    | .log e =>
      if !inCall && e.event.isRequest then e.event :: requestsLogged inCall t
      else requestsLogged inCall t
    | _ => requestsLogged inCall t

/-- A record that shows no status and no log entry of a request, and in which no call is left
without an answer. -/
structure Hushed (t : List Step) : Prop where
  /-- There is no status. -/
  statuses : statuses t = []
  /-- There is no log entry of a request, and what comes afterwards is not within a call. -/
  requests : ∀ u, requestsLogged false (t ++ u) = requestsLogged false u

/-- The step is no call, no answer, no status and no log entry of a request. -/
def Step.isPlain : Step → Bool
  | call _ | answer _ | status _ => false
  | log e => !e.event.isRequest
  | _ => true

namespace Hushed

theorem nil : Hushed [] := ⟨rfl, fun _ => rfl⟩

theorem append {t u : List Step} (ht : Hushed t) (hu : Hushed u) : Hushed (t ++ u) := by
  refine ⟨by rw [statuses_append, ht.statuses, hu.statuses, List.append_nil], fun v => ?_⟩
  rw [List.append_assoc, ht.requests, hu.requests]

theorem single {s : Step} (h : s.isPlain = true) : Hushed [s] := by
  cases s with
  | call | answer | status => cases h
  | log e =>
    have hrequest : e.event.isRequest = false := by simpa [Step.isPlain] using h
    exact ⟨rfl, fun u => by simp [requestsLogged, hrequest]⟩
  | wire | spool | finish | deliver | verdict | observe | backoff | pause | report | configure
  | serve => exact ⟨rfl, fun _ => rfl⟩

/-- Plain steps in a row, by induction on them. -/
theorem of_plain {t : List Step} (h : ∀ s ∈ t, s.isPlain = true) : Hushed t := by
  induction t with
  | nil => exact nil
  | cons s t ih =>
    have hrest := ih fun s' hs' => h s' (List.mem_cons_of_mem s hs')
    exact (single (h s List.mem_cons_self)).append hrest

/-- Within a call nothing counts, by induction on what the session says in it. -/
theorem requestsLogged_reading {t : List Step} (h : ∀ s ∈ t, s.isReading = true)
    (a : Session.Answer) (u : List Step) :
    requestsLogged true (t ++ .answer a :: u) = requestsLogged false u := by
  induction t with
  | nil => rfl
  | cons s t ih =>
    have hrest := ih fun s' hs' => h s' (List.mem_cons_of_mem s hs')
    have hs := h s List.mem_cons_self
    cases s with
    | wire | log | spool => exact hrest
    | call | answer | finish | deliver | verdict | observe | backoff | pause | report | status
    | configure | serve => cases hs

/-- A call with its answer, and with what the session says in it. -/
theorem call (c : Session.Call) {t : List Step} (h : ∀ s ∈ t, s.isReading = true)
    (a : Session.Answer) : Hushed (.call c :: (t ++ [.answer a])) := by
  constructor
  · refine List.filterMap_eq_nil_iff.mpr fun s hs => ?_
    obtain rfl | hs | rfl : s = .call c ∨ s ∈ t ∨ s = .answer a := by simpa using hs
    · rfl
    · have hreading := h s hs
      cases s <;> first | rfl | cases hreading
    · rfl
  · intro u
    rw [List.cons_append, List.append_assoc]
    exact requestsLogged_reading h a u

end Hushed

namespace Poller

/-! ### Happenings -/

/-- What happens to a poller. -/
inductive Happening where
  /-- A request to stop is met. -/
  | asked (r : StopRequest)
  /-- A round is entered into the books. -/
  | entered (result : RoundResult)
  /-- The poller takes a status of its own. -/
  | took (s : Status)

namespace Happening

/-- The request in a happening. -/
def request? : Happening → Option StopRequest
  | asked r => some r
  | entered _ | took _ => none

/-- The result that is entered in a happening. -/
def result? : Happening → Option RoundResult
  | entered result => some result
  | asked _ | took _ => none

/-- The status that the poller has after a happening, if that gives it one. -/
def status? : Happening → Option Status
  | entered result => some (standing (some result))
  | took s => some s
  | asked _ => none

/-- What a happening does to the books. -/
def apply (l : Ledger) : Happening → Ledger
  | asked _ => l
  | entered result => l.enter result
  | took s => { l with status := s }

/-- What a happening adds to the record, given whether the flag was set. -/
def trace (already : Bool) (subject : Option Subject) : Happening → List Step
  | asked r => (r.event? already).toList.map fun e => .log ⟨e, subject⟩
  | entered result => [.status (standing (some result))]
  | took s => [.status s]

/-- A happening, from one bench to another: a request sets the flag. -/
structure Takes (h : Happening) (b b' : Bench σ κ Ledger) : Prop where
  /-- Requests set the flag, and nothing clears it. -/
  cancelled : b'.cancelled = (b.cancelled || h.request?.isSome)
  /-- What becomes of the books. -/
  ledger : b'.ledger = h.apply b.ledger
  /-- What is added to the record. -/
  steps : ∃ subject, b'.steps = b.steps ++ h.trace b.cancelled subject

theorem status_apply (h : Happening) (l : Ledger) :
    (h.apply l).status = h.status?.getD l.status := by
  cases h with
  | asked | took => rfl
  | entered result => simp [apply, Ledger.enter, RoundResult.ok, status?, standing]

theorem rounds_apply (h : Happening) (l : Ledger) :
    (h.apply l).rounds = l.rounds + h.result?.toList.length := by
  cases h <;> rfl

theorem statuses_trace (h : Happening) (already : Bool) (subject : Option Subject) :
    statuses (h.trace already subject) = h.status?.toList := by
  cases h with
  | asked r =>
    rw [trace]
    cases r.event? already <;> rfl
  | entered | took => rfl

theorem requestsLogged_trace (h : Happening) (already : Bool) (subject : Option Subject)
    (u : List Step) : requestsLogged false (h.trace already subject ++ u) =
      logged already h.request?.toList ++ requestsLogged false u := by
  cases h with
  | asked r =>
    show _ = logged already [r] ++ _
    rw [trace, logged_cons, logged_nil, List.append_nil]
    cases he : r.event? already with
    | none => rfl
    | some e => simp [requestsLogged, StopRequest.isRequest_of_event? he]
  | entered | took =>
    show _ = logged already [] ++ _
    rw [logged_nil]
    rfl

end Happening

/-- The requests among happenings. -/
def requests (hs : List Happening) : List StopRequest := hs.filterMap Happening.request?

/-- Nothing happens: the flag and the books stay, and the record shows no status and no request. -/
structure Uneventful (b b' : Bench σ κ Ledger) : Prop where
  /-- The flag stays. -/
  cancelled : b'.cancelled = b.cancelled
  /-- The books stay. -/
  ledger : b'.ledger = b.ledger
  /-- What is added to the record. -/
  steps : ∃ t, b'.steps = b.steps ++ t ∧ Hushed t

/-- These are all the happenings on the way from one bench to another. -/
inductive Happens : Bench σ κ Ledger → List Happening → Bench σ κ Ledger → Prop where
  /-- The way ends. -/
  | nil (b : Bench σ κ Ledger) : Happens b [] b
  /-- Nothing happens for a while. -/
  | uneventful {b b₁ b' : Bench σ κ Ledger} {hs : List Happening} (h : Uneventful b b₁)
    (hrest : Happens b₁ hs b') : Happens b hs b'
  /-- Something happens. -/
  | cons {b b₁ b' : Bench σ κ Ledger} {h : Happening} {hs : List Happening} (hh : h.Takes b b₁)
    (hrest : Happens b₁ hs b') : Happens b (h :: hs) b'

namespace Happens

variable {b b₁ b' : Bench σ κ Ledger} {hs hs' : List Happening}

theorem of_uneventful (h : Uneventful b b') : Happens b [] b' := .uneventful h (.nil b')

theorem single {h : Happening} (hh : h.Takes b b') : Happens b [h] b' := .cons hh (.nil b')

theorem append (h : Happens b hs b₁) (k : Happens b₁ hs' b') : Happens b (hs ++ hs') b' := by
  induction h with
  | nil => exact k
  | uneventful hu _ ih => exact .uneventful hu (ih k)
  | cons hh _ ih => exact .cons hh (ih k)

/-- The way can be parted between any two happenings. -/
theorem split (h : Happens b (hs ++ hs') b') : ∃ m, Happens b hs m ∧ Happens m hs' b' := by
  generalize hall : hs ++ hs' = all at h
  induction h generalizing hs with
  | nil b =>
    obtain ⟨rfl, rfl⟩ := List.append_eq_nil_iff.mp hall
    exact ⟨b, .nil b, .nil b⟩
  | uneventful hu _ ih =>
    obtain ⟨m, hbefore, hafter⟩ := ih hall
    exact ⟨m, .uneventful hu hbefore, hafter⟩
  | @cons b _ _ h _ hh hrest ih =>
    cases hs with
    | nil =>
      obtain rfl : hs' = _ := hall
      exact ⟨b, .nil b, .cons hh hrest⟩
    | cons h' hs =>
      obtain ⟨rfl, hrow⟩ := List.cons.inj hall
      obtain ⟨m, hbefore, hafter⟩ := ih hrow
      exact ⟨m, .cons hh hbefore, hafter⟩

theorem ledger_eq (h : Happens b hs b') : b'.ledger = hs.foldl Happening.apply b.ledger := by
  induction h with
  | nil => rfl
  | uneventful hu _ ih => rw [ih, hu.ledger]
  | cons hh _ ih => rw [ih, hh.ledger, List.foldl_cons]

/-- The flag is set if it was or a request came. -/
theorem cancelled_eq (h : Happens b hs b') :
    b'.cancelled = (b.cancelled || !(requests hs).isEmpty) := by
  induction h with
  | nil b => exact (Bool.or_false _).symm
  | uneventful hu _ ih => rw [ih, hu.cancelled]
  | @cons _ _ _ h _ hh _ ih =>
    rw [ih, hh.cancelled, Bool.or_assoc]
    cases h <;> rfl

/-- What the record shows of the happenings, by induction on the way. -/
theorem exists_steps (h : Happens b hs b') :
    ∃ t, b'.steps = b.steps ++ t ∧ statuses t = hs.filterMap Happening.status? ∧
      ∀ u, requestsLogged false (t ++ u) =
        logged b.cancelled (requests hs) ++ requestsLogged false u := by
  induction h with
  | nil b => exact ⟨[], (List.append_nil _).symm, rfl, fun u => by simp [requests]⟩
  | uneventful hu _ ih =>
    obtain ⟨t, ht, hhushed⟩ := hu.steps
    obtain ⟨u, hu', hstatuses, hlogged⟩ := ih
    refine ⟨t ++ u, by rw [hu', ht, List.append_assoc], ?_, fun v => ?_⟩
    · rw [statuses_append, hhushed.statuses, hstatuses, List.nil_append]
    · rw [List.append_assoc, hhushed.requests, hlogged, hu.cancelled]
  | @cons b b₁ _ h hs hh _ ih =>
    obtain ⟨subject, ht⟩ := hh.steps
    obtain ⟨u, hu, hstatuses, hlogged⟩ := ih
    refine ⟨h.trace b.cancelled subject ++ u, by rw [hu, ht, List.append_assoc], ?_, fun v => ?_⟩
    · rw [statuses_append, h.statuses_trace, hstatuses, List.filterMap_cons]
      cases h.status? <;> rfl
    · rw [List.append_assoc, h.requestsLogged_trace, hlogged, hh.cancelled, ← List.append_assoc]
      congr 1
      -- A request finds the flag as it was before, and those after it find it set.
      cases h with
      | asked r =>
        show logged b.cancelled [r] ++ logged (b.cancelled || true) (requests hs) =
          logged b.cancelled (r :: requests hs)
        rw [Bool.or_true, logged_cons, logged_cons, logged_nil, List.append_nil]
      | entered | took =>
        show logged b.cancelled [] ++ logged (b.cancelled || false) (requests hs) =
          logged b.cancelled (requests hs)
        rw [logged_nil, Bool.or_false, List.nil_append]

end Happens

/-! ### Moments -/

/-- The status after some happenings: the last one that was taken. -/
theorem status_foldl (hs : List Happening) (l : Ledger) :
    (hs.foldl Happening.apply l).status = (hs.filterMap Happening.status?).getLastD l.status := by
  induction hs generalizing l with
  | nil => rfl
  | cons h hs ih =>
    rw [List.foldl_cons, ih, h.status_apply, List.filterMap_cons]
    cases h.status? with
    | none => rfl
    | some s => rw [List.getLastD_cons, Option.getD_some]

/-- Every round that was entered counts once. -/
theorem rounds_foldl (hs : List Happening) (l : Ledger) :
    (hs.foldl Happening.apply l).rounds =
      l.rounds + (hs.filterMap Happening.result?).length := by
  induction hs generalizing l with
  | nil => rfl
  | cons h hs ih =>
    rw [List.foldl_cons, ih, h.rounds_apply, List.filterMap_cons]
    cases h.result? with
    | none => rfl
    | some result =>
      show l.rounds + 1 + _ = l.rounds + (_ + 1)
      omega

/-- At a moment after some happenings these determine where a poller stands that was new. -/
structure Moment (readings : List Int) (b : Bench σ κ Ledger) (hs : List Happening)
    (m : Bench σ κ Ledger) : Prop where
  /-- The status is the last one that was taken. -/
  status : m.ledger.status = (hs.filterMap Happening.status?).getLastD .starting
  /-- The books are what the happenings make of them. -/
  ledger : m.ledger = hs.foldl Happening.apply (.fresh readings)
  /-- Every round that was entered counts once. -/
  rounds : m.ledger.rounds = (hs.filterMap Happening.result?).length
  /-- The flag is set as soon as there was a request. -/
  cancelled : m.cancelled = true ↔ requests hs ≠ []
  /-- The record shows the statuses and what the requests logged, in order, and of both no more. A
  stop is announced once, by the first request, unless that one is silent. -/
  shown : ∃ t, m.steps = b.steps ++ t ∧ statuses t = hs.filterMap Happening.status? ∧
    requestsLogged false t = announced (requests hs) ∧
    (requestsLogged false t).filter Event.isAnnouncement =
      ((requests hs).head?.bind (·.event? false)).toList

/-- **Happenings determine every moment** in the life of a poller that was new. -/
theorem Happens.moment {readings : List Int} {b m : Bench σ κ Ledger} {hs : List Happening}
    (h : Happens b hs m) (hnew : b.ledger = .fresh readings) (hclear : b.cancelled = false) :
    Moment readings b hs m := by
  obtain ⟨t, ht, hstatuses, hlogged⟩ := h.exists_steps
  have hsaid : requestsLogged false t = announced (requests hs) := by
    have hnone := hlogged []
    rw [hclear] at hnone
    simpa [requestsLogged, logged] using hnone
  refine ⟨?_, ?_, ?_, ?_, t, ht, hstatuses, hsaid, ?_⟩
  · rw [h.ledger_eq, hnew, status_foldl, Ledger.fresh]
  · rw [h.ledger_eq, hnew]
  · rw [h.ledger_eq, hnew, rounds_foldl, Ledger.fresh, Nat.zero_add]
  · rw [h.cancelled_eq, hclear]
    simp
  · rw [hsaid, filter_announced]

end Poller

end Mailroom
