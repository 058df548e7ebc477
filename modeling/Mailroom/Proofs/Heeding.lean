import Mailroom.Proofs.Aloof
import Mailroom.Proofs.Happenings

/-!
# Work that heeds requests

Requests to stop that a round meets are of two kinds: the callback makes them itself, or they were
set for a time that comes in a wait (`Arrival`). `Heeds b ds ms b'` says that between two benches
candidates `ds` were delivered and requests `ms` met, and that nothing else happened: every request
that came due was met, each one once, and no other.

What the callback requests is what its handlings of the deliveries request, one after the other
(`Asked`). Work is `Heedful` if that is so from every bench. There is one rule for each way of
putting work together, and rounds are heedful whatever session and callback do
(`Round.heedful_run`).
-/

namespace Mailroom

open Poller (Happening Happens Uneventful)

variable {σ κ α β : Type}

/-! ### Requests and deliveries -/

/-- A request to stop that is met in the course of some work. -/
inductive Arrival where
  /-- The callback makes it. -/
  | own (r : StopRequest)
  /-- It was set for a time, and that has come. -/
  | due (a : Alarm)

/-- The request that is met. -/
def Arrival.request : Arrival → StopRequest
  | own r => r
  | due a => a.request

/-- The requests of the callback. -/
def owns (ms : List Arrival) : List StopRequest := ms.filterMap fun
  | .own r => some r
  | .due _ => none

/-- The requests that came due. -/
def dues (ms : List Arrival) : List Alarm := ms.filterMap fun
  | .own _ => none
  | .due a => some a

/-- The happenings that requests are. -/
def asks (rs : List StopRequest) : List Happening := rs.map .asked

@[simp] theorem owns_append (ms ns : List Arrival) : owns (ms ++ ns) = owns ms ++ owns ns :=
  List.filterMap_append

@[simp] theorem dues_append (ms ns : List Arrival) : dues (ms ++ ns) = dues ms ++ dues ns :=
  List.filterMap_append

@[simp] theorem owns_map_due (as : List Alarm) : owns (as.map .due) = [] :=
  List.filterMap_eq_nil_iff.mpr (by simp)

@[simp] theorem dues_map_due (as : List Alarm) : dues (as.map .due) = as := by
  rw [dues, List.filterMap_map]
  exact List.filterMap_some

@[simp] theorem asks_append (rs qs : List StopRequest) : asks (rs ++ qs) = asks rs ++ asks qs :=
  List.map_append

/-- The candidate and the digest that a step delivers. -/
def Step.delivery? : Step → Option (String × Bytes)
  | deliver uid digest => some (uid, digest)
  | _ => none

/-- The deliveries in a record. -/
def deliveries (t : List Step) : List (String × Bytes) := t.filterMap Step.delivery?

@[simp] theorem deliveries_append (t u : List Step) :
    deliveries (t ++ u) = deliveries t ++ deliveries u := List.filterMap_append

theorem deliveries_eq_nil {t : List Step} (h : ∀ s ∈ t, s.delivery? = none) : deliveries t = [] :=
  List.filterMap_eq_nil_iff.mpr h

theorem Step.delivery?_of_isReading {s : Step} (h : s.isReading = true) : s.delivery? = none := by
  cases s <;> first | rfl | cases h

theorem Step.delivery?_of_isRequest {s : Step} (h : s.isRequest = true) : s.delivery? = none := by
  cases s <;> first | rfl | cases h

/-- A request records nothing but its own log entry. -/
theorem Poller.Happening.isRequest_of_mem_trace {r : StopRequest} {already : Bool}
    {subject : Option Subject} {s : Step} (h : s ∈ (Happening.asked r).trace already subject) :
    s.isRequest = true := by
  rw [Happening.trace] at h
  obtain ⟨e, he, rfl⟩ := List.mem_map.mp h
  exact StopRequest.isRequest_of_event? (Option.mem_toList.mp he)

/-! ### What a callback requests -/

/-- What a handling of a body requests, and what the callback keeps then. It depends on nothing but
the body, unless waits may be cut off. -/
inductive Handling.Asks (fragile : Bool) : Handling κ → Spool → List StopRequest → κ → Prop where
  /-- The callback is done. -/
  | done (o : Except Failure Unit) (k : κ) (body : Spool) : Asks fragile (.done o k) body [] k
  /-- The callback uses the body. -/
  | access {a : Spool.Access} {next : Except Failure Spool.Answer → Handling κ} {body : Spool}
    {rs : List StopRequest} {k : κ}
    (h : Asks fragile (next (body.access a).1) (body.access a).2 rs k) :
    Asks fragile (.access a next) body rs k
  /-- The callback requests a stop. -/
  | requestStop {r : StopRequest} {next : Handling κ} {body : Spool} {rs : List StopRequest} {k : κ}
    (h : Asks fragile next body rs k) : Asks fragile (.requestStop r next) body (r :: rs) k
  /-- The callback waits. -/
  | wait {seconds : Float} {next : Except Failure Unit → Handling κ} {r : Except Failure Unit}
    {body : Spool} {rs : List StopRequest} {k : κ}
    (hr : r = .ok () ∨ fragile = true ∧ r = .error Work.cutOff)
    (h : Asks fragile (next r) body rs k) : Asks fragile (.wait seconds next) body rs k

/-- What a callback requests in the course of some deliveries. -/
inductive Asked (callback : Callback κ) (fragile : Bool) :
    κ → List (String × Bytes) → List StopRequest → κ → Prop where
  /-- Nothing is delivered. -/
  | nil (k : κ) : Asked callback fragile k [] [] k
  /-- A delivery, and what comes after it. -/
  | cons {uid : String} {digest : Bytes} {body : Spool} {k k₁ k' : κ} {rs qs : List StopRequest}
    {ds : List (String × Bytes)} (h : (callback uid digest k).Asks fragile body rs k₁)
    (hrest : Asked callback fragile k₁ ds qs k') :
    Asked callback fragile k ((uid, digest) :: ds) (rs ++ qs) k'

theorem Asked.append {callback : Callback κ} {fragile : Bool} {k k₁ k' : κ}
    {ds es : List (String × Bytes)} {rs qs : List StopRequest}
    (h : Asked callback fragile k ds rs k₁) (hrest : Asked callback fragile k₁ es qs k') :
    Asked callback fragile k (ds ++ es) (rs ++ qs) k' := by
  induction h with
  | nil => exact hrest
  | cons hask _ ih =>
    rw [List.append_assoc]
    exact .cons hask (ih hrest)

/-! ### What happens in the course of work -/

/-- Between two benches these candidates were delivered and these requests met, and nothing else
happened. -/
structure Heeds (b : Bench σ κ Ledger) (ds : List (String × Bytes)) (ms : List Arrival)
    (b' : Bench σ κ Ledger) : Prop where
  /-- Nothing but the requests happened. -/
  happens : Happens b (asks (ms.map Arrival.request)) b'
  /-- The requests that came due are those that are no longer to come. -/
  alarms : b.alarms.Perm (dues ms ++ b'.alarms)
  /-- Waits are cut off as before. -/
  fragile : b'.fragile = b.fragile
  /-- The record shows the deliveries. -/
  steps : ∃ t, b'.steps = b.steps ++ t ∧ deliveries t = ds

namespace Heeds

variable {b b₁ b' : Bench σ κ Ledger} {ds es : List (String × Bytes)} {ms ns : List Arrival}

theorem trans (h : Heeds b ds ms b₁) (k : Heeds b₁ es ns b') :
    Heeds b (ds ++ es) (ms ++ ns) b' := by
  obtain ⟨t, ht, hds⟩ := h.steps
  obtain ⟨u, hu, hes⟩ := k.steps
  refine ⟨?_, ?_, k.fragile.trans h.fragile, t ++ u, by rw [hu, ht, List.append_assoc], ?_⟩
  · rw [List.map_append, asks_append]
    exact h.happens.append k.happens
  · rw [dues_append, List.append_assoc]
    exact h.alarms.trans (k.alarms.append_left (dues ms))
  · rw [deliveries_append, hds, hes]

/-- Nothing happens. -/
theorem uneventful {t : List Step} (hc : b'.cancelled = b.cancelled) (hl : b'.ledger = b.ledger)
    (ha : b'.alarms = b.alarms) (hf : b'.fragile = b.fragile) (ht : b'.steps = b.steps ++ t)
    (hh : Hushed t) : Heeds b (deliveries t) [] b' :=
  ⟨.of_uneventful ⟨hc, hl, t, ht, hh⟩, ha ▸ .refl _, hf, t, ht, rfl⟩

/-- Nothing happens, and nothing is delivered. -/
theorem plain {t : List Step} (hc : b'.cancelled = b.cancelled) (hl : b'.ledger = b.ledger)
    (ha : b'.alarms = b.alarms) (hf : b'.fragile = b.fragile) (ht : b'.steps = b.steps ++ t)
    (hp : ∀ s ∈ t, s.isPlain = true) (hd : ∀ s ∈ t, s.delivery? = none) : Heeds b [] [] b' := by
  have hheeds := uneventful hc hl ha hf ht (.of_plain hp)
  rwa [deliveries_eq_nil hd] at hheeds

end Heeds

/-- The bench after a request was met. -/
def Bench.met (b : Bench σ κ Ledger) (r : StopRequest) (subject : Option Subject) :
    Bench σ κ Ledger :=
  { b with cancelled := true, steps := b.steps ++ (Happening.asked r).trace b.cancelled subject }

theorem takes_met (b : Bench σ κ Ledger) (r : StopRequest) (subject : Option Subject) :
    (Happening.asked r).Takes b (b.met r subject) := ⟨(Bool.or_true _).symm, rfl, subject, rfl⟩

/-- From one bench to another these requests are met one after the other, and nothing else is
done. -/
inductive Meets : Bench σ κ Ledger → List StopRequest → Bench σ κ Ledger → Prop where
  /-- No request is left. -/
  | nil (b : Bench σ κ Ledger) : Meets b [] b
  /-- A request is met, and after it the others. -/
  | cons {b b' : Bench σ κ Ledger} {r : StopRequest} {rs : List StopRequest}
    (subject : Option Subject) (hrest : Meets (b.met r subject) rs b') : Meets b (r :: rs) b'

namespace Meets

variable {b b' : Bench σ κ Ledger} {rs : List StopRequest}

theorem happens (h : Meets b rs b') : Happens b (asks rs) b' := by
  induction h with
  | nil b => exact .nil b
  | cons subject _ ih => exact .cons (takes_met _ _ subject) ih

/-- Nothing but the flag changes, and only requests are added to the record. -/
theorem exists_steps (h : Meets b rs b') : ∃ flag t,
    b' = { b with cancelled := flag, steps := b.steps ++ t } ∧ ∀ s ∈ t, s.isRequest = true := by
  induction h with
  | nil b => exact ⟨b.cancelled, [], by rw [List.append_nil], by simp⟩
  | @cons b _ r _ subject _ ih =>
    obtain ⟨flag, t, rfl, ht⟩ := ih
    refine ⟨flag, (Happening.asked r).trace b.cancelled subject ++ t, ?_,
      List.forall_mem_append.mpr ⟨fun _ => Happening.isRequest_of_mem_trace, ht⟩⟩
    rw [Bench.met, List.append_assoc]

/-- Work that meets one request each, in a row. -/
theorem of_forM (request : β → StopRequest) {f : β → Work σ κ Ledger PUnit}
    (hf : ∀ a b, ∃ subject, runFrom (f a) b = (.ok (), b.met (request a) subject)) (as : List β)
    (b : Bench σ κ Ledger) :
    ∃ b', runFrom (as.forM f) b = (.ok (), b') ∧ Meets b (as.map request) b' := by
  induction as generalizing b with
  | nil => exact ⟨b, rfl, .nil b⟩
  | cons a as ih =>
    obtain ⟨subject, ha⟩ := hf a b
    obtain ⟨b', hrest, hmeets⟩ := ih (b.met (request a) subject)
    refine ⟨b', ?_, .cons subject hmeets⟩
    show runFrom (f a >>= fun _ => as.forM f) b = _
    rw [runFrom_bind_ok ha, hrest]

end Meets

namespace Work

/-- A request is met, whatever logs it. -/
theorem runFrom_meetRequest (say : Event → Work σ κ Ledger Unit) (r : StopRequest)
    (b : Bench σ κ Ledger) {subject : Option Subject} (hsay : ∀ e, runFrom (say e) b =
      (.ok (), { b with steps := b.steps ++ [.log ⟨e, subject⟩] })) :
    runFrom (meetRequest say r) b = (.ok (), b.met r subject) := by
  unfold meetRequest
  rw [runFrom_bind_ok (runFrom_get b)]
  cases he : r.event? b.cancelled with
  | none => simp [Bench.met, Happening.trace, he]
  | some e =>
    dsimp only
    rw [runFrom_bind_ok (hsay e)]
    simp [Bench.met, Happening.trace, he]

theorem runFrom_requestStop (r : StopRequest) (b : Bench σ κ Ledger) :
    ∃ subject, runFrom (requestStop r) b = (.ok (), b.met r subject) := by
  cases r with
  | silent => exact ⟨b.about, runFrom_meetRequest log .silent b fun _ => rfl⟩
  | stop poller => exact ⟨b.about, runFrom_meetRequest log (.stop poller) b fun _ => rfl⟩
  | signal name => exact ⟨none, runFrom_meetRequest logApart (.signal name) b fun _ => rfl⟩

/-- Requests of the work itself are met one after the other. -/
theorem runFrom_requestStops (rs : List StopRequest) (b : Bench σ κ Ledger) :
    ∃ b', runFrom (rs.forM requestStop) b = (.ok (), b') ∧ Meets b rs b' := by
  obtain ⟨b', hr, hmeets⟩ := Meets.of_forM id runFrom_requestStop rs b
  exact ⟨b', hr, List.map_id rs ▸ hmeets⟩

/-- So are requests that come due. -/
theorem runFrom_meetRequests (as : List Alarm) (b : Bench σ κ Ledger) :
    ∃ b', runFrom (as.forM fun a => meetRequest logApart a.request) b = (.ok (), b') ∧
      Meets b (as.map Alarm.request) b' :=
  Meets.of_forM Alarm.request
    (fun a b => ⟨none, runFrom_meetRequest logApart a.request b fun _ => rfl⟩) as b

end Work

/-! ### Time -/

/-- Time passes: nothing happens but that requests come due. -/
def Elapses (b b' : Bench σ κ Ledger) : Prop :=
  ∃ as : List Alarm, Heeds b [] (as.map .due) b' ∧ b'.receiver = b.receiver

namespace Elapses

variable {b b₁ b' : Bench σ κ Ledger}

theorem trans (h : Elapses b b₁) (k : Elapses b₁ b') : Elapses b b' := by
  obtain ⟨as, has, hkept⟩ := h
  obtain ⟨as', has', hkept'⟩ := k
  refine ⟨as ++ as', ?_, hkept'.trans hkept⟩
  rw [List.map_append]
  exact has.trans has'

/-- Nothing happens, and no time passes. -/
theorem uneventful {t : List Step} (hc : b'.cancelled = b.cancelled) (hl : b'.ledger = b.ledger)
    (ha : b'.alarms = b.alarms) (hf : b'.fragile = b.fragile) (hr : b'.receiver = b.receiver)
    (ht : b'.steps = b.steps ++ t) (hp : ∀ s ∈ t, s.isPlain = true)
    (hd : ∀ s ∈ t, s.delivery? = none) : Elapses b b' :=
  ⟨[], .plain hc hl ha hf ht hp hd, hr⟩

theorem of_eq (hc : b'.cancelled = b.cancelled) (hl : b'.ledger = b.ledger)
    (ha : b'.alarms = b.alarms) (hf : b'.fragile = b.fragile) (hr : b'.receiver = b.receiver)
    (ht : b'.steps = b.steps) : Elapses b b' :=
  uneventful hc hl ha hf hr (by rw [ht, List.append_nil]) (by simp) (by simp)

theorem refl (b : Bench σ κ Ledger) : Elapses b b := of_eq rfl rfl rfl rfl rfl rfl

theorem bind {x : Work σ κ Ledger α} {k : α → Work σ κ Ledger β}
    (hx : ∀ b, Elapses b (runFrom x b).2) (hk : ∀ a b, Elapses b (runFrom (k a) b).2)
    (b : Bench σ κ Ledger) : Elapses b (runFrom (x >>= k) b).2 := by
  have h := hx b
  rw [runFrom_bind]
  rcases hr : runFrom x b with ⟨f | a, b₁⟩ <;> rw [hr] at h
  · exact h
  · exact h.trans (hk a b₁)

theorem record {s : Step} (hp : s.isPlain = true) (hd : s.delivery? = none)
    (b : Bench σ κ Ledger) : Elapses b (runFrom (Work.record s) b).2 :=
  uneventful rfl rfl rfl rfl rfl rfl (by simpa using hp) (by simpa using hd)

theorem log {e : Event} (h : e.isRequest = false) (b : Bench σ κ Ledger) :
    Elapses b (runFrom (Work.log e) b).2 :=
  uneventful rfl rfl rfl rfl rfl rfl (by simpa [Step.isPlain] using h) (by simp [Step.delivery?])

/-- The alarms that are due are met, and no others. -/
theorem meetAlarms (time : Float) (b : Bench σ κ Ledger) :
    Elapses b (runFrom (Work.meetAlarms time) b).2 := by
  let due := b.alarms.filter (·.time ≤ time)
  let rest := b.alarms.filter fun a => !(a.time ≤ time)
  obtain ⟨b', hmeet, hmeets⟩ := Work.runFrom_meetRequests due { b with alarms := rest }
  rw [Work.meetAlarms, runFrom_bind_ok (runFrom_get b), runFrom_bind_ok (runFrom_set _ _), hmeet]
  have hhappens := hmeets.happens
  obtain ⟨flag, t, rfl, ht⟩ := hmeets.exists_steps
  have hnone : deliveries t = [] :=
    deliveries_eq_nil fun s hs => Step.delivery?_of_isRequest (ht s hs)
  refine ⟨due, ⟨?_, ?_, rfl, t, rfl, hnone⟩, rfl⟩
  -- All that are due leave the alarms at once, and are met after that.
  · have hset : Uneventful b { b with alarms := rest } :=
      ⟨rfl, rfl, [], (List.append_nil _).symm, .nil⟩
    rw [List.map_map]
    exact .uneventful hset hhappens
  · rw [dues_map_due]
    exact (List.filter_append_perm _ _).symm

theorem modifyClock (time : Float) (b : Bench σ κ Ledger) :
    Elapses b (runFrom (modify fun b => { b with clock := time }) b).2 :=
  of_eq rfl rfl rfl rfl rfl rfl

theorem wait (seconds : Float) (b : Bench σ κ Ledger) :
    Elapses b (runFrom (Work.wait seconds) b).2 := by
  unfold Work.wait
  split
  · rw [runFrom_bind_ok (runFrom_get b)]
    dsimp only
    split
    · exact refl b
    · split
      · exact bind (meetAlarms _) (fun _ => bind (modifyClock _) fun _ => refl) b
      · exact bind (meetAlarms _) (fun _ => modifyClock _) b
  · exact refl b

theorem pause (seconds : Float) (b : Bench σ κ Ledger) :
    Elapses b (runFrom (Work.pause seconds) b).2 := by
  refine bind (record rfl rfl) (fun _ b => ?_) b
  rw [runFrom_bind_ok (runFrom_get b)]
  exact bind (meetAlarms _) (fun _ => modifyClock _) b

end Elapses

/-! ### Heedful work -/

/-- From every bench the work delivers, meets requests, and nothing else happens; the callback's
requests are what its handlings of the deliveries request. -/
def Heedful (callback : Callback κ) (x : Work σ κ Ledger α) : Prop :=
  ∀ b, ∃ ds ms, Heeds b ds ms (runFrom x b).2 ∧
    Asked callback b.fragile b.receiver ds (owns ms) (runFrom x b).2.receiver

namespace Heedful

variable {callback : Callback κ} {x : Work σ κ Ledger α}

/-- In some work only time passes. -/
theorem of_elapses (h : ∀ b, Elapses b (runFrom x b).2) : Heedful callback x := by
  intro b
  obtain ⟨as, has, hkept⟩ := h b
  refine ⟨[], as.map .due, has, ?_⟩
  rw [owns_map_due, hkept]
  exact .nil _

theorem giveBack (r : Except Failure α) : Heedful callback (Work.giveBack r : Work σ κ Ledger α) :=
  of_elapses fun b => by
    rw [Work.runFrom_giveBack]
    exact .refl b

theorem record {s : Step} (hp : s.isPlain = true) (hd : s.delivery? = none) :
    Heedful callback (Work.record s : Work σ κ Ledger Unit) := of_elapses (.record hp hd)

theorem log {e : Event} (h : e.isRequest = false) :
    Heedful callback (Work.log e : Work σ κ Ledger Unit) := of_elapses (.log h)

theorem wait (seconds : Float) : Heedful callback (Work.wait seconds : Work σ κ Ledger Unit) :=
  of_elapses (.wait seconds)

theorem bind {k : α → Work σ κ Ledger β} (hx : Heedful callback x)
    (hk : ∀ a, Heedful callback (k a)) : Heedful callback (x >>= k) := by
  intro b
  have h := hx b
  rw [runFrom_bind]
  rcases hr : runFrom x b with ⟨f | a, b₁⟩ <;> rw [hr] at h
  · exact h
  · obtain ⟨ds, ms, hfirst, hasked⟩ := h
    obtain ⟨es, ns, hrest, hasked'⟩ := hk a b₁
    refine ⟨ds ++ es, ms ++ ns, hfirst.trans hrest, ?_⟩
    rw [owns_append]
    exact hasked.append (hfirst.fragile ▸ hasked')

theorem settle (hx : Heedful callback x) : Heedful callback (settle x) := fun b => by
  rw [runFrom_settle]
  exact hx b

theorem about (subject : Subject) (hx : Heedful callback x) :
    Heedful callback (Work.about subject x) := by
  intro b
  obtain ⟨ds, ms, ⟨hhappens, halarms, hfragile, t, ht, hds⟩, hasked⟩ :=
    hx { b with about := some subject }
  rw [Work.runFrom_about]
  have hpointed (c : Bench σ κ Ledger) (s : Option Subject) :
      Uneventful c { c with about := s } := ⟨rfl, rfl, [], (List.append_nil _).symm, .nil⟩
  refine ⟨ds, ms, ⟨?_, halarms, hfragile, t, ht, hds⟩, hasked⟩
  rw [← List.append_nil (asks (ms.map Arrival.request))]
  exact .append (.uneventful (hpointed b _) hhappens) (.of_uneventful (hpointed _ _))

/-! ### Calls, messages and callbacks -/

/-- Within a call nothing happens, whatever the session says. -/
theorem of_call (c : Session.Call) (a : Session.Answer) {t : List Step}
    (ht : ∀ s ∈ t, s.isReading = true) {b b' : Bench σ κ Ledger}
    (hc : b'.cancelled = b.cancelled) (hl : b'.ledger = b.ledger) (ha : b'.alarms = b.alarms)
    (hf : b'.fragile = b.fragile) (hr : b'.receiver = b.receiver)
    (hs : b'.steps = b.steps ++ .call c :: (t ++ [.answer a])) :
    ∃ ds ms, Heeds b ds ms b' ∧ Asked callback b.fragile b.receiver ds (owns ms) b'.receiver := by
  have hnone : deliveries (.call c :: (t ++ [.answer a])) = [] := by
    refine deliveries_eq_nil fun s hs => ?_
    obtain rfl | hs | rfl : s = .call c ∨ s ∈ t ∨ s = .answer a := by simpa using hs
    · rfl
    · exact Step.delivery?_of_isReading (ht s hs)
    · rfl
  have hheeds := Heeds.uneventful hc hl ha hf hs (.call c ht a)
  rw [hnone] at hheeds
  exact ⟨[], [], hheeds, hr ▸ .nil _⟩

theorem call (c : Session.Call) (shown : α → Session.Answer) (op : Session.Op σ α) :
    Heedful callback (Work.call c shown op : Work σ κ Ledger α) := by
  intro b
  rw [Work.runFrom_call]
  have hsaid : ∀ s ∈ (runFrom op ⟨b.session, []⟩).2.remarks.map (Work.ofRemark b.about),
      s.isReading = true := by
    intro s hs
    obtain ⟨m, -, rfl⟩ := List.mem_map.mp hs
    cases m <;> rfl
  refine of_call c (.of shown (runFrom op ⟨b.session, []⟩).1) hsaid rfl rfl rfl rfl rfl ?_
  rw [List.append_assoc, List.append_assoc]
  rfl

theorem read (s : Session σ) (uid : String) (m : Staged) :
    Heedful callback (Work.read s uid m : Work σ κ Ledger (Except Failure Int × Staged)) := by
  intro b
  rw [Work.runFrom_read s uid m b rfl]
  exact of_call _ _ (fun _ => Streaming.isReading_of_mem_fill) rfl rfl rfl rfl rfl rfl

theorem release (m : Staged) : Heedful callback (Work.release m : Work σ κ Ledger Unit) :=
  of_elapses fun b => by
    rw [Work.runFrom_release]
    unfold Staged.farewell
    split
    · exact .of_eq rfl rfl rfl rfl rfl (List.append_nil _)
    · exact .uneventful rfl rfl rfl rfl rfl rfl (by simp [Step.isPlain, Event.isRequest])
        (by simp [Step.delivery?])

end Heedful

/-- What happens in a handling of a body, by induction on it. -/
theorem Heeds.handle (h : Handling κ) (body : Spool) (b : Bench σ κ Ledger) :
    ∃ ms, Heeds b [] ms (runFrom (Work.handle h body) b).2 ∧
      h.Asks b.fragile body (owns ms) (runFrom (Work.handle h body) b).2.receiver := by
  induction h generalizing body b with
  | done o k =>
    have hdone : Heeds b [] [] { b with receiver := k } :=
      .plain rfl rfl rfl rfl (List.append_nil _).symm (by simp) (by simp)
    exact ⟨[], hdone, .done o k body⟩
  | access a next ih =>
    rw [Work.runFrom_handle_access]
    obtain ⟨ms, hheeds, hasks⟩ := ih (body.access a).1 (body.access a).2
      { b with steps := b.steps ++ (Spool.sighted (body.access a).1).map .observe }
    have hseen : Heeds b [] [] { b with
        steps := b.steps ++ (Spool.sighted (body.access a).1).map .observe } :=
      .plain rfl rfl rfl rfl rfl (by simp [Step.isPlain]) (by simp [Step.delivery?])
    exact ⟨ms, hseen.trans hheeds, .access hasks⟩
  | requestStop r next ih =>
    obtain ⟨subject, hr⟩ := Work.runFrom_requestStop r b
    obtain ⟨ms, hheeds, hasks⟩ := ih body (b.met r subject)
    have hmet : Heeds b [] [.own r] (b.met r subject) :=
      ⟨.single (takes_met b r subject), .refl _, rfl, _, rfl, deliveries_eq_nil fun s hs =>
        Step.delivery?_of_isRequest (Happening.isRequest_of_mem_trace hs)⟩
    rw [Work.handle, runFrom_bind_ok hr]
    exact ⟨_, hmet.trans hheeds, .requestStop hasks⟩
  | wait seconds next ih =>
    obtain ⟨as, has, hkept⟩ := Elapses.wait seconds b
    obtain ⟨-, hwait⟩ := idles_wait seconds b
    obtain ⟨ms, hheeds, hasks⟩ :=
      ih (runFrom (Work.wait seconds) b).1 body (runFrom (Work.wait seconds) b).2
    rw [Work.handle, runFrom_bind_ok (runFrom_settle _ _)]
    refine ⟨_, has.trans hheeds, ?_⟩
    rw [owns_append, owns_map_due, List.nil_append]
    exact .wait hwait (has.fragile ▸ hasks)

/-- A delivery: the callback gets it, and its handling of the body is carried out. -/
theorem Heedful.handle {callback : Callback κ} (uid : String) (digest : Bytes) (body : Spool)
    {k : Except Failure Unit × Spool → Work σ κ Ledger α} (hk : ∀ p, Heedful callback (k p)) :
    Heedful callback (do
      Work.record (.deliver uid digest)
      let p ← Work.handle (callback uid digest (← get).receiver) body
      k p) := by
  intro b
  let told : Bench σ κ Ledger := { b with steps := b.steps ++ [.deliver uid digest] }
  have htold : Heeds b (deliveries [.deliver uid digest]) [] told :=
    .uneventful rfl rfl rfl rfl rfl (.single rfl)
  obtain ⟨ms, hheeds, hasks⟩ := Heeds.handle (callback uid digest b.receiver) body told
  rw [runFrom_bind_ok (Work.runFrom_record _ b), runFrom_bind_ok (runFrom_get _)]
  obtain ⟨o, body', b', t, seen, hr, -, -⟩ :=
    Work.runFrom_handle (callback uid digest b.receiver) body told
  rw [hr] at hheeds hasks
  rw [runFrom_bind_ok hr]
  obtain ⟨es, ns, hrest, hasked⟩ := hk (o, body') b'
  have hall := (htold.trans hheeds).trans hrest
  refine ⟨_, _, hall, ?_⟩
  rw [List.nil_append, owns_append]
  exact .cons hasks ((htold.trans hheeds).fragile ▸ hasked)

/-! ### Rounds -/

namespace Round

variable (r : Round σ κ)

/-- The parts of rounds are heedful. -/
theorem pervades_heedful : Pervades r (fun _ x => Heedful r.callback x) where
  giveBack := .giveBack
  log _ h := .log h
  record s h := by
    cases s with
    | spool | finish | verdict | backoff => exact .record rfl rfl
    | call | answer | wire | log | deliver | observe | pause | report | status | configure
    | serve => cases h
  wait := .wait
  call := .call
  read := .read r.session
  release := .release
  deliver := .handle
  bind := .bind
  settle := .settle
  about := .about

/-- **Rounds are heedful.** -/
theorem heedful_run : Heedful r.callback (r.run : Work σ κ Ledger RoundResult) :=
  (pervades_heedful r).run

end Round

end Mailroom
