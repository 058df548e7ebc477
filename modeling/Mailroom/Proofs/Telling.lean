import Mailroom.Proofs.Accounting
import Mailroom.Proofs.Retrying

/-!
# What a record tells

Warnings and errors in the log are the only trace of a failure that a round absorbs. What a session
logs while a call is under way is its own and does not count (`complaints`).

`Voices t as es` says that a record shows the acts `as` and the complaints `es`, and `Tells b as es
b'` that what is added to it on the way from one bench to another does. Work that is `Mute` adds
neither.
-/

namespace Mailroom

variable {σ κ η α β : Type}

/-! ### Complaints in a record -/

/-- The warnings and errors in a record. What is logged within a call is the session's own; the flag
says whether a call is under way. -/
def complaints : Bool → List Step → List Entry
  | _, [] => []
  | inCall, s :: t => match s with
    | .call _ => complaints true t
    | .answer _ => complaints false t
    | .log e =>
      if !inCall && e.event.isComplaint then e :: complaints inCall t else complaints inCall t
    | _ => complaints inCall t

/-- The step is neither part of an act nor a complaint. -/
def Step.isMute : Step → Bool
  | call _ | answer _ | finish _ | deliver .. | verdict .. => false
  | log e => !e.event.isComplaint
  | _ => true

theorem Step.isTalk_of_isMute {s : Step} (h : s.isMute = true) : s.isTalk = false := by
  cases s <;> first | rfl | cases h

theorem Step.isMute_of_isRequest {s : Step} (h : s.isRequest = true) : s.isMute = true := by
  cases s with
  | log e =>
    have hrequest : e.event.isRequest = true := h
    have hlevel : e.event.isComplaint = false := by
      cases he : e.event <;> rw [he] at hrequest <;> first | rfl | cases hrequest
    simp [isMute, hlevel]
  | _ => cases h

theorem complaints_of_mute {t : List Step} (h : ∀ s ∈ t, s.isMute = true) (inCall : Bool)
    (u : List Step) : complaints inCall (t ++ u) = complaints inCall u := by
  induction t with
  | nil => rfl
  | cons s t ih =>
    rw [List.forall_mem_cons] at h
    rw [List.cons_append, ← ih h.2]
    cases s with
    | log e =>
      have hlevel : e.event.isComplaint = false := by simpa [Step.isMute] using h.1
      simp [complaints, hlevel]
    | call | answer | finish | deliver | verdict => cases h.1
    | _ => rfl

/-- What a session says within a call is no complaint of the round. -/
theorem complaints_within {t : List Step} (h : ∀ s ∈ t, s.isReading = true) (a : Session.Answer)
    (u : List Step) : complaints true (t ++ .answer a :: u) = complaints false u := by
  induction t with
  | nil => rfl
  | cons s t ih =>
    rw [List.forall_mem_cons] at h
    rw [← ih h.2]
    cases s with
    | wire | spool => rfl
    | log e => simp [complaints]
    | _ => cases h.1

theorem isComplaint_of_mem_complaints {inCall : Bool} {t : List Step} {e : Entry}
    (h : e ∈ complaints inCall t) : e.event.isComplaint = true := by
  induction t generalizing inCall with
  | nil => cases h
  | cons s t ih =>
    cases s with
    | log e' =>
      simp only [complaints] at h
      split at h
      · next hlevel =>
        rcases List.mem_cons.mp h with rfl | h
        · rw [Bool.and_eq_true] at hlevel
          exact hlevel.2
        · exact ih h
      · exact ih h
    | _ => exact ih h

/-- Acts that are recorded alike are the same. -/
theorem Act.eq_of_flatMap_steps {as bs : List Act}
    (h : as.flatMap Act.steps = bs.flatMap Act.steps) : as = bs := by
  induction as generalizing bs with
  | nil =>
    cases bs with
    | nil => rfl
    | cons b bs => cases b <;> simp [Act.steps] at h
  | cons a as ih =>
    cases bs with
    | nil => cases a <;> simp [Act.steps] at h
    | cons b bs =>
      cases a <;> cases b <;> simp [Act.steps] at h ⊢
      · exact ⟨⟨h.1, h.2.1⟩, ih h.2.2⟩
      · exact ⟨h.1, ih h.2⟩
      · obtain ⟨⟨rfl, rfl⟩, ⟨-, rfl⟩, hrest⟩ := h
        exact ⟨⟨rfl, rfl, rfl⟩, ih hrest⟩

/-- A complaint shows the candidate that it is about, and no other. -/
theorem Entry.member_of_complaint {e : Entry} (h : e.event.isComplaint = true) :
    Json.member? e.fields "uid" = e.about.map (fun s => .text s.uid) ∧
      Json.member? e.fields "mailbox" = e.about.map (fun s => .text s.mailbox) := by
  obtain ⟨event, about⟩ := e
  cases event <;> simp [Event.isComplaint, Event.level] at h <;> cases about <;>
    simp [fields, Event.fields, Json.override, Json.setMember, Json.member?]

/-- A record shows these acts, and these complaints between and after them. -/
structure Voices (t : List Step) (as : List Act) (es : List Entry) : Prop where
  /-- The acts are all that it shows of calls and deliveries. -/
  talk : talk t = as.flatMap Act.steps
  /-- The complaints are all that it adds to those that follow. -/
  complaints : ∀ u, complaints false (t ++ u) = es ++ complaints false u

namespace Voices

variable {t u : List Step} {as bs : List Act} {es fs : List Entry}

theorem append (h : Voices t as es) (k : Voices u bs fs) :
    Voices (t ++ u) (as ++ bs) (es ++ fs) := by
  constructor
  · rw [talk_append, h.talk, k.talk, List.flatMap_append]
  · intro v
    rw [List.append_assoc, h.complaints, k.complaints, List.append_assoc]

theorem of_mute (h : ∀ s ∈ t, s.isMute = true) : Voices t [] [] :=
  ⟨talk_eq_nil fun s hs => Step.isTalk_of_isMute (h s hs), complaints_of_mute h false⟩

theorem complaint {e : Entry} (h : e.event.isComplaint = true) : Voices [.log e] [] [e] :=
  ⟨rfl, fun u => by simp [Mailroom.complaints, h]⟩

theorem call (c : Session.Call) (h : ∀ s ∈ t, s.isReading = true) (a : Session.Answer) :
    Voices (.call c :: (t ++ [.answer a])) [.call c a] [] := by
  constructor
  · rw [talk_cons, talk_append, talk_eq_nil fun s hs => Step.isTalk_of_isReading (h s hs)]
    rfl
  · intro u
    rw [List.cons_append, List.append_assoc]
    exact complaints_within h a u

theorem finish (problem : Option StagingError) :
    Voices [.finish problem] [.finish problem] [] := ⟨rfl, fun _ => rfl⟩

theorem deliver (uid : String) (digest : Bytes) (h : ∀ s ∈ t, s.isMute = true)
    (failure : Option Failure) :
    Voices (.deliver uid digest :: (t ++ [.verdict uid failure]))
      [.deliver uid digest failure] [] := by
  constructor
  · rw [talk_cons, talk_append, talk_eq_nil fun s hs => Step.isTalk_of_isMute (h s hs)]
    rfl
  · intro u
    rw [List.cons_append, List.append_assoc]
    exact complaints_of_mute h false _

end Voices

/-! ### What the way between two benches shows -/

/-- The way from one bench to another shows these acts and complaints. -/
structure Tells (b : Bench σ κ η) (as : List Act) (es : List Entry) (b' : Bench σ κ η) :
    Prop where
  /-- The candidate that is being processed stays. -/
  about : b'.about = b.about
  /-- What is added to the record shows the acts and the complaints. -/
  steps : ∃ t, b'.steps = b.steps ++ t ∧ Voices t as es

namespace Tells

variable {b b₁ b' : Bench σ κ η} {as bs : List Act} {es fs : List Entry}

theorem trans (h : Tells b as es b₁) (k : Tells b₁ bs fs b') :
    Tells b (as ++ bs) (es ++ fs) b' := by
  obtain ⟨t, ht, hs⟩ := h.steps
  obtain ⟨u, hu, hs'⟩ := k.steps
  exact ⟨k.about.trans h.about, t ++ u, by rw [hu, ht, List.append_assoc], hs.append hs'⟩

theorem of_mute {t : List Step} (ha : b'.about = b.about) (ht : b'.steps = b.steps ++ t)
    (h : ∀ s ∈ t, s.isMute = true) : Tells b [] [] b' := ⟨ha, t, ht, .of_mute h⟩

theorem refl (b : Bench σ κ η) : Tells b [] [] b :=
  of_mute rfl (List.append_nil _).symm (by simp)

/-- What acts complain of may come after them. -/
theorem complaining (h : Tells b as [] b₁) (k : Tells b₁ [] es b') : Tells b as es b' := by
  have htells := h.trans k
  rwa [List.append_nil] at htells

/-- Something mute may come first. -/
theorem after_mute (h : Tells b [] [] b₁) (k : Tells b₁ as es b') : Tells b as es b' :=
  h.trans k

/-- Something mute may come afterwards. -/
theorem before_mute (h : Tells b as es b₁) (k : Tells b₁ [] [] b') : Tells b as es b' := by
  have htells := h.trans k
  rwa [List.append_nil, List.append_nil] at htells

end Tells

/-- What is logged as a complaint is told. -/
theorem tells_log {e : Event} (h : e.isComplaint = true) (b : Bench σ κ η) :
    Tells b [] [⟨e, b.about⟩] (runFrom (Work.log e) b).2 :=
  ⟨rfl, [.log ⟨e, b.about⟩], rfl, .complaint h⟩

/-- A call is an act and no complaint. -/
theorem tells_call (c : Session.Call) (shown : α → Session.Answer) (op : Session.Op σ α)
    (b : Bench σ κ η) : Tells b [.call c (.of shown (runFrom (Work.call c shown op) b).1)] []
      (runFrom (Work.call c shown op) b).2 := by
  rw [Work.runFrom_call]
  have hsaid : ∀ s ∈ (runFrom op ⟨b.session, []⟩).2.remarks.map (Work.ofRemark b.about),
      s.isReading = true := by
    intro s hs
    obtain ⟨m, -, rfl⟩ := List.mem_map.mp hs
    cases m <;> rfl
  exact ⟨rfl, _, by simp only [List.append_assoc, List.cons_append, List.nil_append],
    .call c hsaid _⟩

theorem Waits.tells {b b' : Bench σ κ η} (h : Waits b b') : Tells b [] [] b' := by
  obtain ⟨t, ht, hall⟩ := h.steps
  exact .of_mute h.about ht fun s hs => Step.isMute_of_isRequest (hall s hs)

/-! ### Mute work -/

/-- The work does no act, complains of nothing and cannot fail. -/
def Mute (x : Work σ κ η α) : Prop :=
  ∀ b : Bench σ κ η, ∃ a b', runFrom x b = (.ok a, b') ∧ b'.about = b.about ∧
    ∃ t, b'.steps = b.steps ++ t ∧ ∀ s ∈ t, s.isMute = true

namespace Mute

theorem record {s : Step} (h : s.isMute = true) : Mute (Work.record s : Work σ κ η Unit) :=
  fun _ => ⟨(), _, rfl, rfl, [s], rfl, by simpa using h⟩

theorem log {e : Event} (h : e.isComplaint = false) : Mute (Work.log e : Work σ κ η Unit) :=
  fun b => ⟨(), _, rfl, rfl, [.log ⟨e, b.about⟩], rfl, by simp [Step.isMute, h]⟩

theorem release (m : Staged) : Mute (Work.release m : Work σ κ η Unit) := by
  intro b
  refine ⟨(), _, Work.runFrom_release m b, rfl, m.farewell b.about, rfl, ?_⟩
  unfold Staged.farewell
  split
  · simp
  · simp [Step.isMute, Event.isComplaint, Event.level]

theorem requestStop (r : StopRequest) : Mute (Work.requestStop r : Work σ κ η Unit) := by
  have hmeet (say : Event → Work σ κ η Unit) (subject : Bench σ κ η → Option Subject)
      (hsay : ∀ e b, runFrom (say e) b =
        (.ok (), { b with steps := b.steps ++ [.log ⟨e, subject b⟩] })) :
      Mute (Work.meetRequest say r) := by
    intro b
    unfold Work.meetRequest
    rw [runFrom_bind_ok (runFrom_get b)]
    cases he : r.event? b.cancelled with
    | none => exact ⟨(), _, rfl, rfl, [], by simp, by simp⟩
    | some e =>
      dsimp only
      rw [runFrom_bind_ok (hsay e b)]
      refine ⟨(), _, rfl, rfl, [.log ⟨e, subject b⟩], rfl, ?_⟩
      rw [List.forall_mem_singleton]
      exact Step.isMute_of_isRequest (StopRequest.isRequest_of_event? he)
  cases r with
  | silent | stop => exact hmeet Work.log (·.about) fun _ _ => rfl
  | signal => exact hmeet Work.logApart (fun _ => none) fun _ _ => rfl

theorem bind {x : Work σ κ η α} {k : α → Work σ κ η β} (hx : Mute x) (hk : ∀ a, Mute (k a)) :
    Mute (x >>= k) := by
  intro b
  obtain ⟨a, b₁, hr, ha, t, ht, hmute⟩ := hx b
  obtain ⟨c, b', hr', ha', u, hu, hmute'⟩ := hk a b₁
  exact ⟨c, b', by rw [runFrom_bind_ok hr, hr'], ha'.trans ha, t ++ u,
    by rw [hu, ht, List.append_assoc], List.forall_mem_append.mpr ⟨hmute, hmute'⟩⟩

/-- Whatever a callback does with a body, by induction on it. -/
theorem handle (h : Handling κ) (body : Spool) :
    Mute (Work.handle h body : Work σ κ η (Except Failure Unit × Spool)) := by
  induction h generalizing body with
  | done o k => exact fun b => ⟨(o, body), _, rfl, rfl, [], (List.append_nil _).symm, by simp⟩
  | access a next ih =>
    intro b
    rw [Work.runFrom_handle_access]
    obtain ⟨p, b', hr, ha, t, ht, hmute⟩ := ih (body.access a).1 (body.access a).2
      { b with steps := b.steps ++ (Spool.sighted (body.access a).1).map .observe }
    refine ⟨p, b', hr, ha, (Spool.sighted (body.access a).1).map .observe ++ t, ?_, ?_⟩
    · rw [ht, List.append_assoc]
    · exact List.forall_mem_append.mpr ⟨by simp [Step.isMute], hmute⟩
  | requestStop r next ih => exact bind (requestStop r) fun _ => ih body
  | wait seconds next ih =>
    intro b
    obtain ⟨u, hu, hall⟩ := (Waits.wait seconds b).steps
    obtain ⟨p, b', hr, ha, t, ht, hmute⟩ :=
      ih (runFrom (Work.wait seconds) b).1 body (runFrom (Work.wait seconds) b).2
    rw [Work.handle, runFrom_bind_ok (runFrom_settle _ _)]
    refine ⟨p, b', hr, ha.trans (Waits.wait seconds b).about, u ++ t, ?_, ?_⟩
    · rw [ht, hu, List.append_assoc]
    · exact List.forall_mem_append.mpr ⟨fun s hs => Step.isMute_of_isRequest (hall s hs), hmute⟩

theorem tells {x : Work σ κ η α} (hx : Mute x) (b : Bench σ κ η) :
    ∃ a b', runFrom x b = (.ok a, b') ∧ Tells b [] [] b' := by
  obtain ⟨a, b', hr, ha, t, ht, hmute⟩ := hx b
  exact ⟨a, b', hr, .of_mute ha ht hmute⟩

end Mute

end Mailroom
