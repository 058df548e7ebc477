import Mailroom.Proofs.Following

/-!
# The protocol of a round

Which calls and deliveries a round makes, in which order, and what it ends in, for every session,
callback, settings and retrying. The protocol is a grammar of acts:

* a round is a row of attempts to connect; after one that succeeded a listing; after one that
  succeeded a block for each candidate in order; and then, always, one close (`Protocol`);
* the block of a candidate is a read; if it succeeded and the message can be finished, a delivery;
  if that was rejected, a move to the box for rejected messages; if it was accepted, a mark and a
  move to the box for delivered ones (`Block`).

An ordinary failure of any call is absorbed where it happens. A cancellation ends the round at
once, but for the close; the constructors named `cut…` say where it can come.
-/

namespace Mailroom

/-- What is left of the answer to a call whose ordinary failures are only logged. -/
def Session.Answer.absorbed : Session.Answer → Except Failure Unit
  | .failed f => if f.isFault then .ok () else .error f
  | .done | .listing _ | .count _ => .ok ()

theorem Session.Answer.absorbed_eq_error {a : Session.Answer} {f : Failure} :
    a.absorbed = .error f ↔ a = .failed f ∧ f.isFault = false := by
  cases a with
  | failed g =>
    cases hg : g.isFault <;> simp only [absorbed, hg, failed.injEq, if_true]
    · constructor
      · rintro ⟨⟩
        exact ⟨rfl, hg⟩
      · rintro ⟨rfl, -⟩
        rfl
    · constructor
      · rintro ⟨⟩
      · rintro ⟨rfl, hf⟩
        rw [hg] at hf
        cases hf
  | done | listing | count => simp [absorbed]

theorem Session.Answer.absorbed_bind_eq_ok {α : Type} {a : Session.Answer} {o : Except Failure α}
    {v : α} : (a.absorbed.bind fun _ => o) = .ok v ↔ a.absorbed = .ok () ∧ o = .ok v := by
  rcases a.absorbed with f | u <;> simp [Except.bind]

theorem Session.Answer.absorbed_bind_eq_error {α : Type} {a : Session.Answer}
    {o : Except Failure α} {f : Failure} : (a.absorbed.bind fun _ => o) = .error f ↔
      (a = .failed f ∧ f.isFault = false) ∨ (a.absorbed = .ok () ∧ o = .error f) := by
  rw [← absorbed_eq_error]
  rcases a.absorbed with f | u <;> simp [Except.bind]

namespace Round

open Session.Answer (absorbed_bind_eq_ok absorbed_bind_eq_error)

/-! ### The grammar -/

/-- Attempts to connect, of which `left` may follow the first one. -/
inductive Attempts (fragile : Bool) : (left : Nat) → List Act → Except Failure Unit → Prop where
  /-- An attempt succeeds. -/
  | connected (left : Nat) : Attempts fragile left [.call .connect .done] (.ok ())
  /-- The last attempt fails. -/
  | exhausted (f : Failure) : Attempts fragile 0 [.call .connect (.failed f)] (.error f)
  /-- An attempt fails in an ordinary way, and others follow. -/
  | again {left : Nat} {f : Failure} {as : List Act} {o : Except Failure Unit}
    (hf : f.isFault = true) (h : Attempts fragile left as o) :
    Attempts fragile (left + 1) (.call .connect (.failed f) :: as) o
  /-- An attempt is cancelled. -/
  | cutAttempt {left : Nat} {f : Failure} (hf : f.isFault = false) :
    Attempts fragile (left + 1) [.call .connect (.failed f)] (.error f)
  /-- The wait after an attempt is cancelled from outside. -/
  | cutWait {left : Nat} {f : Failure} (hf : f.isFault = true) (h : fragile = true) :
    Attempts fragile (left + 1) [.call .connect (.failed f)] (.error Work.cutOff)

/-- Moving a candidate to a box, unless the box has no name. -/
inductive Filing (uid box : String) : List Act → Except Failure Unit → Prop where
  /-- The candidate stays. -/
  | stay (h : box = "") : Filing uid box [] (.ok ())
  /-- The candidate is moved. -/
  | move (h : box ≠ "") (a : Session.Answer) : Filing uid box [.call (.move uid box) a] a.absorbed

/-- Reading a candidate and handing it to the callback. -/
inductive Handover (uid : String) : List Act → Except Failure Outcome → Prop where
  /-- The body cannot be read. -/
  | unread {f : Failure} (hf : f.isFault = true) :
    Handover uid [.call (.readBody uid) (.failed f)] (.ok .unreadable)
  /-- The message cannot be finished. -/
  | unfinished (n : Int) (e : StagingError) :
    Handover uid [.call (.readBody uid) (.count n), .finish (some e)] (.ok .unreadable)
  /-- The callback fails. -/
  | rejected (n : Int) (digest : Bytes) {f : Failure} (hf : f.isFault = true) :
    Handover uid [.call (.readBody uid) (.count n), .finish none, .deliver uid digest (some f)]
      (.ok .rejected)
  /-- The callback returns. -/
  | delivered (n : Int) (digest : Bytes) :
    Handover uid [.call (.readBody uid) (.count n), .finish none, .deliver uid digest none]
      (.ok .delivered)
  /-- Reading is cancelled. -/
  | cutReading {f : Failure} (hf : f.isFault = false) :
    Handover uid [.call (.readBody uid) (.failed f)] (.error f)
  /-- The callback is cancelled. -/
  | cutDelivery (n : Int) (digest : Bytes) {f : Failure} (hf : f.isFault = false) :
    Handover uid [.call (.readBody uid) (.count n), .finish none, .deliver uid digest (some f)]
      (.error f)

/-- What happens to a candidate after the handover. -/
inductive Relocation (d : Settings.Delivery) (uid : String) :
    Outcome → List Act → Except Failure Unit → Prop where
  /-- An unreadable candidate is left alone. -/
  | unreadable : Relocation d uid .unreadable [] (.ok ())
  /-- A rejected one is never marked. -/
  | rejected {as : List Act} {o : Except Failure Unit} (h : Filing uid d.errbox as o) :
    Relocation d uid .rejected as o
  /-- A delivered one is marked, and moved whether or not that failed. -/
  | delivered {a : Session.Answer} {as : List Act} {o : Except Failure Unit}
    (ha : a.absorbed = .ok ()) (h : Filing uid d.outbox as o) :
    Relocation d uid .delivered (.call (.mark uid true) a :: as) o
  /-- Marking is cancelled. -/
  | cutMarking {f : Failure} (hf : f.isFault = false) :
    Relocation d uid .delivered [.call (.mark uid true) (.failed f)] (.error f)

/-- The block of a candidate. -/
inductive Block (d : Settings.Delivery) (uid : String) :
    List Act → Except Failure Outcome → Prop where
  /-- The handover comes to an end, and the candidate is relocated. -/
  | whole {as bs : List Act} {out : Outcome} {o : Except Failure Unit}
    (h : Handover uid as (.ok out)) (k : Relocation d uid out bs o) :
    Block d uid (as ++ bs) (o.map fun _ => out)
  /-- The handover is cancelled. -/
  | cutHandover {as : List Act} {f : Failure} (h : Handover uid as (.error f)) :
    Block d uid as (.error f)

/-- The blocks of candidates, in order. -/
inductive Blocks (d : Settings.Delivery) :
    List String → List Act → Except Failure (List Outcome) → Prop where
  /-- There is no candidate left. -/
  | nil : Blocks d [] [] (.ok [])
  /-- A block, and then the others. -/
  | cons {uid : String} {uids : List String} {as bs : List Act} {out : Outcome}
    {o : Except Failure (List Outcome)} (h : Block d uid as (.ok out)) (k : Blocks d uids bs o) :
    Blocks d (uid :: uids) (as ++ bs) (o.map (out :: ·))
  /-- A block is cancelled. -/
  | cut {uid : String} {uids : List String} {as : List Act} {f : Failure}
    (h : Block d uid as (.error f)) : Blocks d (uid :: uids) as (.error f)

variable {σ κ η : Type}

/-- The listing of a round. -/
def listing (d : Settings.Delivery) : Session.Call := .list d.mailbox d.pattern d.includeSeen

/-- The failure of a round that cannot connect. -/
def connectFailure (r : Round σ κ) (f : Failure) : Failure :=
  if f.kind.isA .connect then f
  else f.wrap .connect s!"connect to {r.session.title}: {f.text}"

/-- The failure of a round that cannot list. -/
def listFailure (r : Round σ κ) (f : Failure) : Failure :=
  f.wrap .list s!"list {r.session.title}/{r.settings.mailbox}: {f.text}"

/-- What happens between connecting and closing. -/
inductive Visit (r : Round σ κ) : List Act → Except Failure RoundResult → Prop where
  /-- The listing fails. -/
  | unlisted {f : Failure} (hf : f.isFault = true) :
    Visit r [.call (listing r.settings) (.failed f)] (.ok (.failed (r.listFailure f)))
  /-- The candidates are processed. -/
  | listed {uids : List String} {as : List Act} {o : Except Failure (List Outcome)}
    (h : Blocks r.settings uids as o) :
    Visit r (.call (listing r.settings) (.listing uids) :: as) (o.map (.ofOutcomes uids.length))
  /-- The listing is cancelled. -/
  | cutListing {f : Failure} (hf : f.isFault = false) :
    Visit r [.call (listing r.settings) (.failed f)] (.error f)

/-- How often connecting may be tried after the first attempt. -/
def attemptsLeft (r : Round σ κ) : Nat :=
  match r.retry with
  | some policy => policy.maxAttempts - 1
  | none => 0

/-- A whole round. -/
inductive Protocol (r : Round σ κ) (fragile : Bool) :
    List Act → Except Failure RoundResult → Prop where
  /-- No attempt to connect succeeds. -/
  | unconnected {as : List Act} {f : Failure} (hf : f.isFault = true)
    (h : Attempts fragile r.attemptsLeft as (.error f)) :
    Protocol r fragile as (.ok (.failed (r.connectFailure f)))
  /-- The session is connected, visited and closed. -/
  | closed {as bs : List Act} {o : Except Failure RoundResult} {a : Session.Answer}
    (h : Attempts fragile r.attemptsLeft as (.ok ())) (k : Visit r bs o)
    (ha : a.absorbed = .ok ()) :
    Protocol r fragile (as ++ (bs ++ [.call (.close true) a])) o
  /-- Connecting is cancelled. -/
  | cutConnecting {as : List Act} {f : Failure} (hf : f.isFault = false)
    (h : Attempts fragile r.attemptsLeft as (.error f)) : Protocol r fragile as (.error f)
  /-- Closing is cancelled. -/
  | cutClosing {as bs : List Act} {o : Except Failure RoundResult} {f : Failure}
    (h : Attempts fragile r.attemptsLeft as (.ok ())) (k : Visit r bs o)
    (hf : f.isFault = false) :
    Protocol r fragile (as ++ (bs ++ [.call (.close true) (.failed f)])) (.error f)

/-! ### Only a cancellation cuts a round short -/

theorem Filing.cutBy {uid box : String} {as : List Act} {f : Failure}
    (h : Filing uid box as (.error f)) : ∃ a ∈ as, a.CutBy f := by
  generalize ho : (Except.error f : Except Failure Unit) = o at h
  cases h with
  | stay => cases ho
  | move _ a =>
    obtain ⟨rfl, hf⟩ := Session.Answer.absorbed_eq_error.mp ho.symm
    exact ⟨_, List.mem_singleton.mpr rfl, rfl, hf⟩

theorem Handover.cutBy {uid : String} {as : List Act} {f : Failure}
    (h : Handover uid as (.error f)) : ∃ a ∈ as, a.CutBy f := by
  cases h with
  | cutReading hf => exact ⟨_, List.mem_singleton.mpr rfl, rfl, hf⟩
  | cutDelivery n digest hf =>
    exact ⟨.deliver uid digest (some f), by simp, rfl, hf⟩

theorem Relocation.cutBy {d : Settings.Delivery} {uid : String} {out : Outcome} {as : List Act}
    {f : Failure} (h : Relocation d uid out as (.error f)) : ∃ a ∈ as, a.CutBy f := by
  cases h with
  | rejected h => exact h.cutBy
  | delivered _ h =>
    obtain ⟨a, ha, hc⟩ := h.cutBy
    exact ⟨a, List.mem_cons_of_mem _ ha, hc⟩
  | cutMarking hf => exact ⟨_, List.mem_singleton.mpr rfl, rfl, hf⟩

theorem Block.cutBy {d : Settings.Delivery} {uid : String} {as : List Act} {f : Failure}
    (h : Block d uid as (.error f)) : ∃ a ∈ as, a.CutBy f := by
  generalize ho : (Except.error f : Except Failure Outcome) = o at h
  cases h with
  | @whole as bs out o' _ k =>
    rcases o' with g | u <;> cases ho
    obtain ⟨a, ha, hc⟩ := k.cutBy
    exact ⟨a, List.mem_append_right as ha, hc⟩
  | cutHandover h =>
    cases ho
    exact h.cutBy

theorem Blocks.cutBy {d : Settings.Delivery} {uids : List String} {as : List Act} {f : Failure}
    (h : Blocks d uids as (.error f)) : ∃ a ∈ as, a.CutBy f := by
  generalize ho : (Except.error f : Except Failure (List Outcome)) = o at h
  induction h with
  | nil => cases ho
  | @cons _ _ as bs out o' _ k ih =>
    rcases o' with g | outs <;> cases ho
    obtain ⟨a, ha, hc⟩ := ih rfl
    exact ⟨a, List.mem_append_right as ha, hc⟩
  | cut h =>
    cases ho
    exact h.cutBy

theorem Attempts.cutBy {fragile : Bool} {left : Nat} {as : List Act} {f : Failure}
    (h : Attempts fragile left as (.error f)) (hf : f.isFault = false) :
    (fragile = true ∧ f = Work.cutOff) ∨ ∃ a ∈ as, a.CutBy f := by
  generalize ho : (Except.error f : Except Failure Unit) = o at h
  induction h with
  | connected => cases ho
  | exhausted =>
    cases ho
    exact .inr ⟨_, List.mem_singleton.mpr rfl, rfl, hf⟩
  | again _ _ ih => exact (ih ho).imp_right fun ⟨a, ha, hc⟩ => ⟨a, List.mem_cons_of_mem _ ha, hc⟩
  | cutAttempt =>
    cases ho
    exact .inr ⟨_, List.mem_singleton.mpr rfl, rfl, hf⟩
  | cutWait _ hw =>
    cases ho
    exact .inl ⟨hw, rfl⟩

theorem Visit.cutBy {r : Round σ κ} {as : List Act} {f : Failure}
    (h : Visit r as (.error f)) : ∃ a ∈ as, a.CutBy f := by
  generalize ho : (Except.error f : Except Failure RoundResult) = o at h
  cases h with
  | unlisted => cases ho
  | @listed _ _ o' h =>
    rcases o' with g | outs <;> cases ho
    obtain ⟨a, ha, hc⟩ := h.cutBy
    exact ⟨a, List.mem_cons_of_mem _ ha, hc⟩
  | cutListing hf =>
    cases ho
    exact ⟨_, List.mem_singleton.mpr rfl, rfl, hf⟩

theorem Protocol.cutBy {r : Round σ κ} {fragile : Bool} {as : List Act} {f : Failure}
    (h : Protocol r fragile as (.error f)) :
    (fragile = true ∧ f = Work.cutOff) ∨ ∃ a ∈ as, a.CutBy f := by
  cases h with
  | @closed as bs _ a _ k _ =>
    obtain ⟨c, hc, hcut⟩ := k.cutBy
    exact .inr ⟨c, by simp [hc], hcut⟩
  | cutConnecting hf h => exact h.cutBy hf
  | cutClosing _ _ hf => exact .inr ⟨.call (.close true) (.failed f), by simp, rfl, hf⟩

/-- A round in which nothing is cancelled ends in a result. -/
theorem Protocol.eq_ok {r : Round σ κ} {fragile : Bool} {as : List Act}
    {o : Except Failure RoundResult} (h : Protocol r fragile as o) (hfragile : fragile = false)
    (hcalm : ∀ a ∈ as, ∀ f, a.failure? = some f → f.isFault = true) :
    ∃ result, o = .ok result := by
  cases o with
  | ok result => exact ⟨result, rfl⟩
  | error f =>
    rcases h.cutBy with ⟨hf, -⟩ | ⟨a, ha, hc, hf⟩
    · rw [hfragile] at hf
      cases hf
    · rw [hcalm a ha f hc] at hf
      cases hf

/-! ### Every part of a round keeps to the grammar -/

variable {s : Session σ} {fragile : Bool}

/-- A call whose ordinary failures are only logged. -/
theorem follows_absorbing {c : Session.Call} {op : Session.Op σ Unit} {say : Failure → Event}
    (h : ∀ x a xs y, op.Carries (fun _ => .done) x a xs y → s.Does c x a xs y) :
    Follows s fragile (Work.handling (Work.call c (fun _ => .done) op)
      fun f => Work.log (say f) : Work σ κ η Unit) fun as o =>
        ∃ a, as = [.call c a] ∧ o = a.absorbed := by
  refine (Follows.handling (.call h) (q := fun _ as o => as = [] ∧ o = .ok ())
    fun f _ => .of_quiet (.log _) fun _ => ⟨rfl, rfl⟩).mono ?_
  rintro as o (⟨u, rfl, rfl⟩ | ⟨f, hf, rfl, rfl⟩ | ⟨f, bs, cs, hf, rfl, rfl, rfl, rfl⟩)
  · exact ⟨.done, rfl, rfl⟩
  · exact ⟨.failed f, rfl, by simp [Session.Answer.absorbed, hf]⟩
  · exact ⟨.failed f, rfl, by simp [Session.Answer.absorbed, hf]⟩

theorem follows_close (r : Round σ κ) :
    Follows r.session fragile (r.close : Work σ κ η Unit) fun as o =>
      ∃ a, as = [.call (.close true) a] ∧ o = a.absorbed :=
  follows_absorbing fun _ _ _ _ h => h

theorem follows_markSeen (r : Round σ κ) (uid : String) :
    Follows r.session fragile (r.markSeen uid : Work σ κ η Unit) fun as o =>
      ∃ a, as = [.call (.mark uid true) a] ∧ o = a.absorbed :=
  follows_absorbing fun _ _ _ _ h => h

theorem follows_moveTo (r : Round σ κ) (uid box : String) :
    Follows r.session fragile (r.moveTo uid box : Work σ κ η Unit) (Filing uid box) := by
  unfold moveTo
  split
  · next h => exact .pure (.stay h)
  · next h =>
    refine (follows_absorbing (c := .move uid box) fun _ _ _ _ hc => hc).mono ?_
    rintro _ _ ⟨a, rfl, rfl⟩
    exact .move h a

theorem follows_relocate (r : Round σ κ) (uid : String) (out : Outcome) :
    Follows r.session fragile (r.relocate uid out : Work σ κ η Unit)
      (Relocation r.settings uid out) := by
  cases out with
  | delivered =>
    refine (Follows.bind (follows_markSeen r uid) fun _ _ => follows_moveTo r uid _).mono ?_
    rintro as o (⟨u, _, bs, rfl, ⟨a, rfl, ha⟩, hb⟩ | ⟨f, rfl, a, rfl, ha⟩)
    · exact .delivered ha.symm hb
    · obtain ⟨rfl, hf⟩ := Session.Answer.absorbed_eq_error.mp ha.symm
      exact .cutMarking hf
  | rejected =>
    exact (follows_moveTo r uid _).mono fun _ _ h => .rejected h
  | unreadable => exact .pure .unreadable

/-- Trying to connect again and again, by induction on how many attempts are left. -/
theorem follows_tryFrom (policy : Settings.Retry) {x : Work σ κ η Unit}
    (hx : Follows s fragile x fun as o => as = [.call .connect (.of (fun _ => .done) o)])
    (left n : Nat) :
    Follows s fragile (Backoff.tryFrom policy (·.isFault) "connect" x left n)
      (Attempts fragile left) := by
  induction left generalizing n with
  | zero =>
    refine hx.mono ?_
    rintro _ (f | u) rfl
    · exact .exhausted f
    · exact .connected 0
  | succ left ih =>
    refine (Follows.bind hx.settle (q := fun r as o =>
      (r = .ok () ∧ as = [] ∧ o = .ok ()) ∨ ∃ f, r = .error f ∧
        ((f.isFault = false ∧ as = [] ∧ o = .error f) ∨
          (f.isFault = true ∧ fragile = true ∧ as = [] ∧ o = .error Work.cutOff) ∨
          (f.isFault = true ∧ Attempts fragile left as o))) ?_).mono ?_
    · rintro (f | u) -
      · cases hf : f.isFault
        · simp only [hf]
          exact .throw (.inr ⟨f, rfl, .inl ⟨hf, rfl, rfl⟩⟩)
        · simp only [hf, if_true]
          refine .quiet_bind (.log _) fun _ => .quiet_bind (.record rfl) fun _ => ?_
          refine ((follows_wait s fragile _).bind fun _ _ => ih (n + 1)).mono ?_
          rintro as o (⟨_, bs, cs, rfl, ⟨rfl, -⟩, h⟩ | ⟨g, rfl, rfl, hc | ⟨hc, hg⟩⟩)
          · exact .inr ⟨f, rfl, .inr (.inr ⟨hf, h⟩)⟩
          · cases hc
          · cases hg
            exact .inr ⟨f, rfl, .inr (.inl ⟨hf, hc, rfl, rfl⟩)⟩
      · exact .pure (.inl ⟨rfl, rfl, rfl⟩)
    · rintro as o (⟨r, bs, cs, rfl, ⟨r', hr, hb⟩, hq⟩ | ⟨f, rfl, r', hr, -⟩)
      · cases hr
        subst hb
        rcases hq with ⟨rfl, rfl, rfl⟩ | ⟨f, rfl, ⟨hf, rfl, rfl⟩ | ⟨hf, hc, rfl, rfl⟩ | ⟨hf, hq⟩⟩
        · exact .connected _
        · exact .cutAttempt hf
        · exact .cutWait hf hc
        · exact .again hf hq
      · cases hr

theorem follows_connect (r : Round σ κ) :
    Follows r.session fragile (r.connect : Work σ κ η Unit) fun as o =>
      ∃ o', Attempts fragile r.attemptsLeft as o' ∧ o = match o' with
        | .ok _ => .ok ()
        | .error f => .error (if f.isFault then r.connectFailure f else f) := by
  have hcall : Follows r.session fragile
      (Work.call .connect (fun _ => .done) r.session.connect : Work σ κ η Unit)
      fun as o => as = [.call .connect (.of (fun _ => .done) o)] := .call fun _ _ _ _ h => h
  have hattempts : Follows r.session fragile (match r.retry with
      | some policy => Backoff.retrying policy (·.isFault) "connect"
        (Work.call .connect (fun _ => .done) r.session.connect)
      | none => Work.call .connect (fun _ => .done) r.session.connect : Work σ κ η Unit)
      (Attempts fragile r.attemptsLeft) := by
    unfold attemptsLeft
    cases r.retry with
    | some policy => exact follows_tryFrom policy hcall _ 1
    | none => exact follows_tryFrom ⟨1, 0, 0, 0⟩ hcall 0 1
  refine (Follows.handling hattempts
    (q := fun f as o => as = [] ∧ o = .error (r.connectFailure f)) fun f _ => ?_).mono ?_
  · unfold connectFailure
    split
    · exact .throw ⟨rfl, rfl⟩
    · exact .throw ⟨rfl, rfl⟩
  · rintro as o (⟨u, rfl, h⟩ | ⟨f, hf, rfl, h⟩ | ⟨f, bs, cs, hf, rfl, h, rfl, rfl⟩)
    · exact ⟨_, h, rfl⟩
    · exact ⟨_, h, by simp [hf]⟩
    · exact ⟨.error f, by simpa using h, by simp [hf]⟩

theorem follows_list (r : Round σ κ) :
    Follows r.session fragile (r.list : Work σ κ η (List String)) fun as o =>
      (∃ uids, as = [.call (listing r.settings) (.listing uids)] ∧ o = .ok uids) ∨
        ∃ f, as = [.call (listing r.settings) (.failed f)] ∧
          o = .error (if f.isFault then r.listFailure f else f) := by
  refine (Follows.handling (.call (c := listing r.settings) fun _ _ _ _ h => h)
    (q := fun f as o => as = [] ∧ o = .error (r.listFailure f))
    fun f _ => .throw ⟨rfl, rfl⟩).mono ?_
  rintro as o (⟨uids, rfl, rfl⟩ | ⟨f, hf, rfl, rfl⟩ | ⟨f, bs, cs, hf, rfl, rfl, rfl, rfl⟩)
  · exact .inl ⟨uids, rfl, rfl⟩
  · exact .inr ⟨f, rfl, by simp [hf]⟩
  · exact .inr ⟨f, rfl, by simp [hf]⟩

/-- Reading and finishing: the message can be handed on when both succeed. -/
theorem follows_readInto (r : Round σ κ) (uid : String) (m : Staged) :
    Follows r.session fragile (r.readInto uid m : Work σ κ η (Except Failure Int × Staged))
      fun as o => ∃ m',
        (∃ f, as = [.call (.readBody uid) (.failed f)] ∧ o = .ok (.error f, m')) ∨
        (∃ n e, as = [.call (.readBody uid) (.count n), .finish (some e)] ∧
          o = .ok (.error e.failure, m')) ∨
        ∃ n, as = [.call (.readBody uid) (.count n), .finish none] ∧ o = .ok (.ok n, m') ∧
          m'.readable = .ok () := by
  intro b hb
  obtain ⟨as, hread, size, m', rfl, ho⟩ := follows_read r.session fragile uid m b hb
  rcases hr : runFrom (Work.read r.session uid m) b with ⟨o, b'⟩
  rw [hr] at hread ho
  subst ho
  rw [readInto, runFrom_bind_ok hr]
  rcases size with f | n
  · exact ⟨_, hread, m', .inl ⟨f, rfl, rfl⟩⟩
  · dsimp only
    rcases hfin : m'.finish with ⟨e | u, m''⟩
    · refine ⟨_, hread.trans (.of_act rfl rfl (.finish _ (some e))), m'', ?_⟩
      exact .inr (.inl ⟨n, e, rfl, rfl⟩)
    · refine ⟨_, hread.trans (.of_act rfl rfl (.finish _ none)), m'', ?_⟩
      exact .inr (.inr ⟨n, rfl, rfl, Staged.readable_of_finish hfin⟩)

/-- A message that can be handed on is delivered exactly once. -/
theorem follows_deliver (r : Round σ κ) (uid : String) (n : Int) {m : Staged}
    (hm : m.readable = .ok ()) :
    Follows r.session fragile (r.deliver uid n m : Work σ κ η (Except Failure Unit × Staged))
      fun as o => ∃ digest out m', as = [.deliver uid digest (Failure.of? out)] ∧
        o = .ok (out, m') := by
  obtain ⟨digest, hdigest⟩ : ∃ digest, m.digest = .ok digest := ⟨_, by rw [Staged.digest, hm]; rfl⟩
  have hbody : m.body = .ok m.spool := by rw [Staged.body, hm]; rfl
  unfold deliver
  rw [hdigest, hbody]
  refine .quiet_bind (.log _) fun _ b _ => ?_
  obtain ⟨⟨handled, body⟩, b', hr, hn⟩ := Quiet.handle (σ := σ) (η := η)
    (r.callback uid digest b.receiver) m.spool { b with steps := b.steps ++ [.deliver uid digest] }
  obtain ⟨hs, t, ht, ha⟩ := (hn.leads r.session).nil_inv
  rw [runFrom_bind_ok (Work.runFrom_record _ _), runFrom_bind_ok (runFrom_get _),
    runFrom_bind_ok hr, runFrom_bind_ok (Work.runFrom_record _ _)]
  generalize Failure.awaited handled = out
  refine ⟨[.deliver uid digest (Failure.of? out)], ?_, digest, out, _, rfl, rfl⟩
  refine .of_act (t := .deliver uid digest :: (t ++ [.verdict uid (Failure.of? out)]))
    hn.fragile (by simp [ht]) ?_
  have hp : r.session.Performs (.deliver uid digest (Failure.of? out)) b.session _ b.session :=
    .deliver b.session ha
  simpa [hs] using hp

/-- What a handover that came to a delivery ends in, by how the delivery ended. -/
def verdictOutcome : Except Failure Unit → Except Failure Outcome
  | .ok _ => .ok .delivered
  | .error f => if f.isFault then .ok .rejected else .error f

theorem follows_stageAndDeliver (r : Round σ κ) (uid : String) :
    Follows r.session fragile (r.stageAndDeliver uid : Work σ κ η Outcome) (Handover uid) := by
  refine .aside_bind (.showSpool _) fun _ => ?_
  -- What the reading has done so far, the rest of the handover completes.
  refine (Follows.bind (follows_readInto r uid _) (q := fun p bs o =>
    (∃ f, p.1 = .error f ∧ bs = [] ∧ o = if f.isFault then .ok .unreadable else .error f) ∨
      ∃ n digest out, p.1 = .ok n ∧ bs = [.deliver uid digest (Failure.of? out)] ∧
        o = verdictOutcome out) ?_).mono ?_
  · rintro ⟨size, m⟩ ⟨as, m', hp⟩
    rcases size with f | n
    · refine .mono (p := fun as o =>
        as = [] ∧ o = if f.isFault then .ok .unreadable else .error f) ?_
        fun _ _ ⟨h, h'⟩ => .inl ⟨f, rfl, h, h'⟩
      dsimp only
      split
      · exact .quiet_bind (.log _) fun _ => .aside_bind (.release m) fun _ => .pure ⟨rfl, rfl⟩
      · exact .aside_bind (.release m) fun _ => .throw ⟨rfl, rfl⟩
    · have hm : m.readable = .ok () := by
        rcases hp with ⟨f, -, h⟩ | ⟨_, e, -, h⟩ | ⟨_, -, h, hr⟩ <;> cases h
        exact hr
      refine ((follows_deliver r uid n hm).bind
        (q := fun p bs o => bs = [] ∧ o = verdictOutcome p.1) ?_).mono ?_
      · rintro ⟨f | u, m⟩ -
        · simp only [verdictOutcome]
          split
          · exact .quiet_bind (.log _) fun _ => .aside_bind (.release m) fun _ => .pure ⟨rfl, rfl⟩
          · exact .aside_bind (.release m) fun _ => .throw ⟨rfl, rfl⟩
        · exact .aside_bind (.release m) fun _ => .pure ⟨rfl, rfl⟩
      · rintro as o (⟨p, bs, cs, rfl, ⟨digest, out, m', rfl, h⟩, rfl, rfl⟩ | ⟨f, -, _, _, _, _, h⟩)
        · cases h
          exact .inr ⟨n, digest, out, rfl, by simp, rfl⟩
        · cases h
  · rintro as o (⟨⟨size, m⟩, bs, cs, rfl, ⟨m', hp⟩, hq⟩ | ⟨f, -, m', hp⟩)
    · rcases hp with ⟨f, rfl, h⟩ | ⟨n, e, rfl, h⟩ | ⟨n, rfl, h, -⟩ <;> cases h
      · obtain ⟨_, hsize, rfl, rfl⟩ | ⟨_, _, _, hsize, -⟩ := hq <;> cases hsize
        cases hf : f.isFault
        · exact .cutReading hf
        · exact .unread hf
      · obtain ⟨_, hsize, rfl, rfl⟩ | ⟨_, _, _, hsize, -⟩ := hq <;> cases hsize
        exact .unfinished n e
      · obtain ⟨_, hsize, -⟩ | ⟨_, digest, out, hsize, rfl, rfl⟩ := hq <;> cases hsize
        rcases out with f | u
        · cases hf : f.isFault
          · simpa [verdictOutcome, hf] using Handover.cutDelivery n digest hf
          · simpa [verdictOutcome, hf] using Handover.rejected n digest hf
        · exact .delivered n digest
    · rcases hp with ⟨_, -, h⟩ | ⟨_, _, -, h⟩ | ⟨_, -, h, -⟩ <;> cases h

theorem follows_process (r : Round σ κ) (uid : String) :
    Follows r.session fragile (r.process uid : Work σ κ η Outcome) (Block r.settings uid) := by
  refine .about _ (((follows_stageAndDeliver r uid).bind fun out _ =>
    (follows_relocate r uid out).bind (q := fun _ as o => as = [] ∧ o = .ok out)
      fun _ _ => .pure ⟨rfl, rfl⟩).mono ?_)
  rintro as o (⟨out, bs, cs, rfl, h, hk⟩ | ⟨f, rfl, h⟩)
  · rcases hk with ⟨u, ds, _, rfl, hk, rfl, rfl⟩ | ⟨f, rfl, hk⟩
    · rw [List.append_nil]
      exact .whole h hk
    · exact .whole h hk
  · exact .cutHandover h

/-- Processing candidates counts their outcomes, by induction on the candidates. -/
theorem follows_processAll (r : Round σ κ) (uids : List String) (result : RoundResult) :
    Follows r.session fragile (r.processAll uids result : Work σ κ η RoundResult) fun as o =>
      ∃ o', Blocks r.settings uids as o' ∧ o = o'.map (·.foldl RoundResult.count result) := by
  induction uids generalizing result with
  | nil => exact .pure ⟨_, .nil, rfl⟩
  | cons uid uids ih =>
    refine (Follows.bind (follows_process r uid) fun out _ => ih (result.count out)).mono ?_
    rintro as o (⟨out, bs, cs, rfl, h, o', hk, rfl⟩ | ⟨f, rfl, h⟩)
    · refine ⟨_, .cons h hk, ?_⟩
      cases o' <;> rfl
    · exact ⟨_, .cut h, rfl⟩

/-- What happens on the connected session; a failure to list is still to be handled. -/
theorem follows_visit (r : Round σ κ) :
    Follows r.session fragile (do
      let uids ← r.list
      r.processAll uids { RoundResult.empty with candidates := uids.length } :
        Work σ κ η RoundResult) fun as o =>
      Visit r as o ∨ ∃ f, f.isFault = true ∧ as = [.call (listing r.settings) (.failed f)] ∧
        o = .error (r.listFailure f) := by
  refine ((follows_list r).bind fun uids _ => follows_processAll r uids _).mono ?_
  rintro as o (⟨uids, bs, cs, rfl, ⟨_, rfl, ⟨⟩⟩ | ⟨_, -, ⟨⟩⟩, o', hb, rfl⟩ |
    ⟨f, rfl, ⟨_, -, ⟨⟩⟩ | ⟨g, rfl, hg⟩⟩)
  · exact .inl (.listed hb)
  · cases hg
    cases hf : g.isFault
    · exact .inl (.cutListing hf)
    · exact .inr ⟨g, hf, rfl, rfl⟩

/-- A connected session is closed, whatever was done with it. -/
theorem follows_connected {α : Type} (r : Round σ κ) {x : Work σ κ η α} {p : Plan α}
    (hx : Follows r.session fragile x p) :
    Follows r.session fragile (r.connected x) fun as o =>
      (∃ f, Attempts fragile r.attemptsLeft as (.error f) ∧
        o = .error (if f.isFault then r.connectFailure f else f)) ∨
      ∃ bs cs o' a, as = bs ++ (cs ++ [.call (.close true) a]) ∧
        Attempts fragile r.attemptsLeft bs (.ok ()) ∧ p cs o' ∧
        o = a.absorbed.bind fun _ => o' := by
  refine ((follows_connect r).bind fun _ _ => hx.settle.bind fun outcome _ =>
    (follows_close r).bind (q := fun _ as o => as = [] ∧ o = outcome)
      fun _ _ => .giveBack ⟨rfl, rfl⟩).mono ?_
  rintro as o (⟨_, bs, cs, rfl, ⟨f | u, hb, hu⟩, hk⟩ | ⟨f, rfl, ⟨g | u, hb, hg⟩⟩)
  · cases hu
  · rcases hk with ⟨o', cs, ds, rfl, ⟨_, ⟨⟩, hp⟩, hc⟩ | ⟨f, -, _, ⟨⟩, -⟩
    refine .inr ⟨bs, cs, o', ?_⟩
    rcases hc with ⟨u, _, _, rfl, ⟨a, rfl, ha⟩, rfl, rfl⟩ | ⟨f, rfl, a, rfl, ha⟩
    · exact ⟨a, by simp, hb, hp, by rw [← ha]; rfl⟩
    · exact ⟨a, rfl, hb, hp, by rw [← ha]; rfl⟩
  · cases hg
    exact .inl ⟨g, hb, rfl⟩
  · cases hg

@[simp] theorem isFault_listFailure (r : Round σ κ) (f : Failure) :
    (r.listFailure f).isFault = true := rfl

theorem connectFailure_kind (r : Round σ κ) (f : Failure) :
    (r.connectFailure f).kind.isA .connect := by
  unfold connectFailure
  split
  · assumption
  · rfl

@[simp] theorem isFault_connectFailure (r : Round σ κ) (f : Failure) :
    (r.connectFailure f).isFault = true :=
  Failure.isFault_of_isA (connectFailure_kind r f) rfl

/-- **Rounds keep the protocol**, whatever the session and the callback do. -/
theorem follows_run (r : Round σ κ) :
    Follows r.session fragile (r.run : Work σ κ η RoundResult) (Protocol r fragile) := by
  refine (Follows.handling (follows_connected r (follows_visit r)) (q := fun f as o =>
    as = [] ∧ o = if f.kind.isA .connect ∨ f.kind.isA .list then .ok (.failed f) else .error f)
    fun f _ => ?_).mono ?_
  · by_cases hc : f.kind.isA .connect
    · simp only [hc, if_true, true_or]
      exact .quiet_bind (.log _) fun _ => .pure ⟨rfl, rfl⟩
    · by_cases hl : f.kind.isA .list
      · simp only [hc, hl, if_true, or_true]
        exact .quiet_bind (.log _) fun _ => .pure ⟨rfl, rfl⟩
      · simp only [hc, hl, or_self]
        exact .throw ⟨rfl, rfl⟩
  · rintro as o (⟨res, rfl, ⟨f, -, ⟨⟩⟩ | ⟨bs, cs, o', a, rfl, hb, hv, ho⟩⟩ |
      ⟨f, hf, rfl, ⟨g, hg, hfg⟩ | ⟨bs, cs, o', a, rfl, hb, hv, ho⟩⟩ |
      ⟨f, ds, es, hf, rfl, ⟨g, hg, hfg⟩ | ⟨bs, cs, o', a, rfl, hb, hv, ho⟩, rfl, rfl⟩)
    · -- The round ends in a result of its own.
      obtain ⟨ha, rfl⟩ := absorbed_bind_eq_ok.mp ho.symm
      rcases hv with hv | ⟨_, -, -, ⟨⟩⟩
      exact .closed hb hv ha
    · -- Connecting is cancelled.
      cases hg' : g.isFault <;> simp only [hg', if_true] at hfg <;> cases hfg
      · exact .cutConnecting hg' hg
      · simp at hf
    · -- Closing or the visit is cancelled.
      rcases absorbed_bind_eq_error.mp ho.symm with ⟨rfl, -⟩ | ⟨ha, rfl⟩
      · rcases hv with hv | ⟨g, hg, rfl, rfl⟩
        · exact .cutClosing hb hv hf
        · exact .cutClosing hb (.unlisted hg) hf
      · rcases hv with hv | ⟨g, hg, rfl, hfg⟩
        · exact .closed hb hv ha
        · cases hfg
          simp at hf
    · -- Connecting fails.
      rw [List.append_nil]
      cases hg' : g.isFault <;> simp only [hg', if_true] at hfg <;> cases hfg
      · simp [hg'] at hf
      · simp only [if_true, connectFailure_kind, true_or]
        exact .unconnected hg' hg
    · -- Listing fails.
      rw [List.append_nil]
      rcases absorbed_bind_eq_error.mp ho.symm with ⟨rfl, hf'⟩ | ⟨ha, rfl⟩
      · rw [hf] at hf'
        cases hf'
      · rcases hv with hv | ⟨g, hg, rfl, hfg⟩
        · obtain ⟨a, -, -, hf'⟩ := hv.cutBy
          rw [hf] at hf'
          cases hf'
        · cases hfg
          exact .closed hb (.unlisted hg) ha

/-- A round goes along a path of its session, by acts that keep the protocol. -/
theorem run_path (r : Round σ κ) (b : Bench σ κ η) :
    ∃ as t, (runFrom (r.run : Work σ κ η RoundResult) b).2.steps = b.steps ++ t ∧
      Path r.session b.session as t (runFrom (r.run : Work σ κ η RoundResult) b).2.session ∧
      Protocol r b.fragile as (runFrom (r.run : Work σ κ η RoundResult) b).1 := by
  obtain ⟨as, hl, hp⟩ := follows_run r b rfl
  obtain ⟨t, ht, hpath⟩ := hl.path
  exact ⟨as, t, ht, hpath, hp⟩

/-- **The exact protocol of a round**: for every session, callback, settings and retrying, the calls
and deliveries that a round records are those of a row of acts in the grammar. Unless an act of it
or a wait is cancelled, the round ends in a result, so that none of the constructors named `cut…` is
there. Seen messages are listed too exactly when there are two boxes. -/
theorem run_keeps_protocol (r : Round σ κ) (b : Bench σ κ η) :
    ∃ as t, (runFrom (r.run : Work σ κ η RoundResult) b).2.steps = b.steps ++ t ∧
      talk t = as.flatMap Act.steps ∧
      Protocol r b.fragile as (runFrom (r.run : Work σ κ η RoundResult) b).1 ∧
      (b.fragile = false → (∀ a ∈ as, ∀ f, a.failure? = some f → f.isFault = true) →
        ∃ result, (runFrom (r.run : Work σ κ η RoundResult) b).1 = .ok result) ∧
      (r.settings.includeSeen = true ↔ r.settings.outbox ≠ "" ∧ r.settings.errbox ≠ "") := by
  obtain ⟨as, t, ht, hpath, hp⟩ := run_path r b
  refine ⟨as, t, ht, hpath.talk_eq, hp, hp.eq_ok, ?_⟩
  simp [Settings.Delivery.includeSeen]

end Round

end Mailroom
