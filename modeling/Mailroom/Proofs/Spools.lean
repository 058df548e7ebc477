import Mailroom.Proofs.Keeping

/-!
# Spools

A record shows where the spool of a candidate is opened and closed. `spoolsAfter` follows these
steps: it allows a spool to be opened only while none is open, a candidate to be read and handed to
the callback only while its own spool is open, and every other call on the session only while none
is. So what is done to a message afterwards, to the next candidate and to the session comes after
the spool was closed.

`Minds` says that work keeps to this, with one rule for each way of putting work together. Sessions
may finish and release the message that they write into, and callbacks may close the body, as they
like (`minds_stream`). Every call and the staging of every candidate start and end with no spool
open, and so does every round (`Round.tidy_run`).
-/

namespace Mailroom

variable {σ κ η α β : Type}

/-! ### Spools -/

/-- The candidate whose spool is open after a step, if the step is allowed. -/
def Step.spoolAfter : Step → Option String → Option (Option String)
  | spool uid true, none => some (some uid)
  | spool _ true, some _ => none
  | spool uid false, held => if held = some uid then some none else none
  | call (.readBody uid), held | deliver uid _, held => if held = some uid then some held else none
  | call _, none => some none
  | call _, some _ => none
  | _, held => some held

/-- The candidate whose spool is open after some steps, if each is allowed. -/
def spoolsAfter (held : Option String) (t : List Step) : Option (Option String) :=
  t.foldlM (fun held s => s.spoolAfter held) held

theorem spoolsAfter_append (held : Option String) (t u : List Step) :
    spoolsAfter held (t ++ u) = (spoolsAfter held t).bind fun held => spoolsAfter held u :=
  List.foldlM_append

theorem spoolsAfter_cons (held : Option String) (s : Step) (t : List Step) :
    spoolsAfter held (s :: t) = (s.spoolAfter held).bind fun held => spoolsAfter held t :=
  List.foldlM_cons

theorem spoolsAfter_single (held : Option String) (s : Step) :
    spoolsAfter held [s] = s.spoolAfter held := by
  rw [spoolsAfter_cons]
  exact Option.bind_fun_some _

/-- Where each step leaves the spools alone, all of them do. -/
theorem spoolsAfter_eq_of_all {held : Option String} {t : List Step}
    (h : ∀ s ∈ t, s.spoolAfter held = some held) : spoolsAfter held t = some held := by
  induction t with
  | nil => rfl
  | cons s t ih =>
    rw [List.forall_mem_cons] at h
    rw [spoolsAfter_cons, h.1]
    exact ih h.2

theorem Step.spoolAfter_of_isNote {s : Step} (h : s.isNote = true) (held : Option String) :
    s.spoolAfter held = some held := by
  cases s <;> first | rfl | cases h

/-- The candidate whose spool is open while the message is. -/
def Staged.held (m : Staged) : Option String := if m.released then none else some m.uid

namespace Staged

theorem held_write (m : Staged) (data : Bytes) : (m.write data).2.held = m.held := by
  unfold write
  split
  · rfl
  · split <;> rfl

theorem held_finish (m : Staged) : m.finish.2.held = m.held := by
  unfold finish
  split <;> rfl

theorem held_release (m : Staged) : m.release.1.held = none := by
  unfold release
  split
  · next h => simp [held, h]
  · rfl

/-- A message that can be handed on has an open spool. -/
theorem held_of_readable {m : Staged} (h : m.readable = .ok ()) : m.held = some m.uid := by
  unfold readable at h
  split at h
  · cases h
  · next hr => exact if_neg hr

theorem uid_of_held {m : Staged} {uid : String} (h : m.held = some uid) : m.uid = uid := by
  unfold held at h
  split at h <;> cases h
  rfl

end Staged

/-! ### Work that minds the spools -/

/-- While the spool of `held` is open, the work takes only steps that are allowed, and `Q` holds of
its outcome and of the candidate whose spool is open in the end. -/
def Minds (held : Option String) (x : Work σ κ η α) (Q : Except Failure α → Option String → Prop) :
    Prop :=
  ∀ b : Bench σ κ η, ∃ t held', (runFrom x b).2.steps = b.steps ++ t ∧
    spoolsAfter held t = some held' ∧ Q (runFrom x b).1 held'

/-- The work starts and ends with no spool open. -/
abbrev Tidy (x : Work σ κ η α) : Prop := Minds none x fun _ held => held = none

namespace Minds

variable {held : Option String} {x : Work σ κ η α} {Q : Except Failure α → Option String → Prop}

/-- Notes leave the spools alone. -/
theorem of_notes (hn : ∀ b, Notes b (runFrom x b).2) (hq : ∀ b, Q (runFrom x b).1 held) :
    Minds held x Q := by
  intro b
  obtain ⟨t, ht, hnotes⟩ := (hn b).steps
  exact ⟨t, held, ht,
    spoolsAfter_eq_of_all fun s hs => Step.spoolAfter_of_isNote (hnotes s hs) held, hq b⟩

theorem quiet (hx : Quiet x) (h : ∀ a, Q (.ok a) held) : Minds held x Q := by
  refine of_notes (fun b => ?_) fun b => ?_ <;> obtain ⟨a, b', hr, hn⟩ := hx b <;> rw [hr]
  · exact hn
  · exact h a

theorem pure {a : α} (h : Q (.ok a) held) : Minds held (pure a : Work σ κ η α) Q :=
  of_notes .refl fun _ => h

theorem throw {f : Failure} (h : Q (.error f) held) : Minds held (throw f : Work σ κ η α) Q :=
  of_notes .refl fun _ => h

/-- A change of the bench that adds allowed steps may come first. -/
theorem modify_bind {f : Bench σ κ η → Bench σ κ η} {k : PUnit → Work σ κ η α}
    {t : Bench σ κ η → List Step} {held' : Option String} (ht : ∀ b, (f b).steps = b.steps ++ t b)
    (hs : ∀ b, spoolsAfter held (t b) = some held') (hk : Minds held' (k ()) Q) :
    Minds held (modify f >>= k) Q := by
  intro b
  obtain ⟨u, held'', hu, hs', hq⟩ := hk (f b)
  rw [runFrom_bind_ok (runFrom_modify f b)]
  refine ⟨t b ++ u, held'', by rw [hu, ht, List.append_assoc], ?_, hq⟩
  rw [spoolsAfter_append, hs]
  exact hs'

theorem record_bind {s : Step} (held' : Option String) {k : Unit → Work σ κ η α}
    (hs : s.spoolAfter held = some held') (hk : Minds held' (k ()) Q) :
    Minds held (Work.record s >>= k) Q :=
  modify_bind (t := fun _ => [s]) (fun _ => rfl) (fun _ => by rw [spoolsAfter_single, hs]) hk

theorem bind {k : α → Work σ κ η β} {R : Except Failure β → Option String → Prop}
    (hx : Minds held x Q) (hok : ∀ a held', Q (.ok a) held' → Minds held' (k a) R)
    (herror : ∀ f held', Q (.error f) held' → R (.error f) held') : Minds held (x >>= k) R := by
  intro b
  obtain ⟨t, held', ht, hs, hq⟩ := hx b
  rcases hr : runFrom x b with ⟨f | a, b'⟩ <;> rw [hr] at ht hq
  · rw [runFrom_bind_error hr]
    exact ⟨t, held', ht, hs, herror f held' hq⟩
  · obtain ⟨u, held'', hu, hs', hq'⟩ := hok a held' hq b'
    rw [runFrom_bind_ok hr]
    refine ⟨t ++ u, held'', by rw [hu, ht, List.append_assoc], ?_, hq'⟩
    rw [spoolsAfter_append, hs]
    exact hs'

/-- What cannot fail and leaves the spools alone may come first. -/
theorem quiet_bind {y : Work σ κ η β} {k : β → Work σ κ η α} (hy : Quiet y)
    (hk : ∀ a, Minds held (k a) Q) : Minds held (y >>= k) Q := by
  refine bind (quiet (Q := fun o held' => (∃ a, o = .ok a) ∧ held' = held) hy
    fun a => ⟨⟨a, rfl⟩, rfl⟩) ?_ ?_
  · rintro a _ ⟨-, rfl⟩
    exact hk a
  · rintro f _ ⟨⟨a, ⟨⟩⟩, -⟩

end Minds

/-! ### Tidy work -/

/-- A stretch of work that starts and ends with no spool open. -/
def TidyStretch : Stretch σ κ η := fun _ t _ => spoolsAfter none t = some none

theorem composes_tidy : Composes (TidyStretch : Stretch σ κ η) where
  idle _ _ _ _ hidle := spoolsAfter_eq_of_all fun s hs =>
    Step.spoolAfter_of_isNote (Step.isNote_of_isIdle (hidle s hs)) none
  trans h k := by
    unfold TidyStretch at h k ⊢
    rw [spoolsAfter_append, h]
    exact k

theorem tidy_iff_keeps {x : Work σ κ η α} : Tidy x ↔ Keeps TidyStretch x := by
  constructor
  · intro h b
    obtain ⟨t, _, ht, hs, rfl⟩ := h b
    exact ⟨t, ht, hs⟩
  · intro h b
    obtain ⟨t, ht, hs⟩ := h b
    exact ⟨t, none, ht, hs, rfl⟩

/-- A call that reads no body is made while no spool is open. -/
theorem tidy_call {c : Session.Call} {shown : α → Session.Answer} {op : Session.Op σ α}
    (hc : ∀ uid, c ≠ .readBody uid) : Tidy (Work.call c shown op : Work σ κ η α) := by
  intro b
  rw [Work.runFrom_call]
  rcases runFrom op ⟨b.session, []⟩ with ⟨o, y, rs⟩
  refine ⟨.call c :: (rs.map (Work.ofRemark b.about) ++ [.answer (.of shown o)]), none, by simp,
    spoolsAfter_eq_of_all ?_, rfl⟩
  simp only [List.mem_cons, List.mem_append, List.mem_map, List.not_mem_nil, or_false]
  rintro s (rfl | ⟨r, -, rfl⟩ | rfl)
  · cases c with
    | readBody uid => exact absurd rfl (hc uid)
    | connect | close | list | mark | move => rfl
  · cases r <;> rfl
  · rfl

/-! ### Staged messages -/

/-- Releasing a message closes its spool, if it is open. -/
theorem minds_release (m : Staged) : Minds m.held (Work.release m : Work σ κ η Unit)
    fun o held => o = .ok () ∧ held = none := by
  have hlog (held : Option String) : Minds held (m.release.2.forM Work.log : Work σ κ η PUnit)
      fun o held' => o = .ok () ∧ held' = held :=
    .quiet (Idle.forM Idle.log _).quiet fun _ => ⟨rfl, rfl⟩
  unfold Work.release
  dsimp only
  cases hm : m.released with
  | true =>
    rw [Staged.held, hm]
    exact hlog none
  | false =>
    rw [Staged.held, hm]
    refine .record_bind none ?_ (hlog none)
    simp [Staged.release, hm, Step.spoolAfter]

/-- Whatever a session does with the message it writes into, the spool of the message is open until
it is released. -/
theorem minds_stream (st : Streaming σ) (m : Staged) :
    Minds m.held (Work.stream st m : Work σ κ η (Except Failure Int × Staged))
      fun o held => ∃ out m', o = .ok (out, m') ∧ held = m'.held ∧ m'.uid = m.uid := by
  induction st generalizing m with
  | done o x =>
    exact .modify_bind (t := fun _ => []) (fun b => (List.append_nil b.steps).symm) (fun _ => rfl)
      (.pure ⟨o, m, rfl, rfl, rfl⟩)
  | say r next ih =>
    refine .modify_bind (t := fun b => [Work.ofRemark b.about r]) (fun _ => rfl) (fun b => ?_)
      (ih m)
    cases r <;> rfl
  | write data next ih =>
    rw [Work.stream]
    have hheld := m.held_write data
    have huid := m.uid_write data
    rcases hw : m.write data with ⟨e | n, m'⟩ <;> rw [hw] at hheld huid <;> rw [← hheld, ← huid] <;>
      exact ih _ m'
  | finish next ih =>
    rw [Work.stream]
    have hheld := m.held_finish
    have huid := m.uid_finish
    rcases hw : m.finish with ⟨e | u, m'⟩ <;> rw [hw] at hheld huid <;> rw [← hheld, ← huid] <;>
      exact ih _ m'
  | release next ih =>
    refine .bind (minds_release m) ?_ ?_
    · rintro _ _ ⟨-, rfl⟩
      rw [← m.held_release, ← m.uid_release]
      exact ih m.release.1
    · rintro f _ ⟨⟨⟩, -⟩

/-- A candidate is read while its spool is open. -/
theorem minds_read (s : Session σ) {uid : String} {m : Staged} (hm : m.held = some uid) :
    Minds (some uid) (Work.read s uid m : Work σ κ η (Except Failure Int × Staged))
      fun o held => ∃ size m', o = .ok (size, m') ∧ held = m'.held ∧ m'.uid = uid := by
  obtain rfl := Staged.uid_of_held hm
  refine .record_bind (some m.uid) (if_pos rfl) (.quiet_bind .get fun b => ?_)
  refine .bind (hm ▸ minds_stream (s.readBody m.uid b.session) m) ?_ ?_
  · rintro _ _ ⟨size, m', ⟨⟩, rfl, hu⟩
    exact .record_bind m'.held rfl (.pure ⟨size, m', rfl, rfl, hu⟩)
  · rintro f _ ⟨_, _, ⟨⟩, -⟩

namespace Round

variable {uid : String}

/-- What reading leaves a candidate with: its message, which can be handed on if reading and
finishing it succeeded. -/
theorem minds_readInto (r : Round σ κ) {m : Staged} (hm : m.held = some uid) :
    Minds (some uid) (r.readInto uid m : Work σ κ η (Except Failure Int × Staged))
      fun o held => ∃ size m', o = .ok (size, m') ∧ held = m'.held ∧ m'.uid = uid ∧
        ∀ n, size = .ok n → m'.readable = .ok () := by
  refine .bind (minds_read r.session hm) ?_ ?_
  · rintro _ _ ⟨size, m', ⟨⟩, rfl, hu⟩
    rcases size with f | n
    · exact .pure ⟨_, m', rfl, rfl, hu, by simp⟩
    · dsimp only
      have hheld := m'.held_finish
      have huid := m'.uid_finish
      rcases hfin : m'.finish with ⟨e | u, m''⟩ <;> rw [hfin] at hheld huid
      · refine .record_bind m'.held rfl (.pure ⟨_, m'', rfl, hheld.symm, ?_, by simp⟩)
        exact huid.trans hu
      · refine .record_bind m'.held rfl (.pure ⟨_, m'', rfl, hheld.symm, ?_, ?_⟩)
        · exact huid.trans hu
        · exact fun _ _ => Staged.readable_of_finish hfin
  · rintro f _ ⟨_, _, ⟨⟩, -⟩

/-- The callback gets a candidate while its spool is open, and does not release it. -/
theorem minds_deliver (r : Round σ κ) (n : Int) {m : Staged} (hm : m.readable = .ok ()) :
    Minds (some m.uid) (r.deliver m.uid n m : Work σ κ η (Except Failure Unit × Staged))
      fun o held => ∃ out m', o = .ok (out, m') ∧ held = m'.held := by
  have hheld := Staged.held_of_readable hm
  obtain ⟨digest, hdigest⟩ : ∃ digest, m.digest = .ok digest := ⟨_, by rw [Staged.digest, hm]; rfl⟩
  have hbody : m.body = .ok m.spool := by rw [Staged.body, hm]; rfl
  unfold deliver
  rw [hdigest, hbody]
  refine .quiet_bind (.log _) fun _ => .record_bind (some m.uid) (if_pos rfl) ?_
  refine .quiet_bind .get fun b => .quiet_bind (.handle _ _) fun p => ?_
  exact .record_bind (some m.uid) rfl (.pure ⟨_, { m with spool := p.2 }, rfl, hheld.symm⟩)

/-- Staging and handing on ends with the spool closed, whatever came of it. -/
theorem tidy_stageAndDeliver (r : Round σ κ) (uid : String) :
    Tidy (r.stageAndDeliver uid : Work σ κ η Outcome) := by
  have hrelease {α : Type} (m : Staged) {x : Work σ κ η α} (hx : Tidy x) :
      Minds m.held (do Work.release m; x) fun _ held => held = none := by
    refine .bind (minds_release m) ?_ ?_
    · rintro _ _ ⟨-, rfl⟩
      exact hx
    · rintro f _ ⟨⟨⟩, -⟩
  refine .record_bind (some uid) rfl (.bind (minds_readInto r rfl) ?_ ?_)
  · rintro _ _ ⟨size, m, ⟨⟩, rfl, rfl, hm⟩
    rcases size with f | n
    · dsimp only
      split
      · exact .quiet_bind (.log _) fun _ => hrelease m (.pure rfl)
      · exact hrelease m (.throw rfl)
    · have hread := hm n rfl
      refine .bind (Staged.held_of_readable hread ▸ minds_deliver r n hread) ?_ ?_
      · rintro _ _ ⟨f | u, m', ⟨⟩, rfl⟩
        · dsimp only
          split
          · exact .quiet_bind (.log _) fun _ => hrelease m' (.pure rfl)
          · exact hrelease m' (.throw rfl)
        · exact hrelease m' (.pure rfl)
      · rintro f _ ⟨_, _, ⟨⟩, -⟩
  · rintro f _ ⟨_, _, ⟨⟩, -⟩

/-- A round ends with no spool open. -/
theorem tidy_run (r : Round σ κ) : Tidy (r.run : Work σ κ η RoundResult) :=
  tidy_iff_keeps.mpr (keeps_run composes_tidy r (fun hc _ => tidy_iff_keeps.mp (tidy_call hc))
    fun uid => tidy_iff_keeps.mp (tidy_stageAndDeliver r uid))

end Round

end Mailroom
