import Mailroom.Proofs.Telling

/-!
# Complaints

What a round logs of its failures: each failure gives rise to one entry (`Round.notice`), and
nothing else does (`Round.run_complains`).

Work on a candidate is `Candid` if its complaints are the notices of its acts; there is one rule for
each way of putting such work together. What a round does besides is put together by hand, since
there a failure is logged late: a failure to connect or to list at the end of the round, when the
session is closed.
-/

namespace Mailroom

variable {σ κ η α β : Type}

/-! ### Notices -/

/-- The candidate that was read last, after an act. -/
def Act.reading (uid : String) : Act → String
  | call (.readBody uid) _ => uid
  | _ => uid

/-- The act is a listing. -/
def Act.isListing : Act → Bool
  | call (.list ..) _ => true
  | _ => false

/-- The act raises a failure in the round. -/
def Act.raises : Act → Bool
  | call _ (.failed _) => true
  | call _ _ => false
  | finish problem => problem.isSome
  | deliver _ _ failure => failure.isSome

namespace Round

/-- What a round logs of a call that fails: `n` is the number of the attempt, if it is one to
connect, and `retried` whether another one follows. Calls for a candidate are logged about it, the
others about whatever the round itself is about. -/
def callNotice (r : Round σ κ) (outer : Option Subject) (n : Nat) (retried : Bool) (f : Failure) :
    Session.Call → Entry
  | .connect => ⟨if retried then .retrying "connect" n f.text
      else .connectFailed (r.connectFailure f).text, outer⟩
  | .list .. => ⟨.listFailed r.settings.pattern (r.listFailure f).text, outer⟩
  | .close _ => ⟨.closeFailed f.text, outer⟩
  | .readBody uid => ⟨.readFailed f.text, some ⟨uid, r.settings.mailbox⟩⟩
  | .mark uid _ => ⟨.markFailed f.text, some ⟨uid, r.settings.mailbox⟩⟩
  | .move uid box => ⟨.moveFailed box f.text, some ⟨uid, r.settings.mailbox⟩⟩

/-- What a round logs of an act, if that fails; `uid` is the candidate that was read last. -/
def notice (r : Round σ κ) (outer : Option Subject) (n : Nat) (retried : Bool) (uid : String) :
    Act → Option Entry
  | .call c (.failed f) => some (r.callNotice outer n retried f c)
  | .call _ _ => none
  | .finish problem =>
    problem.map fun e => ⟨.readFailed e.failure.text, some ⟨uid, r.settings.mailbox⟩⟩
  | .deliver uid _ failure =>
    failure.map fun f => ⟨.rejected f.text f.kind.name, some ⟨uid, r.settings.mailbox⟩⟩

/-- What a round logs of its acts, one after the other, where `settled` is whether it ends in a
result. A failed listing is logged at the end. -/
def notices (r : Round σ κ) (outer : Option Subject) (settled : Bool) :
    (n : Nat) → (uid : String) → List Act → List Entry
  | _, _, [] => []
  | n, uid, a :: as =>
    let own := (r.notice outer n (!(settled && as.isEmpty)) (a.reading uid) a).toList
    let rest := r.notices outer settled (n + 1) (a.reading uid) as
    if a.isListing then rest ++ own else own ++ rest

variable {r : Round σ κ}

/-- Acts give rise to these notices, wherever in a round they stand. -/
def Gives (r : Round σ κ) (as : List Act) (es : List Entry) : Prop :=
  ∀ outer settled n uid bs, ∃ uid', r.notices outer settled n uid (as ++ bs) =
    es ++ r.notices outer settled (n + as.length) uid' bs

namespace Gives

variable {as bs : List Act} {es fs : List Entry}

theorem nil : r.Gives [] [] := fun _ _ _ uid _ => ⟨uid, rfl⟩

theorem append (h : r.Gives as es) (k : r.Gives bs fs) : r.Gives (as ++ bs) (es ++ fs) := by
  intro outer settled n uid cs
  obtain ⟨uid₁, h⟩ := h outer settled n uid (bs ++ cs)
  obtain ⟨uid₂, k⟩ := k outer settled (n + as.length) uid₁ cs
  refine ⟨uid₂, ?_⟩
  rw [List.append_assoc, h, k, List.append_assoc, List.length_append, Nat.add_assoc]

/-- An act that does not fail gives no notice. -/
theorem of_none {a : Act} (h : ∀ outer n retried uid, r.notice outer n retried uid a = none) :
    r.Gives [a] [] := by
  intro outer settled n uid bs
  refine ⟨a.reading uid, ?_⟩
  simp [notices, h]

/-- A call for a candidate that fails gives one. -/
theorem of_call {c : Session.Call} {uid : String} (hc : c.uid? = some uid) (f : Failure) :
    r.Gives [.call c (.failed f)] [r.callNotice none 0 false f c] := by
  intro outer settled n last bs
  refine ⟨(Act.call c (.failed f)).reading last, ?_⟩
  cases c with
  | connect | close | list => cases hc
  | readBody | mark | move => simp [notices, notice, callNotice, Act.isListing]

/-- A message that cannot be finished gives one, about the candidate that was read. -/
theorem of_unfinished (uid : String) (size : Int) (e : StagingError) :
    r.Gives [.call (.readBody uid) (.count size), .finish (some e)]
      [⟨.readFailed e.failure.text, some ⟨uid, r.settings.mailbox⟩⟩] := by
  intro outer settled n uid' bs
  refine ⟨uid, ?_⟩
  simp [notices, notice, Act.reading, Act.isListing]

theorem of_finished (uid : String) (size : Int) :
    r.Gives [.call (.readBody uid) (.count size), .finish none] [] :=
  append (of_none fun _ _ _ _ => rfl) (of_none fun _ _ _ _ => rfl)

/-- A callback that fails gives one. -/
theorem of_rejected (uid : String) (digest : Bytes) (f : Failure) :
    r.Gives [.deliver uid digest (some f)]
      [⟨.rejected f.text f.kind.name, some ⟨uid, r.settings.mailbox⟩⟩] := by
  intro outer settled n uid' bs
  refine ⟨uid', ?_⟩
  simp [notices, notice, Act.reading, Act.isListing]

end Gives

/-! ### Work on a candidate -/

/-- No act ends in a cancellation. -/
def Uncut (as : List Act) : Prop := ∀ a ∈ as, ∀ f, a.failure? = some f → f.isFault = true

theorem uncut_append {as bs : List Act} : Uncut (as ++ bs) ↔ Uncut as ∧ Uncut bs :=
  List.forall_mem_append

theorem Uncut.call {c : Session.Call} {f : Failure} (h : Uncut [.call c (.failed f)]) :
    f.isFault = true := h _ (List.mem_singleton_self _) f rfl

/-- A call whose ordinary failures are only logged. -/
theorem tells_absorbing (c : Session.Call) (op : Session.Op σ Unit) {say : Failure → Event}
    (hsay : ∀ f, (say f).isComplaint = true) (b : Bench σ κ η) :
    ∃ (o : Except Failure Unit) (es : List Entry), Tells b [.call c (.of (fun _ => .done) o)] es
        (runFrom (Work.handling (Work.call c (fun _ => .done) op) fun f => Work.log (say f)) b).2 ∧
      (Uncut [.call c (.of (fun _ => .done) o)] →
        (runFrom (Work.handling (Work.call c (fun _ => .done) op) fun f =>
          Work.log (say f)) b).1 = .ok () ∧
        es = ((Failure.of? o).map fun f => ⟨say f, b.about⟩).toList) := by
  have hcall := tells_call c (fun _ => Session.Answer.done) op b
  rw [Work.runFrom_handling]
  rcases hr : runFrom (Work.call c (fun _ => .done) op) b with ⟨f | u, b₁⟩ <;> rw [hr] at hcall
  · cases hf : f.isFault with
    | false =>
      refine ⟨.error f, [], by simpa [hf] using hcall, fun huncut => ?_⟩
      rw [huncut.call] at hf
      cases hf
    | true =>
      simp only [hf, if_true]
      have hlog := tells_log (hsay f) b₁
      rw [hcall.about] at hlog
      exact ⟨.error f, _, hcall.complaining hlog, fun _ => ⟨rfl, rfl⟩⟩
  · exact ⟨.ok u, _, hcall, fun _ => ⟨rfl, rfl⟩⟩

/-- A round is processing a candidate. -/
def Processes (r : Round σ κ) (uid : String) (subject : Option Subject) : Prop :=
  subject = some ⟨uid, r.settings.mailbox⟩

/-- While such a candidate is being processed, the work complains of its acts as the round does; it
comes to its end if none of them is cancelled. -/
def Candid (r : Round σ κ) (p : Option Subject → Prop) (x : Work σ κ η α) : Prop :=
  ∀ b : Bench σ κ η, p b.about → ∃ as es, Tells b as es (runFrom x b).2 ∧
    (Uncut as → (∃ a, (runFrom x b).1 = .ok a) ∧ r.Gives as es)

namespace Candid

variable {p : Option Subject → Prop} {uid : String} {x : Work σ κ η α}

theorem pure (a : α) : Candid r p (pure a : Work σ κ η α) := fun b _ =>
  ⟨[], [], .refl b, fun _ => ⟨⟨a, rfl⟩, .nil⟩⟩

theorem bind {k : α → Work σ κ η β} (hx : Candid r p x) (hk : ∀ a, Candid r p (k a)) :
    Candid r p (x >>= k) := by
  intro b hb
  obtain ⟨as, es, htells, hgives⟩ := hx b hb
  rcases hr : runFrom x b with ⟨f | a, b₁⟩ <;> rw [hr] at htells hgives
  · rw [runFrom_bind_error hr]
    refine ⟨as, es, htells, fun huncut => ?_⟩
    obtain ⟨⟨a, ⟨⟩⟩, -⟩ := hgives huncut
  · rw [runFrom_bind_ok hr]
    obtain ⟨bs, fs, htells', hgives'⟩ := hk a b₁ (by rwa [htells.about])
    refine ⟨as ++ bs, es ++ fs, htells.trans htells', fun huncut => ?_⟩
    obtain ⟨hleft, hright⟩ := uncut_append.mp huncut
    exact ⟨(hgives' hright).1, (hgives hleft).2.append (hgives' hright).2⟩

/-- A call for the candidate whose ordinary failures are only logged. -/
theorem absorbing {c : Session.Call} (hc : c.uid? = some uid) (op : Session.Op σ Unit)
    {say : Failure → Event} (hsay : ∀ f, (say f).isComplaint = true)
    (hnotice : ∀ f, r.callNotice none 0 false f c = ⟨say f, some ⟨uid, r.settings.mailbox⟩⟩) :
    Candid r (r.Processes uid) (Work.handling (Work.call c (fun _ => .done) op)
      fun f => Work.log (say f) : Work σ κ η Unit) := by
  intro b hb
  obtain ⟨o, es, htells, hends⟩ := tells_absorbing c op hsay b
  refine ⟨_, es, htells, fun huncut => ?_⟩
  obtain ⟨hok, rfl⟩ := hends huncut
  refine ⟨⟨(), hok⟩, ?_⟩
  rcases o with f | u
  · rw [Failure.of?, Option.map_some, Option.toList_some, hb, ← hnotice f]
    exact .of_call hc f
  · exact .of_none fun _ _ _ _ => rfl

end Candid

theorem candid_moveTo (r : Round σ κ) (uid box : String) :
    Candid r (r.Processes uid) (r.moveTo uid box : Work σ κ η Unit) := by
  unfold moveTo
  split
  · exact .pure ()
  · exact .absorbing rfl _ (fun _ => rfl) fun _ => rfl

theorem candid_relocate (r : Round σ κ) (uid : String) (out : Outcome) :
    Candid r (r.Processes uid) (r.relocate uid out : Work σ κ η Unit) := by
  cases out with
  | delivered =>
    exact .bind (.absorbing (c := .mark uid true) rfl _ (fun _ => rfl) fun _ => rfl) fun _ =>
      candid_moveTo r uid _
  | rejected => exact candid_moveTo r uid _
  | unreadable => exact .pure ()

/-- Reading a body is an act and no complaint. -/
theorem tells_read (s : Session σ) (uid : String) (m : Staged) (b : Bench σ κ η) :
    ∃ size m' b', runFrom (Work.read s uid m) b = (.ok (size, m'), b') ∧
      Tells b [.call (.readBody uid) (.of .count size)] [] b' := by
  have hreading : ∀ step ∈ ((s.readBody uid b.session).fill b.about m).record,
      step.isReading = true := fun _ => Streaming.isReading_of_mem_fill
  exact ⟨_, _, _, Work.runFrom_read s uid m b rfl, rfl, _, rfl, .call _ hreading _⟩

/-- What comes of reading and finishing, and what is to be logged of it. -/
def ReadOutcome (r : Round σ κ) (uid : String) (as : List Act) (m : Staged) :
    Except Failure Int → Prop
  | .error f => Uncut as →
    f.isFault = true ∧ r.Gives as [⟨.readFailed f.text, some ⟨uid, r.settings.mailbox⟩⟩]
  | .ok _ => r.Gives as [] ∧ m.readable = .ok ()

/-- Reading and finishing complains of nothing yet. -/
theorem tells_readInto (r : Round σ κ) (uid : String) (m : Staged) (b : Bench σ κ η) :
    ∃ as size m' b', runFrom (r.readInto uid m) b = (.ok (size, m'), b') ∧ Tells b as [] b' ∧
      r.ReadOutcome uid as m' size := by
  obtain ⟨size, m₁, b₁, hr, hread⟩ := tells_read r.session uid m b
  rw [readInto, runFrom_bind_ok hr]
  rcases size with f | n
  · exact ⟨_, _, _, _, rfl, hread, fun huncut => ⟨huncut.call, .of_call rfl f⟩⟩
  · dsimp only
    rcases hfin : m₁.finish with ⟨e | u, m₂⟩
    · have hfinish : Tells b₁ [.finish (some e)] []
          { b₁ with steps := b₁.steps ++ [.finish (some e)] } :=
        ⟨rfl, _, rfl, .finish (some e)⟩
      exact ⟨_, _, _, _, rfl, hread.trans hfinish, fun _ => ⟨rfl, .of_unfinished uid n e⟩⟩
    · have hfinish : Tells b₁ [.finish none] [] { b₁ with steps := b₁.steps ++ [.finish none] } :=
        ⟨rfl, _, rfl, .finish none⟩
      exact ⟨_, _, _, _, rfl, hread.trans hfinish, .of_finished uid n,
        Staged.readable_of_finish hfin⟩

/-- A delivery is an act and no complaint yet. -/
theorem tells_deliver (r : Round σ κ) (uid : String) (n : Int) {m : Staged}
    (hm : m.readable = .ok ()) (b : Bench σ κ η) :
    ∃ digest out m' b', runFrom (r.deliver uid n m) b = (.ok (out, m'), b') ∧
      Tells b [.deliver uid digest (Failure.of? out)] [] b' := by
  obtain ⟨digest, hdigest⟩ : ∃ digest, m.digest = .ok digest := ⟨_, by rw [Staged.digest, hm]; rfl⟩
  have hbody : m.body = .ok m.spool := by rw [Staged.body, hm]; rfl
  unfold deliver
  rw [hdigest, hbody]
  dsimp only
  obtain ⟨_, b₁, hr₁, hlog⟩ := (Mute.log (σ := σ) (κ := κ) (η := η)
    (e := .staged n digest.hex) rfl).tells b
  obtain ⟨⟨handled, body⟩, b₂, hr₂, ha, t, ht, hmute⟩ := Mute.handle (σ := σ) (η := η)
    (r.callback uid digest b₁.receiver) m.spool
    { b₁ with steps := b₁.steps ++ [.deliver uid digest] }
  rw [runFrom_bind_ok hr₁, runFrom_bind_ok (Work.runFrom_record _ _),
    runFrom_bind_ok (runFrom_get _), runFrom_bind_ok hr₂,
    runFrom_bind_ok (Work.runFrom_record _ _)]
  generalize Failure.awaited handled = out
  have hdeliver : Tells b₁ [.deliver uid digest (Failure.of? out)] []
      { b₂ with steps := b₂.steps ++ [.verdict uid (Failure.of? out)] } :=
    ⟨ha, .deliver uid digest :: (t ++ [.verdict uid (Failure.of? out)]), by simp [ht],
      .deliver uid digest hmute (Failure.of? out)⟩
  exact ⟨digest, out, _, _, rfl, hlog.after_mute hdeliver⟩

/-- What is logged of a message that is given up, and that it is released then. -/
theorem tells_dismissal {e : Event} (he : e.isComplaint = true) (m : Staged) (out : Outcome)
    (b : Bench σ κ η) : ∃ b', runFrom (do
      Work.log e
      Work.release m
      pure out : Work σ κ η Outcome) b = (.ok out, b') ∧ Tells b [] [⟨e, b.about⟩] b' := by
  have hlog : runFrom (Work.log e) b = (.ok (), (runFrom (Work.log e) b).2) := rfl
  obtain ⟨_, b', hr, hrelease⟩ := (Mute.release m).tells (runFrom (Work.log e) b).2
  refine ⟨b', ?_, (tells_log he b).before_mute hrelease⟩
  rw [runFrom_bind_ok hlog, runFrom_bind_ok hr, runFrom_pure]

theorem candid_stageAndDeliver (r : Round σ κ) (uid : String) :
    Candid r (r.Processes uid) (r.stageAndDeliver uid : Work σ κ η Outcome) := by
  intro b hb
  have hopen : Mute (Work.showSpool (r.stageInUse.openFor r.disk uid) : Work σ κ η Unit) :=
    .record rfl
  obtain ⟨_, b₀, hr₀, hshow⟩ := hopen.tells b
  obtain ⟨as, size, m, b₁, hr₁, hread, hsize⟩ :=
    tells_readInto r uid (r.stageInUse.openFor r.disk uid) b₀
  have hfirst := hshow.after_mute hread
  have hb₁ : b₁.about = some ⟨uid, r.settings.mailbox⟩ := hfirst.about.trans hb
  rw [stageAndDeliver, runFrom_bind_ok hr₀, runFrom_bind_ok hr₁]
  rcases size with f | n
  · dsimp only
    cases hf : f.isFault with
    | true =>
      rw [if_pos rfl]
      obtain ⟨b', hr, htells⟩ := tells_dismissal (e := .readFailed f.text) rfl m .unreadable b₁
      rw [hr]
      refine ⟨as, _, hfirst.complaining htells, fun huncut => ⟨⟨_, rfl⟩, ?_⟩⟩
      rw [hb₁]
      exact (hsize huncut).2
    | false =>
      rw [if_neg Bool.false_ne_true]
      obtain ⟨_, b', hr, hrelease⟩ := (Mute.release m).tells b₁
      rw [runFrom_bind_ok hr]
      refine ⟨as, [], hfirst.before_mute hrelease, fun huncut => ?_⟩
      rw [(hsize huncut).1] at hf
      cases hf
  · obtain ⟨hgives, hm⟩ := hsize
    obtain ⟨digest, out, m', b₂, hr₂, hdeliver⟩ := tells_deliver r uid n hm b₁
    have hsecond := hfirst.trans hdeliver
    have hb₂ : b₂.about = some ⟨uid, r.settings.mailbox⟩ := hsecond.about.trans hb
    dsimp only
    rw [runFrom_bind_ok hr₂]
    rcases out with f | u
    · dsimp only
      cases hf : f.isFault with
      | true =>
        rw [if_pos rfl]
        obtain ⟨b', hr, htells⟩ :=
          tells_dismissal (e := .rejected f.text f.kind.name) rfl m' .rejected b₂
        rw [hr]
        refine ⟨_, _, hsecond.complaining htells, fun _ => ⟨⟨_, rfl⟩, ?_⟩⟩
        rw [hb₂]
        exact hgives.append (.of_rejected uid digest f)
      | false =>
        rw [if_neg Bool.false_ne_true]
        obtain ⟨_, b', hr, hrelease⟩ := (Mute.release m').tells b₂
        rw [runFrom_bind_ok hr]
        refine ⟨_, [], hsecond.before_mute hrelease, fun huncut => ?_⟩
        have hfault : f.isFault = true :=
          (uncut_append.mp huncut).2 _ (List.mem_singleton_self _) f rfl
        rw [hfault] at hf
        cases hf
    · obtain ⟨_, b', hr, hrelease⟩ := (Mute.release m').tells b₂
      rw [runFrom_bind_ok hr]
      exact ⟨_, [], hsecond.before_mute hrelease, fun _ =>
        ⟨⟨_, rfl⟩, hgives.append (.of_none fun _ _ _ _ => rfl)⟩⟩

/-- Processing a candidate is candid, whatever was processed before. -/
theorem candid_process (r : Round σ κ) (uid : String) :
    Candid r (fun _ => True) (r.process uid : Work σ κ η Outcome) := by
  intro b _
  have hcandid : Candid r (r.Processes uid) (do
      let out ← r.stageAndDeliver uid
      r.relocate uid out
      pure out : Work σ κ η Outcome) :=
    .bind (candid_stageAndDeliver r uid) fun out => .bind (candid_relocate r uid out) fun _ =>
      .pure out
  obtain ⟨as, es, ⟨-, t, ht, hvoices⟩, hgives⟩ :=
    hcandid { b with about := some ⟨uid, r.settings.mailbox⟩ } rfl
  rw [process, Work.runFrom_about]
  exact ⟨as, es, ⟨rfl, t, ht, hvoices⟩, hgives⟩

/-- Processing candidates is, by induction on them. -/
theorem candid_processAll (r : Round σ κ) (uids : List String) (result : RoundResult) :
    Candid r (fun _ => True) (r.processAll uids result : Work σ κ η RoundResult) := by
  induction uids generalizing result with
  | nil => exact .pure result
  | cons uid uids ih => exact .bind (candid_process r uid) fun out => ih (result.count out)

/-! ### Connecting, listing and closing -/

/-- What attempts to connect are logged as, where the first has number `n`: up to now `es`, and the
last failure at the end of the round. -/
def ConnectNotices (r : Round σ κ) (outer : Option Subject) (n : Nat) (as : List Act)
    (es : List Entry) : Except Failure Unit → Prop
  | .ok _ => ∀ settled uid bs, r.notices outer settled n uid (as ++ bs) =
    es ++ r.notices outer settled (n + as.length) uid bs
  | .error f => ∀ uid, if f.isFault then
      r.notices outer true n uid as = es ++ [⟨.connectFailed (r.connectFailure f).text, outer⟩]
    else r.notices outer false n uid as = es

/-- A single attempt that succeeds. -/
theorem ConnectNotices.succeeded (r : Round σ κ) (outer : Option Subject) (n : Nat) :
    r.ConnectNotices outer n [.call .connect .done] [] (.ok ()) := by
  intro settled uid bs
  simp [notices, notice, Act.reading, Act.isListing]

/-- A single attempt that fails and is the last. -/
theorem ConnectNotices.failed (r : Round σ κ) (outer : Option Subject) (n : Nat) {f : Failure}
    (hf : f.isFault = true) :
    r.ConnectNotices outer n [.call .connect (.failed f)] [] (.error f) := by
  intro uid
  simp [hf, notices, notice, callNotice, Act.isListing]

/-- A single attempt that fails, after which the wait is cut off. -/
theorem ConnectNotices.cut (r : Round σ κ) (outer : Option Subject) (n : Nat) (f : Failure) :
    r.ConnectNotices outer n [.call .connect (.failed f)] [⟨.retrying "connect" n f.text, outer⟩]
      (.error Work.cutOff) := by
  intro uid
  have hcut : Work.cutOff.isFault = false := rfl
  simp [hcut, notices, notice, callNotice, Act.isListing]

/-- An attempt that fails, and others after it. -/
theorem ConnectNotices.again {r : Round σ κ} {outer : Option Subject} {n : Nat} {as : List Act}
    {es : List Entry} {o : Except Failure Unit} (f : Failure) (has : as ≠ [])
    (h : r.ConnectNotices outer (n + 1) as es o) :
    r.ConnectNotices outer n (.call .connect (.failed f) :: as)
      (⟨.retrying "connect" n f.text, outer⟩ :: es) o := by
  have hfirst (settled : Bool) (uid : String) {cs : List Act} (hcs : cs ≠ []) :
      r.notices outer settled n uid (.call .connect (.failed f) :: cs) =
        ⟨.retrying "connect" n f.text, outer⟩ :: r.notices outer settled (n + 1) uid cs := by
    simp [notices, notice, callNotice, Act.isListing, Act.reading, hcs]
  cases o with
  | ok u =>
    intro settled uid bs
    have hlength : n + (as.length + 1) = n + 1 + as.length := by omega
    rw [List.cons_append, hfirst settled uid (by simp [has]), h settled uid bs,
      List.length_cons, hlength]
    rfl
  | error g =>
    intro uid
    have hrest := h uid
    by_cases hg : g.isFault = true
    · rw [if_pos hg] at hrest ⊢
      rw [hfirst true uid has, hrest]
      rfl
    · rw [if_neg hg] at hrest ⊢
      rw [hfirst false uid has, hrest]

/-- Trying to connect again and again, by induction on how many attempts are left. -/
theorem tells_tryFrom (r : Round σ κ) (policy : Settings.Retry) (left n : Nat)
    (b : Bench σ κ η) :
    ∃ as es o b', runFrom (Backoff.tryFrom policy (·.isFault) "connect"
        (Work.call .connect (fun _ => .done) r.session.connect) left n) b = (o, b') ∧
      Tells b as es b' ∧ as ≠ [] ∧ (Uncut as → r.ConnectNotices b.about n as es o) := by
  induction left generalizing n b with
  | zero =>
    have hcall := tells_call .connect (fun _ => Session.Answer.done) r.session.connect b
    rcases hr : runFrom (Work.call .connect (fun _ => .done) r.session.connect) b with
      ⟨f | u, b₁⟩ <;> rw [hr] at hcall
    · exact ⟨_, _, _, _, hr, hcall, by simp, fun huncut => .failed r b.about n huncut.call⟩
    · exact ⟨_, _, _, _, hr, hcall, by simp, fun _ => .succeeded r b.about n⟩
  | succ left ih =>
    have hcall := tells_call .connect (fun _ => Session.Answer.done) r.session.connect b
    rw [Backoff.runFrom_tryFrom_succ]
    rcases hr : runFrom (Work.call .connect (fun _ => .done) r.session.connect) b with
      ⟨f | u, b₁⟩ <;> rw [hr] at hcall
    · cases hf : f.isFault with
      | false =>
        refine ⟨_, _, .error f, b₁, by simp [hf], hcall, by simp, fun huncut => ?_⟩
        rw [huncut.call] at hf
        cases hf
      | true =>
        simp only [hf, if_true]
        have hnoted : Tells b₁ [] [⟨.retrying "connect" n f.text, b₁.about⟩]
            (Backoff.noted policy "connect" n f b₁) := by
          refine ⟨rfl, _, rfl, ?_⟩
          exact (Voices.complaint rfl).append (.of_mute (t := [.backoff _]) (by simp [Step.isMute]))
        rw [hcall.about] at hnoted
        obtain ⟨b₂, hwait, hended⟩ := Waits.ends (Backoff.waitAfter policy n)
          (Backoff.noted policy "connect" n f b₁)
        have hfirst := hcall.complaining (hnoted.before_mute hwait.tells)
        rcases hended with hw | ⟨-, hw⟩
        · obtain ⟨as, es, o, b', hr', htells, has, hnotices⟩ := ih (n + 1) b₂
          rw [hfirst.about] at hnotices
          rw [runFrom_bind_ok hw]
          refine ⟨_, _, o, b', hr', hfirst.trans htells, by simp, fun huncut => ?_⟩
          exact .again f has (hnotices (uncut_append.mp huncut).2)
        · rw [runFrom_bind_error hw]
          exact ⟨_, _, _, _, rfl, hfirst, by simp, fun _ => .cut r b.about n f⟩
    · exact ⟨_, _, _, _, rfl, hcall, by simp, fun _ => .succeeded r b.about n⟩

/-- What connecting is logged as. A failure that is left is an ordinary one exactly if the round
logs it at its end. -/
def ConnectedNotices (r : Round σ κ) (outer : Option Subject) (as : List Act) (es : List Entry) :
    Except Failure Unit → Prop
  | .ok _ => ∀ settled uid bs, ∃ n, r.notices outer settled 1 uid (as ++ bs) =
    es ++ r.notices outer settled n uid bs
  | .error g => ∀ uid, if g.isFault then
      g.kind.isA .connect ∧ r.notices outer true 1 uid as = es ++ [⟨.connectFailed g.text, outer⟩]
    else r.notices outer false 1 uid as = es

/-- A failure of all attempts becomes a connect failure. -/
theorem tells_attempts (r : Round σ κ) {x : Work σ κ η Unit} {b b' : Bench σ κ η} {as : List Act}
    {es : List Entry} {o : Except Failure Unit} (hr : runFrom x b = (o, b'))
    (htells : Tells b as es b') (hnotices : Uncut as → r.ConnectNotices b.about 1 as es o) :
    ∃ o' b', runFrom (Work.handling x fun f =>
        if f.kind.isA .connect then throw f
        else throw (f.wrap .connect s!"connect to {r.session.title}: {f.text}")) b = (o', b') ∧
      Tells b as es b' ∧ (Uncut as → r.ConnectedNotices b.about as es o') := by
  rw [Work.runFrom_handling, hr]
  rcases o with f | u
  · cases hf : f.isFault with
    | false =>
      refine ⟨.error f, b', by simp [hf], htells, fun huncut uid => ?_⟩
      have h := hnotices huncut uid
      simpa [hf] using h
    | true =>
      refine ⟨.error (r.connectFailure f), b', ?_, htells, fun huncut uid => ?_⟩
      · simp only [hf, if_true, connectFailure]
        split <;> rfl
      · have h := hnotices huncut uid
        rw [hf, if_pos rfl] at h
        rw [isFault_connectFailure, if_pos rfl]
        exact ⟨connectFailure_kind r f, h⟩
  · exact ⟨.ok u, b', rfl, htells, fun huncut settled uid bs => ⟨_, hnotices huncut settled uid bs⟩⟩

theorem tells_connect (r : Round σ κ) (b : Bench σ κ η) :
    ∃ as es o b', runFrom (r.connect : Work σ κ η Unit) b = (o, b') ∧ Tells b as es b' ∧
      (Uncut as → r.ConnectedNotices b.about as es o) := by
  unfold connect
  cases r.retry with
  | some policy =>
    obtain ⟨as, es, o, b', hr, htells, -, hnotices⟩ := tells_tryFrom r policy _ 1 b
    exact ⟨as, es, tells_attempts r hr htells hnotices⟩
  | none =>
    obtain ⟨as, es, o, b', hr, htells, -, hnotices⟩ := tells_tryFrom r ⟨1, 0, 0, 0⟩ 0 1 b
    exact ⟨as, es, tells_attempts r hr htells hnotices⟩

/-- What is done on a connected session and what is to be logged of it: the notices, or a failure to
list, which is logged at the end of the round. -/
theorem tells_visit (r : Round σ κ) (b : Bench σ κ η) :
    ∃ as es o b', runFrom (do
        let uids ← r.list
        r.processAll uids { RoundResult.empty with candidates := uids.length } :
          Work σ κ η RoundResult) b = (o, b') ∧ Tells b as es b' ∧
      (Uncut as → ((∃ result, o = .ok result) ∧ r.Gives as es) ∨
        ∃ f, o = .error (r.listFailure f) ∧ as = [.call (listing r.settings) (.failed f)] ∧
          es = []) := by
  have heq : (r.list : Work σ κ η (List String)) =
      Work.handling (Work.call (listing r.settings) Session.Answer.listing
        (r.session.list r.settings.mailbox r.settings.pattern r.settings.includeSeen))
          fun f => throw (r.listFailure f) := rfl
  have hcall := tells_call (listing r.settings) Session.Answer.listing
    (r.session.list r.settings.mailbox r.settings.pattern r.settings.includeSeen) b
  rcases hr : runFrom (Work.call (listing r.settings) Session.Answer.listing
    (r.session.list r.settings.mailbox r.settings.pattern r.settings.includeSeen)) b with
      ⟨f | uids, b₁⟩ <;> rw [hr] at hcall
  · cases hf : f.isFault with
    | false =>
      have hlist : runFrom (r.list : Work σ κ η (List String)) b = (.error f, b₁) := by
        rw [heq, Work.runFrom_handling, hr]
        simp [hf]
      refine ⟨_, _, _, _, runFrom_bind_error hlist _, hcall, fun huncut => ?_⟩
      rw [huncut.call] at hf
      cases hf
    | true =>
      have hlist : runFrom (r.list : Work σ κ η (List String)) b =
          (.error (r.listFailure f), b₁) := by
        rw [heq, Work.runFrom_handling, hr]
        simp [hf]
      exact ⟨_, _, _, _, runFrom_bind_error hlist _, hcall, fun _ => .inr ⟨f, rfl, rfl, rfl⟩⟩
  · have hlist : runFrom (r.list : Work σ κ η (List String)) b = (.ok uids, b₁) := by
      rw [heq, Work.runFrom_handling, hr]
    obtain ⟨as, es, htells, hgives⟩ := candid_processAll r uids
      { RoundResult.empty with candidates := uids.length } b₁ trivial
    refine ⟨_, _, _, _, runFrom_bind_ok hlist _, hcall.trans htells, fun huncut => .inl ?_⟩
    obtain ⟨hresult, hgives⟩ := hgives (uncut_append.mp huncut).2
    exact ⟨hresult, (Gives.of_none fun _ _ _ _ => rfl).append hgives⟩

/-- A failed listing is logged after what follows it. -/
theorem notices_unlisted (r : Round σ κ) (outer : Option Subject) (settled : Bool) (n : Nat)
    (uid : String) (f : Failure) (bs : List Act) :
    r.notices outer settled n uid (.call (listing r.settings) (.failed f) :: bs) =
      r.notices outer settled (n + 1) uid bs ++
        [⟨.listFailed r.settings.pattern (r.listFailure f).text, outer⟩] := by
  simp [notices, notice, callNotice, listing, Act.isListing, Act.reading]

/-- Closing is an act, and its failure is logged at once. -/
theorem tells_close (r : Round σ κ) (b : Bench σ κ η) :
    ∃ a es o b', runFrom (r.close : Work σ κ η Unit) b = (o, b') ∧
      Tells b [.call (.close true) a] es b' ∧ (Uncut [.call (.close true) a] →
        o = .ok () ∧
          ∀ settled n uid, r.notices b.about settled n uid [.call (.close true) a] = es) := by
  obtain ⟨o, es, htells, hends⟩ := tells_absorbing (.close true) (r.session.close true)
    (fun f => (rfl : (Event.closeFailed f.text).isComplaint = true)) b
  refine ⟨_, es, _, _, rfl, htells, fun huncut => ?_⟩
  obtain ⟨hok, rfl⟩ := hends huncut
  refine ⟨hok, fun settled n uid => ?_⟩
  rcases o with f | u <;>
    simp [notices, notice, callNotice, Act.isListing, Failure.of?, Session.Answer.of]

/-- What a round is logged as before its end, and what is still to be logged then. -/
def RunNotices (r : Round σ κ) (outer : Option Subject) (as : List Act) (es : List Entry) :
    Except Failure RoundResult → Prop
  | .ok _ => r.notices outer true 1 "" as = es
  | .error f => if f.kind.isA .connect then
      r.notices outer true 1 "" as = es ++ [⟨.connectFailed f.text, outer⟩]
    else if f.kind.isA .list then
      r.notices outer true 1 "" as = es ++ [⟨.listFailed r.settings.pattern f.text, outer⟩]
    else r.notices outer false 1 "" as = es

theorem tells_connected (r : Round σ κ) (b : Bench σ κ η) :
    ∃ as es o b', runFrom (r.connected (do
        let uids ← r.list
        r.processAll uids { RoundResult.empty with candidates := uids.length }) :
          Work σ κ η RoundResult) b = (o, b') ∧ Tells b as es b' ∧
      (Uncut as → r.RunNotices b.about as es o) := by
  obtain ⟨as, es, o, b₁, hr₁, htells₁, hconnect⟩ := tells_connect r b
  rcases o with f | u
  · -- Connecting fails.
    refine ⟨as, es, .error f, b₁, runFrom_bind_error hr₁ _, htells₁, fun huncut => ?_⟩
    have hnotices := hconnect huncut ""
    cases hf : f.isFault with
    | true =>
      rw [hf, if_pos rfl] at hnotices
      rw [RunNotices, if_pos hnotices.1]
      exact hnotices.2
    | false =>
      have hkind {k : Kind} (hk : k.isA .general = true) : f.kind.isA k = false :=
        Bool.eq_false_iff.mpr fun h =>
          Bool.false_ne_true (hf.symm.trans (Failure.isFault_of_isA h hk))
      simpa [RunNotices, hf, hkind (k := .connect) rfl, hkind (k := .list) rfl] using hnotices
  · obtain ⟨bs, fs, o, b₂, hr₂, htells₂, hvisit⟩ := tells_visit r b₁
    obtain ⟨a, gs, o', b₃, hr₃, htells₃, hclose⟩ := tells_close r b₂
    have hsettled : runFrom (settle (do
        let uids ← r.list
        r.processAll uids { RoundResult.empty with candidates := uids.length } :
          Work σ κ η RoundResult)) b₁ = (.ok o, b₂) := by
      rw [runFrom_settle, hr₂]
    have htells := htells₁.trans (htells₂.trans htells₃)
    rw [htells₂.about, htells₁.about] at hclose
    rw [connected, runFrom_bind_ok hr₁, runFrom_bind_ok hsettled]
    rcases o' with f | v
    · rw [runFrom_bind_error hr₃]
      refine ⟨_, _, _, _, rfl, htells, fun huncut => ?_⟩
      obtain ⟨⟨⟩, -⟩ := hclose (uncut_append.mp (uncut_append.mp huncut).2).2
    · rw [runFrom_bind_ok hr₃, Work.runFrom_giveBack]
      refine ⟨_, _, o, b₃, rfl, htells, fun huncut => ?_⟩
      obtain ⟨hleft, hright⟩ := uncut_append.mp huncut
      obtain ⟨hmiddle, hlast⟩ := uncut_append.mp hright
      obtain ⟨-, hclose⟩ := hclose hlast
      obtain ⟨n, hnotices⟩ := hconnect hleft true "" (bs ++ [.call (.close true) a])
      rcases hvisit hmiddle with ⟨⟨result, rfl⟩, hgives⟩ | ⟨f, rfl, rfl, rfl⟩
      · obtain ⟨uid', hbs⟩ := hgives b.about true n "" [.call (.close true) a]
        rw [RunNotices, hnotices, hbs, hclose]
      · have hkind : (r.listFailure f).kind.isA .list := rfl
        rw [RunNotices, if_neg (Bool.eq_false_iff.mp (Kind.isA_connect_eq_false hkind)),
          if_pos hkind, hnotices, List.singleton_append, notices_unlisted, hclose,
          List.append_assoc]
        rfl

/-- The failure of a round is logged at its end. -/
theorem tells_failed {b b₁ : Bench σ κ η} {as : List Act} {es : List Entry} {e : Event}
    (h : Tells b as es b₁) (he : e.isComplaint = true) (f : Failure) :
    ∃ b', runFrom (do
        Work.log e
        pure (.failed f) : Work σ κ η RoundResult) b₁ = (.ok (.failed f), b') ∧
      Tells b as (es ++ [⟨e, b.about⟩]) b' := by
  have hlog := tells_log he b₁
  rw [h.about] at hlog
  have htells := h.trans hlog
  rw [List.append_nil] at htells
  exact ⟨_, rfl, htells⟩

/-- What a round logs is what its acts give rise to. -/
theorem tells_run (r : Round σ κ) (b : Bench σ κ η) :
    ∃ as es o b', runFrom (r.run : Work σ κ η RoundResult) b = (o, b') ∧ Tells b as es b' ∧
      (Uncut as → r.notices b.about o.isOk 1 "" as = es) := by
  obtain ⟨as, es, o, b₁, hr, htells, hnotices⟩ := tells_connected r b
  rw [run, Work.runFrom_handling, hr]
  rcases o with f | result
  · by_cases hc : f.kind.isA .connect
    · have hf : f.isFault = true := Failure.isFault_of_isA hc rfl
      obtain ⟨b', hr', htells'⟩ := tells_failed htells (e := .connectFailed f.text) rfl f
      simp only [hf, hc, if_true, hr']
      refine ⟨as, _, _, b', rfl, htells', fun huncut => ?_⟩
      have h := hnotices huncut
      rwa [RunNotices, if_pos hc] at h
    · by_cases hl : f.kind.isA .list
      · have hf : f.isFault = true := Failure.isFault_of_isA hl rfl
        obtain ⟨b', hr', htells'⟩ :=
          tells_failed htells (e := .listFailed r.settings.pattern f.text) rfl f
        simp only [hf, hc, hl, if_true, Bool.false_eq_true, if_false, hr']
        refine ⟨as, _, _, b', rfl, htells', fun huncut => ?_⟩
        have h := hnotices huncut
        rwa [RunNotices, if_neg hc, if_pos hl] at h
      · have hthrow : (if f.isFault then runFrom (throw f : Work σ κ η RoundResult) b₁
            else (.error f, b₁)) = (.error f, b₁) := by
          split <;> rfl
        simp only [hc, hl, Bool.false_eq_true, if_false, hthrow]
        refine ⟨as, es, _, b₁, rfl, htells, fun huncut => ?_⟩
        have h := hnotices huncut
        rwa [RunNotices, if_neg hc, if_neg hl] at h
  · exact ⟨as, es, _, b₁, rfl, htells, hnotices⟩

/-! ### One notice for each failure -/

/-- A notice is given for an act exactly if it raises a failure. -/
theorem notice_isSome (r : Round σ κ) (outer : Option Subject) (n : Nat) (retried : Bool)
    (uid : String) (a : Act) : (r.notice outer n retried uid a).isSome = a.raises := by
  cases a with
  | call c a => cases a <;> rfl
  | finish problem => cases problem <;> rfl
  | deliver uid digest failure => cases failure <;> rfl

/-- There are as many notices as failures, by induction on the acts. -/
theorem length_notices (r : Round σ κ) (outer : Option Subject) (settled : Bool) (n : Nat)
    (uid : String) (as : List Act) :
    (r.notices outer settled n uid as).length = as.countP Act.raises := by
  induction as generalizing n uid with
  | nil => rfl
  | cons a as ih =>
    have hown := r.notice_isSome outer n (!(settled && as.isEmpty)) (a.reading uid) a
    rw [List.countP_cons, ← ih (n + 1) (a.reading uid), ← hown, notices]
    cases r.notice outer n (!(settled && as.isEmpty)) (a.reading uid) a <;> split <;> simp

/-- **No failure is silent, and none is reported twice**: in a round of which no call and no
delivery is cancelled, the warnings and errors are the notices of its acts, one for each act that
raises a failure, with the text of that failure. Each shows the candidate that it is about, if it is
about one. -/
theorem run_complains (r : Round σ κ) (b : Bench σ κ η) {t : List Step}
    (ht : (runFrom (r.run : Work σ κ η RoundResult) b).2.steps = b.steps ++ t) (hcalm : Calm t) :
    ∃ as, talk t = as.flatMap Act.steps ∧
      Protocol r b.fragile as (runFrom (r.run : Work σ κ η RoundResult) b).1 ∧
      complaints false t =
        r.notices b.about (runFrom (r.run : Work σ κ η RoundResult) b).1.isOk 1 "" as ∧
      (complaints false t).length = as.countP Act.raises ∧
      ∀ e ∈ complaints false t,
        Json.member? e.fields "uid" = e.about.map (fun s => .text s.uid) ∧
          Json.member? e.fields "mailbox" = e.about.map (fun s => .text s.mailbox) := by
  obtain ⟨as, u, hu, hpath, hp⟩ := r.run_path b
  obtain ⟨bs, es, o, b', hr, ⟨-, v, hv, hvoices⟩, hnotices⟩ := tells_run r b
  rw [hr] at ht hu hp ⊢
  obtain rfl : t = u := List.append_cancel_left (ht.symm.trans hu)
  obtain rfl : t = v := List.append_cancel_left (ht.symm.trans hv)
  obtain rfl : bs = as :=
    Act.eq_of_flatMap_steps (hvoices.talk.symm.trans hpath.talk_eq)
  have hall : complaints false t = es := by
    have h := hvoices.complaints []
    rwa [List.append_nil, complaints, List.append_nil] at h
  have hes := hnotices fun a ha f hf => hcalm.isFault hvoices.talk ha hf
  refine ⟨bs, hvoices.talk, hp, hall.trans hes.symm, ?_, fun e he => ?_⟩
  · rw [hall, ← hes, length_notices]
  · exact Entry.member_of_complaint (isComplaint_of_mem_complaints he)

/-- A round that connects in its second attempt. It cannot read its first candidate; the callback
rejects the second one, which cannot be moved then; closing fails. -/
theorem run_complains_five :
    let late : Failure := .plain .timeout "late"
    let gone : Failure := .plain .session "gone"
    let connect : Session.Op Nat Unit := do
      let n ← Session.Op.look
      Session.Op.change (· + 1)
      if n = 0 then throw late
    let s : Session Nat := ⟨"mail", connect, fun _ => throw gone, fun _ _ _ => pure ["7", "8"],
      fun uid x => .done (if uid = "7" then .error late else .ok 0) x, fun _ _ => pure (),
      fun _ _ => throw gone⟩
    let r : Round Nat Unit := ⟨s, fun _ _ => .done (.error (.plain .key "'x'")),
      ⟨"INBOX", "", "", "Failed", 1, 10, 0, .sha256⟩, none, some ⟨2, 0, 0, 0⟩, .usual⟩
    let all : List Entry := [⟨.retrying "connect" 1 "late", none⟩,
      ⟨.readFailed "late", some ⟨"7", "INBOX"⟩⟩,
      ⟨.rejected "'x'" "KeyError", some ⟨"8", "INBOX"⟩⟩,
      ⟨.moveFailed "Failed" "gone", some ⟨"8", "INBOX"⟩⟩, ⟨.closeFailed "gone", none⟩]
    complaints false
        (runFrom (r.run : Work Nat Unit Unit RoundResult) (Bench.start 0 () ())).2.steps = all ∧
      ∃ as, r.notices none true 1 "" as = all ∧ as.countP Act.raises = 5 := by
  intro late gone connect s r all
  have hcalm : Calm (runFrom (r.run : Work Nat Unit Unit RoundResult)
    (Bench.start 0 () ())).2.steps := by decide +kernel
  have hok : (runFrom (r.run : Work Nat Unit Unit RoundResult)
    (Bench.start 0 () ())).1.isOk = true := by decide +kernel
  have hall : complaints false (runFrom (r.run : Work Nat Unit Unit RoundResult)
    (Bench.start 0 () ())).2.steps = all := by decide +kernel
  obtain ⟨as, -, -, hnotices, hlength, -⟩ :=
    r.run_complains (Bench.start 0 () () : Bench _ _ Unit) (List.nil_append _).symm hcalm
  rw [hall, hok] at hnotices
  rw [hall] at hlength
  exact ⟨hall, as, hnotices.symm, hlength.symm⟩

end Round

end Mailroom
