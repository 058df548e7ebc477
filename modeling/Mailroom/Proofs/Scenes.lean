import Mailroom.Proofs.Protocol

/-!
# Scenes

What an observer of the session and the callback sees of a round is a row of scenes (`Scene`): a
call with its answer, and a delivery with what the callback sees of the body. `Shows t vs` says that
a record shows exactly these scenes; there are no others that it shows (`Shows.unique`).

Staging a candidate is a scene or two. `Filled.offer` is what a reading leaves to hand on: a
finished message, or the failure of reading or finishing. Without a message the candidate is
unreadable (`Round.runFrom_stageAndDeliver_unread`); a message goes to the callback as it is
(`Round.runFrom_stageAndDeliver_offered`).
-/

namespace Mailroom

variable {σ κ η α : Type}

/-- Something an observer of the session and the callback sees. -/
inductive Scene where
  /-- A call on the session, and the answer. -/
  | call (c : Session.Call) (a : Session.Answer)
  /-- The callback gets a candidate, sees something of its body, and returns or fails. -/
  | delivery (uid : String) (digest : Bytes) (seen : List Spool.Answer) (failure : Option Failure)

/-- The steps that a scene is recorded as. -/
def Scene.steps : Scene → List Step
  | call c a => [.call c, .answer a]
  | delivery uid digest seen failure =>
    .deliver uid digest :: (seen.map .observe ++ [.verdict uid failure])

/-- The candidate that a scene is about. -/
def Scene.uid? : Scene → Option String
  | call c _ => c.uid?
  | delivery uid .. => some uid

/-- The record shows exactly these scenes. -/
def Shows (t : List Step) (vs : List Scene) : Prop := scenes t = vs.flatMap Scene.steps

namespace Shows

variable {t u : List Step} {vs ws : List Scene}

theorem append (h : Shows t vs) (k : Shows u ws) : Shows (t ++ u) (vs ++ ws) := by
  rw [Shows, scenes_append, List.flatMap_append, h, k]

theorem of_hidden (h : ∀ s ∈ t, s.isScene = false) : Shows t [] := scenes_eq_nil h

theorem append_hidden (h : Shows t vs) (hu : ∀ s ∈ u, s.isScene = false) : Shows (t ++ u) vs := by
  have hall := h.append (of_hidden hu)
  rwa [List.append_nil] at hall

theorem cons {s : Step} (hs : s.isScene = false) (h : Shows t vs) : Shows (s :: t) vs :=
  append (of_hidden (t := [s]) (by simpa using hs)) h

/-- A call, with steps that do not show between it and the answer. -/
theorem call (c : Session.Call) (a : Session.Answer) (ht : ∀ s ∈ t, s.isScene = false) :
    Shows (.call c :: (t ++ [.answer a])) [.call c a] := by
  rw [Shows, scenes_cons, scenes_append, scenes_eq_nil ht]
  rfl

/-- A delivery, with the callback's share of it between it and the verdict. -/
theorem delivery (uid : String) (digest : Bytes) {seen : List Spool.Answer}
    (failure : Option Failure) (ht : scenes t = seen.map .observe) :
    Shows (.deliver uid digest :: (t ++ [.verdict uid failure]))
      [.delivery uid digest seen failure] := by
  rw [Shows, scenes_cons, scenes_append, ht]
  show _ = _ ++ []
  rw [List.append_nil]
  rfl

end Shows

/-- Where a row of sights ends, by induction on the sights. -/
theorem Scene.sights_inj {seen seen' : List Spool.Answer} {uid uid' : String}
    {failure failure' : Option Failure} {t u : List Step}
    (h : seen.map Step.observe ++ .verdict uid failure :: t =
      seen'.map Step.observe ++ .verdict uid' failure' :: u) :
    seen = seen' ∧ failure = failure' ∧ t = u := by
  induction seen generalizing seen' with
  | nil =>
    cases seen' with
    | nil =>
      cases h
      exact ⟨rfl, rfl, rfl⟩
    | cons => cases h
  | cons x seen ih =>
    cases seen' with
    | nil => cases h
    | cons y seen' =>
      simp only [List.map_cons, List.cons_append, List.cons.injEq, Step.observe.injEq] at h
      obtain ⟨rfl, hrest⟩ := h
      obtain ⟨rfl, htail⟩ := ih hrest
      exact ⟨rfl, htail⟩

/-- A record shows one row of scenes only, by induction on the row. -/
theorem Shows.unique {t : List Step} {vs ws : List Scene} (h : Shows t vs) (k : Shows t ws) :
    vs = ws := by
  have hsteps : vs.flatMap Scene.steps = ws.flatMap Scene.steps := h.symm.trans k
  clear h k
  induction vs generalizing ws with
  | nil =>
    cases ws with
    | nil => rfl
    | cons w ws => cases w <;> cases hsteps
  | cons v vs ih =>
    cases ws with
    | nil => cases v <;> cases hsteps
    | cons w ws =>
      cases v with
      | call c a =>
        cases w with
        | call c' a' =>
          simp only [List.flatMap_cons, Scene.steps, List.cons_append, List.nil_append,
            List.cons.injEq, Step.call.injEq, Step.answer.injEq] at hsteps
          obtain ⟨rfl, rfl, hrest⟩ := hsteps
          rw [ih hrest]
        | delivery => cases hsteps
      | delivery uid digest seen failure =>
        cases w with
        | call => cases hsteps
        | delivery uid' digest' seen' failure' =>
          simp only [List.flatMap_cons, Scene.steps, List.cons_append, List.append_assoc,
            List.nil_append, List.cons.injEq, Step.deliver.injEq] at hsteps
          obtain ⟨⟨rfl, rfl⟩, hrest⟩ := hsteps
          obtain ⟨rfl, rfl, htail⟩ := Scene.sights_inj hrest
          rw [ih htail]

/-! ### What is played -/

/-- Whether a scene is a delivery. -/
def Scene.isDelivery : Scene → Bool
  | .delivery .. => true
  | .call .. => false

/-- The callback gets bodies one after the other, each from its start and with its digest by `hash`.
It starts with the first `κ` and keeps the second one in the end. -/
inductive Handed (callback : Callback κ) (hash : Bytes → Bytes) (fragile : Bool) :
    κ → List (String × Bytes) → List Scene → κ → Prop where
  /-- There is no body left. -/
  | nil (k : κ) : Handed callback hash fragile k [] [] k
  /-- A body, and then the others. -/
  | cons {uid : String} {raw : Bytes} {body : Spool} {seen : List Spool.Answer}
    {o : Except Failure Unit} {k k' k'' : κ} {bodies : List (String × Bytes)} {vs : List Scene}
    (hbody : body.Presents raw)
    (hgo : (callback uid (hash raw) k).Goes fragile body seen o k')
    (h : Handed callback hash fragile k' bodies vs k'') :
    Handed callback hash fragile k ((uid, raw) :: bodies)
      (.delivery uid (hash raw) seen (Failure.of? (Failure.awaited o)) :: vs) k''

theorem Handed.append {callback : Callback κ} {hash : Bytes → Bytes} {fragile : Bool}
    {k k' k'' : κ} {bodies bodies' : List (String × Bytes)} {vs vs' : List Scene}
    (h : Handed callback hash fragile k bodies vs k')
    (h' : Handed callback hash fragile k' bodies' vs' k'') :
    Handed callback hash fragile k (bodies ++ bodies') (vs ++ vs') k'' := by
  induction h with
  | nil => exact h'
  | cons hbody hgo _ ih => exact .cons hbody hgo (ih h')

/-- A run goes from one bench to another: its record shows these scenes, and the callback gets these
bodies. -/
structure Round.Plays (r : Round σ κ) (b : Bench σ κ η) (vs : List Scene)
    (bodies : List (String × Bytes)) (b' : Bench σ κ η) : Prop where
  /-- Waits are cancelled from outside as before. -/
  fragile : b'.fragile = b.fragile
  /-- The scenes. -/
  shows : ∃ t, b'.steps = b.steps ++ t ∧ Shows t vs
  /-- The bodies. -/
  handed : Handed r.callback r.stageInUse.algorithm.hash b.fragile b.receiver bodies
    (vs.filter Scene.isDelivery) b'.receiver

namespace Round.Plays

variable {r : Round σ κ} {b b' b₁ b₂ b₃ : Bench σ κ η} {vs ws : List Scene}
  {bodies bodies' : List (String × Bytes)}

theorem refl (r : Round σ κ) (b : Bench σ κ η) : r.Plays b [] [] b :=
  ⟨rfl, ⟨[], (List.append_nil _).symm, rfl⟩, .nil _⟩

theorem trans (h : r.Plays b₁ vs bodies b₂) (k : r.Plays b₂ ws bodies' b₃) :
    r.Plays b₁ (vs ++ ws) (bodies ++ bodies') b₃ := by
  obtain ⟨t, ht, hshows⟩ := h.shows
  obtain ⟨u, hu, kshows⟩ := k.shows
  have hhanded := k.handed
  rw [h.fragile] at hhanded
  refine ⟨k.fragile.trans h.fragile, ⟨t ++ u, ?_, hshows.append kshows⟩, ?_⟩
  · rw [hu, ht, List.append_assoc]
  · rw [List.filter_append]
    exact h.handed.append hhanded

/-- Where the callback has no share, nothing is handed on. -/
theorem of_shows {t : List Step} (hf : b'.fragile = b.fragile) (hr : b'.receiver = b.receiver)
    (ht : b'.steps = b.steps ++ t) (h : Shows t vs) (hvs : ∀ v ∈ vs, v.isDelivery = false) :
    r.Plays b vs [] b' := by
  have hnone : vs.filter Scene.isDelivery = [] := by simpa using hvs
  refine ⟨hf, ⟨t, ht, h⟩, ?_⟩
  rw [hnone, hr]
  exact .nil _

theorem of_idles (h : Idles b b') : r.Plays b [] [] b' := by
  obtain ⟨t, ht, hidle⟩ := h.steps
  exact of_shows h.fragile h.receiver ht
    (.of_hidden fun s hs => Step.isScene_of_isIdle (hidle s hs)) (by simp)

end Round.Plays

/-! ### Calls -/

theorem Work.isScene_ofRemark (subject : Option Subject) (r : Remark) :
    (ofRemark subject r).isScene = false := by
  cases r <;> rfl

/-- A call is a scene; it concerns the session only, and has the exchanges of its operation. -/
theorem Work.runFrom_call_shows {s : Session σ} {c : Session.Call} {shown : α → Session.Answer}
    {op : Session.Op σ α}
    (h : ∀ x a xs y, op.Carries shown x a xs y → s.Does c x a xs y) (b : Bench σ κ η) :
    ∃ o t y, runFrom (call c shown op) b =
        (o, { b with session := y, steps := b.steps ++ t }) ∧
      Shows t [.call c (.of shown o)] ∧ s.Does c b.session (.of shown o) (wires t) y := by
  rw [runFrom_call]
  rcases hr : runFrom op ⟨b.session, []⟩ with ⟨o, y, rs⟩
  have hw : wires (rs.map (ofRemark b.about)) = rs.filterMap Remark.exchange? := by
    rw [wires, List.filterMap_map]
    congr 1
    funext r
    cases r <;> rfl
  refine ⟨o, .call c :: (rs.map (ofRemark b.about) ++ [.answer (.of shown o)]), y, by simp,
    .call c _ ?_, ?_⟩
  · simp only [List.mem_map, forall_exists_index, and_imp, forall_apply_eq_imp_iff₂]
    exact fun r _ => isScene_ofRemark b.about r
  · rw [wires_cons, wires_append, hw]
    show s.Does c b.session _ ([] ++ (_ ++ [])) y
    rw [List.nil_append, List.append_nil]
    exact h _ _ _ _ ⟨o, rs, hr, rfl, rfl⟩

/-! ### Staging a candidate -/

theorem Step.isScene_of_isReading {s : Step} (h : s.isReading = true) : s.isScene = false := by
  cases s <;> first | rfl | cases h

theorem Staged.isScene_farewell {m : Staged} {subject : Option Subject} {s : Step}
    (h : s ∈ m.farewell subject) : s.isScene = false := by
  unfold farewell at h
  split at h
  · cases h
  · obtain rfl | rfl : s = .spool m.uid false ∨ s = .log ⟨.released m.uid m.size, subject⟩ := by
      simpa using h
    · rfl
    · rfl

theorem Staged.unreleased_of_readable {m : Staged} (h : m.readable = .ok ()) :
    m.released = false := by
  unfold readable at h
  cases hr : m.released
  · rfl
  · rw [hr] at h
    cases h

namespace Filled

/-- What a reading leaves to hand on: its own count of the bytes and the finished message, unless
reading or finishing failed. -/
def offer (f : Filled σ) : Except Failure (Int × Staged) :=
  match f.outcome with
  | .error e => .error e
  | .ok n => match f.message.finish with
    | (.ok (), m) => .ok (n, m)
    | (.error e, _) => .error e.failure

/-- The message as the reading and the attempt to finish it leave it. -/
def rest (f : Filled σ) : Staged :=
  match f.outcome with
  | .error _ => f.message
  | .ok _ => f.message.finish.2

/-- What is handed on is the message that is left. -/
theorem rest_of_offer {f : Filled σ} {p : Int × Staged} (h : f.offer = .ok p) : f.rest = p.2 := by
  unfold offer at h
  unfold rest
  rcases ho : f.outcome with e | n <;> rw [ho] at h
  · cases h
  · rcases hm : f.message.finish with ⟨e | u, m⟩ <;> rw [hm] at h <;> cases h
    rfl

/-- The record of reading a candidate and finishing the message. -/
def reading (f : Filled σ) (uid : String) : List Step :=
  .call (.readBody uid) :: (f.record ++ [.answer (.of .count f.outcome)]) ++
    match f.outcome, f.message.finish.1 with
    | .error _, _ => []
    | .ok _, .ok () => [.finish none]
    | .ok _, .error e => [.finish (some e)]

/-- What is handed on was read and finished. -/
theorem of_offer {f : Filled σ} {n : Int} {m : Staged} (h : f.offer = .ok (n, m)) (uid : String) :
    f.outcome = .ok n ∧ f.message.finish = (.ok (), m) ∧
      f.reading uid =
        .call (.readBody uid) :: (f.record ++ [.answer (.count n), .finish none]) := by
  unfold offer at h
  unfold reading
  rcases ho : f.outcome with e | n' <;> rw [ho] at h
  · cases h
  · rcases hm : f.message.finish with ⟨e | u, m'⟩ <;> rw [hm] at h <;> cases h
    refine ⟨rfl, rfl, ?_⟩
    simp [Session.Answer.of]

/-- Reading shows as a call; its exchanges are those of the reading. -/
theorem shows_reading {f : Filled σ} (hf : ∀ s ∈ f.record, s.isReading = true) (uid : String) :
    Shows (f.reading uid) [.call (.readBody uid) (.of .count f.outcome)] ∧
      wires (f.reading uid) = wires f.record := by
  have hcall := Shows.call (.readBody uid) (.of .count f.outcome) fun s hs =>
    Step.isScene_of_isReading (hf s hs)
  have hwires : wires (.call (.readBody uid) :: (f.record ++ [.answer (.of .count f.outcome)])) =
      wires f.record := by
    rw [wires_cons, wires_append]
    exact List.append_nil _
  unfold reading
  constructor
  · refine hcall.append_hidden ?_
    split <;> simp [Step.isScene]
  · rw [wires_append, hwires]
    split <;> exact List.append_nil _

end Filled

namespace Round

/-- What the reading of a candidate leaves behind, from a state of the session. -/
def filled (r : Round σ κ) (uid : String) (subject : Option Subject) (x : σ) : Filled σ :=
  (r.session.readBody uid x).fill subject (r.stageInUse.openFor r.disk uid)

variable (r : Round σ κ) (uid : String) (b : Bench σ κ η) {f : Filled σ}

variable {r uid b} in
theorem isReading_of_mem_filled (hf : r.filled uid b.about b.session = f) :
    ∀ s ∈ f.record, s.isReading = true := by
  subst hf
  exact fun s hs => Streaming.isReading_of_mem_fill hs

variable {r uid} in
/-- What is offered of a candidate: the bytes that its reading left, from their start, their digest
and their number. -/
theorem offered_of_filled {subject : Option Subject} {x : σ} (hf : r.filled uid subject x = f)
    {n : Int} {m : Staged} (ho : f.offer = .ok (n, m)) :
    m.digest = .ok (r.stageInUse.algorithm.hash f.message.spool.content) ∧
      (∃ body, m.body = .ok body ∧ body.Presents f.message.spool.content) ∧
      m.size = f.message.spool.content.size := by
  have hsound : f.message.Sound r.stageInUse.algorithm := by
    rw [← hf]
    exact Streaming.sound_fill subject _ (Staged.sound_openFor _ _ uid)
  obtain ⟨-, hfinish, -⟩ := Filled.of_offer ho uid
  obtain ⟨hdigest, hbody, -, hsize⟩ := hsound.offered hfinish
  exact ⟨hdigest, hbody, hsize⟩

/-- Reading into a message and finishing it comes to what is offered, and leaves the rest. -/
theorem runFrom_readInto_eq {m : Staged}
    (hf : (r.session.readBody uid b.session).fill b.about m = f) :
    runFrom (r.readInto uid m) b = (.ok (f.offer.map (·.1), f.rest),
      { b with session := f.state, steps := b.steps ++ f.reading uid }) := by
  have hread := Work.runFrom_read (κ := κ) (η := η) r.session uid m b hf
  unfold readInto Filled.offer Filled.rest Filled.reading
  rw [runFrom_bind_ok hread]
  rcases f.outcome with e | n
  · simp [Except.map]
  · dsimp only
    rcases f.message.finish with ⟨e | u, m'⟩
    · dsimp only
      rw [runFrom_bind_ok (Work.runFrom_record _ _)]
      simp [Except.map]
    · dsimp only
      rw [runFrom_bind_ok (Work.runFrom_record _ _)]
      simp [Except.map]

/-- Reading into a message and finishing it comes to what is offered. -/
theorem runFrom_readInto {m : Staged} (hf : (r.session.readBody uid b.session).fill b.about m = f) :
    ∃ m', runFrom (r.readInto uid m) b = (.ok (f.offer.map (·.1), m'),
        { b with session := f.state, steps := b.steps ++ f.reading uid }) ∧
      ∀ p, f.offer = .ok p → m' = p.2 :=
  ⟨f.rest, runFrom_readInto_eq r uid b hf, fun _ => Filled.rest_of_offer⟩

theorem runFrom_showSpool_openFor (s : Stage) (disk : Disk) :
    runFrom (Work.showSpool (s.openFor disk uid)) b =
      (.ok (), { b with steps := b.steps ++ [.spool uid true] }) := rfl

/-- What a candidate ends in that cannot be handed on. -/
def unreadOutcome (f : Failure) : Except Failure Outcome :=
  if f.isFault then .ok .unreadable else .error f

/-- A candidate that cannot be handed on is a call that reads it, and nothing more. -/
theorem runFrom_stageAndDeliver_unread (hf : r.filled uid b.about b.session = f) {e : Failure}
    (ho : f.offer = .error e) :
    ∃ t, runFrom (r.stageAndDeliver uid) b =
        (unreadOutcome e, { b with session := f.state, steps := b.steps ++ t }) ∧
      Shows t [.call (.readBody uid) (.of .count f.outcome)] ∧ wires t = wires f.record := by
  obtain ⟨hshows, hwires⟩ := Filled.shows_reading (isReading_of_mem_filled hf) uid
  obtain ⟨m, hread, -⟩ := runFrom_readInto r uid
    { b with steps := b.steps ++ [.spool uid true] } hf
  rw [ho] at hread
  have hgone {u : List Step} (hu : ∀ s ∈ u, s.isScene = false) (hw : wires u = []) :
      Shows ([.spool uid true] ++ f.reading uid ++ (u ++ m.farewell b.about))
          [.call (.readBody uid) (.of .count f.outcome)] ∧
        wires ([.spool uid true] ++ f.reading uid ++ (u ++ m.farewell b.about)) =
          wires f.record := by
    constructor
    · refine (hshows.cons rfl).append_hidden ?_
      exact List.forall_mem_append.mpr ⟨hu, fun s hs => Staged.isScene_farewell hs⟩
    · rw [wires_append, wires_append, wires_append, hw, wires_farewell, hwires]
      simp [wires, Step.wire?]
  unfold stageAndDeliver unreadOutcome
  rw [runFrom_bind_ok (runFrom_showSpool_openFor uid b _ _), runFrom_bind_ok hread]
  dsimp only [Except.map]
  split
  · refine ⟨_, ?_, hgone (u := [.log ⟨.readFailed e.text, b.about⟩]) (by simp [Step.isScene]) rfl⟩
    rw [Work.log, runFrom_bind_ok (runFrom_modify _ _), runFrom_bind_ok (Work.runFrom_release _ _)]
    simp
  · refine ⟨_, ?_, hgone (u := []) (by simp) rfl⟩
    rw [runFrom_bind_ok (Work.runFrom_release _ _)]
    simp

/-- Delivering is handling the body, between what is recorded before and the verdict. -/
theorem runFrom_deliver_of_handle (n : Int) {m : Staged} {digest : Bytes} {body body' : Spool}
    (hd : m.digest = .ok digest) (hb : m.body = .ok body) {o : Except Failure Unit}
    {b' : Bench σ κ η} (h : runFrom (Work.handle (r.callback uid digest b.receiver) body) { b with
      steps := b.steps ++ [.log ⟨.staged n digest.hex, b.about⟩] ++ [.deliver uid digest] } =
        (.ok (o, body'), b')) :
    runFrom (r.deliver uid n m) b = (.ok (Failure.awaited o, { m with spool := body' }),
      { b' with steps := b'.steps ++ [.verdict uid (Failure.of? (Failure.awaited o))] }) := by
  unfold deliver
  rw [hd, hb]
  dsimp only
  rw [Work.log, runFrom_bind_ok (runFrom_modify _ _), runFrom_bind_ok (Work.runFrom_record _ _),
    runFrom_bind_ok (runFrom_get _), runFrom_bind_ok h,
    runFrom_bind_ok (Work.runFrom_record _ _), runFrom_pure]

/-- A message that can be read goes to the callback as it is. -/
theorem runFrom_deliver (n : Int) {m : Staged} {digest : Bytes} {body : Spool}
    (hd : m.digest = .ok digest) (hb : m.body = .ok body) :
    ∃ o body' b' t seen,
      runFrom (r.deliver uid n m) b = (.ok (Failure.awaited o, { m with spool := body' }), b') ∧
      b'.fragile = b.fragile ∧ b'.session = b.session ∧
      b'.steps = b.steps ++ .log ⟨.staged n digest.hex, b.about⟩ :: .deliver uid digest :: t ∧
      Shows (.log ⟨.staged n digest.hex, b.about⟩ :: .deliver uid digest :: t)
        [.delivery uid digest seen (Failure.of? (Failure.awaited o))] ∧
      wires t = [] ∧ (r.callback uid digest b.receiver).Goes b.fragile body seen o b'.receiver := by
  obtain ⟨o, body', b₁, t, seen, hr, hat, hgo⟩ := Work.runFrom_handle (σ := σ) (η := η)
    (r.callback uid digest b.receiver) body
    { b with steps := b.steps ++ [.log ⟨.staged n digest.hex, b.about⟩] ++ [.deliver uid digest] }
  let verdict : Step := .verdict uid (Failure.of? (Failure.awaited o))
  refine ⟨o, body', { b₁ with steps := b₁.steps ++ [verdict] }, t ++ [verdict], seen,
    runFrom_deliver_of_handle r uid b n hd hb hr, hat.fragile, hat.session, ?_, ?_, ?_, hgo⟩
  · simp [hat.steps]
  · exact .cons rfl (.delivery uid digest (Failure.of? (Failure.awaited o)) hat.scenes)
  · rw [wires_append, wires_eq_nil_of_aside fun s hs => Step.isAside_of_isNote (hat.notes s hs)]
    rfl

/-- What is left to do after a delivery: a log entry if the callback failed, and the release. -/
def dismissal (m : Staged) : Except Failure Unit → Work σ κ η Outcome
  | .ok () => do
    Work.release m
    pure .delivered
  | .error f =>
    if f.isFault then do
      Work.log (.rejected f.text f.kind.name)
      Work.release m
      pure .rejected
    else do
      Work.release m
      throw f

theorem runFrom_dismissal (o : Except Failure Unit) (m : Staged) (b : Bench σ κ η) :
    ∃ u, runFrom (dismissal m o) b =
          (verdictOutcome o, { b with steps := b.steps ++ (u ++ m.farewell b.about) }) ∧
      ∀ s ∈ u, s.isIdle = true := by
  unfold verdictOutcome dismissal
  rcases o with e | v
  · dsimp only
    split
    · refine ⟨[.log ⟨.rejected e.text e.kind.name, b.about⟩], ?_, by simp [Step.isIdle]⟩
      rw [Work.log, runFrom_bind_ok (runFrom_modify _ _),
        runFrom_bind_ok (Work.runFrom_release _ _), runFrom_pure, List.append_assoc]
    · refine ⟨[], ?_, by simp⟩
      rw [runFrom_bind_ok (Work.runFrom_release _ _), runFrom_throw, List.nil_append]
  · refine ⟨[], ?_, by simp⟩
    dsimp only
    rw [runFrom_bind_ok (Work.runFrom_release _ _), runFrom_pure, List.nil_append]

/-- The record shows that a message is handed on: it was read and finished, its digest is logged,
the callback gets it, and afterwards it is released. -/
def HandedOn (uid : String) (n : Int) (digest : Bytes) (size : Nat) (t : List Step) : Prop :=
  ∃ pre mid post about about', t = pre ++ [.answer (.count n), .finish none,
    .log ⟨.staged n digest.hex, about⟩, .deliver uid digest] ++ mid ++
    [.spool uid false, .log ⟨.released uid size, about'⟩] ++ post

/-- A candidate that is handed on is read and delivered. -/
theorem runFrom_stageAndDeliver_offered (hf : r.filled uid b.about b.session = f) {n : Int}
    {m : Staged} (ho : f.offer = .ok (n, m)) {digest : Bytes} {body : Spool}
    (hd : m.digest = .ok digest) (hb : m.body = .ok body) :
    ∃ o b' t seen, runFrom (r.stageAndDeliver uid) b = (verdictOutcome (Failure.awaited o), b') ∧
      b'.fragile = b.fragile ∧ b'.session = f.state ∧ b'.steps = b.steps ++ t ∧
      Shows t [.call (.readBody uid) (.count n),
        .delivery uid digest seen (Failure.of? (Failure.awaited o))] ∧
      wires t = wires f.record ∧ HandedOn uid n digest m.size t ∧
      (r.callback uid digest b.receiver).Goes b.fragile body seen o b'.receiver := by
  obtain ⟨houtcome, hfinish, hreading⟩ := Filled.of_offer ho uid
  have huid : m.uid = uid := by
    have hfinished := f.message.uid_finish
    rw [hfinish] at hfinished
    rw [hfinished, ← hf]
    exact Streaming.uid_fill _ _ _
  obtain ⟨hshows, hwires⟩ := Filled.shows_reading (isReading_of_mem_filled hf) uid
  have hshows : Shows (f.reading uid) [.call (.readBody uid) (.count n)] := by
    rw [houtcome] at hshows
    exact hshows
  obtain ⟨m', hread, hm⟩ := runFrom_readInto r uid
    { b with steps := b.steps ++ [.spool uid true] } hf
  have hm : m' = m := hm _ ho
  subst m'
  rw [ho] at hread
  obtain ⟨o, body', b₁, t, seen, hdeliver, hfragile, hsession, hsteps, hdelivery, hquiet, hgo⟩ :=
    runFrom_deliver r uid
      { b with session := f.state, steps := b.steps ++ [.spool uid true] ++ f.reading uid } n hd hb
  obtain ⟨u, hend, hidle⟩ := runFrom_dismissal (Failure.awaited o) { m with spool := body' } b₁
  have hfarewell : ({ m with spool := body' } : Staged).farewell b₁.about =
      [.spool uid false, .log ⟨.released uid m.size, b₁.about⟩] := by
    have hopen := Staged.unreleased_of_readable (Staged.readable_of_finish hfinish)
    simp [Staged.farewell, hopen, huid]
  rw [hfarewell] at hend
  refine ⟨o, { b₁ with steps := b₁.steps ++
    (u ++ [.spool uid false, .log ⟨.released uid m.size, b₁.about⟩]) },
    .spool uid true :: f.reading uid ++
    .log ⟨.staged n digest.hex, b.about⟩ :: .deliver uid digest :: t ++
    (u ++ [.spool uid false, .log ⟨.released uid m.size, b₁.about⟩]), seen, ?_, hfragile, hsession,
    ?_, ?_, ?_, ?_, hgo⟩
  · unfold stageAndDeliver
    rw [runFrom_bind_ok (runFrom_showSpool_openFor uid b _ _), runFrom_bind_ok hread]
    dsimp only [Except.map]
    rw [runFrom_bind_ok hdeliver]
    exact hend
  · dsimp only
    rw [hsteps]
    simp
  · refine ((hshows.cons rfl).append hdelivery).append_hidden ?_
    refine List.forall_mem_append.mpr ⟨fun s hs => Step.isScene_of_isIdle (hidle s hs), ?_⟩
    simp [Step.isScene]
  · have hdismissed : wires u = [] := wires_eq_nil_of_aside fun s hs =>
      Step.isAside_of_isNote (Step.isNote_of_isIdle (hidle s hs))
    rw [wires_append, wires_append, wires_append, wires_cons, wires_cons (.log _),
      wires_cons (.deliver uid digest), hwires, hquiet, hdismissed]
    show [] ++ wires f.record ++ ([] ++ ([] ++ [])) ++ ([] ++ []) = wires f.record
    simp
  · refine ⟨.spool uid true :: .call (.readBody uid) :: f.record, t ++ u, [], b.about, b₁.about, ?_⟩
    rw [hreading]
    simp

/-- A candidate that cannot be handed on is played as the call that reads it. -/
theorem plays_unread (hf : r.filled uid b.about b.session = f) {e : Failure}
    (ho : f.offer = .error e) :
    ∃ b', runFrom (r.stageAndDeliver uid) b = (unreadOutcome e, b') ∧ b'.session = f.state ∧
      b'.receiver = b.receiver ∧
      r.Plays b [.call (.readBody uid) (.of .count f.outcome)] [] b' := by
  obtain ⟨t, hr, hshows, -⟩ := runFrom_stageAndDeliver_unread r uid b hf ho
  exact ⟨_, hr, rfl, rfl, .of_shows rfl rfl rfl hshows (by simp [Scene.isDelivery])⟩

/-- A candidate that is handed on is played as the call that reads it and the delivery of its body.
-/
theorem plays_offered (hf : r.filled uid b.about b.session = f) {n : Int} {m : Staged}
    (ho : f.offer = .ok (n, m)) {body : Spool} (hb : m.body = .ok body) :
    ∃ digest seen o b',
      runFrom (r.stageAndDeliver uid) b = (verdictOutcome (Failure.awaited o), b') ∧
      b'.session = f.state ∧ digest = r.stageInUse.algorithm.hash f.message.spool.content ∧
      r.Plays b [.call (.readBody uid) (.count n),
          .delivery uid digest seen (Failure.of? (Failure.awaited o))]
        [(uid, f.message.spool.content)] b' ∧
      (r.callback uid digest b.receiver).Goes b.fragile body seen o b'.receiver := by
  obtain ⟨hdigest, ⟨body', hbody, hpresents⟩, -⟩ := offered_of_filled hf ho
  obtain rfl : body' = body := Except.ok.inj (hbody.symm.trans hb)
  obtain ⟨o, b', t, seen, hr, hfragile, hsession, ht, hshows, -, -, hgo⟩ :=
    runFrom_stageAndDeliver_offered r uid b hf ho hdigest hb
  exact ⟨_, seen, o, b', hr, hsession, rfl,
    ⟨hfragile, ⟨t, ht, hshows⟩, .cons hpresents hgo (.nil _)⟩, hgo⟩

end Round

end Mailroom
