import Mailroom.Proofs.Aloof
import Mailroom.Proofs.Twins
import Mailroom.Store

/-!
# Spilling to disk

The memory limit of the spools decides where a body is kept, and nothing else about it. Two rounds
that differ in the limit alone come to the same, with one record but for what is said of a failed
delivery (`Round.run_hides_spilling`), as long as the callback does nothing that is answered in
memory and refused on disk (`Handling.Modest`): reading with a count below -1 or one that the disk
has no room for, and going from the position or the end to before the start, or to where no file
reaches. For a callback that does, they differ (`Round.run_shows_spilling`).

The two runs go side by side. Messages are twins all along, so each use of a body is answered in
both runs or refused in both, and everything else is aloof.
-/

namespace Mailroom

variable {σ κ η α β : Type}

/-! ### Echoes -/

/-- A step without what it says of a failed delivery. -/
def Step.blurred : Step → Step
  | .verdict uid (some _) => .verdict uid (some (.plain .general ""))
  | .log ⟨.rejected _ _, subject⟩ => .log ⟨.rejected "" "", subject⟩
  | s => s

/-- The steps in which the session or a body has a share: calls with what comes of them, requests to
the server, deliveries, and what the callback sees. -/
def Step.isOutward : Step → Bool
  | .call _ | .answer _ | .wire _ | .deliver .. | .observe _ => true
  | .log _ | .spool .. | .finish _ | .verdict .. | .backoff _ | .pause _ | .report .. | .status _
  | .configure .. | .serve _ => false

/-- The same bench but for what its record says of failed deliveries. -/
structure Echoes (b₁ b₂ : Bench σ κ η) : Prop where
  /-- All but the record is the same. -/
  rest : { b₁ with steps := b₂.steps } = b₂
  /-- The records tell the same, and differ in what they say of failed deliveries. -/
  steps : b₁.steps.map Step.blurred = b₂.steps.map Step.blurred

namespace Echoes

variable {b₁ b₂ : Bench σ κ η}

theorem refl (b : Bench σ κ η) : Echoes b b := ⟨rfl, rfl⟩

/-- An echo is the same bench with another record. -/
theorem exists_steps (h : Echoes b₁ b₂) :
    ∃ t, b₁.steps.map Step.blurred = t.map Step.blurred ∧ b₂ = { b₁ with steps := t } :=
  ⟨b₂.steps, h.steps, h.rest.symm⟩

/-- Both records go on, with steps that tell the same. -/
theorem append (h : Echoes b₁ b₂) {t₁ t₂ : List Step}
    (ht : t₁.map Step.blurred = t₂.map Step.blurred) :
    Echoes { b₁ with steps := b₁.steps ++ t₁ } { b₂ with steps := b₂.steps ++ t₂ } := by
  obtain ⟨t, hsteps, rfl⟩ := h.exists_steps
  refine ⟨rfl, ?_⟩
  show (b₁.steps ++ t₁).map Step.blurred = (t ++ t₂).map Step.blurred
  rw [List.map_append, List.map_append, hsteps, ht]

/-- Both records go on with the same steps. -/
theorem record (h : Echoes b₁ b₂) (t : List Step) :
    Echoes { b₁ with steps := b₁.steps ++ t } { b₂ with steps := b₂.steps ++ t } := h.append rfl

/-- Both turn to a candidate, or away from it. -/
theorem turn (h : Echoes b₁ b₂) (subject : Option Subject) :
    Echoes { b₁ with about := subject } { b₂ with about := subject } := by
  obtain ⟨t, hsteps, rfl⟩ := h.exists_steps
  exact ⟨rfl, hsteps⟩

/-- Steps that are told as they are, are the same. -/
theorem filter_eq (h : Echoes b₁ b₂) {p : Step → Bool} (hp : ∀ s, p s.blurred = p s)
    (hsame : ∀ s, p s = true → s.blurred = s) : b₁.steps.filter p = b₂.steps.filter p := by
  have hfilter (t : List Step) : (t.map Step.blurred).filter p = t.filter p := by
    rw [List.filter_map, show p ∘ Step.blurred = p from funext hp]
    refine (List.map_congr_left fun s hs => hsame s (List.mem_filter.mp hs).2).trans ?_
    exact List.map_id _
  rw [← hfilter b₁.steps, ← hfilter b₂.steps, h.steps]

end Echoes

/-- Two runs come to the same, and their benches echo each other. -/
structure Echoing (p₁ p₂ : Except Failure α × Bench σ κ η) : Prop where
  /-- What they come to. -/
  outcome : p₁.1 = p₂.1
  /-- The benches. -/
  bench : Echoes p₁.2 p₂.2

/-- Aloof work comes to the same from benches that echo each other. -/
theorem Aloof.echoing {x : Work σ κ η α} (hx : Aloof x) {b₁ b₂ : Bench σ κ η}
    (h : Echoes b₁ b₂) : Echoing (runFrom x b₁) (runFrom x b₂) := by
  obtain ⟨t, ht, rfl⟩ := h.exists_steps
  have h₁ := hx { b₁ with steps := [] } b₁.ledger b₁.steps
  have h₂ := hx { b₁ with steps := [] } b₁.ledger t
  simp only [Bench.recast, List.append_nil] at h₁ h₂
  rw [h₁, h₂]
  refine ⟨rfl, rfl, ?_⟩
  show List.map _ (_ ++ _) = List.map _ (_ ++ _)
  rw [List.map_append, List.map_append, ht]

namespace Echoing

variable {x₁ x₂ : Work σ κ η α} {b₁ b₂ : Bench σ κ η}

/-- Two pieces of work in a row. -/
theorem bind {k₁ k₂ : α → Work σ κ η β} (hx : Echoing (runFrom x₁ b₁) (runFrom x₂ b₂))
    (hk : ∀ a b₁' b₂', runFrom x₁ b₁ = (.ok a, b₁') → Echoes b₁' b₂' →
      Echoing (runFrom (k₁ a) b₁') (runFrom (k₂ a) b₂')) :
    Echoing (runFrom (x₁ >>= k₁) b₁) (runFrom (x₂ >>= k₂) b₂) := by
  obtain ⟨ho, hb⟩ := hx
  rcases h₁ : runFrom x₁ b₁ with ⟨o, b₁'⟩
  rcases h₂ : runFrom x₂ b₂ with ⟨o₂, b₂'⟩
  rw [h₁, h₂] at ho hb
  cases ho
  cases o with
  | error f =>
    rw [runFrom_bind_error h₁, runFrom_bind_error h₂]
    exact ⟨rfl, hb⟩
  | ok a =>
    rw [runFrom_bind_ok h₁, runFrom_bind_ok h₂]
    exact hk a b₁' b₂' h₁ hb

theorem settle (hx : Echoing (runFrom x₁ b₁) (runFrom x₂ b₂)) :
    Echoing (runFrom (settle x₁) b₁) (runFrom (settle x₂) b₂) := by
  rw [runFrom_settle, runFrom_settle, hx.outcome]
  exact ⟨rfl, hx.bench⟩

/-- Work with one handler, which is aloof. -/
theorem handling {handler : Failure → Work σ κ η α} (hh : ∀ f, Aloof (handler f))
    (hx : Echoing (runFrom x₁ b₁) (runFrom x₂ b₂)) :
    Echoing (runFrom (Work.handling x₁ handler) b₁) (runFrom (Work.handling x₂ handler) b₂) := by
  refine hx.settle.bind fun r b₁' b₂' _ hb => ?_
  cases r with
  | ok a => exact (Aloof.pure a).echoing hb
  | error f =>
    dsimp only
    split
    · exact (hh f).echoing hb
    · exact (Aloof.throw f).echoing hb

theorem about (subject : Subject)
    (hx : Echoing (runFrom x₁ { b₁ with about := some subject })
      (runFrom x₂ { b₂ with about := some subject })) (hb : Echoes b₁ b₂) :
    Echoing (runFrom (Work.about subject x₁) b₁) (runFrom (Work.about subject x₂) b₂) := by
  have habout : b₁.about = b₂.about := (congrArg Bench.about hb.rest :)
  rw [Work.runFrom_about, Work.runFrom_about, hx.outcome, habout]
  exact ⟨rfl, hx.bench.turn _⟩

end Echoing

/-- A release of twins is the same work. -/
theorem Staged.Twins.release_eq {m₁ m₂ : Staged} (h : m₁.Twins m₂) :
    (Work.release m₁ : Work σ κ η Unit) = Work.release m₂ := by
  funext b
  have h₁ := Work.runFrom_release m₁ b
  have h₂ := Work.runFrom_release m₂ b
  rw [h.farewell_eq] at h₁
  exact h₁.trans h₂.symm

/-! ### What a callback does with twins -/

/-- The callback does nothing with the body on which the place has a bearing: it makes plain
accesses, each of them to the body as the one before leaves it, may request stops and wait, and is
done. A refused access is where it fails. -/
inductive Handling.Modest : Handling κ → Spool → Prop where
  /-- The callback is done. -/
  | done (o : Except Failure Unit) (k : κ) (body : Spool) : Modest (.done o k) body
  /-- The callback uses the body. -/
  | access {a : Spool.Access} {next : Except Failure Spool.Answer → Handling κ} {body : Spool}
    (k : κ) (ha : body.Plain a) (hfail : ∀ f, next (.error f) = .done (.error f) k)
    (h : Modest (next (body.access a).1) (body.access a).2) : Modest (.access a next) body
  /-- The callback requests a stop. -/
  | requestStop {r : StopRequest} {next : Handling κ} {body : Spool} (h : Modest next body) :
    Modest (.requestStop r next) body
  /-- The callback waits. -/
  | wait {seconds : Float} {next : Except Failure Unit → Handling κ} {body : Spool}
    (h : ∀ r, Modest (next r) body) : Modest (.wait seconds next) body

/-- A callback may fail where a plain access is refused, and go on where not. -/
theorem Handling.Modest.thenDo {a : Spool.Access} {next : Handling κ} {body : Spool} (k : κ)
    (ha : body.Plain a) (h : next.Modest (body.access a).2) :
    Modest (.access a fun | .ok _ => next | .error f => .done (.error f) k) body := by
  refine .access k ha (fun _ => rfl) ?_
  cases (body.access a).1 with
  | ok x => exact h
  | error f => exact .done _ _ _

/-- Two ends of a delivery that come to one verdict: the same, or two ordinary failures. -/
inductive Akin : Except Failure Unit → Except Failure Unit → Prop where
  /-- The same. -/
  | same (o : Except Failure Unit) : Akin o o
  /-- Two ordinary failures. -/
  | refused {f₁ f₂ : Failure} (h₁ : f₁.isFault = true) (h₂ : f₂.isFault = true) :
    Akin (.error f₁) (.error f₂)

/-- They do so out of a coroutine as well. -/
theorem Akin.awaited {o₁ o₂ : Except Failure Unit} (h : Akin o₁ o₂) :
    Akin (Failure.awaited o₁) (Failure.awaited o₂) := by
  cases h with
  | same o => exact .same _
  | refused h₁ h₂ =>
    exact .refused ((Failure.isFault_outOfCoroutine _).trans h₁)
      ((Failure.isFault_outOfCoroutine _).trans h₂)

/-- **A modest callback treats twins alike**, by induction on what it does: from benches that echo
each other, deliveries of twins come to one verdict, leave twins, and the benches echo each other
again. -/
theorem Handling.Modest.echoes {h : Handling κ} {body₁ : Spool} (hm : h.Modest body₁)
    {body₂ : Spool} (ht : body₁.Twins body₂) {b₁ b₂ : Bench σ κ η} (hb : Echoes b₁ b₂) :
    ∃ o₁ o₂ s₁ s₂ b₁' b₂', runFrom (Work.handle h body₁) b₁ = (.ok (o₁, s₁), b₁') ∧
      runFrom (Work.handle h body₂) b₂ = (.ok (o₂, s₂), b₂') ∧ Akin o₁ o₂ ∧ s₁.Twins s₂ ∧
      Echoes b₁' b₂' := by
  induction hm generalizing body₂ b₁ b₂ with
  | done o k body =>
    obtain ⟨t, hsteps, rfl⟩ := hb.exists_steps
    exact ⟨o, o, body, body₂, _, _, rfl, rfl, .same o, ht, rfl, hsteps⟩
  | @access a next body k ha hfail _ ih =>
    rw [Work.runFrom_handle_access, Work.runFrom_handle_access]
    rcases ht.access ha with ⟨f₁, f₂, h₁, h₂, hf₁, hf₂⟩ | ⟨r, s₁, s₂, h₁, h₂, ht'⟩
    · rw [h₁, h₂, hfail, hfail]
      obtain ⟨t, hsteps, rfl⟩ := hb.exists_steps
      refine ⟨_, _, body, body₂, _, _, rfl, rfl, .refused hf₁ hf₂, ht, rfl, ?_⟩
      simpa [Spool.sighted] using hsteps
    · rw [h₁] at ih ⊢
      rw [h₂]
      exact ih ht' (hb.record _)
  | @requestStop request next body _ ih =>
    obtain ⟨_, c₁, hr₁, -⟩ := Idle.requestStop request b₁
    obtain ⟨_, c₂, hr₂, -⟩ := Idle.requestStop request b₂
    have hbench := ((Aloof.requestStop request).echoing hb).bench
    rw [hr₁, hr₂] at hbench
    rw [Work.handle, Work.handle, runFrom_bind_ok hr₁, runFrom_bind_ok hr₂]
    exact ih ht hbench
  | wait _ ih =>
    obtain ⟨hsame, hb'⟩ := (Aloof.wait _).echoing hb
    rw [Work.handle, Work.handle, runFrom_bind_ok (runFrom_settle _ _),
      runFrom_bind_ok (runFrom_settle _ _), hsame]
    exact ih _ ht hb'

namespace Round

variable (r : Round σ κ) (uid : String)

/-- Twins are delivered alike. -/
theorem echoes_deliver (n : Int) {m₁ m₂ : Staged} (hm : m₁.Twins m₂) {digest : Bytes}
    {body₁ body₂ : Spool} (hd₁ : m₁.digest = .ok digest) (hbody₁ : m₁.body = .ok body₁)
    (hd₂ : m₂.digest = .ok digest) (hbody₂ : m₂.body = .ok body₂) (hbody : body₁.Twins body₂)
    {b₁ b₂ : Bench σ κ η} (hb : Echoes b₁ b₂)
    (hmodest : (r.callback uid digest b₁.receiver).Modest body₁) :
    ∃ o₁ o₂ m₁' m₂' b₁' b₂', runFrom (r.deliver uid n m₁) b₁ = (.ok (o₁, m₁'), b₁') ∧
      runFrom (r.deliver uid n m₂) b₂ = (.ok (o₂, m₂'), b₂') ∧ Akin o₁ o₂ ∧ m₁'.Twins m₂' ∧
      Echoes b₁' b₂' := by
  obtain ⟨t, ht, rfl⟩ := hb.exists_steps
  have hstart := (hb.record [.log ⟨.staged n digest.hex, b₁.about⟩]).record [.deliver uid digest]
  obtain ⟨o₁, o₂, s₁, s₂, c₁, c₂, h₁, h₂, hakin, hs, hc⟩ := hmodest.echoes hbody hstart
  have hverdict : [Step.verdict uid (Failure.of? (Failure.awaited o₁))].map Step.blurred =
      [Step.verdict uid (Failure.of? (Failure.awaited o₂))].map Step.blurred := by
    cases hakin <;> rfl
  refine ⟨_, _, _, _, _, _, runFrom_deliver_of_handle r uid b₁ n hd₁ hbody₁ h₁,
    runFrom_deliver_of_handle r uid _ n hd₂ hbody₂ h₂, hakin.awaited, ⟨?_, hs⟩,
    hc.append hverdict⟩
  rw [← hm.rest]

/-- What is left to do for a candidate that was not handed on. -/
theorem aloof_dismissUnread (e : Failure) (m : Staged) :
    Aloof (if e.isFault then do
        Work.log (.readFailed e.text)
        Work.release m
        pure .unreadable
      else do
        Work.release m
        throw e : Work σ κ η Outcome) := by
  split
  · exact .bind (.log _) fun _ => .bind (.release m) fun _ => .pure _
  · exact .bind (.release m) fun _ => .throw e

theorem aloof_dismissal (m : Staged) (o : Except Failure Unit) :
    Aloof (dismissal m o : Work σ κ η Outcome) := by
  rcases o with f | u
  · dsimp only [dismissal]
    split
    · exact .bind (.log _) fun _ => .bind (.release m) fun _ => .pure _
    · exact .bind (.release m) fun _ => .throw f
  · exact .bind (.release m) fun _ => .pure _

/-- Two deliveries that came to one verdict leave the same to do. -/
theorem echoes_dismissal {o₁ o₂ : Except Failure Unit} (h : Akin o₁ o₂) (m : Staged)
    {b₁ b₂ : Bench σ κ η} (hb : Echoes b₁ b₂) :
    Echoing (runFrom (dismissal m o₁) b₁) (runFrom (dismissal m o₂) b₂) := by
  cases h with
  | same => exact (aloof_dismissal m o₁).echoing hb
  | refused h₁ h₂ =>
    obtain ⟨t, ht, rfl⟩ := hb.exists_steps
    dsimp only [dismissal]
    rw [if_pos h₁, if_pos h₂, Work.log, Work.log, runFrom_bind_ok (runFrom_modify _ _),
      runFrom_bind_ok (runFrom_modify _ _)]
    exact (Aloof.bind (.release m) fun _ => .pure _).echoing (hb.append rfl)

/-- Candidates with one reading but for where the body is kept are staged and delivered alike. The
hypothesis is on the body that the first of them gets. -/
theorem echoes_stageAndDeliver (r₁ r₂ : Round σ κ) (hcallback : r₁.callback = r₂.callback)
    {b₁ b₂ : Bench σ κ η} {f₁ f₂ : Filled σ} (hf₁ : r₁.filled uid b₁.about b₁.session = f₁)
    (hf₂ : r₂.filled uid b₁.about b₁.session = f₂) (ht : f₁.Twins f₂)
    (hmodest : ∀ n m digest body, f₁.offer = .ok (n, m) → m.digest = .ok digest →
      m.body = .ok body → (r₁.callback uid digest b₁.receiver).Modest body)
    (hb : Echoes b₁ b₂) :
    Echoing (runFrom (r₁.stageAndDeliver uid) b₁) (runFrom (r₂.stageAndDeliver uid) b₂) := by
  obtain ⟨t, hsteps, rfl⟩ := hb.exists_steps
  have h₁ := runFrom_readInto_eq r₁ uid { b₁ with steps := b₁.steps ++ [.spool uid true] } hf₁
  have h₂ := runFrom_readInto_eq r₂ uid { b₁ with steps := t ++ [.spool uid true] } hf₂
  rw [← ht.state, ← ht.reading_eq] at h₂
  have hread : Echoes
      { b₁ with session := f₁.state, steps := b₁.steps ++ [.spool uid true] ++ f₁.reading uid }
      { b₁ with session := f₁.state, steps := t ++ [.spool uid true] ++ f₁.reading uid } :=
    ⟨rfl, by simp [hsteps]⟩
  unfold stageAndDeliver
  rw [runFrom_bind_ok (runFrom_showSpool_openFor uid _ _ _), runFrom_bind_ok h₁,
    runFrom_bind_ok (runFrom_showSpool_openFor uid _ _ _), runFrom_bind_ok h₂]
  rcases ht.offer with ⟨e, ho₁, ho₂⟩ | ⟨n, m₁, m₂, ho₁, ho₂, hm⟩
  · rw [ho₁, ho₂]
    dsimp only [Except.map]
    rw [ht.rest.release_eq]
    exact (aloof_dismissUnread e f₂.rest).echoing hread
  · rw [ho₁, ho₂, Filled.rest_of_offer ho₁, Filled.rest_of_offer ho₂]
    obtain ⟨-, hfinish, -⟩ := Filled.of_offer ho₁ uid
    have hreadable := Staged.readable_of_finish hfinish
    have hdigest : m₁.digest = .ok (m₁.sealedDigest.getD ByteArray.empty) := by
      rw [Staged.digest, hreadable]
      rfl
    have hbody := Staged.body_of_readable hreadable
    obtain ⟨o₁, o₂, m₁', m₂', c₁, c₂, hdeliver₁, hdeliver₂, hakin, hm', hc⟩ :=
      echoes_deliver r₁ uid n hm hdigest hbody (hm.digest_eq ▸ hdigest)
        (Staged.body_of_readable (hm.readable_eq ▸ hreadable)) hm.spool hread
        (hmodest n m₁ _ _ ho₁ hdigest hbody)
    have hsame : (r₂.deliver uid n m₂ : Work σ κ η _) = r₁.deliver uid n m₂ := by
      unfold deliver
      rw [hcallback]
    rw [← hsame] at hdeliver₂
    dsimp only [Except.map]
    rw [runFrom_bind_ok hdeliver₁, runFrom_bind_ok hdeliver₂, hm'.release_eq]
    exact echoes_dismissal hakin m₂' hc

/-! ### Rounds -/

/-- The round with another memory limit for its spools. -/
def withLimit (limit : Nat) : Round σ κ :=
  { r with settings := { r.settings with memoryLimit := limit } }

/-- In processing candidates from a bench, the callback gets the body of a candidate with a digest,
while it keeps something. -/
inductive Offers : List String → Bench σ κ η → String → Bytes → κ → Spool → Prop where
  /-- It gets the body of the first candidate. -/
  | here {uid : String} {uids : List String} {b : Bench σ κ η} {n : Int} {m : Staged}
    {digest : Bytes} {body : Spool}
    (h : (r.filled uid (some ⟨uid, r.settings.mailbox⟩) b.session).offer = .ok (n, m))
    (hdigest : m.digest = .ok digest) (hbody : m.body = .ok body) :
    Offers (uid :: uids) b uid digest b.receiver body
  /-- It gets the body of a later one. -/
  | later {uid uid' : String} {uids : List String} {b b' : Bench σ κ η} {o : Outcome}
    {digest : Bytes} {k : κ} {body : Spool} (h : runFrom (r.process uid) b = (.ok o, b'))
    (hlater : Offers uids b' uid' digest k body) : Offers (uid :: uids) b uid' digest k body

/-- In a round from a bench, the callback gets the body of a candidate with a digest, while it keeps
something. -/
def HandsOver (b : Bench σ κ η) (uid : String) (digest : Bytes) (k : κ) (body : Spool) : Prop :=
  ∃ b₁ uids b₂, runFrom r.connect b = (.ok (), b₁) ∧ runFrom r.list b₁ = (.ok uids, b₂) ∧
    r.Offers uids b₂ uid digest k body

variable {r : Round σ κ} {limit₁ limit₂ : Nat} {b₁ b₂ : Bench σ κ η}

/-- A body that is offered stands at its start, and spills to the disk of the round. -/
theorem Offers.fresh {uids : List String} {b : Bench σ κ η} {uid : String} {digest : Bytes} {k : κ}
    {body : Spool} (h : r.Offers uids b uid digest k body) :
    body.position = 0 ∧ body.disk = r.disk := by
  induction h with
  | @here uid _ b _ m _ body h _ hbody =>
    obtain ⟨-, ⟨body', hbody', hpresents⟩, -⟩ := offered_of_filled rfl h
    obtain rfl : body' = body := Except.ok.inj (hbody'.symm.trans hbody)
    obtain ⟨-, hfinish, -⟩ := Filled.of_offer h uid
    have hm : m.spool = body' :=
      Except.ok.inj ((Staged.body_of_readable (Staged.readable_of_finish hfinish)).symm.trans hbody)
    have hdisk := congrArg (·.2.spool.disk) hfinish
    rw [Staged.disk_finish, hm] at hdisk
    exact ⟨hpresents.position, hdisk.symm.trans (Streaming.disk_fill _ _ _)⟩
  | later _ _ ih => exact ih

theorem HandsOver.fresh {b : Bench σ κ η} {uid : String} {digest : Bytes} {k : κ} {body : Spool}
    (h : r.HandsOver b uid digest k body) : body.position = 0 ∧ body.disk = r.disk := by
  obtain ⟨_, _, _, -, -, hoffers⟩ := h
  exact hoffers.fresh

/-- The limit decides on nothing but the place of what is read. -/
theorem twins_filled (r : Round σ κ) (limit₁ limit₂ : Nat) (uid : String)
    (subject : Option Subject) (x : σ) :
    ((r.withLimit limit₁).filled uid subject x).Twins
      ((r.withLimit limit₂).filled uid subject x) := by
  refine Streaming.twins_fill subject _ (Staged.twins_openFor ?_ r.disk uid)
  unfold stageInUse withLimit
  cases r.stage <;> rfl

theorem echoes_process {uid : String} (hmodest : ∀ n m digest body,
      ((r.withLimit limit₁).filled uid (some ⟨uid, r.settings.mailbox⟩) b₁.session).offer =
        .ok (n, m) → m.digest = .ok digest → m.body = .ok body →
      (r.callback uid digest b₁.receiver).Modest body) (hb : Echoes b₁ b₂) :
    Echoing (runFrom ((r.withLimit limit₁).process uid) b₁)
      (runFrom ((r.withLimit limit₂).process uid) b₂) := by
  refine Echoing.about _ (Echoing.bind ?_ fun o c₁ c₂ _ hc => ?_) hb
  · have ht := twins_filled r limit₁ limit₂ uid (some ⟨uid, r.settings.mailbox⟩) b₁.session
    exact echoes_stageAndDeliver uid (r.withLimit limit₁) (r.withLimit limit₂) rfl rfl rfl ht
      hmodest (hb.turn _)
  · have hsame : ((r.withLimit limit₁).relocate uid o : Work σ κ η Unit) =
        (r.withLimit limit₂).relocate uid o := by
      cases o <;> rfl
    rw [hsame]
    exact (Aloof.bind (aloof_relocate _ uid o) fun _ => .pure o).echoing hc

/-- The candidates, by induction on them. -/
theorem echoes_processAll {uids : List String} (result : RoundResult)
    (hmodest : ∀ uid digest k body, (r.withLimit limit₁).Offers uids b₁ uid digest k body →
      (r.callback uid digest k).Modest body) (hb : Echoes b₁ b₂) :
    Echoing (runFrom ((r.withLimit limit₁).processAll uids result) b₁)
      (runFrom ((r.withLimit limit₂).processAll uids result) b₂) := by
  induction uids generalizing b₁ b₂ result with
  | nil => exact (Aloof.pure result).echoing hb
  | cons uid uids ih =>
    refine Echoing.bind (echoes_process (fun n m digest body h hd hbody => ?_) hb)
      fun o c₁ c₂ hrun hc => ih _ (fun uid' digest k body h => ?_) hc
    · exact hmodest uid digest _ body (.here h hd hbody)
    · exact hmodest uid' digest k body (.later hrun h)

/-- **The memory limit is nothing that can be seen.** Two rounds that differ in the limit alone give
the same result, or the same cancellation; they make the same calls with the same answers, deliver
the same and let the callback see the same; and they leave the same bench but for what the record
says of failed deliveries, as long as the callback is modest with every body it gets. -/
theorem run_hides_spilling (r : Round σ κ) (limit₁ limit₂ : Nat) (b : Bench σ κ η)
    (hmodest : ∀ uid digest k body, (r.withLimit limit₁).HandsOver b uid digest k body →
      (r.callback uid digest k).Modest body) :
    (runFrom (r.withLimit limit₁).run b).1 = (runFrom (r.withLimit limit₂).run b).1 ∧
      (runFrom (r.withLimit limit₁).run b).2.steps.filter Step.isOutward =
        (runFrom (r.withLimit limit₂).run b).2.steps.filter Step.isOutward ∧
      Echoes (runFrom (r.withLimit limit₁).run b).2 (runFrom (r.withLimit limit₂).run b).2 := by
  have hrun : Echoing (runFrom (r.withLimit limit₁).run b)
      (runFrom (r.withLimit limit₂).run b) := by
    refine Echoing.handling (pervades_aloof _).failed ?_
    refine Echoing.bind ((aloof_connect _).echoing (.refl b)) fun _ b₁ b₂ hconnect hb => ?_
    refine Echoing.bind (Echoing.settle ?_) fun outcome c₁ c₂ _ hc => ?_
    · refine Echoing.bind ((aloof_list _).echoing hb) fun uids c₁ c₂ hlist hc => ?_
      exact echoes_processAll _ (fun uid digest k body h =>
        hmodest uid digest k body ⟨b₁, uids, c₁, hconnect, hlist, h⟩) hc
    · exact (Aloof.bind (aloof_close _) fun _ => .giveBack outcome).echoing hc
  refine ⟨hrun.outcome, hrun.bench.filter_eq (fun s => ?_) (fun s hs => ?_), hrun.bench⟩
  · unfold Step.blurred
    split <;> rfl
  · unfold Step.blurred
    split
    · cases hs
    · cases hs
    · rfl

/-- A callback that reads, skips two bytes and reads on accepts the message, in memory and on
disk. -/
theorem run_hides_spilling_skip :
    let d : Settings.Delivery := ⟨"INBOX", "", "", "", 1, 10, 0, .sha256⟩
    let s : Store := ⟨[("INBOX", [⟨"7", ⟨#[48, 49, 50, 51, 52, 53, 54, 55]⟩, "report", false⟩])],
      [], [], none, 4, none⟩
    let r : Round Store Unit := ⟨Store.session "mail", fun _ _ _ => .access (.read (some 3)) fun
      | .ok _ => .access (.seek 2 1) fun
        | .ok _ => .access .readLine fun
          | .ok _ => .done (.ok ()) ()
          | .error f => .done (.error f) ()
        | .error f => .done (.error f) ()
      | .error f => .done (.error f) (), d, none, none, .usual⟩
    let b : Bench Store Unit Unit := .start s () ()
    (runFrom (r.withLimit 0).run b).1.toOption = some ⟨1, none, 1, 0, 0⟩ ∧
      (runFrom (r.withLimit 4).run b).1.toOption = some ⟨1, none, 1, 0, 0⟩ := by
  intro d s r b
  have hread : (runFrom (r.withLimit 0).run b).1.toOption = some ⟨1, none, 1, 0, 0⟩ := by
    decide +kernel
  obtain ⟨hsame, -, -⟩ := run_hides_spilling r 0 4 b fun _ _ _ body h => by
    obtain ⟨hstart, hdisk⟩ : body.position = 0 ∧ body.disk = .usual := h.fresh
    have hroom : (3 : Int) ≤ body.disk.room := by
      rw [hdisk]
      decide
    have hreach : (body.access (.read (some 3))).2.disk.reach = 17592186040320 := by
      rw [body.disk_access, hdisk]
      rfl
    have hposition : (body.access (.read (some 3))).2.position ≤ body.position + 3 :=
      body.position_read_le 3
    have htarget (s : Spool) : s.base 1 + 2 = (s.position + 2 : Nat) := rfl
    refine .thenDo () (.inr ⟨by decide, hroom⟩) (.thenDo ()
      ⟨.inr (.inl rfl), .inr ⟨.inr ?_, .inl ?_⟩⟩ (.thenDo () trivial (.done _ _ _)))
    · rw [htarget]
      omega
    · rw [htarget, hreach]
      omega
  exact ⟨hread, hsame ▸ hread⟩

/-- A callback that steps back beyond the start comes to the start in memory; on disk it is refused,
and the message is rejected. So it is with a count below -1, which in memory stands for all that is
left, with a count for which there is no room, and with a target that no file reaches. -/
theorem run_shows_spilling :
    let d : Settings.Delivery := ⟨"INBOX", "", "", "", 1, 10, 0, .sha256⟩
    let s : Store := ⟨[("INBOX", [⟨"7", ⟨#[48, 49, 50, 51, 52, 53, 54, 55]⟩, "report", false⟩])],
      [], [], none, 4, none⟩
    let r (a : Spool.Access) : Round Store Unit := ⟨Store.session "mail", fun _ _ _ =>
      .access (.read (some 3)) fun
        | .ok _ => .access a fun
          | .ok _ => .done (.ok ()) ()
          | .error f => .done (.error f) ()
        | .error f => .done (.error f) (), d, none, none, .usual⟩
    let b : Bench Store Unit Unit := .start s () ()
    ∀ a ∈ [.seek (-5) 1, .read (some (-2)), .read (some 1000000000000),
        .seek 1000000000000000000 0],
      (runFrom ((r a).withLimit 0).run b).1.toOption = some ⟨1, none, 1, 0, 0⟩ ∧
        (runFrom ((r a).withLimit 4).run b).1.toOption = some ⟨0, none, 1, 1, 0⟩ := by
  intro d s r b
  decide +kernel

end Round

end Mailroom
