import Mailroom.Proofs.Agreement
import Mailroom.Proofs.Operations

/-!
# Comparing rounds

Two rounds over different sessions concur when their sessions and callbacks treat the candidates
alike (`Comparison.Treats`): then they do so with one candidate, with a row of them, and altogether
(`Comparison.concur_run`). A candidate that is not compared may be processed by one round alone, as
long as nothing that is compared notices (`Comparison.Spares`).
-/

namespace Mailroom

variable {σ₁ σ₂ κ₁ κ₂ η₁ η₂ α₁ α₂ β₁ β₂ : Type}

/-- Where no wait is cut off, two callbacks see the same of a candidate and end alike. -/
def Callback.Concur (K : κ₁ → κ₂ → Prop) (c₁ : Callback κ₁) (c₂ : Callback κ₂) (uid : String) :
    Prop :=
  ∀ {digest : Bytes} {body : Spool} {seen₁ seen₂ : List Spool.Answer}
    {o₁ o₂ : Except Failure Unit} {k₁ k₁' : κ₁} {k₂ k₂' : κ₂}, K k₁ k₂ →
    (c₁ uid digest k₁).Goes false body seen₁ o₁ k₁' →
    (c₂ uid digest k₂).Goes false body seen₂ o₂ k₂' → seen₁ = seen₂ ∧ o₁ = o₂ ∧ K k₁' k₂'

/-- A callback does what it does. -/
theorem Callback.Concur.refl (c : Callback κ₁) (uid : String) :
    Callback.Concur (fun k₁ k₂ => k₁ = k₂) c c uid := by
  rintro digest body seen₁ seen₂ o₁ o₂ k₁ k₁' k₂ k₂' rfl h₁ h₂
  exact h₁.unique h₂

/-- Two operations end alike where what they ensure does. -/
theorem Session.Op.Concur.of_ensures {S E : σ₁ → σ₂ → Prop} {op₁ : Session.Op σ₁ α₁}
    {op₂ : Session.Op σ₂ α₂} {Q : α₁ → α₂ → σ₁ → σ₂ → Prop}
    (h : ∀ y₁ y₂, S y₁ y₂ → ∃ P₁ P₂, op₁.Ensures y₁ P₁ ∧ op₂.Ensures y₂ P₂ ∧
      ∀ xs₁ o₁ z₁ xs₂ o₂ z₂, P₁ xs₁ o₁ z₁ → P₂ xs₂ o₂ z₂ → Alike Q E (o₁, z₁) (o₂, z₂)) :
    Session.Op.Concur S op₁ op₂ Q E := by
  intro y₁ y₂ hy
  obtain ⟨P₁, P₂, h₁, h₂, hends⟩ := h y₁ y₂ hy
  obtain ⟨o₁, z₁, rs₁, hr₁, hp₁⟩ := h₁ []
  obtain ⟨o₂, z₂, rs₂, hr₂, hp₂⟩ := h₂ []
  have halike := hends _ _ _ _ _ _ hp₁ hp₂
  rw [hr₁, hr₂]
  cases halike with
  | ok h => exact .ok h
  | error h => exact .error h

/-- Where settled messages go: the boxes that have a name. -/
def Settings.Delivery.boxes (d : Settings.Delivery) : List String :=
  [d.outbox, d.errbox].filter (· ≠ "")

namespace Comparison

/-- The rounds differ in their sessions and callbacks only, and the sessions have one name. -/
structure Twins (C : Comparison σ₁ κ₁ σ₂ κ₂) : Prop where
  /-- The settings. -/
  settings : C.first.settings = C.second.settings
  /-- The stage. -/
  stage : C.first.stageInUse = C.second.stageInUse
  /-- The retries. -/
  retry : C.first.retry = C.second.retry
  /-- How messages name the sessions. -/
  title : C.first.session.title = C.second.session.title

/-- What the two rounds do alike with a candidate. Moving it leads from sessions related by `S` to
sessions related by `S'`. -/
structure Treats (C : Comparison σ₁ κ₁ σ₂ κ₂) (S S' : σ₁ → σ₂ → Prop) (uid : String) : Prop where
  /-- Reading it. -/
  read : ∀ subject₁ subject₂ y₁ y₂, S y₁ y₂ →
    Filled.Match S (C.first.filled uid subject₁ y₁) (C.second.filled uid subject₂ y₂)
  /-- Handing it to the callback. -/
  callback : Callback.Concur C.kept C.first.callback C.second.callback uid
  /-- Marking it. -/
  mark : Session.Op.Concur S (C.first.session.mark uid true) (C.second.session.mark uid true)
    (fun _ _ => S) S
  /-- Moving it to a box. -/
  move : ∀ box ∈ C.first.settings.boxes, Session.Op.Concur S (C.first.session.move uid box)
    (C.second.session.move uid box) (fun _ _ => S') S'
  /-- Leaving it where it is. -/
  stay : ∀ y₁ y₂, S y₁ y₂ → S' y₁ y₂

variable {C : Comparison σ₁ κ₁ σ₂ κ₂} {S S' : σ₁ → σ₂ → Prop} {uid : String}

/-- A candidate is staged alike. -/
theorem concur_stageAndDeliver (ht : C.Twins) (h : C.Treats S S' uid) :
    Concur C S (C.first.stageAndDeliver uid : Work σ₁ κ₁ η₁ Outcome)
      (C.second.stageAndDeliver uid : Work σ₂ κ₂ η₂ Outcome)
      (fun o₁ o₂ y₁ y₂ => o₁ = o₂ ∧ S y₁ y₂) S := by
  intro base₁ base₂ b₁ b₂ hb
  have hmatch := h.read b₁.about b₂.about _ _ hb.session
  generalize hf₁ : C.first.filled uid b₁.about b₁.session = f₁ at hmatch
  generalize hf₂ : C.second.filled uid b₂.about b₂.session = f₂ at hmatch
  have hoffer := hmatch.offer_eq
  cases ho : f₁.offer with
  | error e =>
    obtain ⟨b₁', hr₁, hsession₁, hreceiver₁, hplays₁⟩ := Round.plays_unread C.first uid b₁ hf₁ ho
    obtain ⟨b₂', hr₂, hsession₂, hreceiver₂, hplays₂⟩ :=
      Round.plays_unread C.second uid b₂ hf₂ (hoffer.symm.trans ho)
    rw [← hmatch.outcome] at hplays₂
    rw [hr₁, hr₂]
    refine Meets.alike (hb.go ?_ ?_ ⟨_, _, _, _, hplays₁, hplays₂, rfl, rfl⟩) _
    · rw [hsession₁, hsession₂]
      exact hmatch.state
    · rw [hreceiver₁, hreceiver₂]
      exact hb.receiver
  | ok p =>
    obtain ⟨n, m⟩ := p
    obtain ⟨-, ⟨body, hbody, -⟩, -⟩ := Round.offered_of_filled hf₁ ho
    obtain ⟨digest₁, seen₁, o₁, b₁', hr₁, hsession₁, hdigest₁, hplays₁, hgo₁⟩ :=
      Round.plays_offered C.first uid b₁ hf₁ ho hbody
    obtain ⟨digest₂, seen₂, o₂, b₂', hr₂, hsession₂, hdigest₂, hplays₂, hgo₂⟩ :=
      Round.plays_offered C.second uid b₂ hf₂ (hoffer.symm.trans ho) hbody
    obtain rfl : digest₁ = digest₂ := by rw [hdigest₁, hdigest₂, ht.stage, hmatch.message]
    rw [hb.fragile₁] at hgo₁
    rw [hb.fragile₂] at hgo₂
    obtain ⟨rfl, rfl, hreceiver⟩ := h.callback hb.receiver hgo₁ hgo₂
    rw [← hmatch.message] at hplays₂
    rw [hr₁, hr₂]
    refine Meets.alike (hb.go ?_ hreceiver ⟨_, _, _, _, hplays₁, hplays₂, rfl, rfl⟩) _
    rw [hsession₁, hsession₂]
    exact hmatch.state

/-- A call whose ordinary failures are only logged. -/
theorem concur_absorbing {c : Session.Call} {op₁ : Session.Op σ₁ Unit} {op₂ : Session.Op σ₂ Unit}
    {say₁ say₂ : Failure → Event} (h : Session.Op.Concur S op₁ op₂ (fun _ _ => S') S') :
    Concur C S
      (Work.handling (Work.call c (fun _ => .done) op₁) fun f => Work.log (say₁ f) :
        Work σ₁ κ₁ η₁ Unit)
      (Work.handling (Work.call c (fun _ => .done) op₂) fun f => Work.log (say₂ f) :
        Work σ₂ κ₂ η₂ Unit)
      (fun _ _ => S') S' :=
  .handling (.call h fun _ _ _ _ _ _ => rfl)
    (fun _ _ => .idle (.log _) (.log _) fun _ _ _ _ h => h) fun _ _ h => h

theorem concur_moveTo (h : C.Treats S S' uid) {box : String}
    (hbox : box ≠ "" → box ∈ C.first.settings.boxes) :
    Concur C S (C.first.moveTo uid box : Work σ₁ κ₁ η₁ Unit)
      (C.second.moveTo uid box : Work σ₂ κ₂ η₂ Unit) (fun _ _ => S') S' := by
  unfold Round.moveTo
  split
  · exact .pure h.stay
  · next hne => exact concur_absorbing (h.move box (hbox hne))

theorem concur_relocate (ht : C.Twins) (h : C.Treats S S' uid) (out : Outcome) :
    Concur C S (C.first.relocate uid out : Work σ₁ κ₁ η₁ Unit)
      (C.second.relocate uid out : Work σ₂ κ₂ η₂ Unit) (fun _ _ => S') S' := by
  cases out with
  | delivered =>
    have hmark : Concur C S (C.first.markSeen uid : Work σ₁ κ₁ η₁ Unit)
        (C.second.markSeen uid : Work σ₂ κ₂ η₂ Unit) (fun _ _ => S) S := concur_absorbing h.mark
    refine .bind (hmark.weaken (fun _ _ _ _ hy => hy) h.stay) fun _ _ => ?_
    rw [← ht.settings]
    exact concur_moveTo h fun hne => by simp [Settings.Delivery.boxes, hne]
  | rejected =>
    show Concur C S (C.first.moveTo uid C.first.settings.errbox)
      (C.second.moveTo uid C.second.settings.errbox) _ _
    rw [← ht.settings]
    exact concur_moveTo h fun hne => by simp [Settings.Delivery.boxes, hne]
  | unreadable => exact .pure h.stay

/-- A candidate is processed alike. -/
theorem concur_process (ht : C.Twins) (h : C.Treats S S' uid) :
    Concur C S (C.first.process uid : Work σ₁ κ₁ η₁ Outcome)
      (C.second.process uid : Work σ₂ κ₂ η₂ Outcome)
      (fun o₁ o₂ y₁ y₂ => o₁ = o₂ ∧ S' y₁ y₂) S' := by
  refine .about _ _ (.bind ((concur_stageAndDeliver ht h).weaken (fun _ _ _ _ hy => hy) h.stay)
    fun out₁ out₂ => .assume ?_)
  rintro rfl
  exact .bind (concur_relocate ht h out₁) fun _ _ => .pure fun _ _ hz => ⟨rfl, hz⟩

/-- Candidates are processed alike, by induction on the candidates. How the sessions are related
depends on the candidates that are still to come. -/
theorem concur_processAll {S : List String → σ₁ → σ₂ → Prop} (ht : C.Twins)
    (h : ∀ uid rest, C.Treats (S (uid :: rest)) (S rest) uid)
    (hend : ∀ uids y₁ y₂, S uids y₁ y₂ → S [] y₁ y₂) (uids : List String) (result : RoundResult) :
    Concur C (S uids) (C.first.processAll uids result : Work σ₁ κ₁ η₁ RoundResult)
      (C.second.processAll uids result : Work σ₂ κ₂ η₂ RoundResult)
      (fun result₁ result₂ y₁ y₂ => result₁ = result₂ ∧ S [] y₁ y₂) (S []) := by
  induction uids generalizing result with
  | nil => exact .pure fun _ _ hy => ⟨rfl, hy⟩
  | cons uid rest ih =>
    refine .bind ((concur_process ht (h uid rest)).weaken (fun _ _ _ _ hy => hy) (hend rest))
      fun out₁ out₂ => .assume ?_
    rintro rfl
    exact ih (result.count out₁)

/-- Connecting, which leads from sessions related by `S` to sessions related by `S'`. -/
theorem concur_connect (ht : C.Twins)
    (h : Session.Op.Concur S C.first.session.connect C.second.session.connect (fun _ _ => S') S) :
    Concur C S (C.first.connect : Work σ₁ κ₁ η₁ Unit) (C.second.connect : Work σ₂ κ₂ η₂ Unit)
      (fun _ _ => S') S := by
  have hcall : Concur C S
      (Work.call .connect (fun _ => .done) C.first.session.connect : Work σ₁ κ₁ η₁ Unit)
      (Work.call .connect (fun _ => .done) C.second.session.connect : Work σ₂ κ₂ η₂ Unit)
      (fun _ _ => S') S := .call h fun _ _ _ _ _ _ => rfl
  unfold Round.connect
  rw [ht.retry, ht.title]
  refine .handling ?_ (fun f _ => ?_) fun _ _ hy => hy
  · cases C.second.retry with
    | some policy => exact .tryFrom policy _ _ hcall _ _
    | none => exact hcall
  · split
    · exact .throw fun _ _ hy => hy
    · exact .throw fun _ _ hy => hy

/-- **Rounds concur** when their calls do and they process what they list alike. -/
theorem concur_run {L : List String → List String → σ₁ → σ₂ → Prop} {X F : σ₁ → σ₂ → Prop}
    {R : RoundResult → RoundResult → Prop} (ht : C.Twins)
    (hconnect : Session.Op.Concur S C.first.session.connect C.second.session.connect
      (fun _ _ => S') S)
    (hlist : Session.Op.Concur S'
      (C.first.session.list C.first.settings.mailbox C.first.settings.pattern
        C.first.settings.includeSeen)
      (C.second.session.list C.first.settings.mailbox C.first.settings.pattern
        C.first.settings.includeSeen) L X)
    (hshown : C.picks none = true → ∀ uids₁ uids₂ y₁ y₂, L uids₁ uids₂ y₁ y₂ → uids₁ = uids₂)
    (hprocess : ∀ uids₁ uids₂, Concur C (L uids₁ uids₂)
      (C.first.processAll uids₁ { RoundResult.empty with candidates := uids₁.length } :
        Work σ₁ κ₁ η₁ RoundResult)
      (C.second.processAll uids₂ { RoundResult.empty with candidates := uids₂.length } :
        Work σ₂ κ₂ η₂ RoundResult)
      (fun result₁ result₂ y₁ y₂ => R result₁ result₂ ∧ X y₁ y₂) X)
    (hclose : Session.Op.Concur X (C.first.session.close true) (C.second.session.close true)
      (fun _ _ => F) F)
    (hnothing : ∀ y₁ y₂, S y₁ y₂ → F y₁ y₂) (hfailed : ∀ f, R (.failed f) (.failed f)) :
    Concur C S (C.first.run : Work σ₁ κ₁ η₁ RoundResult) (C.second.run : Work σ₂ κ₂ η₂ RoundResult)
      (fun result₁ result₂ y₁ y₂ => R result₁ result₂ ∧ F y₁ y₂) F := by
  have hlisting : Concur C S' (C.first.list : Work σ₁ κ₁ η₁ (List String))
      (C.second.list : Work σ₂ κ₂ η₂ (List String)) L X := by
    unfold Round.list
    rw [← ht.settings, ht.title]
    refine .handling (.call hlist fun hpick uids₁ uids₂ y₁ y₂ h => ?_)
      (fun f _ => .throw fun _ _ hy => hy) fun _ _ hy => hy
    rw [hshown hpick _ _ _ _ h]
  have hclosing : Concur C X (C.first.close : Work σ₁ κ₁ η₁ Unit)
      (C.second.close : Work σ₂ κ₂ η₂ Unit) (fun _ _ => F) F := concur_absorbing hclose
  have hconnected : Concur C S (C.first.connect : Work σ₁ κ₁ η₁ Unit)
      (C.second.connect : Work σ₂ κ₂ η₂ Unit) (fun _ _ => S') F :=
    (concur_connect ht hconnect).weaken (fun _ _ _ _ hy => hy) hnothing
  refine .handling (.bind hconnected fun _ _ => .settle_bind
    (.bind hlisting fun uids₁ uids₂ => hprocess uids₁ uids₂) (fun result₁ result₂ => .assume ?_)
    fun f => ?_) (fun f _ => ?_) fun _ _ hy => hy
  · intro hR
    exact .bind hclosing fun _ _ => .pure fun _ _ hz => ⟨hR, hz⟩
  · exact .bind hclosing fun _ _ => .throw fun _ _ hz => hz
  · rw [ht.settings]
    split
    · exact .idle_bind (.log _) (.log _) fun _ _ => .pure fun _ _ hz => ⟨hfailed f, hz⟩
    · split
      · exact .idle_bind (.log _) (.log _) fun _ _ => .pure fun _ _ hz => ⟨hfailed f, hz⟩
      · exact .throw fun _ _ hz => hz

end Comparison

/-! ### Ordinary outcomes -/

/-- If the outcome is a failure, then one that ordinary handlers absorb. -/
def Ordinary {α : Type} (o : Except Failure α) : Prop := ∀ f, o = .error f → f.isFault = true

theorem Ordinary.ok {α : Type} (a : α) : Ordinary (.ok a) := fun f hf => by cases hf

theorem Ordinary.error {α : Type} {f : Failure} (h : f.isFault = true) :
    Ordinary (.error f : Except Failure α) := by
  intro g hg
  cases hg
  exact h

theorem Ordinary.isFault {α : Type} {f : Failure} (h : Ordinary (.error f : Except Failure α)) :
    f.isFault = true := h f rfl

/-! ### One round alone -/

/-- From related sessions, work of the first run alone comes to an end, keeps everything related,
and plays nothing that is compared. -/
def Apart (C : Comparison σ₁ κ₁ σ₂ κ₂) (S : σ₁ → σ₂ → Prop) (x : Work σ₁ κ₁ η₁ α₁) : Prop :=
  ∀ (b : Bench σ₁ κ₁ η₁) (y : σ₂) (k : κ₂), b.fragile = false → S b.session y →
    C.kept b.receiver k → ∃ a b' vs hs, runFrom x b = (.ok a, b') ∧ C.first.Plays b vs hs b' ∧
      C.scenes vs = [] ∧ C.bodies hs = [] ∧ S b'.session y ∧ C.kept b'.receiver k

namespace Concur

variable {C : Comparison σ₁ κ₁ σ₂ κ₂} {S E : σ₁ → σ₂ → Prop} {x₁ : Work σ₁ κ₁ η₁ α₁}
  {x₂ : Work σ₂ κ₂ η₂ α₂}

/-- The first run goes ahead alone. -/
theorem left_bind {Q : β₁ → α₂ → σ₁ → σ₂ → Prop} {k₁ : α₁ → Work σ₁ κ₁ η₁ β₁} (hx : Apart C S x₁)
    (hk : ∀ a, Concur C S (k₁ a) x₂ Q E) : Concur C S (x₁ >>= k₁) x₂ Q E := by
  intro base₁ base₂ b₁ b₂ hb
  obtain ⟨a, b₁', vs, hs, hr, hplays, hvs, hhs, hstate, hkept⟩ :=
    hx b₁ b₂.session b₂.receiver hb.fragile₁ hb.session hb.receiver
  rw [runFrom_bind_ok hr]
  exact hk a base₁ base₂ b₁' b₂
    (hb.go hstate hkept ⟨vs, [], hs, [], hplays, .refl _ _, hvs, hhs⟩)

/-- The second run goes ahead alone. -/
theorem right_bind {Q : α₁ → β₂ → σ₁ → σ₂ → Prop} {k₂ : α₂ → Work σ₂ κ₂ η₂ β₂}
    (hx : Apart C.swap (fun y₂ y₁ => S y₁ y₂) x₂)
    (hk : ∀ a, Concur C S x₁ (k₂ a) Q E) : Concur C S x₁ (x₂ >>= k₂) Q E := by
  refine .swap (left_bind hx fun a => ?_)
  exact .swap (hk a)

end Concur

namespace Apart

variable {C : Comparison σ₁ κ₁ σ₂ κ₂} {S : σ₁ → σ₂ → Prop} {x : Work σ₁ κ₁ η₁ α₁}

theorem idle (hx : Idle x) : Apart C S x := by
  intro b y k _ hs hk
  obtain ⟨a, b', hr, hi⟩ := hx b
  refine ⟨a, b', [], [], hr, .of_idles hi, rfl, rfl, ?_, ?_⟩
  · rwa [hi.session]
  · rwa [hi.receiver]

theorem bind {k : α₁ → Work σ₁ κ₁ η₁ β₁} (hx : Apart C S x) (hk : ∀ a, Apart C S (k a)) :
    Apart C S (x >>= k) := by
  intro b y j hf hs hj
  obtain ⟨a, b₁, vs, hs₁, hr, hplays, hvs, hhs, hstate, hkept⟩ := hx b y j hf hs hj
  obtain ⟨c, b₂, ws, hs₂, hr', hplays', hws, hhs', hstate', hkept'⟩ :=
    hk a b₁ y j (hplays.fragile.trans hf) hstate hkept
  refine ⟨c, b₂, _, _, by rw [runFrom_bind_ok hr, hr'], hplays.trans hplays', ?_, ?_, hstate',
    hkept'⟩
  · unfold Comparison.scenes at hvs hws ⊢
    rw [List.filter_append, hvs, hws, List.nil_append]
  · unfold Comparison.bodies at hhs hhs' ⊢
    rw [List.filter_append, hhs, hhs', List.nil_append]

theorem about (subject : Subject) (hx : Apart C S x) : Apart C S (Work.about subject x) := by
  intro b y k hf hs hk
  obtain ⟨a, b', vs, hs', hr, hplays, hrest⟩ := hx { b with about := some subject } y k hf hs hk
  rw [Work.runFrom_about, hr]
  exact ⟨a, { b' with about := b.about }, vs, hs', rfl,
    ⟨hplays.fragile, hplays.shows, hplays.handed⟩, hrest⟩

/-- A call that fails in an ordinary way at most, which is only logged. -/
theorem absorbing {c : Session.Call} {op : Session.Op σ₁ Unit} {say : Failure → Event}
    (hpick : C.picks c.uid? = false)
    (h : ∀ y₁ y₂, S y₁ y₂ → op.Ensures y₁ fun _ o z =>
      S z y₂ ∧ Ordinary o) :
    Apart C S (Work.handling (Work.call c (fun _ => .done) op) fun f => Work.log (say f) :
      Work σ₁ κ₁ η₁ Unit) := by
  intro b y k hf hs hk
  obtain ⟨o, z, rs, hr, hz, ho⟩ := h _ _ hs []
  have hhidden : ∀ s ∈ rs.map (Work.ofRemark b.about), s.isScene = false := by
    simp only [List.mem_map, forall_exists_index, and_imp, forall_apply_eq_imp_iff₂]
    exact fun r _ => Work.isScene_ofRemark b.about r
  have hplays : C.first.Plays b [.call c (.of (fun _ => .done) o)] [] { b with
      session := z
      steps := b.steps ++ [.call c] ++ rs.map (Work.ofRemark b.about) ++
        [.answer (.of (fun _ => .done) o)] } :=
    .of_shows rfl rfl (by simp) (.call c _ hhidden) (by simp [Scene.isDelivery])
  have hnone : C.scenes [.call c (.of (fun _ => .done) o)] = [] := by
    simp [Comparison.scenes, Scene.uid?, hpick]
  rw [Work.runFrom_handling, Work.runFrom_call, hr]
  rcases o with f | u
  · dsimp only
    rw [if_pos ho.isFault]
    obtain ⟨a, b', vs, hs', hr', hplays', hvs, hhs, hstate, hkept⟩ :=
      idle (C := C) (S := S) (Idle.log (say f)) { b with
        session := z
        steps := b.steps ++ [.call c] ++ rs.map (Work.ofRemark b.about) ++
          [.answer (.of (fun _ => .done) (.error f : Except Failure Unit))] } y k hf hz hk
    refine ⟨a, b', _, _, hr', hplays.trans hplays', ?_, hhs, hstate, hkept⟩
    unfold Comparison.scenes at hnone hvs ⊢
    rw [List.filter_append, hnone, hvs, List.nil_append]
  · exact ⟨u, _, _, _, rfl, hplays, hnone, rfl, hz, hk⟩

end Apart

/-- Where reading fails in an ordinary way at most, so does what is handed on. -/
theorem Filled.isFault_of_offer {f : Filled σ₁}
    (h : Ordinary f.outcome) {e : Failure} (ho : f.offer = .error e) :
    e.isFault = true := by
  unfold Filled.offer at ho
  rcases hout : f.outcome with g | n <;> rw [hout] at ho
  · cases ho
    exact h _ hout
  · rcases hm : f.message.finish with ⟨g | u, m⟩ <;> rw [hm] at ho <;> cases ho
    rfl

namespace Comparison

/-- The first round alone does nothing with a candidate that the comparison would notice, and fails
in an ordinary way at most. -/
structure Spares (C : Comparison σ₁ κ₁ σ₂ κ₂) (S : σ₁ → σ₂ → Prop) (uid : String) : Prop where
  /-- The candidate is not compared. -/
  picks : C.picks (some uid) = false
  /-- Reading it. -/
  read : ∀ subject y₁ y₂, S y₁ y₂ → S (C.first.filled uid subject y₁).state y₂ ∧
    Ordinary (C.first.filled uid subject y₁).outcome
  /-- Handing it to the callback. -/
  callback : ∀ {digest : Bytes} {body : Spool} {seen : List Spool.Answer} {o : Except Failure Unit}
    {k₁ k₁' : κ₁} {k₂ : κ₂}, C.kept k₁ k₂ →
    (C.first.callback uid digest k₁).Goes false body seen o k₁' →
    C.kept k₁' k₂ ∧ Ordinary o
  /-- Marking it. -/
  mark : ∀ y₁ y₂, S y₁ y₂ → (C.first.session.mark uid true).Ensures y₁ fun _ o z =>
    S z y₂ ∧ Ordinary o
  /-- Moving it. -/
  move : ∀ box y₁ y₂, S y₁ y₂ → (C.first.session.move uid box).Ensures y₁ fun _ o z =>
    S z y₂ ∧ Ordinary o

variable {C : Comparison σ₁ κ₁ σ₂ κ₂} {S : σ₁ → σ₂ → Prop} {uid : String}

/-- One round stages a candidate alone. -/
theorem apart_stageAndDeliver (h : C.Spares S uid) :
    Apart C S (C.first.stageAndDeliver uid : Work σ₁ κ₁ η₁ Outcome) := by
  intro b y k hf hs hk
  obtain ⟨hstate, hout⟩ := h.read b.about _ _ hs
  generalize hfilled : C.first.filled uid b.about b.session = f at hstate hout
  cases ho : f.offer with
  | error e =>
    obtain ⟨b', hr, hsession, hreceiver, hplays⟩ := Round.plays_unread C.first uid b hfilled ho
    refine ⟨.unreadable, b', _, _, ?_, hplays, ?_, rfl, hsession ▸ hstate, hreceiver ▸ hk⟩
    · rw [hr, Round.unreadOutcome, if_pos (Filled.isFault_of_offer hout ho)]
    · simp [scenes, Scene.uid?, Session.Call.uid?, h.picks]
  | ok p =>
    obtain ⟨n, m⟩ := p
    obtain ⟨-, ⟨body, hbody, -⟩, -⟩ := Round.offered_of_filled hfilled ho
    obtain ⟨digest, seen, o, b', hr, hsession, -, hplays, hgo⟩ :=
      Round.plays_offered C.first uid b hfilled ho hbody
    rw [hf] at hgo
    obtain ⟨hkept, hfault⟩ := h.callback hk hgo
    have hends : ∃ out, Round.verdictOutcome (Failure.awaited o) = .ok out := by
      rcases o with e | u
      · exact ⟨.rejected, if_pos (e.isFault_outOfCoroutine.trans hfault.isFault)⟩
      · exact ⟨.delivered, rfl⟩
    obtain ⟨out, hends⟩ := hends
    refine ⟨out, b', _, _, hr.trans (by rw [hends]), hplays, ?_, ?_, hsession ▸ hstate, hkept⟩
    · simp [scenes, Scene.uid?, Session.Call.uid?, h.picks]
    · simp [bodies, h.picks]

/-- One round processes a candidate alone. -/
theorem apart_process (h : C.Spares S uid) :
    Apart C S (C.first.process uid : Work σ₁ κ₁ η₁ Outcome) := by
  have hmove (box : String) : Apart C S (C.first.moveTo uid box : Work σ₁ κ₁ η₁ Unit) := by
    unfold Round.moveTo
    split
    · exact .idle (.pure ())
    · exact .absorbing h.picks (h.move box)
  refine .about _ (.bind (apart_stageAndDeliver h) fun out => .bind ?_ fun _ => .idle (.pure out))
  cases out with
  | delivered => exact .bind (.absorbing h.picks h.mark) fun _ => hmove _
  | rejected => exact hmove _
  | unreadable => exact .idle (.pure ())

end Comparison

end Mailroom
