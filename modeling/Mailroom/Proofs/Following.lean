import Mailroom.Proofs.Filling
import Mailroom.Proofs.Handling

/-!
# Work that follows a plan

`Leads s b as b'` says that the bench goes from `b` to `b'` along a path of the session `s` by the
acts `as`, with exactly that path added to the record. A plan relates acts to an outcome, and
`Follows s fragile x plan` says that the work `x` always leads from one bench to another by acts
that the plan allows for its outcome; there is one rule for each way of putting work together. Work
`Aside` does no act and cannot fail. It is `Quiet` when it leaves the spools alone too; the
callback's share of a delivery is quiet, whatever it does.

`fragile` is whether waits are cancelled from outside. Nothing that a round does changes it.
-/

namespace Mailroom

variable {σ κ η α β : Type}

/-- The bench goes along a path of the session by some acts. -/
structure Leads (s : Session σ) (b : Bench σ κ η) (as : List Act) (b' : Bench σ κ η) : Prop where
  /-- Waits are cancelled from outside as before. -/
  fragile : b'.fragile = b.fragile
  /-- The record of the path is what is added to the record. -/
  path : ∃ t, b'.steps = b.steps ++ t ∧ Path s b.session as t b'.session

theorem Leads.refl (s : Session σ) (b : Bench σ κ η) : Leads s b [] b :=
  ⟨rfl, [], (List.append_nil _).symm, .stay _⟩

theorem Leads.trans {s : Session σ} {b₁ b₂ b₃ : Bench σ κ η} {as bs : List Act}
    (h : Leads s b₁ as b₂) (k : Leads s b₂ bs b₃) : Leads s b₁ (as ++ bs) b₃ := by
  obtain ⟨t, ht, hp⟩ := h.path
  obtain ⟨u, hu, hq⟩ := k.path
  exact ⟨k.fragile.trans h.fragile, t ++ u, by rw [hu, ht, List.append_assoc], hp.append hq⟩

theorem Leads.of_steps {s : Session σ} {b b' : Bench σ κ η} {t : List Step}
    (hf : b'.fragile = b.fragile) (hs : b'.session = b.session) (ht : b'.steps = b.steps ++ t)
    (ha : ∀ m ∈ t, m.isAside = true) : Leads s b [] b' :=
  ⟨hf, t, ht, hs ▸ .of_aside _ ha⟩

theorem Leads.of_act {s : Session σ} {b b' : Bench σ κ η} {a : Act} {t : List Step}
    (hf : b'.fragile = b.fragile) (ht : b'.steps = b.steps ++ t)
    (ha : s.Performs a b.session t b'.session) : Leads s b [a] b' :=
  ⟨hf, t, ht, .of_act ha⟩

/-- Without acts the session stays and the record shows steps aside only. -/
theorem Leads.nil_inv {s : Session σ} {b b' : Bench σ κ η} (h : Leads s b [] b') :
    b'.session = b.session ∧ ∃ t, b'.steps = b.steps ++ t ∧ ∀ m ∈ t, m.isAside = true := by
  obtain ⟨t, ht, hp⟩ := h.path
  obtain ⟨hs, ha⟩ := hp.nil_inv
  exact ⟨hs, t, ht, ha⟩

/-! ### Quiet work -/

/-- The bench stays as it is, but for notes in the record. -/
structure Notes (b b' : Bench σ κ η) : Prop where
  /-- Waits are cancelled from outside as before. -/
  fragile : b'.fragile = b.fragile
  /-- The session stays. -/
  session : b'.session = b.session
  /-- Only notes are added to the record. -/
  steps : ∃ t, b'.steps = b.steps ++ t ∧ ∀ m ∈ t, m.isNote = true

theorem Notes.refl (b : Bench σ κ η) : Notes b b :=
  ⟨rfl, rfl, [], (List.append_nil _).symm, by simp⟩

theorem Notes.leads {b b' : Bench σ κ η} (h : Notes b b') (s : Session σ) : Leads s b [] b' := by
  obtain ⟨t, ht, hn⟩ := h.steps
  exact .of_steps h.fragile h.session ht fun m hm => Step.isAside_of_isNote (hn m hm)

/-- The work does no act, leaves the spools alone, and cannot fail. -/
def Quiet (x : Work σ κ η α) : Prop :=
  ∀ b : Bench σ κ η, ∃ a b', runFrom x b = (.ok a, b') ∧ Notes b b'

namespace Quiet

theorem get : Quiet (get : Work σ κ η (Bench σ κ η)) := fun b => ⟨b, b, rfl, .refl b⟩

theorem record {step : Step} (h : step.isNote = true) : Quiet (Work.record step : Work σ κ η _) :=
  fun _ => ⟨(), _, rfl, rfl, rfl, [step], rfl, by simpa using h⟩

end Quiet

theorem Idles.notes {b b' : Bench σ κ η} (h : Idles b b') : Notes b b' := by
  obtain ⟨t, ht, hi⟩ := h.steps
  exact ⟨h.fragile, h.session, t, ht, fun m hm => Step.isNote_of_isIdle (hi m hm)⟩

theorem Idle.quiet {x : Work σ κ η α} (hx : Idle x) : Quiet x := by
  intro b
  obtain ⟨a, b', hr, hi⟩ := hx b
  exact ⟨a, b', hr, hi.notes⟩

theorem Quiet.log (e : Event) : Quiet (Work.log e : Work σ κ η _) := (Idle.log e).quiet

/-- A wait leaves notes only; it fails only where waits are cancelled from outside. -/
theorem notes_wait (seconds : Float) (b : Bench σ κ η) :
    Notes b (runFrom (Work.wait seconds) b).2 ∧
      ((runFrom (Work.wait seconds) b).1 = .ok () ∨
        b.fragile = true ∧ (runFrom (Work.wait seconds) b).1 = .error Work.cutOff) :=
  ⟨(idles_wait seconds b).1.notes, (idles_wait seconds b).2⟩

/-! ### Work aside -/

/-- The work does no act and cannot fail. -/
def Aside (x : Work σ κ η α) : Prop :=
  ∀ (s : Session σ) (b : Bench σ κ η), ∃ a b', runFrom x b = (.ok a, b') ∧ Leads s b [] b'

theorem Quiet.aside {x : Work σ κ η α} (hx : Quiet x) : Aside x := by
  intro s b
  obtain ⟨a, b', hr, hn⟩ := hx b
  exact ⟨a, b', hr, hn.leads s⟩

namespace Aside

theorem showSpool (m : Staged) : Aside (Work.showSpool m : Work σ κ η _) := fun _ _ =>
  ⟨(), _, rfl, .of_steps (t := [.spool m.uid !m.spool.closed]) rfl rfl rfl
    (by simp [Step.isAside, Step.isTalk, Step.wire?])⟩

theorem bind {x : Work σ κ η α} {k : α → Work σ κ η β} (hx : Aside x) (hk : ∀ a, Aside (k a)) :
    Aside (x >>= k) := by
  intro s b
  obtain ⟨a, b₁, hr, hl⟩ := hx s b
  obtain ⟨c, b₂, hr', hl'⟩ := hk a s b₁
  exact ⟨c, b₂, by rw [runFrom_bind_ok hr, hr'], hl.trans hl'⟩

theorem release (m : Staged) : Aside (Work.release m : Work σ κ η _) := by
  have hlog : Aside (m.release.2.forM Work.log : Work σ κ η PUnit) :=
    (Idle.forM Idle.log _).quiet.aside
  unfold Work.release
  dsimp only
  split
  · exact bind (showSpool _) fun _ => hlog
  · exact hlog

end Aside

/-! ### Plans -/

/-- Which acts go with which outcome. -/
abbrev Plan (α : Type) : Type := List Act → Except Failure α → Prop

/-- One plan after the other, unless the first ends in a failure. -/
def Plan.andThen (p : Plan α) (q : α → Plan β) : Plan β := fun as o =>
  (∃ a bs cs, as = bs ++ cs ∧ p bs (.ok a) ∧ q a cs o) ∨ ∃ f, o = .error f ∧ p as (.error f)

/-- The work leads along a path by acts that the plan allows for its outcome. -/
def Follows (s : Session σ) (fragile : Bool) (x : Work σ κ η α) (plan : Plan α) : Prop :=
  ∀ b : Bench σ κ η, b.fragile = fragile →
    ∃ as, Leads s b as (runFrom x b).2 ∧ plan as (runFrom x b).1

namespace Follows

variable {s : Session σ} {fragile : Bool} {x : Work σ κ η α} {p : Plan α}

theorem mono {q : Plan α} (h : Follows s fragile x p) (hpq : ∀ as o, p as o → q as o) :
    Follows s fragile x q := by
  intro b hb
  obtain ⟨as, hl, hp⟩ := h b hb
  exact ⟨as, hl, hpq as _ hp⟩

theorem pure {a : α} (h : p [] (.ok a)) : Follows s fragile (pure a : Work σ κ η α) p :=
  fun b _ => ⟨[], .refl s b, h⟩

theorem of_quiet (hx : Quiet x) (h : ∀ a, p [] (.ok a)) : Follows s fragile x p := by
  intro b _
  obtain ⟨a, b', hr, hn⟩ := hx b
  rw [hr]
  exact ⟨[], hn.leads s, h a⟩

theorem throw {f : Failure} (h : p [] (.error f)) :
    Follows s fragile (throw f : Work σ κ η α) p :=
  fun b _ => ⟨[], .refl s b, h⟩

theorem giveBack {r : Except Failure α} (h : p [] r) :
    Follows s fragile (Work.giveBack r : Work σ κ η α) p := by
  intro b _
  rw [Work.runFrom_giveBack]
  exact ⟨[], .refl s b, h⟩

theorem bind {k : α → Work σ κ η β} {q : α → Plan β} (hx : Follows s fragile x p)
    (hk : ∀ a, (∃ as, p as (.ok a)) → Follows s fragile (k a) (q a)) :
    Follows s fragile (x >>= k) (p.andThen q) := by
  intro b hb
  obtain ⟨as, hl, hp⟩ := hx b hb
  rcases hr : runFrom x b with ⟨f | a, b'⟩ <;> rw [hr] at hl hp
  · rw [runFrom_bind_error hr]
    exact ⟨as, hl, .inr ⟨f, rfl, hp⟩⟩
  · obtain ⟨bs, hl', hq⟩ := hk a ⟨as, hp⟩ b' (hl.fragile.trans hb)
    rw [runFrom_bind_ok hr]
    exact ⟨as ++ bs, hl.trans hl', .inl ⟨a, as, bs, rfl, hp, hq⟩⟩

theorem aside_bind {y : Work σ κ η β} {k : β → Work σ κ η α} (hy : Aside y)
    (hk : ∀ a, Follows s fragile (k a) p) : Follows s fragile (y >>= k) p := by
  intro b hb
  obtain ⟨a, b', hr, hl⟩ := hy s b
  obtain ⟨bs, hl', hp⟩ := hk a b' (hl.fragile.trans hb)
  rw [runFrom_bind_ok hr]
  exact ⟨bs, hl.trans hl', hp⟩

theorem quiet_bind {y : Work σ κ η β} {k : β → Work σ κ η α} (hy : Quiet y)
    (hk : ∀ a, Follows s fragile (k a) p) : Follows s fragile (y >>= k) p :=
  .aside_bind hy.aside hk

theorem settle (hx : Follows s fragile x p) :
    Follows s fragile (settle x) fun as o => ∃ r, o = .ok r ∧ p as r := by
  intro b hb
  obtain ⟨as, hl, hp⟩ := hx b hb
  exact ⟨as, hl, _, rfl, hp⟩

theorem about (subject : Subject) (hx : Follows s fragile x p) :
    Follows s fragile (Work.about subject x) p := by
  intro b hb
  obtain ⟨as, hl, hp⟩ := hx { b with about := some subject } hb
  rw [Work.runFrom_about]
  exact ⟨as, ⟨hl.fragile, hl.path⟩, hp⟩

/-- What is handled is an ordinary failure; any other outcome goes through. -/
theorem handling {handler : Failure → Work σ κ η α} {q : Failure → Plan α}
    (hx : Follows s fragile x p)
    (hh : ∀ f, f.isFault = true → Follows s fragile (handler f) (q f)) :
    Follows s fragile (Work.handling x handler) fun as o =>
      (∃ a, o = .ok a ∧ p as (.ok a)) ∨ (∃ f, f.isFault = false ∧ o = .error f ∧ p as (.error f)) ∨
        ∃ f bs cs, f.isFault = true ∧ as = bs ++ cs ∧ p bs (.error f) ∧ q f cs o := by
  intro b hb
  obtain ⟨as, hl, hp⟩ := hx b hb
  rw [Work.runFrom_handling]
  rcases hr : runFrom x b with ⟨f | a, b'⟩ <;> rw [hr] at hl hp
  · cases hf : f.isFault with
    | false => exact ⟨as, by simpa [hf] using hl, .inr (.inl ⟨f, hf, by simp [hf], hp⟩)⟩
    | true =>
      simp only [hf, if_true]
      obtain ⟨bs, hl', hq⟩ := hh f hf b' (hl.fragile.trans hb)
      exact ⟨as ++ bs, hl.trans hl', .inr (.inr ⟨f, as, bs, hf, rfl, hp, hq⟩)⟩
  · exact ⟨as, hl, .inl ⟨a, rfl, hp⟩⟩

/-- A call is an act, and ends as the answer says. -/
theorem call {c : Session.Call} {shown : α → Session.Answer} {op : Session.Op σ α}
    (h : ∀ x a xs y, op.Carries shown x a xs y → s.Does c x a xs y) :
    Follows s fragile (Work.call c shown op : Work σ κ η α) fun as o =>
      as = [.call c (.of shown o)] := by
  intro b _
  rw [Work.runFrom_call]
  generalize hr : runFrom op ⟨b.session, []⟩ = r
  obtain ⟨o, y, rs⟩ := r
  have hw : wires (rs.map (Work.ofRemark b.about)) = rs.filterMap Remark.exchange? := by
    rw [wires, List.filterMap_map]
    congr 1
    funext r
    cases r <;> rfl
  have ht : ∀ m ∈ rs.map (Work.ofRemark b.about), m.isTalk = false := by
    simp only [List.mem_map, forall_exists_index, and_imp, forall_apply_eq_imp_iff₂]
    intro r _
    cases r <;> rfl
  have hd : s.Does c b.session (.of shown o) (wires (rs.map (Work.ofRemark b.about))) y :=
    h _ _ _ _ ⟨o, rs, hr, rfl, hw⟩
  exact ⟨_, .of_act rfl (by simp) (.call hd ht), rfl⟩

end Follows

/-- A wait does no act; it fails only where waits are cancelled from outside. -/
theorem follows_wait (s : Session σ) (fragile : Bool) (seconds : Float) :
    Follows s fragile (Work.wait seconds : Work σ κ η Unit) fun as o =>
      as = [] ∧ (o = .ok () ∨ fragile = true ∧ o = .error Work.cutOff) := by
  intro b hb
  obtain ⟨hn, ho⟩ := notes_wait seconds b
  exact ⟨[], hn.leads s, rfl, hb ▸ ho⟩

/-! ### Messages and callbacks -/

/-- Reading a body is an act, and ends as the answer says. -/
theorem follows_read (s : Session σ) (fragile : Bool) (uid : String) (m : Staged) :
    Follows s fragile (Work.read s uid m : Work σ κ η (Except Failure Int × Staged)) fun as o =>
      ∃ size m', as = [.call (.readBody uid) (.of .count size)] ∧ o = .ok (size, m') := by
  intro b _
  generalize hf : (s.readBody uid b.session).fill b.about m = f
  have hends : (s.readBody uid b.session).Ends (wires f.record) f.outcome f.state :=
    hf ▸ Streaming.ends_fill b.about _ m
  have htalk : ∀ n ∈ f.record, n.isTalk = false := by
    subst hf
    exact fun n hn => Step.isTalk_of_isReading (Streaming.isReading_of_mem_fill hn)
  rw [Work.runFrom_read s uid m b hf]
  exact ⟨_, .of_act rfl rfl (.call ⟨_, hends, rfl⟩ htalk), _, _, rfl, rfl⟩

/-- A callback shows no act of its own and always comes to an end. -/
theorem Quiet.handle (h : Handling κ) (body : Spool) :
    Quiet (Work.handle h body : Work σ κ η (Except Failure Unit × Spool)) := by
  intro b
  obtain ⟨o, body', b', t, seen, hr, hat, -⟩ := Work.runFrom_handle h body b
  exact ⟨(o, body'), b', hr, hat.fragile, hat.session, t, hat.steps, hat.notes⟩

end Mailroom
