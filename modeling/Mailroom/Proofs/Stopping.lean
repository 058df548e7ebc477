import Mailroom.Proofs.Bookkeeping

/-!
# How long a shutdown lasts

A poller whose loop has ended is stopping, and one whose run has ended has stopped; the probes then
say that it is neither alive nor ready. How long does that last? Requests to stop and signals change
nothing about it, and the poller never starts again. But it is not for good: a round that is entered
later makes the poller running or degraded again (`Poller.shutdown_ends`), as it does at any time.

So a shutdown lasts until a round is entered, and that takes a use which began after it and is there
to enter rounds (`Poller.shutdown_lasts`). The argument is on the deeds alone: rounds are entered
only while such a use is under way (`Poller.Attended`), and a shutdown ends the use in which it
happens.
-/

namespace Mailroom.Poller

variable {σ κ : Type}

/-! ### Uses that enter rounds -/

/-- Whether a use that enters rounds is under way after a deed, if it was before. -/
def Deed.opens (o : Bool) : Deed → Bool
  | begun op => op.enters
  | stopping | stopped => false
  | round .. | broken _ | entered _ => o

/-- Rounds are entered only while a use is under way that enters rounds; at first there is one or
not. -/
def Attended : Bool → List Deed → Prop
  | _, [] => True
  | o, d :: ds => (d.result?.isSome = true → o = true) ∧ Attended (d.opens o) ds

theorem attended_append {o : Bool} {ds es : List Deed} :
    Attended o (ds ++ es) ↔ Attended o ds ∧ Attended (ds.foldl Deed.opens o) es := by
  induction ds generalizing o with
  | nil => simp [Attended]
  | cons d ds ih => simp [Attended, ih, and_assoc]

/-- In a run, nothing but rounds happens before its end. -/
theorem attended_rounds {ds : List Deed} (h : ∀ d ∈ ds, d.isRound = true) : Attended true ds := by
  induction ds with
  | nil => trivial
  | cons d ds ih =>
    have hopens : d.opens true = true := by
      have hround := h d List.mem_cons_self
      cases d with
      | round | broken | entered => rfl
      | begun | stopping | stopped => cases hround
    constructor
    · exact fun _ => rfl
    · rw [hopens]
      exact ih fun d' hd' => h d' (List.mem_cons_of_mem d hd')

/-- What is done in a use is attended by it. -/
theorem Op.Does.attended {op : Op} {ds : List Deed} (h : op.Does ds) : Attended op.enters ds := by
  cases op with
  | run alarms plan serving fuel =>
    obtain ⟨rounds, hrounds, rfl⟩ := h
    exact attended_append.mpr ⟨attended_rounds hrounds, nofun, nofun, trivial⟩
  | once =>
    obtain ⟨d, hround, rfl⟩ := h
    exact attended_rounds (by simpa using hround)
  | record result =>
    obtain rfl : ds = [.entered result] := h
    exact ⟨fun _ => rfl, trivial⟩
  | stop | signal =>
    obtain rfl : ds = [] := h
    trivial

/-- In a history every round is attended, by induction on the uses. -/
theorem History.attended {ops : List Op} {ds : List Deed} (h : History ops ds) (o : Bool) :
    Attended o ds := by
  induction h generalizing o with
  | nil => trivial
  | use hdoes _ ih => exact ⟨nofun, attended_append.mpr ⟨hdoes.attended, ih _⟩⟩
  | @cut op ops ds hrun hrounds =>
    have henters : op.enters = true := by
      cases op with
      | run => rfl
      | once | record | stop | signal => cases hrun
    refine ⟨nofun, ?_⟩
    rw [show Deed.opens o (.begun op) = true from henters]
    exact attended_rounds hrounds

/-- While no use is under way, a round is entered only in one that begins. -/
theorem Attended.begun {ds : List Deed} (h : Attended false ds) (hne : results ds ≠ []) :
    ∃ op, .begun op ∈ ds ∧ op.enters = true := by
  induction ds with
  | nil => exact absurd rfl hne
  | cons d ds ih =>
    obtain ⟨hhere, hrest⟩ := h
    cases d with
    | begun op =>
      by_cases henters : op.enters = true
      · exact ⟨op, List.mem_cons_self, henters⟩
      · have hidle : Deed.opens false (.begun op) = false := Bool.eq_false_iff.mpr henters
        rw [hidle] at hrest
        obtain ⟨op', hmem, henters'⟩ := ih hrest hne
        exact ⟨op', List.mem_cons_of_mem _ hmem, henters'⟩
    | round | entered => cases hhere rfl
    | broken | stopping | stopped =>
      obtain ⟨op, hmem, henters⟩ := ih hrest hne
      exact ⟨op, List.mem_cons_of_mem _ hmem, henters⟩

/-! ### The status after a shutdown -/

variable {p : Poller σ κ} {b b' : Bench σ κ Ledger} {d : Deed} {ds : List Deed} {l : Ledger}

/-- The status is that of a poller whose loop or run has ended. -/
def IsDown (l : Ledger) : Prop := l.status = .stopping ∨ l.status = .stopped

theorem isDown_apply (h : d.isShutdown = true) (l : Ledger) : IsDown (d.apply l) := by
  cases d with
  | stopping => exact .inl rfl
  | stopped => exact .inr rfl
  | begun | round | broken | entered => cases h

/-- A deed that enters nothing leaves the poller shut down. -/
theorem IsDown.apply (h : IsDown l) (hd : d.result? = none) : IsDown (d.apply l) := by
  cases d with
  | stopping => exact .inl rfl
  | stopped => exact .inr rfl
  | begun | broken => exact h
  | round | entered => cases hd

/-- After a round a poller is running or degraded. -/
theorem status_enter (l : Ledger) (result : RoundResult) :
    (l.enter result).status = .running ∨ (l.enter result).status = .degraded := by
  unfold Ledger.enter
  by_cases hok : result.ok = true
  · exact .inl (if_pos hok)
  · exact .inr (if_neg hok)

theorem not_isDown_enter (l : Ledger) (result : RoundResult) : ¬IsDown (l.enter result) := by
  unfold IsDown
  rcases status_enter l result with hs | hs <;> simp [hs]

/-- No deed makes a poller start. -/
theorem started_apply (h : l.status ≠ .starting) (d : Deed) : (d.apply l).status ≠ .starting := by
  cases d with
  | begun | broken => exact h
  | stopping | stopped => exact nofun
  | round result | entered result =>
    show (l.enter result).status ≠ .starting
    rcases status_enter l result with hs | hs <;> simp [hs]

/-- The poller is shut down as long as nothing is entered, by induction on the deeds. -/
theorem IsDown.foldl (h : IsDown l) (hnone : results ds = []) : IsDown (ds.foldl Deed.apply l) := by
  induction ds generalizing l with
  | nil => exact h
  | cons d ds ih =>
    cases hd : d.result? with
    | none =>
      rw [results, List.filterMap_cons_none hd] at hnone
      exact ih (h.apply hd) hnone
    | some result =>
      rw [results, List.filterMap_cons_some hd] at hnone
      cases hnone

/-- Conversely, a poller is shut down only if it was at first or a loop or a run has ended. -/
theorem IsDown.of_foldl (h : IsDown (ds.foldl Deed.apply l)) :
    IsDown l ∨ ∃ d ∈ ds, d.isShutdown = true := by
  induction ds generalizing l with
  | nil => exact .inl h
  | cons d ds ih =>
    rcases ih h with hdown | ⟨d', hmem, hd'⟩
    · cases d with
      | begun | broken => exact .inl hdown
      | round result | entered result => exact absurd hdown (not_isDown_enter l result)
      | stopping | stopped => exact .inr ⟨_, List.mem_cons_self, rfl⟩
    · exact .inr ⟨d', List.mem_cons_of_mem d hmem, hd'⟩

theorem started_foldl (h : l.status ≠ .starting) (ds : List Deed) :
    (ds.foldl Deed.apply l).status ≠ .starting := by
  induction ds generalizing l with
  | nil => exact h
  | cons d ds ih => exact ih (started_apply h d)

theorem IsDown.started (h : IsDown l) : l.status ≠ .starting := by
  rcases h with h | h <;> rw [h] <;> exact nofun

/-- What the probes say of a poller that is shut down. -/
theorem IsDown.health (h : IsDown l) (s : Settings.Poller) :
    (Probe.answer s l "GET" "/health").code = 503 := by
  rw [answer_health, Probe.health]
  rcases h with h | h <;> rw [h] <;> rfl

theorem IsDown.ready (h : IsDown l) (s : Settings.Poller) :
    Probe.answer s l "GET" "/ready" = ⟨503, some (.object [("ready", false)])⟩ := by
  rw [answer_ready, Probe.ready]
  rcases h with h | h <;> rw [h] <;> rfl

/-- What is left of a shutdown after some more deeds. -/
structure Lasting (p : Poller σ κ) (ds : List Deed) (l : Ledger) : Prop where
  /-- The poller never starts again. -/
  started : l.status ≠ .starting
  /-- Until a round is entered it is shut down. -/
  down : results ds = [] → l.status = .stopping ∨ l.status = .stopped
  /-- Until then it is not alive. -/
  health : results ds = [] → (Probe.answer p.settings l "GET" "/health").code = 503
  /-- Until then it is not ready. -/
  ready : results ds = [] →
    Probe.answer p.settings l "GET" "/ready" = ⟨503, some (.object [("ready", false)])⟩
  /-- A round is entered only in a use that began after the shutdown to enter rounds. -/
  again : results ds ≠ [] → ∃ op, .begun op ∈ ds ∧ op.enters = true

/-- After a shutdown in the course of a history its marks are left. -/
theorem Chronicle.lasting {es fs : List Deed} (h : p.Chronicle b (es ++ d :: fs) b')
    (hattended : Attended false (es ++ d :: fs)) (hd : d.isShutdown = true) :
    p.Lasting fs b'.ledger := by
  have hdown : IsDown (d.apply (es.foldl Deed.apply b.ledger)) := isDown_apply hd _
  have hledger : b'.ledger = fs.foldl Deed.apply (d.apply (es.foldl Deed.apply b.ledger)) := by
    rw [h.ledger_eq, List.foldl_append, List.foldl_cons]
  have hlasts (hnone : results fs = []) : IsDown b'.ledger := by
    rw [hledger]
    exact hdown.foldl hnone
  refine ⟨?_, hlasts, ?_, ?_, ?_⟩
  · rw [hledger]
    exact started_foldl hdown.started fs
  · exact fun hnone => (hlasts hnone).health p.settings
  · exact fun hnone => (hlasts hnone).ready p.settings
  · have hclosed (o : Bool) : d.opens o = false := by
      cases d with
      | stopping | stopped => rfl
      | begun | round | broken | entered => cases hd
    have hrest := (attended_append.mp hattended).2.2
    rw [hclosed] at hrest
    exact hrest.begun

/-- **A shutdown lasts until a round is entered** in a later use that enters rounds, whatever uses a
poller is put to, and whatever session and callback do. At any moment on the way the poller is shut
down only if it was at first or a loop or a run has ended, and each time one ends that lasts. -/
theorem shutdown_lasts (p : Poller σ κ) (ops : List Op) (b : Bench σ κ Ledger) :
    ∃ ds, p.Chronicle b ds (runFrom (p.performAll ops) b).2 ∧ History ops ds ∧
      ∀ ds₁ ds₂, ds = ds₁ ++ ds₂ → ∃ b₁, p.Chronicle b ds₁ b₁ ∧
        p.Chronicle b₁ ds₂ (runFrom (p.performAll ops) b).2 ∧
        (IsDown b₁.ledger → IsDown b.ledger ∨ ∃ d ∈ ds₁, d.isShutdown = true) ∧
        ∀ es d fs, ds₁ = es ++ d :: fs → d.isShutdown = true → p.Lasting fs b₁.ledger := by
  obtain ⟨ds, hds, hhistory⟩ := p.chronicle_performAll ops b
  refine ⟨ds, hds, hhistory, ?_⟩
  rintro ds₁ ds₂ rfl
  obtain ⟨b₁, hbefore, hafter⟩ := hds.split
  have hattended : Attended false ds₁ := (attended_append.mp (hhistory.attended false)).1
  refine ⟨b₁, hbefore, hafter, ?_, ?_⟩
  · rw [hbefore.ledger_eq]
    exact IsDown.of_foldl
  · rintro es d fs rfl hd
    exact hbefore.lasting hattended hd

/-- A run ends after one round, and the poller has stopped. A single round later it is running
again, alive and ready. -/
theorem shutdown_ends :
    let d : Settings.Delivery := ⟨"INBOX", "", "", "", 1, 10, 64, .sha256⟩
    let p : Poller Store Unit := ⟨Store.session "mail", fun _ _ k => .done (.ok ()) k,
      ⟨"poller", 8080, d, ⟨3, 1, 60, 2⟩, ⟨"INFO", false⟩⟩, .usual⟩
    let s : Store := ⟨[("INBOX", [])], [], [], none, 4, none⟩
    let b : Bench Store Unit Ledger := .start s () (.fresh [])
    let stopped := runFrom (p.performAll [.run [] ⟨some 1, none⟩ (.ok ()) 5]) b
    let again := runFrom (p.performAll [.once]) stopped.2
    stopped.2.ledger.status = .stopped ∧ again.2.ledger.status = .running ∧
      (Probe.answer p.settings again.2.ledger "GET" "/health").code = 200 ∧
      (Probe.answer p.settings again.2.ledger "GET" "/ready").code = 200 := by
  intro d p s b stopped again
  have hstopped : stopped.2.ledger.status = .stopped := by decide +kernel
  have hagain : again.2.ledger.status = .running := by decide +kernel
  refine ⟨hstopped, hagain, ?_, ?_⟩
  · rw [answer_health, Probe.health, hagain]
    rfl
  · rw [answer_ready, Probe.ready, hagain]
    rfl

end Mailroom.Poller
