import Mailroom.Proofs.Effects
import Mailroom.Proofs.Turns

/-!
# At most once

In rounds in which no call on the session fails, the callback accepts a message of the polled
mailbox at most once, whatever else it does. Once it accepted a message, every later listing passes
over it (`Store.PassesOver`): where only unseen messages are listed it was marked seen, and where
seen ones are listed too it was moved to the box for delivered messages. This needs that the mailbox
itself is not that box; if it is, and seen messages are listed too, a message is delivered again in
the next round (`Store.accepted_again`).
-/

namespace Mailroom.Store

variable {d : Settings.Delivery} {title mailbox uid : String} {s s' s'' : Store}

/-! ### Dwindling boxes -/

/-- From `s` to `s'` a box gets no new message, and no message of it becomes unseen. -/
structure Dwindles (mailbox : String) (s s' : Store) : Prop where
  /-- What listing answers is fixed as before, or not fixed as before. -/
  listing : s'.listing = s.listing
  /-- Every message in the box was there before, and is seen if it was seen. -/
  messages : ∀ m' ∈ s'.box mailbox, ∃ m ∈ s.box mailbox,
    m.uid = m'.uid ∧ (m.seen = true → m'.seen = true)
  /-- No uid occurs twice if none did. -/
  nodup : ((s.box mailbox).map (·.uid)).Nodup → ((s'.box mailbox).map (·.uid)).Nodup

namespace Dwindles

theorem of_eq (hl : s'.listing = s.listing) (hb : s'.box mailbox = s.box mailbox) :
    Dwindles mailbox s s' where
  listing := hl
  messages m hm := ⟨m, hb ▸ hm, rfl, id⟩
  nodup h := hb ▸ h

theorem trans (h : Dwindles mailbox s s') (k : Dwindles mailbox s' s'') :
    Dwindles mailbox s s'' where
  listing := k.listing.trans h.listing
  messages m'' hm'' := by
    obtain ⟨m', hm', huid', hseen'⟩ := k.messages m'' hm''
    obtain ⟨m, hm, huid, hseen⟩ := h.messages m' hm'
    exact ⟨m, hm, huid.trans huid', fun h => hseen' (hseen h)⟩
  nodup hn := k.nodup (h.nodup hn)

end Dwindles

theorem mem_of_mem_put {m x : Message} {ms : List Message} (h : x ∈ put m ms) : x = m ∨ x ∈ ms := by
  unfold put at h
  split at h
  · obtain ⟨y, hy, rfl⟩ := List.mem_map.mp h
    split
    · exact .inl rfl
    · exact .inr hy
  · exact (List.mem_append.mp h).symm.imp_left List.mem_singleton.mp

theorem nodup_put {m : Message} {ms : List Message} (h : (ms.map (·.uid)).Nodup) :
    ((put m ms).map (·.uid)).Nodup := by
  unfold put
  split
  · have huids : (ms.map fun x => if x.uid = m.uid then m else x).map (·.uid) = ms.map (·.uid) := by
      rw [List.map_map]
      refine List.map_congr_left fun x _ => ?_
      dsimp only [Function.comp]
      split
      · next hx => exact hx.symm
      · rfl
    rwa [huids]
  · next hany =>
    rw [List.map_append, List.nodup_append]
    refine ⟨h, by simp, ?_⟩
    simpa using hany

/-- Marking messages of the selected box seen lets it dwindle. -/
theorem dwindles_mark (uid : String) (hsel : s.selected = some mailbox) :
    Dwindles mailbox s (s.modifySelected
      (·.map fun m => if m.uid = uid then { m with seen := true } else m)) := by
  have hbox := box_modifySelected s
    (·.map fun m => if m.uid = uid then { m with seen := true } else m) mailbox
  rw [if_pos hsel] at hbox
  have huids (m : Message) :
      (if m.uid = uid then { m with seen := true } else m).uid = m.uid := by split <;> rfl
  refine ⟨listing_modifySelected .., fun m' hm' => ?_, fun hn => ?_⟩
  · rw [hbox] at hm'
    obtain ⟨m, hm, rfl⟩ := List.mem_map.mp hm'
    refine ⟨m, hm, (huids m).symm, fun hseen => ?_⟩
    split
    · rfl
    · exact hseen
  · rw [hbox, List.map_map]
    exact (List.map_congr_left fun m _ => huids m) ▸ hn

/-- Moving a message out of the selected box lets that dwindle, wherever the message goes. -/
theorem dwindles_move {m : Message} (uid name : String) (hsel : s.selected = some mailbox)
    (hm : m ∈ s.box mailbox) :
    Dwindles mailbox s ((s.modifySelected (·.filter (·.uid ≠ uid))).add name m) := by
  have hbox := box_add (s.modifySelected (·.filter (·.uid ≠ uid))) name m mailbox
  rw [box_modifySelected, if_pos hsel] at hbox
  have hkept : ((((s.box mailbox).filter (·.uid ≠ uid)).map (·.uid)).Sublist
      ((s.box mailbox).map (·.uid))) := List.filter_sublist.map _
  refine ⟨listing_modifySelected .., fun m' hm' => ⟨m', ?_, rfl, id⟩, fun hn => ?_⟩
  · -- A message that comes back to the same box was in it before.
    rw [hbox] at hm'
    split at hm'
    · rcases mem_of_mem_put hm' with rfl | hm'
      · exact hm
      · exact List.mem_of_mem_filter hm'
    · exact List.mem_of_mem_filter hm'
  · rw [hbox]
    split
    · exact nodup_put (hn.sublist hkept)
    · exact hn.sublist hkept

namespace Effect

variable {c : Session.Call} {a : Session.Answer}

/-- A call that clears no flag lets the selected box dwindle. -/
theorem dwindles (h : Effect s c a s') (hsel : s.selected = some mailbox)
    (hmark : ∀ uid, c ≠ .mark uid false) : Dwindles mailbox s s' := by
  cases h with
  | failed | connected | closed | listed | read => exact .of_eq rfl rfl
  | marked uid seen faults =>
    cases seen with
    | false => exact absurd rfl (hmark uid)
    | true =>
      refine .trans ?_ (dwindles_mark (s := { s with faults }) uid hsel)
      exact .of_eq rfl rfl
  | moved uid name faults hm =>
    rw [find?, hsel] at hm
    refine .trans ?_ (dwindles_move (s := { s with faults }) uid name hsel
      (List.mem_of_find?_eq_some hm))
    exact .of_eq rfl rfl

/-- A call about a message leaves the same box selected. -/
theorem selected_eq (h : Effect s c a s') (hc : c.uid? = some uid) :
    s'.selected = s.selected := by
  cases h with
  | failed | connected | read => rfl
  | closed | listed => cases hc
  | marked => exact selected_modifySelected ..
  | moved => exact selected_modifySelected ..

/-- Once a message is marked seen, it is seen. -/
theorem seen_of_mark (h : Effect s (.mark uid true) a s') (ha : ∀ f, a ≠ .failed f)
    (hsel : s.selected = some mailbox) : ∀ m ∈ s'.box mailbox, m.uid = uid → m.seen = true := by
  cases h with
  | failed _ f => exact absurd rfl (ha f)
  | marked =>
    intro m hm huid
    rw [box_modifySelected, if_pos hsel] at hm
    obtain ⟨m, -, rfl⟩ := List.mem_map.mp hm
    by_cases hmu : m.uid = uid
    · rw [if_pos hmu]
    · rw [if_neg hmu] at huid
      exact absurd huid hmu

/-- Once a message is moved to another box, it is no longer in the selected one. -/
theorem uid_ne_of_move {name : String} (h : Effect s (.move uid name) a s')
    (ha : ∀ f, a ≠ .failed f) (hsel : s.selected = some mailbox) (hname : name ≠ mailbox) :
    ∀ m ∈ s'.box mailbox, m.uid ≠ uid := by
  cases h with
  | failed _ f => exact absurd rfl (ha f)
  | moved =>
    intro m hm
    rw [box_add, if_neg hname.symm, box_modifySelected, if_pos hsel] at hm
    simpa using (List.mem_filter.mp hm).2

end Effect

/-- What is done for candidates lets the polled mailbox dwindle, by induction on the path. -/
theorem dwindles_of_path (last : Option Verdict) {uids : List String} {as : List Act}
    {t : List Step} (h : Path (session title) s as t s') (ho : Orderly d last as)
    (hw : ∀ a ∈ as, a.Within uids) (hsel : s.selected = some d.mailbox) :
    s'.selected = some d.mailbox ∧ Dwindles d.mailbox s s' := by
  induction h generalizing last with
  | stay => exact ⟨hsel, .of_eq rfl rfl⟩
  | aside _ _ ih => exact ih _ ho hw hsel
  | @act _ _ _ a _ _ _ hp _ ih =>
    rw [List.forall_mem_cons] at hw
    cases a with
    | call c a =>
      obtain ⟨uid, -, hc⟩ := hw.1
      have heffect := effect_of_does hp.does
      have hmark : ∀ uid, c ≠ .mark uid false := by
        rintro uid rfl
        cases ho.1.1
      obtain ⟨hsel', hd⟩ := ih _ ho.2 hw.2 ((heffect.selected_eq hc).trans hsel)
      exact ⟨hsel', (heffect.dwindles hsel hmark).trans hd⟩
    | finish =>
      obtain ⟨-, rfl⟩ := hp.of_finish
      exact ih _ ho.2 hw.2 hsel
    | deliver =>
      obtain ⟨-, rfl⟩ := hp.of_deliver
      exact ih _ ho.2 hw.2 hsel

/-! ### Messages that are passed over -/

/-- If a message with this uid is in the polled mailbox at all, it is seen, and only unseen ones are
listed; so listings pass over it. -/
def PassesOver (d : Settings.Delivery) (s : Store) (uid : String) : Prop :=
  ∀ m ∈ s.box d.mailbox, m.uid = uid → d.includeSeen = false ∧ m.seen = true

theorem PassesOver.mono (h : PassesOver d s uid) (hd : Dwindles d.mailbox s s') :
    PassesOver d s' uid := by
  intro m' hm' huid
  obtain ⟨m, hm, hmm', hseen⟩ := hd.messages m' hm'
  obtain ⟨hd, hm⟩ := h m hm (hmm'.trans huid)
  exact ⟨hd, hseen hm⟩

theorem PassesOver.not_mem_listed (h : PassesOver d s uid) (hl : s.listing = none)
    (pattern : String) : uid ∉ s.listed d.mailbox pattern d.includeSeen := by
  intro hu
  rw [listed, hl] at hu
  obtain ⟨m, hm, rfl⟩ := List.mem_map.mp hu
  obtain ⟨hm, hlisted⟩ := List.mem_filter.mp hm
  obtain ⟨hd, hseen⟩ := h m hm rfl
  simp [isListed, hd, hseen] at hlisted

/-- No call among acts fails. -/
def Unfailing (as : List Act) : Prop := ∀ c f, Act.call c (.failed f) ∉ as

/-- Once a delivered message is relocated, listings pass over it. -/
theorem passesOver_of_relocation {as : List Act} {t : List Step} {o : Except Failure Unit}
    (h : Round.Relocation d uid .delivered as o) (hp : Path (session title) s as t s')
    (hsel : s.selected = some d.mailbox) (hcalm : Unfailing as)
    (hbox : d.includeSeen = true → d.outbox ≠ d.mailbox) : PassesOver d s' uid := by
  cases h with
  | cutMarking => exact absurd List.mem_cons_self (hcalm _ _)
  | @delivered a as _ _ h =>
    obtain ⟨v, w, s₁, hmark, hpath, -⟩ := hp.cons_inv
    have hmarked := effect_of_does hmark.does
    have hsel₁ : s₁.selected = some d.mailbox := (hmarked.selected_eq rfl).trans hsel
    have hseen : ∀ m ∈ s₁.box d.mailbox, m.uid = uid → m.seen = true := by
      refine hmarked.seen_of_mark ?_ hsel
      rintro f rfl
      exact hcalm _ f List.mem_cons_self
    cases h with
    | stay hout =>
      obtain ⟨rfl, -⟩ := hpath.nil_inv
      exact fun m hm huid => ⟨by simp [Settings.Delivery.includeSeen, hout], hseen m hm huid⟩
    | move hout a =>
      obtain ⟨v, hmove, -⟩ := hpath.single_inv
      have hmoved := effect_of_does hmove.does
      cases hinclude : d.includeSeen with
      | false =>
        have hpasses : PassesOver d s₁ uid := fun m hm huid => ⟨hinclude, hseen m hm huid⟩
        exact hpasses.mono (hmoved.dwindles hsel₁ fun _ => Session.Call.noConfusion)
      | true =>
        -- Seen messages are listed too, but the message leaves the mailbox.
        have hgone : ∀ m ∈ s'.box d.mailbox, m.uid ≠ uid := by
          refine hmoved.uid_ne_of_move ?_ hsel₁ (hbox hinclude)
          rintro f rfl
          exact hcalm _ f (List.mem_cons_of_mem _ List.mem_cons_self)
        exact fun m hm huid => absurd huid (hgone m hm)

/-! ### Candidates -/

theorem Unfailing.left {as bs : List Act} (h : Unfailing (as ++ bs)) : Unfailing as :=
  fun c f hm => h c f (List.mem_append_left bs hm)

theorem Unfailing.right {as bs : List Act} (h : Unfailing (as ++ bs)) : Unfailing bs :=
  fun c f hm => h c f (List.mem_append_right as hm)

/-- A candidate that the callback accepts is passed over from then on. -/
theorem passesOver_of_block {as : List Act} {t : List Step} {o : Except Failure Outcome}
    {u : String} (h : Round.Block d uid as o) (hp : Path (session title) s as t s')
    (hsel : s.selected = some d.mailbox) (hcalm : Unfailing as)
    (hbox : d.includeSeen = true → d.outbox ≠ d.mailbox) (hu : (u, none) ∈ handed as) :
    PassesOver d s' u := by
  cases h with
  | @whole as bs out _ h k =>
    obtain ⟨s₁, t₁, t₂, hp₁, hp₂, rfl⟩ := hp.append_inv
    obtain ⟨hsel₁, -⟩ := dwindles_of_path none hp₁ h.orderly
      (h.within (List.mem_singleton_self uid)) hsel
    rw [handed_append, k.handed_eq, List.append_nil] at hu
    cases h with
    | delivered =>
      obtain ⟨rfl, -⟩ := Prod.mk.inj (List.mem_singleton.mp hu)
      exact passesOver_of_relocation k hp₂ hsel₁ hcalm.right hbox
    | unread | unfinished | rejected => simp [handed, Act.verdict?] at hu
  | cutHandover h => cases h <;> simp [handed, Act.verdict?] at hu

/-- Candidates that the callback accepts are passed over, by induction on the candidates. -/
theorem passesOver_of_blocks {uids : List String} {as : List Act} {t : List Step}
    {o : Except Failure (List Outcome)} {u : String} (h : Round.Blocks d uids as o)
    (hp : Path (session title) s as t s') (hsel : s.selected = some d.mailbox)
    (hcalm : Unfailing as) (hbox : d.includeSeen = true → d.outbox ≠ d.mailbox)
    (hu : (u, none) ∈ handed as) : PassesOver d s' u := by
  induction h generalizing s t with
  | nil => cases hu
  | @cons uid uids as bs _ _ h k ih =>
    obtain ⟨s₁, t₁, t₂, hp₁, hp₂, rfl⟩ := hp.append_inv
    obtain ⟨hsel₁, -⟩ := dwindles_of_path none hp₁ h.orderly
      (h.within (List.mem_singleton_self uid)) hsel
    rw [handed_append] at hu
    rcases List.mem_append.mp hu with hu | hu
    · obtain ⟨-, hd⟩ := dwindles_of_path none hp₂ k.orderly
        (k.within fun _ h => h) hsel₁
      exact (passesOver_of_block h hp₁ hsel hcalm.left hbox hu).mono hd
    · exact ih hp₂ hsel₁ hcalm.right hu
  | cut h => exact passesOver_of_block h hp hsel hcalm hbox hu

/-! ### Rounds -/

/-- The candidates that the callback accepted. -/
def accepted (vs : List Verdict) : List String :=
  vs.filterMap fun v => if v.2.isNone then some v.1 else none

@[simp] theorem accepted_append (vs ws : List Verdict) :
    accepted (vs ++ ws) = accepted vs ++ accepted ws := List.filterMap_append

theorem mem_accepted {vs : List Verdict} {u : String} : u ∈ accepted vs ↔ (u, none) ∈ vs := by
  simp [accepted]

theorem accepted_of_handover {as : List Act} {o : Except Failure Outcome}
    (h : Round.Handover uid as o) : (accepted (handed as)).Sublist [uid] := by
  cases h with
  | delivered => exact .refl [uid]
  | unread | unfinished | rejected | cutReading | cutDelivery => exact List.nil_sublist [uid]

theorem accepted_of_block {as : List Act} {o : Except Failure Outcome}
    (h : Round.Block d uid as o) : (accepted (handed as)).Sublist [uid] := by
  cases h with
  | whole h k =>
    rw [handed_append, k.handed_eq, List.append_nil]
    exact accepted_of_handover h
  | cutHandover h => exact accepted_of_handover h

/-- Each candidate is accepted at most as often as it is listed, by induction on the candidates. -/
theorem accepted_of_blocks {uids : List String} {as : List Act}
    {o : Except Failure (List Outcome)} (h : Round.Blocks d uids as o) :
    (accepted (handed as)).Sublist uids := by
  induction h with
  | nil => exact .slnil
  | cons h _ ih =>
    rw [handed_append, accepted_append]
    exact (accepted_of_block h).append ih
  | cut h => exact (accepted_of_block h).trans (List.sublist_append_left [_] _)

theorem attempts_of_unfailing {fragile : Bool} {left : Nat} {as : List Act}
    {o : Except Failure Unit} (h : Round.Attempts fragile left as o) (hcalm : Unfailing as) :
    as = [.call .connect .done] ∧ o = .ok () := by
  cases h with
  | connected => exact ⟨rfl, rfl⟩
  | exhausted | again | cutAttempt | cutWait => exact absurd List.mem_cons_self (hcalm _ _)

/-- A round in which no call fails connects at once, lists candidates, processes them and closes. -/
theorem acts_of_unfailing {κ : Type} {r : Round Store κ} {fragile : Bool} {as : List Act}
    {o : Except Failure RoundResult} (h : r.Protocol fragile as o) (hcalm : Unfailing as) :
    ∃ uids bs a o', as = .call .connect .done :: .call (Round.listing r.settings) (.listing uids) ::
      (bs ++ [.call (.close true) a]) ∧ Round.Blocks r.settings uids bs o' := by
  cases h with
  | unconnected _ h | cutConnecting _ h => cases (attempts_of_unfailing h hcalm).2
  | @closed _ _ _ a h k _ =>
    obtain ⟨rfl, -⟩ := attempts_of_unfailing h hcalm.left
    cases k with
    | unlisted | cutListing => exact absurd List.mem_cons_self (hcalm.right.left _ _)
    | listed hb => exact ⟨_, _, a, _, rfl, hb⟩
  | cutClosing => exact absurd List.mem_cons_self (hcalm.right.right _ _)

/-- What holds of a store after verdicts among calls that did not fail. -/
structure Settled (d : Settings.Delivery) (s : Store) (vs : List Verdict) : Prop where
  /-- What listing answers is not fixed. -/
  listing : s.listing = none
  /-- No uid occurs twice in the polled mailbox. -/
  nodup : ((s.box d.mailbox).map (·.uid)).Nodup
  /-- The callback accepted nothing twice. -/
  once : (accepted vs).Nodup
  /-- What it accepted is passed over. -/
  passed : ∀ u ∈ accepted vs, PassesOver d s u

namespace Settled

variable {vs : List Verdict}

/-- A listing repeats no uid. -/
theorem nodup_listed (h : Settled d s vs) (pattern : String) (includeSeen : Bool) :
    (s.listed d.mailbox pattern includeSeen).Nodup := by
  rw [listed, h.listing]
  exact h.nodup.sublist (List.filter_sublist.map _)

/-- Changes of the faults and of what is selected leave a store settled. -/
theorem of_eq (h : Settled d s vs) (hl : s'.listing = s.listing)
    (hb : s'.box d.mailbox = s.box d.mailbox) : Settled d s' vs where
  listing := hl.trans h.listing
  nodup := hb ▸ h.nodup
  once := h.once
  passed u hu := (h.passed u hu).mono (.of_eq hl hb)

/-- Processing what was listed leaves a store settled. -/
theorem blocks {as : List Act} {t : List Step} {o : Except Failure (List Outcome)}
    (hs : Settled d s vs)
    (h : Round.Blocks d (s.listed d.mailbox d.pattern d.includeSeen) as o)
    (hp : Path (session title) s as t s') (hsel : s.selected = some d.mailbox)
    (hcalm : Unfailing as) (hbox : d.includeSeen = true → d.outbox ≠ d.mailbox) :
    Settled d s' (vs ++ handed as) := by
  obtain ⟨-, hd⟩ := dwindles_of_path none hp h.orderly
    (h.within fun _ hu => hu) hsel
  have hsub := accepted_of_blocks h
  refine ⟨hd.listing.trans hs.listing, hd.nodup hs.nodup, ?_, fun u hu => ?_⟩
  · -- What was accepted before is not listed now.
    rw [accepted_append]
    refine List.nodup_append.mpr ⟨hs.once, (hs.nodup_listed _ _).sublist hsub, ?_⟩
    rintro u hu _ hu' rfl
    exact (hs.passed u hu).not_mem_listed hs.listing d.pattern (hsub.subset hu')
  · rw [accepted_append] at hu
    rcases List.mem_append.mp hu with hu | hu
    · exact (hs.passed u hu).mono hd
    · exact passesOver_of_blocks h hp hsel hcalm hbox (mem_accepted.mp hu)

/-- A round in which no call fails leaves a store settled. -/
theorem round {κ : Type} {r : Round Store κ} {fragile : Bool} {as : List Act} {t : List Step}
    {o : Except Failure RoundResult} (hs : Settled r.settings s vs) (h : r.Protocol fragile as o)
    (hp : Path (session title) s as t s') (hcalm : Unfailing as)
    (hbox : r.settings.includeSeen = true → r.settings.outbox ≠ r.settings.mailbox) :
    Settled r.settings s' (vs ++ handed as) := by
  obtain ⟨uids, bs, a, o', rfl, hblocks⟩ := acts_of_unfailing h hcalm
  obtain ⟨_, _, s₁, hconnect, hp, -⟩ := hp.cons_inv
  obtain ⟨_, _, s₂, hlist, hp, -⟩ := hp.cons_inv
  obtain ⟨s₃, _, _, hp, hclose, -⟩ := hp.append_inv
  obtain ⟨_, hclose, -⟩ := hclose.single_inv
  have hcalm' : Unfailing bs := fun c f hm => hcalm c f (by simp [hm])
  have hs₁ : Settled r.settings s₁ vs := by
    cases effect_of_does hconnect.does with
    | connected => exact hs.of_eq rfl rfl
  have hs₃ : Settled r.settings s₃ (vs ++ handed bs) := by
    cases effect_of_does hlist.does with
    | listed _ _ _ faults =>
      let s₂ : Store := { s₁ with faults, selected := some r.settings.mailbox }
      have hs₂ : Settled r.settings s₂ vs := hs₁.of_eq rfl rfl
      exact hs₂.blocks hblocks hp rfl hcalm' hbox
  have hhanded : handed (.call .connect .done :: .call (Round.listing r.settings) (.listing uids) ::
      (bs ++ [.call (.close true) a])) = handed bs := by
    simp [handed, Act.verdict?, List.filterMap_cons]
  rw [hhanded]
  cases effect_of_does hclose.does with
  | failed | closed => exact hs₃.of_eq rfl rfl

end Settled

/-- No call in a record failed. -/
def Smooth (t : List Step) : Prop := ∀ step ∈ t, step.isFailedCall = false

instance : DecidablePred Smooth := fun t => inferInstanceAs (Decidable (∀ step ∈ t, _))

theorem Smooth.left {t u : List Step} (h : Smooth (t ++ u)) : Smooth t :=
  fun step hm => h step (List.mem_append_left u hm)

theorem Smooth.right {t u : List Step} (h : Smooth (t ++ u)) : Smooth u :=
  fun step hm => h step (List.mem_append_right t hm)

theorem Smooth.unfailing {as : List Act} {t : List Step} (h : Smooth t)
    (hp : Path (session title) s as t s') : Unfailing as := by
  intro c f hm
  have hstep : Step.answer (.failed f) ∈ talk t := by
    rw [hp.talk_eq]
    exact List.mem_flatMap.mpr ⟨_, hm, by simp [Act.steps]⟩
  cases h _ (List.mem_filter.mp hstep).1

/-- **At most once**: whatever the callback does, and however many rounds there are, if no call on
the session fails, then the callback accepts no message of the polled mailbox twice, and no later
listing answers one that it accepted. Only where seen messages are listed too does this need
anything of the settings, namely that delivered messages go to another mailbox. -/
theorem accepted_once {κ η : Type} {rs : List (Round Store κ)}
    (hrs : ∀ r ∈ rs, r.session = session title ∧ r.settings = d)
    (hbox : d.includeSeen = true → d.outbox ≠ d.mailbox) {b : Bench Store κ η}
    (hlisting : b.session.listing = none)
    (hnodup : ((b.session.box d.mailbox).map (·.uid)).Nodup) :
    ∃ t, (runFrom (Round.inTurn rs) b).2.steps = b.steps ++ t ∧ (Smooth t →
      (accepted (verdicts t)).Nodup ∧ ∀ u ∈ accepted (verdicts t), ∀ pattern,
        u ∉ (runFrom (Round.inTurn rs) b).2.session.listed d.mailbox pattern d.includeSeen) := by
  have hkept : ∃ t, (runFrom (Round.inTurn rs) b).2.steps = b.steps ++ t ∧
      (Smooth t → Settled d (runFrom (Round.inTurn rs) b).2.session (verdicts t)) := by
    refine Round.inTurn_keeps (I := fun b' : Bench Store κ η =>
      ∃ t, b'.steps = b.steps ++ t ∧ (Smooth t → Settled d b'.session (verdicts t))) ?_ ?_
    · rintro r hr b' ⟨t, ht, hall⟩
      obtain ⟨hsession, rfl⟩ := hrs r hr
      obtain ⟨as, u, hu, hpath, hprotocol⟩ := r.run_path b'
      rw [hsession] at hpath
      refine ⟨t ++ u, by rw [hu, ht, List.append_assoc], fun hsmooth => ?_⟩
      rw [verdicts_append, hpath.verdicts_eq]
      exact (hall hsmooth.left).round hprotocol hpath (hsmooth.right.unfailing hpath) hbox
    · exact ⟨[], (List.append_nil _).symm, fun _ =>
        ⟨hlisting, hnodup, .nil, fun u hu => by cases hu⟩⟩
  obtain ⟨t, ht, hall⟩ := hkept
  refine ⟨t, ht, fun hsmooth => ⟨(hall hsmooth).once, fun u hu pattern => ?_⟩⟩
  exact ((hall hsmooth).passed u hu).not_mem_listed (hall hsmooth).listing pattern

/-- Two rounds on two messages of which the callback accepts one, which is moved, and rejects the
other, which comes back to the polled mailbox. -/
theorem accepted_once_moved :
    let d : Settings.Delivery := ⟨"INBOX", "", "Done", "INBOX", 1, 10, 0, .sha256⟩
    let s : Store := ⟨[("INBOX", [⟨"7", .empty, "report", false⟩, ⟨"8", .empty, "report", true⟩])],
      [], [], none, 1, none⟩
    let r : Round Store Unit := ⟨session "mail", fun uid _ =>
      .done (if uid = "7" then .ok () else .error (.plain .os "no")), d, none, none, .usual⟩
    let b := (runFrom (Round.inTurn [r, r]) (Bench.start s () ())).2
    verdicts b.steps = [("7", none), ("8", some (.plain .os "no")), ("8", some (.plain .os "no"))] ∧
      "7" ∉ b.session.listed "INBOX" "" true := by
  intro d s r b
  have hrs : ∀ r' ∈ [r, r], r'.session = session "mail" ∧ r'.settings = d := by simp [r]
  obtain ⟨t, ht, hall⟩ := accepted_once (b := (Bench.start s () () : Bench Store Unit Unit)) hrs
    (by decide) rfl (by decide)
  have hverdicts : verdicts b.steps =
    [("7", none), ("8", some (.plain .os "no")), ("8", some (.plain .os "no"))] := by
    decide +kernel
  have hsmooth : Smooth b.steps := by decide +kernel
  obtain rfl : b.steps = t := ht
  refine ⟨hverdicts, (hall hsmooth).2 "7" ?_ ""⟩
  rw [mem_accepted, hverdicts]
  exact List.mem_cons_self

/-- Two rounds with settings under which delivered messages go to the polled mailbox itself, while
seen messages are listed too. No call fails, and the callback accepts the same message twice. -/
theorem accepted_again :
    let d : Settings.Delivery := ⟨"INBOX", "", "INBOX", "Err", 1, 300, 1048576, .sha1⟩
    let m : Message := ⟨"7", .empty, "report", false⟩
    let r : Round Store Unit := ⟨session "mail", fun _ _ => .done (.ok ()), d, none, none, .usual⟩
    let b := (runFrom (Round.inTurn [r, r])
      (Bench.start ⟨[("INBOX", [m])], [], [], none, 1, none⟩ () ())).2
    Settings.Delivery.read [("outbox", .text "INBOX"), ("errbox", .text "Err")] [] = .ok d ∧
      Smooth b.steps ∧ accepted (verdicts b.steps) = ["7", "7"] := by
  intro d m r b
  exact ⟨by rfl, by decide +kernel, by decide +kernel⟩

end Mailroom.Store
