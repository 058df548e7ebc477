import Mailroom.Proofs.Effects
import Mailroom.Proofs.Turns

/-!
# At least once

No message gets lost between the in-memory store and the callback. The operations of the store leave
a message where it is unless they mark or move a message with its uid (`Store.mem_box_of_does`), and
a round marks and moves on verdicts only. So a message that was unseen in the polled mailbox is
still there and unseen after any number of rounds, unless the callback accepted it, or rejected it
while there is a box for rejected messages (`Store.unseen_or_handled`). Faults may come in any call,
cancellations among them.
-/

namespace Mailroom.Store

open Imap (Exchange)

/-! ### What calls leave in a box -/

variable {m : Message} {mailbox : String} {s : Store}

theorem mem_put {m' : Message} (h : m.uid ≠ m'.uid) {ms : List Message} (hm : m ∈ ms) :
    m ∈ put m' ms := by
  unfold put
  split
  · exact List.mem_map.mpr ⟨m, hm, if_neg h⟩
  · exact List.mem_append_left _ hm

theorem mem_box_modifySelected {f : List Message → List Message} (hf : ∀ ms, m ∈ ms → m ∈ f ms)
    (hm : m ∈ s.box mailbox) : m ∈ (s.modifySelected f).box mailbox := by
  rw [box_modifySelected]
  split
  · exact hf _ hm
  · exact hm

/-- A call leaves a message in its box, unless it marks or moves a message with that uid. -/
theorem mem_box_of_does {title : String} {c : Session.Call} {a : Session.Answer}
    {xs : List Exchange} {s' : Store} (h : (session title).Does c s a xs s')
    (hmark : ∀ seen, c ≠ .mark m.uid seen) (hmove : ∀ name, c ≠ .move m.uid name)
    (hm : m ∈ s.box mailbox) : m ∈ s'.box mailbox := by
  cases effect_of_does h with
  | failed | connected | closed | listed | read => exact hm
  | marked uid seen faults =>
    have huid : m.uid ≠ uid := fun hu => hmark seen (hu ▸ rfl)
    refine mem_box_modifySelected (fun ms hms => ?_) hm
    exact List.mem_map.mpr ⟨m, hms, if_neg huid⟩
  | moved uid name faults hfound =>
    have huid : m.uid ≠ uid := fun hu => hmove name (hu ▸ rfl)
    have hkept := mem_box_modifySelected (s := { s with faults }) (f := (·.filter (·.uid ≠ uid)))
      (fun ms hms => List.mem_filter.mpr ⟨hms, by simpa using huid⟩) hm
    rw [box_add]
    split
    · exact mem_put (by rwa [uid_of_find? hfound]) hkept
    · exact hkept

/-! ### Through rounds -/

/-- The messages of a box that are unseen. -/
def unseen (s : Store) (mailbox : String) : List Message := (s.box mailbox).filter fun m => !m.seen

/-- The callback got a candidate and accepted it, or rejected it while there is a box for rejected
messages. -/
def Handled (d : Settings.Delivery) (uid : String) (t : List Step) : Prop :=
  ∃ failure, (uid, failure) ∈ verdicts t ∧ (failure = none ∨ d.errbox ≠ "")

variable {d : Settings.Delivery} {title : String}

theorem Handled.append_right {uid : String} {t : List Step} (h : Handled d uid t) (u : List Step) :
    Handled d uid (t ++ u) := by
  obtain ⟨failure, hv, hd⟩ := h
  exact ⟨failure, by simp [hv], hd⟩

theorem Handled.append_left {uid : String} {u : List Step} (h : Handled d uid u) (t : List Step) :
    Handled d uid (t ++ u) := by
  obtain ⟨failure, hv, hd⟩ := h
  exact ⟨failure, by simp [hv], hd⟩

/-- A warranted act leaves a message in its box, unless the last verdict was about it. -/
theorem mem_box_of_performs {last : Option Verdict} {act : Act} {t : List Step} {s' : Store}
    (h : (session title).Performs act s t s') (hw : act.Warranted d last)
    (hm : m ∈ s.box mailbox) : m ∈ s'.box mailbox ∨
      ∃ failure, last = some (m.uid, failure) ∧ (failure = none ∨ d.errbox ≠ "") := by
  cases h with
  | @call _ _ _ c a hd _ =>
    by_cases hmark : ∃ seen, c = .mark m.uid seen
    · obtain ⟨seen, rfl⟩ := hmark
      exact .inr ⟨none, hw.2, .inl rfl⟩
    by_cases hmove : ∃ name, c = .move m.uid name
    · obtain ⟨name, rfl⟩ := hmove
      obtain ⟨failure, hlast, rfl, hbox⟩ := hw
      cases failure with
      | none => exact .inr ⟨none, hlast, .inl rfl⟩
      | some f => exact .inr ⟨some f, hlast, .inr hbox⟩
    exact .inl (mem_box_of_does hd (fun seen hc => hmark ⟨seen, hc⟩)
      (fun name hc => hmove ⟨name, hc⟩) hm)
  | finish => exact .inl hm
  | deliver => exact .inl hm

/-- Along a path of warranted acts a message stays, or is handled, or was handled last before, by
induction on the path. -/
theorem mem_box_of_path {last : Option Verdict} {as : List Act} {t : List Step} {s' : Store}
    (h : Path (session title) s as t s') (ho : Orderly d last as) (hm : m ∈ s.box mailbox) :
    m ∈ s'.box mailbox ∨ Handled d m.uid t ∨
      ∃ failure, last = some (m.uid, failure) ∧ (failure = none ∨ d.errbox ≠ "") := by
  induction h generalizing last with
  | stay => exact .inl hm
  | @aside _ _ _ t step _ _ ih =>
    rcases ih ho hm with hm' | ht | hlast
    · exact .inl hm'
    · exact .inr (.inl (ht.append_left [step]))
    · exact .inr (.inr hlast)
  | @act _ _ _ a as t u hp _ ih =>
    obtain ⟨hw, ho⟩ := ho
    rcases mem_box_of_performs hp hw hm with hm | hlast
    · rcases ih ho hm with hm' | hu | ⟨failure, hlast, hd⟩
      · exact .inl hm'
      · exact .inr (.inl (hu.append_left t))
      · -- The verdict that came last is the one of this act, or was the last one before.
        cases hv : a.verdict? with
        | none =>
          rw [hv] at hlast
          exact .inr (.inr ⟨failure, hlast, hd⟩)
        | some v =>
          rw [hv] at hlast
          cases hlast
          have ht : Handled d m.uid t := ⟨failure, by simp [hp.verdicts_eq, hv], hd⟩
          exact .inr (.inl (ht.append_right u))
    · exact .inr (.inr hlast)

/-- One round leaves an unseen message where it is, or handles it. -/
theorem mem_box_of_run {κ η : Type} {r : Round Store κ} (hsession : r.session = session title)
    (b : Bench Store κ η) : ∃ t,
      (runFrom (r.run : Work Store κ η RoundResult) b).2.steps = b.steps ++ t ∧
        ∀ m ∈ b.session.box mailbox,
          m ∈ (runFrom (r.run : Work Store κ η RoundResult) b).2.session.box mailbox ∨
            Handled r.settings m.uid t := by
  obtain ⟨as, t, ht, hpath, hprotocol⟩ := r.run_path b
  refine ⟨t, ht, fun m hm => ?_⟩
  rw [hsession] at hpath
  have ho : Orderly r.settings none as := hprotocol.orderly
  rcases mem_box_of_path hpath ho hm with hm' | ht | ⟨_, ⟨⟩, _⟩
  · exact .inl hm'
  · exact .inr ht

/-- Rounds in turn leave a message where it is, or handle it in one of them. -/
theorem mem_box_of_inTurn {κ η : Type} {rs : List (Round Store κ)}
    (hrs : ∀ r ∈ rs, r.session = session title ∧ r.settings = d) (mailbox : String)
    (b : Bench Store κ η) : ∃ t, (runFrom (Round.inTurn rs) b).2.steps = b.steps ++ t ∧
      ∀ m ∈ b.session.box mailbox,
        m ∈ (runFrom (Round.inTurn rs) b).2.session.box mailbox ∨ Handled d m.uid t := by
  refine Round.inTurn_keeps (I := fun b' : Bench Store κ η => ∃ t, b'.steps = b.steps ++ t ∧
    ∀ m ∈ b.session.box mailbox, m ∈ b'.session.box mailbox ∨ Handled d m.uid t) ?_ ?_
  · rintro r hr b' ⟨t, ht, hall⟩
    obtain ⟨hsession, rfl⟩ := hrs r hr
    obtain ⟨u, hu, hrun⟩ := mem_box_of_run hsession b'
    refine ⟨t ++ u, by rw [hu, ht, List.append_assoc], fun m hm => ?_⟩
    rcases hall m hm with hm | hm
    · exact (hrun m hm).imp_right fun h => h.append_left t
    · exact .inr (hm.append_right u)
  · exact ⟨[], (List.append_nil _).symm, fun m hm => .inl hm⟩

/-- An unseen message is what a listing of unseen messages answers, unless its answer is fixed. -/
theorem uid_mem_listed {pattern : String} (hs : s.listing = none) (hm : m ∈ s.unseen mailbox)
    (hp : Text.hasInfix pattern.toList m.subject.toList = true) :
    m.uid ∈ s.listed mailbox pattern false := by
  obtain ⟨hbox, hseen⟩ := List.mem_filter.mp hm
  rw [listed, hs]
  exact List.mem_map.mpr ⟨m, List.mem_filter.mpr ⟨hbox, by simp [isListed, hp, hseen]⟩, rfl⟩

/-- **At least once**: whatever the callback does, whichever faults are due in whichever calls, and
however many rounds there are, a message that was unseen in the polled mailbox is handled in one of
them, or is still there and unseen, and then the next listing of unseen messages answers it. -/
theorem unseen_or_handled {κ η : Type} {rs : List (Round Store κ)}
    (hrs : ∀ r ∈ rs, r.session = session title ∧ r.settings = d) (b : Bench Store κ η) :
    ∃ t, (runFrom (Round.inTurn rs) b).2.steps = b.steps ++ t ∧
      ∀ m ∈ b.session.unseen d.mailbox, Handled d m.uid t ∨
        m ∈ (runFrom (Round.inTurn rs) b).2.session.unseen d.mailbox ∧
          ∀ pattern, (runFrom (Round.inTurn rs) b).2.session.listing = none →
            Text.hasInfix pattern.toList m.subject.toList = true →
            m.uid ∈ (runFrom (Round.inTurn rs) b).2.session.listed d.mailbox pattern false := by
  obtain ⟨t, ht, hall⟩ := mem_box_of_inTurn hrs d.mailbox b
  refine ⟨t, ht, fun m hm => ?_⟩
  obtain ⟨hbox, hseen⟩ := List.mem_filter.mp hm
  rcases hall m hbox with hm' | hm'
  · have hunseen : m ∈ (runFrom (Round.inTurn rs) b).2.session.unseen d.mailbox :=
      List.mem_filter.mpr ⟨hm', hseen⟩
    exact .inr ⟨hunseen, fun pattern hs hp => uid_mem_listed hs hunseen hp⟩
  · exact .inl hm'

/-- Two rounds on a message whose body cannot be read, with a callback that is cancelled whenever it
gets one. -/
theorem unseen_or_handled_unreadable :
    let m : Message := ⟨"7", .empty, "report", false⟩
    let d : Settings.Delivery := ⟨"INBOX", "", "Done", "", 1, 10, 0, .sha256⟩
    let s : Store := ⟨[("INBOX", [m])],
      [(.read "7", [some ⟨⟨.plain .os "gone", none⟩, true⟩])], [], none, 1, none⟩
    let r : Round Store Unit :=
      ⟨session "mail", fun _ _ k => .done (.error (.plain .cancelled "")) k, d, none, none, .usual⟩
    ∃ t, (runFrom (Round.inTurn [r, r]) (Bench.start s () ())).2.steps = t ∧
      (Handled d "7" t ∨
        m ∈ (runFrom (Round.inTurn [r, r]) (Bench.start s () ())).2.session.unseen "INBOX") := by
  intro m d s r
  have hrs : ∀ r' ∈ [r, r], r'.session = session "mail" ∧ r'.settings = d := by simp [r]
  obtain ⟨t, ht, hall⟩ := unseen_or_handled hrs (Bench.start s () ())
  have hm : m ∈ s.unseen "INBOX" := by simp [unseen, box, s, m]
  exact ⟨t, ht, (hall m hm).imp_right And.left⟩

end Mailroom.Store
