import Mathlib
import Mailroom.Proofs.Comparing
import Mailroom.Proofs.Postmaster

/-!
# Moving and copying

A server that cannot move letters is asked to copy them and to flag them as deleted, and closing the
mailbox removes them. In between the mailbox still holds letters that are gone elsewhere. A store
`Postbox.Trails` another one when it holds such letters and is the same otherwise; every request of
a round keeps it that way, and closing makes the stores equal. So a round ends alike, calls the
callback alike and leaves the same letters in every mailbox, whether or not the server can move
letters (`Client.run_agrees_without_move`).
-/

namespace Mailroom.Imap

/-! ### Letters that are gone -/

namespace Letter

theorem name_eq_iff (l : Letter) (n : Nat) : l.name = n.repr ↔ l.uid = n :=
  Nat.repr_inj

theorem isDeleted_iff (l : Letter) : l.isDeleted = true ↔ "\\Deleted" ∈ l.flags := by
  simp [isDeleted]

/-- Adding flags keeps those that are there. -/
theorem mem_flag {mode : String} (hmode : takesAway mode = false) (flags : List String) (l : Letter)
    (x : String) : x ∈ (l.flag mode flags).flags ↔ x ∈ l.flags ∨ x ∈ flags := by
  by_cases hx : x ∈ l.flags <;> simp [flag, hmode, hx]

end Letter

namespace Folder

/-- The folder without the letters that are gone. -/
def without (f : Folder) (gone : List Nat) : Folder := f.keep fun l => !gone.contains l.uid

/-- The letters that are gone are all flagged as deleted, and no letter will get their numbers. -/
structure Outlives (f : Folder) (gone : List Nat) : Prop where
  /-- They are flagged. -/
  flagged : ∀ l ∈ f.letters, l.uid ∈ gone → l.isDeleted = true
  /-- Their numbers are used up. -/
  used : ∀ n ∈ gone, n < f.next

variable {f : Folder} {gone : List Nat} {n : Nat}

theorem without_nil (f : Folder) : f.without [] = f :=
  Folder.ext (by simp [without, keep]) rfl

theorem find?_without (hn : n ∉ gone) : (f.without gone).find? n.repr = f.find? n.repr := by
  unfold find? without keep
  rw [List.find?_filter]
  congr 1
  funext l
  by_cases hl : l.uid = n
  · simp [l.name_eq_iff, hl, hn]
  · simp [l.name_eq_iff, hl]

theorem store_without (f : Folder) (gone : List Nat) (uid mode : String) (flags : List String) :
    (f.without gone).store uid mode flags = (f.store uid mode flags).without gone := by
  refine Folder.ext ?_ rfl
  show List.map _ (List.filter _ _) = List.filter _ (List.map _ _)
  rw [List.filter_map]
  congr 2
  funext l
  simp only [Function.comp_apply]
  split <;> rfl

theorem add_without (h : f.Outlives gone) (body : Bytes) (flags : List String) :
    (f.without gone).add body flags = (f.add body flags).without gone := by
  have hnext : f.next ∉ gone := fun hmem => Nat.lt_irrefl _ (h.used _ hmem)
  refine Folder.ext ?_ rfl
  show List.filter _ _ ++ [_] = List.filter _ (_ ++ [_])
  rw [List.filter_append]
  congr 1
  simp [hnext, without, keep]

/-- A letter that is flagged as deleted instead of being removed is gone as well. -/
theorem keep_without (f : Folder) (gone : List Nat) (n : Nat) (mode : String)
    (flags : List String) :
    (f.without gone).keep (fun l => l.name ≠ n.repr) =
      (f.store n.repr mode flags).without (n :: gone) := by
  have hkept : (fun l : Letter => !(n :: gone).contains l.uid) ∘
      (fun l => if l.name = n.repr then l.flag mode flags else l) =
      fun l => l.name ≠ n.repr && !gone.contains l.uid := by
    funext l
    by_cases hl : l.name = n.repr
    · simp [hl, (l.name_eq_iff n).mp hl]
    · have hne : l.uid ≠ n := fun he => hl ((l.name_eq_iff n).mpr he)
      simp [hl, hne]
  refine Folder.ext ?_ rfl
  show List.filter _ (List.filter _ _) = List.filter _ (List.map _ _)
  rw [List.filter_map, List.filter_filter, hkept]
  conv_lhs => rw [← List.map_id (List.filter _ _)]
  refine List.map_congr_left fun l hl => ?_
  have hne : l.name ≠ n.repr := by
    have hkeep := (List.mem_filter.mp hl).2
    simp only [Bool.and_eq_true, decide_eq_true_eq] at hkeep
    exact hkeep.1
  exact (if_neg hne).symm

/-- A number that is not used yet makes no difference. -/
theorem without_cons (h : f.next ≤ n) : f.without (n :: gone) = f.without gone := by
  refine Folder.ext (List.filter_congr fun l hl => ?_) rfl
  have hlt := uid_lt_next hl
  have hne : l.uid ≠ n := by omega
  simp [hne]

theorem expunge_without (h : f.Outlives gone) :
    (f.without gone).keep (fun l => !l.isDeleted) = f.keep fun l => !l.isDeleted := by
  refine Folder.ext ?_ rfl
  show List.filter _ (List.filter _ _) = List.filter _ _
  rw [List.filter_filter]
  refine List.filter_congr fun l hl => ?_
  by_cases hgone : l.uid ∈ gone
  · simp [h.flagged l hl hgone]
  · simp [hgone]

theorem of_mem_store {uid mode : String} {flags : List String} {l : Letter}
    (h : l ∈ (f.store uid mode flags).letters) :
    (∃ k ∈ f.letters, k.name = uid ∧ l = k.flag mode flags) ∨ l ∈ f.letters ∧ l.name ≠ uid := by
  obtain ⟨k, hk, rfl⟩ := List.mem_map.mp h
  by_cases hname : k.name = uid
  · exact .inl ⟨k, hk, hname, if_pos hname⟩
  · rw [if_neg hname]
    exact .inr ⟨hk, hname⟩

namespace Outlives

theorem nil (f : Folder) : f.Outlives [] := ⟨fun _ _ h => by simp at h, fun _ h => by simp at h⟩

theorem add (h : f.Outlives gone) (body : Bytes) (flags : List String) :
    (f.add body flags).Outlives gone := by
  refine ⟨fun l hl hgone => ?_, fun n hn => Nat.lt_succ_of_lt (h.used n hn)⟩
  rcases List.mem_append.mp hl with hl | hl
  · exact h.flagged l hl hgone
  · obtain rfl := List.mem_singleton.mp hl
    exact absurd (h.used _ hgone) (Nat.lt_irrefl _)

/-- Adding flags to a letter, by whatever name. -/
theorem store (h : f.Outlives gone) {mode : String} (hmode : Letter.takesAway mode = false)
    (uid : String) (flags : List String) : (f.store uid mode flags).Outlives gone := by
  refine ⟨fun l hl hgone => ?_, h.used⟩
  rcases of_mem_store hl with ⟨k, hk, -, rfl⟩ | ⟨hl, -⟩
  · have hdeleted := k.isDeleted_iff.mp (h.flagged k hk hgone)
    exact (Letter.isDeleted_iff _).mpr ((Letter.mem_flag hmode flags k _).mpr (.inl hdeleted))
  · exact h.flagged l hl hgone

/-- The letter that is flagged as deleted is gone. -/
theorem store_deleted (h : f.Outlives gone) (hn : n < f.next) {mode : String}
    (hmode : Letter.takesAway mode = false) :
    (f.store n.repr mode ["\\Deleted"]).Outlives (n :: gone) := by
  refine ⟨fun l hl hgone => ?_, List.forall_mem_cons.mpr ⟨hn, h.used⟩⟩
  rcases of_mem_store hl with ⟨k, -, -, rfl⟩ | ⟨hl, hname⟩
  · exact (Letter.isDeleted_iff _).mpr ((Letter.mem_flag hmode _ k _).mpr (.inr (by simp)))
  · have hne : l.uid ≠ n := fun he => hname ((l.name_eq_iff n).mpr he)
    exact h.flagged l hl ((List.mem_cons.mp hgone).resolve_left hne)

end Outlives

end Folder

/-! ### Stores that trail -/

namespace Postbox

/-- The store `q` trails the store `p`: the mailbox that is polled, which is selected, holds some
more letters, and nothing else differs. The candidates `uids` are still to come, so their letters
are not among those that are gone; and the boxes exist. -/
structure Trails (d : Settings.Delivery) (uids : List String) (p q : Postbox) : Prop where
  /-- The mailbox is selected. -/
  selected : q.selected = some d.mailbox
  /-- The boxes exist. -/
  boxes : ∀ box ∈ d.boxes, (q.folders box).isSome = true
  /-- No candidate comes twice. -/
  distinct : uids.Nodup
  /-- The letters that are gone. -/
  without : ∃ f gone, q.folders d.mailbox = some f ∧ f.Outlives gone ∧
    p = q.modify d.mailbox (·.without gone) ∧ ∀ uid ∈ uids, ∃ n, n ∉ gone ∧ uid = n.repr

namespace Trails

variable {d : Settings.Delivery} {uid : String} {uids rest : List String} {p q : Postbox}

/-- At first nothing is gone. -/
theorem refl (hs : q.selected = some d.mailbox)
    (hboxes : ∀ box ∈ d.boxes, (q.folders box).isSome = true) {f : Folder}
    (hf : q.folders d.mailbox = some f) {ns : List Nat} (hns : ns.Nodup) :
    Trails d (ns.map Nat.repr) q q := by
  have hwithout : q = q.modify d.mailbox (·.without []) := by
    calc q = q.modify d.mailbox fun f => f := (modify_id q d.mailbox).symm
      _ = q.modify d.mailbox (·.without []) := modify_congr hf f.without_nil.symm
  refine ⟨hs, hboxes, hns.map fun n m => Nat.repr_inj.mp, f, [], hf, .nil f, hwithout, ?_⟩
  intro uid huid
  obtain ⟨n, -, rfl⟩ := List.mem_map.mp huid
  exact ⟨n, List.not_mem_nil, rfl⟩

theorem selected_left (h : Trails d uids p q) : p.selected = some d.mailbox := by
  obtain ⟨f, gone, -, -, rfl, -⟩ := h.without
  exact h.selected

theorem isSome_folders_eq (h : Trails d uids p q) (name : String) :
    (p.folders name).isSome = (q.folders name).isSome := by
  obtain ⟨f, gone, -, -, rfl, -⟩ := h.without
  exact isSome_folders_modify q d.mailbox _ name

theorem isSome_current_right (h : Trails d uids p q) : q.current.isSome = true := by
  obtain ⟨f, gone, hf, -, -, -⟩ := h.without
  simp [current, h.selected, hf]

theorem isSome_current_left (h : Trails d uids p q) : p.current.isSome = true := by
  have hright := h.isSome_current_right
  rw [current, h.selected, Option.bind_some] at hright
  rw [current, h.selected_left, Option.bind_some, h.isSome_folders_eq, hright]

theorem isUid (h : Trails d uids p q) (huid : uid ∈ uids) : Postbox.isUid uid = true := by
  obtain ⟨f, gone, -, -, -, huids⟩ := h.without
  obtain ⟨n, -, rfl⟩ := huids uid huid
  exact isUid_repr n

/-- Fewer candidates are still to come. -/
theorem mono (h : Trails d uids p q) (hsub : rest.Sublist uids) : Trails d rest p q := by
  obtain ⟨f, gone, hf, hgone, hp, huids⟩ := h.without
  exact ⟨h.selected, h.boxes, h.distinct.sublist hsub,
    f, gone, hf, hgone, hp, fun uid huid => huids uid (hsub.subset huid)⟩

/-- A candidate that is still to come is there in both. -/
theorem letter?_eq (h : Trails d uids p q) (huid : uid ∈ uids) : p.letter? uid = q.letter? uid := by
  obtain ⟨f, gone, hf, -, hp, huids⟩ := h.without
  obtain ⟨n, hn, rfl⟩ := huids uid huid
  have hleft : p.folders d.mailbox = some (f.without gone) := by
    simp [hp, hf]
  rw [Postbox.letter?_eq h.selected_left hleft, Postbox.letter?_eq h.selected hf,
    Folder.find?_without hn]

/-- Flags are added to a letter in both. -/
theorem store (h : Trails d uids p q) {mode : String} (hmode : Letter.takesAway mode = false)
    (uid : String) (flags : List String) :
    Trails d uids (p.modifyCurrent (·.store uid mode flags))
      (q.modifyCurrent (·.store uid mode flags)) := by
  obtain ⟨f, gone, hf, hgone, hp, huids⟩ := h.without
  rw [modifyCurrent_eq h.selected_left, modifyCurrent_eq h.selected]
  refine ⟨h.selected, fun box hbox => ?_, h.distinct, f.store uid mode flags, gone, ?_,
    hgone.store hmode uid flags, ?_, huids⟩
  · rw [isSome_folders_modify]
    exact h.boxes box hbox
  · simp [hf]
  · rw [hp, modify_modify, modify_modify]
    exact modify_congr hf (f.store_without gone uid mode flags)

/-- A letter that is still to come is copied in both. -/
theorem copy (h : Trails d uids p q) (huid : uid ∈ uids) (box : String) :
    Trails d uids (p.copy uid box) (q.copy uid box) := by
  unfold Postbox.copy
  rw [h.letter?_eq huid]
  cases q.letter? uid with
  | none => exact h
  | some l =>
    show Trails d uids (p.modify box (·.add l.body l.flags)) (q.modify box (·.add l.body l.flags))
    obtain ⟨f, gone, hf, hgone, hp, huids⟩ := h.without
    have hboxes : ∀ b ∈ d.boxes,
        ((q.modify box (·.add l.body l.flags)).folders b).isSome = true := by
      intro b hb
      rw [isSome_folders_modify]
      exact h.boxes b hb
    -- The copy may go to the mailbox itself.
    by_cases hbox : box = d.mailbox
    · subst hbox
      refine ⟨h.selected, hboxes, h.distinct, f.add l.body l.flags, gone, by simp [hf],
        hgone.add l.body l.flags, ?_, huids⟩
      rw [hp, modify_modify, modify_modify]
      exact modify_congr hf (Folder.add_without hgone l.body l.flags)
    · have hmailbox : (q.modify box (·.add l.body l.flags)).folders d.mailbox = some f := by
        rw [folders_modify, if_neg (Ne.symm hbox), hf]
      refine ⟨h.selected, hboxes, h.distinct, f, gone, hmailbox, hgone, ?_, huids⟩
      rw [hp]
      exact modify_comm q (Ne.symm hbox) _ _

/-- A letter is removed in one and flagged as deleted in the other. -/
theorem remove (h : Trails d (uid :: rest) p q) :
    Trails d rest (p.modifyCurrent (·.keep fun l => l.name ≠ uid))
      (q.modifyCurrent (·.store uid "+FLAGS.SILENT" ["\\Deleted"])) := by
  obtain ⟨f, gone, hf, hgone, hp, huids⟩ := h.without
  obtain ⟨n, hn, rfl⟩ := huids uid List.mem_cons_self
  obtain ⟨hnew, hdistinct⟩ := List.nodup_cons.mp h.distinct
  have hmode : Letter.takesAway "+FLAGS.SILENT" = false := by decide
  rw [modifyCurrent_eq h.selected_left, modifyCurrent_eq h.selected]
  have hboxes : ∀ box ∈ d.boxes, ((q.modify d.mailbox
      (·.store n.repr "+FLAGS.SILENT" ["\\Deleted"])).folders box).isSome = true := by
    intro box hbox
    rw [isSome_folders_modify]
    exact h.boxes box hbox
  have hsame : p.modify d.mailbox (·.keep fun l => l.name ≠ n.repr) =
      (q.modify d.mailbox (·.store n.repr "+FLAGS.SILENT" ["\\Deleted"])).modify d.mailbox
        (·.without (n :: gone)) := by
    rw [hp, modify_modify, modify_modify]
    exact modify_congr hf (f.keep_without gone n _ _)
  by_cases hused : n < f.next
  · refine ⟨h.selected, hboxes, hdistinct, f.store n.repr "+FLAGS.SILENT" ["\\Deleted"], n :: gone,
      by simp [hf], hgone.store_deleted hused hmode, hsame, fun uid huid => ?_⟩
    obtain ⟨m, hm, rfl⟩ := huids uid (List.mem_cons_of_mem _ huid)
    refine ⟨m, fun hmem => ?_, rfl⟩
    rcases List.mem_cons.mp hmem with rfl | hmem
    · exact hnew huid
    · exact hm hmem
  · -- There is no such letter yet, so that its number may still be used.
    refine ⟨h.selected, hboxes, hdistinct, f.store n.repr "+FLAGS.SILENT" ["\\Deleted"], gone,
      by simp [hf], hgone.store hmode n.repr _, ?_,
      fun uid huid => huids uid (List.mem_cons_of_mem _ huid)⟩
    rw [hsame, modify_modify, modify_modify]
    exact modify_congr hf (Folder.without_cons (Nat.le_of_not_lt hused))

/-- Closing makes the stores equal. -/
theorem expunge_eq (h : Trails d uids p q) : p.expunge = q.expunge := by
  obtain ⟨f, gone, hf, hgone, hp, -⟩ := h.without
  unfold expunge
  rw [modifyCurrent_eq h.selected_left, modifyCurrent_eq h.selected, hp, modify_modify]
  exact modify_congr hf (Folder.expunge_without hgone)

end Trails

end Postbox

/-! ### Clients whose stores trail -/

namespace Client

variable {ρ₁ ρ₂ κ η₁ η₂ : Type} {srv₁ : Server ρ₁} {srv₂ : Server ρ₂} {search : Searching}
  {view₁ : ρ₁ → Postbox} {view₂ : ρ₂ → Postbox} {d : Settings.Delivery} {uid : String}
  {uids rest : List String}

/-- Two clients are connected and have a mailbox selected, and the store of the second one trails.
-/
structure Trailing (view₁ : ρ₁ → Postbox) (view₂ : ρ₂ → Postbox) (d : Settings.Delivery)
    (uids : List String) (c₁ : Client ρ₁) (c₂ : Client ρ₂) : Prop where
  /-- The first one is connected. -/
  connected₁ : c₁.connected = true
  /-- The second one is connected. -/
  connected₂ : c₂.connected = true
  /-- The first one has a mailbox selected. -/
  selected₁ : c₁.selected ≠ none
  /-- The second one has a mailbox selected. -/
  selected₂ : c₂.selected ≠ none
  /-- The stores. -/
  stores : (view₁ c₁.server).Trails d uids (view₂ c₂.server)

namespace Trailing

variable {c₁ y₁ : Client ρ₁} {c₂ y₂ : Client ρ₂}

theorem mono (h : Trailing view₁ view₂ d uids c₁ c₂) (hsub : rest.Sublist uids) :
    Trailing view₁ view₂ d rest c₁ c₂ :=
  ⟨h.connected₁, h.connected₂, h.selected₁, h.selected₂, h.stores.mono hsub⟩

/-- The servers come to keep other stores. -/
theorem reach (h : Trailing view₁ view₂ d uids c₁ c₂) {p q : Postbox} (h₁ : Reaches view₁ c₁ p y₁)
    (h₂ : Reaches view₂ c₂ q y₂) (ht : p.Trails d rest q) : Trailing view₁ view₂ d rest y₁ y₂ := by
  obtain ⟨server₁, rfl, rfl⟩ := h₁
  obtain ⟨server₂, rfl, rfl⟩ := h₂
  exact ⟨h.connected₁, h.connected₂, h.selected₁, h.selected₂, ht⟩

end Trailing

theorem mirrors_passOn {S : Client ρ₁ → Client ρ₂ → Prop} {c₁ : Client ρ₁} {c₂ : Client ρ₂}
    (h : S c₁ c₂) (fetched : Except Failure Bytes) :
    Streaming.Mirrors S (passOn fetched c₁) (passOn fetched c₂) := by
  cases fetched with
  | error f => exact .done _ h
  | ok body => exact .writeAll h (fun total => .done _ h) 0 _

/-- A candidate that is still to come is read alike. -/
theorem mirrors_readBody (h₁ : srv₁.Serves search view₁) (h₂ : srv₂.Serves search view₂)
    (huid : uid ∈ uids) {c₁ : Client ρ₁} {c₂ : Client ρ₂}
    (h : Trailing view₁ view₂ d uids c₁ c₂) :
    Streaming.Mirrors (Trailing view₁ view₂ d uids) (readBody srv₁ uid c₁)
      (readBody srv₂ uid c₂) := by
  have hgrants₁ : (view₁ c₁.server).grants srv₁.capabilities
      (.uid (.fetch uid "(BODY.PEEK[])") none) = true := by
    simp [Postbox.grants, h.stores.isSome_current_left, h.stores.isUid huid]
  have hgrants₂ : (view₂ c₂.server).grants srv₂.capabilities
      (.uid (.fetch uid "(BODY.PEEK[])") none) = true := by
    simp [Postbox.grants, h.stores.isSome_current_right, h.stores.isUid huid]
  obtain ⟨o₁, y₁, rs₁, hr₁, ho₁, hy₁⟩ := ensures_fetch_granted h₁ h.connected₁ hgrants₁ []
  obtain ⟨o₂, y₂, rs₂, hr₂, ho₂, hy₂⟩ := ensures_fetch_granted h₂ h.connected₂ hgrants₂ []
  have ho : o₁ = o₂ := by rw [ho₁, ho₂, h.stores.letter?_eq huid]
  rw [readBody_eq, readBody_eq, hr₁, hr₂, ho]
  exact .sayAll _ _ (mirrors_passOn (h.reach hy₁ hy₂ h.stores) o₂)

/-- A candidate that is still to come is marked alike. -/
theorem concur_mark (h₁ : srv₁.Serves search view₁) (h₂ : srv₂.Serves search view₂)
    (huid : uid ∈ uids) : Session.Op.Concur (Trailing view₁ view₂ d uids) (mark srv₁ uid true)
      (mark srv₂ uid true) (fun _ _ => Trailing view₁ view₂ d uids)
      (Trailing view₁ view₂ d uids) := by
  refine .of_ensures fun c₁ c₂ h => ?_
  have hgrants₁ : (view₁ c₁.server).grants srv₁.capabilities
      (.uid (.store uid "+FLAGS" "(\\Seen)") none) = true := by
    simp [Postbox.grants, h.stores.isSome_current_left, h.stores.isUid huid]
  have hgrants₂ : (view₂ c₂.server).grants srv₂.capabilities
      (.uid (.store uid "+FLAGS" "(\\Seen)") none) = true := by
    simp [Postbox.grants, h.stores.isSome_current_right, h.stores.isUid huid]
  refine ⟨_, _, ensures_mark_granted h₁ h.connected₁ hgrants₁,
    ensures_mark_granted h₂ h.connected₂ hgrants₂, ?_⟩
  rintro _ _ y₁ _ _ y₂ ⟨rfl, hy₁⟩ ⟨rfl, hy₂⟩
  exact .ok (h.reach hy₁ hy₂ (h.stores.store (by decide) uid _))

/-- The next candidate is moved by one server, and copied and flagged by the other. -/
theorem concur_move (h₁ : srv₁.Serves search view₁) (h₂ : srv₂.Serves search view₂)
    (hmove : srv₁.capabilities.contains "MOVE" = true)
    (hcopy : srv₂.capabilities.contains "MOVE" = false) {box : String} (hbox : box ∈ d.boxes) :
    Session.Op.Concur (Trailing view₁ view₂ d (uid :: rest)) (move srv₁ uid box) (move srv₂ uid box)
      (fun _ _ => Trailing view₁ view₂ d rest) (Trailing view₁ view₂ d rest) := by
  refine .of_ensures fun c₁ c₂ h => ?_
  have huid : Postbox.isUid uid = true := h.stores.isUid List.mem_cons_self
  have hcopied := h.stores.copy List.mem_cons_self box
  have hgrants₁ : (view₁ c₁.server).grants srv₁.capabilities
      (.uid (.move uid (quote box)) none) = true := by
    simp only [Postbox.grants, named_quote, h.stores.isSome_current_left, huid, hmove,
      h.stores.isSome_folders_eq, h.stores.boxes box hbox, Bool.and_self]
  have hgrants₂ : (view₂ c₂.server).grants srv₂.capabilities
      (.uid (.copy uid (quote box)) none) = true := by
    simp only [Postbox.grants, named_quote, h.stores.isSome_current_right, huid,
      h.stores.boxes box hbox, Bool.and_self]
  have hgrants₂' : ((view₂ c₂.server).copy uid box).grants srv₂.capabilities
      (.uid (.store uid "+FLAGS.SILENT" "(\\Deleted)") none) = true := by
    simp [Postbox.grants, hcopied.isSome_current_right, huid]
  refine ⟨_, _, ensures_move_granted h₁ h.connected₁ hmove hgrants₁,
    ensures_move_copying h₂ h.connected₂ hcopy hgrants₂ hgrants₂', ?_⟩
  rintro _ _ y₁ _ _ y₂ ⟨rfl, hy₁⟩ ⟨rfl, hy₂⟩
  exact .ok (h.reach hy₁ hy₂ hcopied.remove)

/-- Closing makes the mailboxes equal. -/
theorem concur_close (h₁ : srv₁.Serves search view₁) (h₂ : srv₂.Serves search view₂)
    (uids : List String) : Session.Op.Concur (Trailing view₁ view₂ d uids) (close srv₁ true)
      (close srv₂ true)
      (fun _ _ c₁ c₂ => (view₁ c₁.server).folders = (view₂ c₂.server).folders)
      (fun c₁ c₂ => (view₁ c₁.server).folders = (view₂ c₂.server).folders) := by
  refine .of_ensures fun c₁ c₂ h => ?_
  refine ⟨_, _, ensures_close_granted h₁ h.connected₁ h.selected₁ h.stores.isSome_current_left,
    ensures_close_granted h₂ h.connected₂ h.selected₂ h.stores.isSome_current_right, ?_⟩
  rintro _ _ y₁ _ _ y₂ ⟨rfl, hy₁⟩ ⟨rfl, hy₂⟩
  refine .ok ?_
  rw [hy₁, hy₂, h.stores.expunge_eq]

/-- Before a round, the stores hold the same, and what a round needs. -/
structure Level (view₁ : ρ₁ → Postbox) (view₂ : ρ₂ → Postbox) (d : Settings.Delivery)
    (c₁ : Client ρ₁) (c₂ : Client ρ₂) : Prop where
  /-- The mailboxes are equal. -/
  folders : (view₁ c₁.server).folders = (view₂ c₂.server).folders
  /-- The mailbox that is polled exists, and so do the boxes. -/
  exist : ∀ name ∈ d.mailbox :: d.boxes, ((view₂ c₂.server).folders name).isSome = true

/-- Once connected, two clients start anew. -/
structure Starting (view₁ : ρ₁ → Postbox) (view₂ : ρ₂ → Postbox) (d : Settings.Delivery)
    (c₁ : Client ρ₁) (c₂ : Client ρ₂) : Prop where
  /-- The stores hold the same. -/
  level : Level view₁ view₂ d c₁ c₂
  /-- The first client is connected. -/
  connected₁ : c₁.connected = true
  /-- The second client is connected. -/
  connected₂ : c₂.connected = true
  /-- The first client has no mailbox selected. -/
  selected₁ : c₁.selected = none
  /-- The second client has no mailbox selected. -/
  selected₂ : c₂.selected = none

theorem concur_connect (h₁ : srv₁.Serves search view₁) (h₂ : srv₂.Serves search view₂)
    (cfg : Settings.Server) : Session.Op.Concur (Level view₁ view₂ d) (connect cfg srv₁)
      (connect cfg srv₂) (fun _ _ => Starting view₁ view₂ d) (Level view₁ view₂ d) := by
  refine .of_ensures fun c₁ c₂ h => ?_
  refine ⟨_, _, ensures_connect_granted h₁ cfg,
    ensures_connect_granted h₂ cfg, ?_⟩
  rintro _ _ y₁ _ _ y₂ ⟨rfl, hc₁, hs₁, hy₁⟩ ⟨rfl, hc₂, hs₂, hy₂⟩
  refine .ok ⟨⟨?_, ?_⟩, hc₁, hc₂, hs₁, hs₂⟩
  · rw [hy₁, hy₂]
    exact h.folders
  · rw [hy₂]
    exact h.exist

/-- The same candidates are listed. -/
theorem concur_list (h₁ : srv₁.Serves search view₁) (h₂ : srv₂.Serves search view₂)
    (pattern : String) (includeSeen : Bool) : Session.Op.Concur (Starting view₁ view₂ d)
      (list srv₁ d.mailbox pattern includeSeen) (list srv₂ d.mailbox pattern includeSeen)
      (fun uids₁ uids₂ c₁ c₂ => uids₁ = uids₂ ∧ Trailing view₁ view₂ d uids₁ c₁ c₂)
      (Trailing view₁ view₂ d []) := by
  refine .of_ensures fun c₁ c₂ h => ?_
  obtain ⟨f, hf₂⟩ := Option.isSome_iff_exists.mp (h.level.exist d.mailbox List.mem_cons_self)
  have hf₁ : (view₁ c₁.server).folders d.mailbox = some f := by rw [h.level.folders, hf₂]
  refine ⟨_, _, ensures_list_granted h₁ h.connected₁ h.selected₁ hf₁ pattern includeSeen,
    ensures_list_granted h₂ h.connected₂ h.selected₂ hf₂ pattern includeSeen, ?_⟩
  rintro _ _ y₁ _ _ y₂ ⟨rfl, hc₁, hs₁, hy₁⟩ ⟨rfl, hc₂, hs₂, hy₂⟩
  have hsame : (view₁ c₁.server).select d.mailbox = (view₂ c₂.server).select d.mailbox := by
    rw [Postbox.select, Postbox.select, h.level.folders]
  refine .ok ⟨rfl, hc₁, hc₂, by simp [hs₁], by simp [hs₂], ?_⟩
  rw [hy₁, hy₂, hsame]
  exact Postbox.Trails.refl (q := (view₂ c₂.server).select d.mailbox) rfl
    (fun box hbox => h.level.exist box (List.mem_cons_of_mem _ hbox)) hf₂ (search.nodup _ _ f)

/-! ### Rounds -/

/-- A round over each of two servers. -/
def comparison (cfg : Settings.Server) (srv₁ : Server ρ₁) (srv₂ : Server ρ₂) (callback : Callback κ)
    (d : Settings.Delivery) (stage : Option Stage) (retry : Option Settings.Retry) (disk : Disk) :
    Comparison (Client ρ₁) κ (Client ρ₂) κ where
  first := ⟨session cfg srv₁, callback, d, stage, retry, disk⟩
  second := ⟨session cfg srv₂, callback, d, stage, retry, disk⟩
  picks _ := true
  kept k₁ k₂ := k₁ = k₂

/-- The next candidate is treated alike. -/
theorem treats_comparison (h₁ : srv₁.Serves search view₁) (h₂ : srv₂.Serves search view₂)
    (hmove : srv₁.capabilities.contains "MOVE" = true)
    (hcopy : srv₂.capabilities.contains "MOVE" = false) (cfg : Settings.Server)
    (callback : Callback κ) (d : Settings.Delivery) (stage : Option Stage)
    (retry : Option Settings.Retry) (disk : Disk) (uid : String) (rest : List String) :
    (comparison cfg srv₁ srv₂ callback d stage retry disk).Treats
      (Trailing view₁ view₂ d (uid :: rest)) (Trailing view₁ view₂ d rest) uid where
  read _ _ _ _ h := (mirrors_readBody h₁ h₂ List.mem_cons_self h).fill ..
  callback := Callback.Concur.refl callback uid
  mark := concur_mark h₁ h₂ List.mem_cons_self
  move _ hbox := concur_move h₁ h₂ hmove hcopy hbox
  stay _ _ h := h.mono (List.sublist_cons_self uid rest)

/-- **Moving and copying agree**: where two servers keep stores that hold the same, in which the
mailbox that is polled and the boxes exist, and only one of the servers can move letters, the rounds
over them end alike, with the same result or in the same cancellation. They play the same scenes, so
that the callback gets the same bodies with the same digests, and leave the same in every mailbox.
This is so for all settings, stages and retries, every callback, and whatever the clients were doing
before. -/
theorem run_agrees_without_move (h₁ : srv₁.Serves search view₁) (h₂ : srv₂.Serves search view₂)
    (hmove : srv₁.capabilities.contains "MOVE" = true)
    (hcopy : srv₂.capabilities.contains "MOVE" = false) (cfg : Settings.Server)
    (callback : Callback κ) (d : Settings.Delivery) (stage : Option Stage)
    (retry : Option Settings.Retry) (disk : Disk) {b₁ : Bench (Client ρ₁) κ η₁}
    {b₂ : Bench (Client ρ₂) κ η₂} (hf₁ : b₁.fragile = false) (hf₂ : b₂.fragile = false)
    (hk : b₁.receiver = b₂.receiver)
    (hfolders : (view₁ b₁.session.server).folders = (view₂ b₂.session.server).folders)
    (hexist : ∀ name ∈ d.mailbox :: d.boxes,
      ((view₁ b₁.session.server).folders name).isSome = true) :
    let r₁ : Round (Client ρ₁) κ := ⟨session cfg srv₁, callback, d, stage, retry, disk⟩
    let r₂ : Round (Client ρ₂) κ := ⟨session cfg srv₂, callback, d, stage, retry, disk⟩
    (runFrom r₁.run b₁).1 = (runFrom r₂.run b₂).1 ∧
      (∃ vs bodies, r₁.Plays b₁ vs bodies (runFrom r₁.run b₁).2 ∧
        r₂.Plays b₂ vs bodies (runFrom r₂.run b₂).2) ∧
      (runFrom r₁.run b₁).2.receiver = (runFrom r₂.run b₂).2.receiver ∧
      (view₁ (runFrom r₁.run b₁).2.session.server).folders =
        (view₂ (runFrom r₂.run b₂).2.session.server).folders := by
  intro r₁ r₂
  have hprocess (uids₁ uids₂ : List String) (result₁ result₂ : RoundResult)
      (hresult : uids₁ = uids₂ → result₁ = result₂) :
      Concur (comparison cfg srv₁ srv₂ callback d stage retry disk)
        (fun c₁ c₂ => uids₁ = uids₂ ∧ Trailing view₁ view₂ d uids₁ c₁ c₂)
        (r₁.processAll uids₁ result₁ : Work (Client ρ₁) κ η₁ RoundResult)
        (r₂.processAll uids₂ result₂ : Work (Client ρ₂) κ η₂ RoundResult)
        (fun result₁ result₂ c₁ c₂ => result₁ = result₂ ∧ Trailing view₁ view₂ d [] c₁ c₂)
        (Trailing view₁ view₂ d []) := by
    refine .assume fun huids => ?_
    obtain rfl := hresult huids
    subst huids
    exact Comparison.concur_processAll (S := Trailing view₁ view₂ d) ⟨rfl, rfl, rfl, rfl⟩
      (treats_comparison h₁ h₂ hmove hcopy cfg callback d stage retry disk)
      (fun uids _ _ h => h.mono (List.nil_sublist uids)) uids₁ result₁
  have hrun : Concur (comparison cfg srv₁ srv₂ callback d stage retry disk) (Level view₁ view₂ d)
      (r₁.run : Work (Client ρ₁) κ η₁ RoundResult) (r₂.run : Work (Client ρ₂) κ η₂ RoundResult)
      (fun result₁ result₂ c₁ c₂ => result₁ = result₂ ∧
        (view₁ c₁.server).folders = (view₂ c₂.server).folders)
      (fun c₁ c₂ => (view₁ c₁.server).folders = (view₂ c₂.server).folders) :=
    Comparison.concur_run ⟨rfl, rfl, rfl, rfl⟩ (concur_connect h₁ h₂ cfg)
      (concur_list h₁ h₂ d.pattern d.includeSeen) (fun _ _ _ _ _ h => h.1)
      (fun uids₁ uids₂ => hprocess uids₁ uids₂ _ _ fun h => by rw [h])
      (concur_close h₁ h₂ []) (fun _ _ h => h.folders) fun f => rfl
  have hlevel : Level view₁ view₂ d b₁.session b₂.session := ⟨hfolders, hfolders ▸ hexist⟩
  obtain ⟨hends, hkept, hplays⟩ := hrun.plays (fun _ => rfl) hf₁ hf₂ hlevel hk
  generalize (runFrom r₁.run b₁).1 = o₁ at hends ⊢
  generalize (runFrom r₂.run b₂).1 = o₂ at hends ⊢
  generalize (runFrom r₁.run b₁).2.session = c₁ at hends ⊢
  generalize (runFrom r₂.run b₂).2.session = c₂ at hends ⊢
  cases hends with
  | ok h => exact ⟨congrArg Except.ok h.1, hplays, hkept, h.2⟩
  | error h => exact ⟨rfl, hplays, hkept, h⟩

/-- Of two letters the callback rejects the second one. Both leave the mailbox, also where the
server cannot move letters. -/
theorem run_agrees_without_move_filed :
    let cfg : Settings.Server := ⟨"mail", 993, true, "user", "word", none⟩
    let wanted : List String → Option Bytes → Letter → Bool := fun criteria _ l =>
      criteria.contains "ALL" || !l.flags.contains "\\Seen"
    let inbox : Folder := ⟨[⟨3, "one".toUTF8, []⟩, ⟨5, "two".toUTF8, ["\\Flagged"]⟩], 6, by decide⟩
    let p : Postbox := ⟨fun name => if name = "INBOX" then some inbox
      else if name = "Done" ∨ name = "Bad" then some ⟨[], 1, by decide⟩ else none, none⟩
    let callback : Callback Unit := fun uid _ _ =>
      .done (if uid = "5" then .error (.plain .value "no") else .ok ()) ()
    let d : Settings.Delivery := ⟨"INBOX", "", "Done", "Bad", 1, 10, 0, .sha256⟩
    let r₁ : Round (Client Postbox) Unit :=
      ⟨session cfg (Postbox.server ["MOVE"] wanted), callback, d, none, none, .usual⟩
    let r₂ : Round (Client Postbox) Unit :=
      ⟨session cfg (Postbox.server [] wanted), callback, d, none, none, .usual⟩
    let b : Bench (Client Postbox) Unit Unit := .start (fresh p) () ()
    (runFrom r₁.run b).1 = (runFrom r₂.run b).1 ∧
      ((runFrom r₂.run b).2.session.server.folders "INBOX").map (·.letters.isEmpty) =
        some true := by
  intro cfg wanted inbox p callback d r₁ r₂ b
  have hexist : ∀ name ∈ d.mailbox :: d.boxes, (p.folders name).isSome = true := by decide
  have hfragile : b.fragile = false := rfl
  have hlevel : (id b.session.server).folders = (id b.session.server).folders := rfl
  obtain ⟨hresult, -, -, hfolders⟩ := run_agrees_without_move
    (Postbox.serves_server ["MOVE"] wanted) (Postbox.serves_server [] wanted) rfl rfl cfg callback d
    none none .usual hfragile hfragile rfl hlevel hexist
  rw [id_eq, id_eq] at hfolders
  refine ⟨hresult, ?_⟩
  dsimp only [r₂]
  rw [← hfolders]
  decide +kernel

end Client

end Mailroom.Imap
