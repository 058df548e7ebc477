import Mailroom.Proofs.Operations
import Mailroom.Store

/-!
# What calls do to the store

A call on the in-memory store does one of a few things (`Store.Effect`), whatever faults are due: it
uses up a fault, changes which box is selected, marks messages in the selected box, or moves one out
of it. What is kept through calls is proved from these cases alone; `box_updateBox` says what a
change of one box leaves in each.
-/

namespace Mailroom.Store

open Imap (Exchange)

variable {s : Store} {mailbox : String}

/-! ### Boxes -/

theorem isSome_lookup_box (name : String) (boxes : List (String × List Message)) :
    (boxes.lookup name).isSome = boxes.any (·.1 = name) := by
  induction boxes with
  | nil => rfl
  | cons b boxes ih =>
    rw [List.lookup_cons, List.any_cons, ← ih]
    by_cases h : b.1 = name
    · simp [h]
    · rw [beq_eq_false_iff_ne.mpr (Ne.symm h)]
      simp [h]

/-- Changing one box leaves the others alone. -/
theorem box_updateBox (f : List Message → List Message) (name : String)
    (boxes : List (String × List Message)) :
    ((updateBox boxes name f).lookup mailbox).getD [] =
      if mailbox = name then f ((boxes.lookup mailbox).getD [])
      else (boxes.lookup mailbox).getD [] := by
  unfold updateBox
  rw [← isSome_lookup_box]
  cases hl : boxes.lookup name with
  | some ms =>
    rw [Option.isSome_some, if_pos rfl, lookup_map_entry]
    by_cases hm : mailbox = name
    · simp [hm, hl]
    · simp [hm]
  | none =>
    rw [Option.isSome_none, if_neg Bool.false_ne_true, List.lookup_append, List.lookup_cons]
    by_cases hm : mailbox = name
    · simp [hm, hl]
    · rw [beq_eq_false_iff_ne.mpr hm]
      simp [hm]

theorem box_modifySelected (s : Store) (f : List Message → List Message) (mailbox : String) :
    (s.modifySelected f).box mailbox =
      if s.selected = some mailbox then f (s.box mailbox) else s.box mailbox := by
  unfold modifySelected
  split
  · next name hs =>
    rw [box, box_updateBox]
    simp [box, hs, eq_comm]
  · next hs => simp [hs]

theorem selected_modifySelected (s : Store) (f : List Message → List Message) :
    (s.modifySelected f).selected = s.selected := by
  unfold modifySelected
  split <;> rfl

theorem listing_modifySelected (s : Store) (f : List Message → List Message) :
    (s.modifySelected f).listing = s.listing := by
  unfold modifySelected
  split <;> rfl

theorem box_add (s : Store) (name : String) (m : Message) (mailbox : String) :
    (s.add name m).box mailbox =
      if mailbox = name then put m (s.box mailbox) else s.box mailbox := box_updateBox ..

theorem uid_of_find? {uid : String} {m : Message} (h : s.find? uid = some m) : m.uid = uid := by
  obtain ⟨name, -, hfound⟩ := Option.bind_eq_some_iff.mp h
  simpa using List.find?_some hfound

/-! ### Effects -/

/-- What a call does to the store. The faults that are due afterwards are left open. -/
inductive Effect (s : Store) : Session.Call → Session.Answer → Store → Prop where
  /-- The call fails. -/
  | failed (c : Session.Call) (f : Failure) (faults : Schedule Slot Fault) :
    Effect s c (.failed f) { s with faults }
  /-- Connecting does nothing. -/
  | connected (faults : Schedule Slot Fault) : Effect s .connect .done { s with faults }
  /-- Closing forgets which box is selected, also when it fails. -/
  | closed (expunge : Bool) (a : Session.Answer) (faults : Schedule Slot Fault) :
    Effect s (.close expunge) a { s with faults, selected := none }
  /-- Listing selects a box and answers messages of it. -/
  | listed (mailbox pattern : String) (includeSeen : Bool) (faults : Schedule Slot Fault) :
    Effect s (.list mailbox pattern includeSeen) (.listing (s.listed mailbox pattern includeSeen))
      { s with faults, selected := some mailbox }
  /-- Reading does nothing. -/
  | read (uid : String) (a : Session.Answer) (faults : Schedule Slot Fault) :
    Effect s (.readBody uid) a { s with faults }
  /-- The messages with a uid in the selected box are marked. -/
  | marked (uid : String) (seen : Bool) (faults : Schedule Slot Fault) :
    Effect s (.mark uid seen) .done
      (modifySelected { s with faults }
        (·.map fun m => if m.uid = uid then { m with seen } else m))
  /-- The messages with a uid leave the selected box, and one of them goes to another box. -/
  | moved (uid mailbox : String) (faults : Schedule Slot Fault) {m : Message}
    (hm : s.find? uid = some m) : Effect s (.move uid mailbox) .done
      ((modifySelected { s with faults } (·.filter (·.uid ≠ uid))).add mailbox m)

/-- Meeting a fault changes nothing but the faults. -/
theorem ensures_meetFault (slot : Slot) :
    (meetFault slot).Ensures s fun _ _ s' => ∃ faults, s' = { s with faults } := by
  refine .look_bind ?_
  rcases s.faults.take slot with ⟨fault, faults⟩
  refine .change_bind ?_
  cases fault with
  | none => exact .pure ⟨faults, rfl⟩
  | some f => exact .throw ⟨faults, rfl⟩

/-- Finding a message changes nothing. -/
theorem ensures_find (uid : String) :
    (find uid).Ensures s fun _ o s' => s' = s ∧ ∀ m, o = .ok m → s.find? uid = some m := by
  refine .look_bind ?_
  cases hm : s.find? uid with
  | none => exact .throw ⟨rfl, fun _ h => by cases h⟩
  | some m => exact .pure ⟨rfl, fun m' h => by cases h; rfl⟩

theorem ensures_list (mailbox pattern : String) (includeSeen : Bool) :
    (list mailbox pattern includeSeen).Ensures s fun _ o s' =>
      Effect s (.list mailbox pattern includeSeen) (.of .listing o) s' := by
  refine .bind (ensures_meetFault .list) ?_ ?_
  · rintro _ _ _ ⟨faults, rfl⟩
    exact .change_bind (.look_bind (.pure (.listed mailbox pattern includeSeen faults)))
  · rintro _ f _ ⟨faults, rfl⟩
    exact .failed _ f faults

theorem ensures_mark (uid : String) (seen : Bool) :
    (mark uid seen).Ensures s fun _ o s' =>
      Effect s (.mark uid seen) (.of (fun _ => .done) o) s' := by
  refine .bind (ensures_meetFault (.mark uid)) ?_ ?_
  · rintro _ _ _ ⟨faults, rfl⟩
    refine .bind (ensures_find uid) ?_ ?_
    · rintro _ m _ ⟨rfl, -⟩
      exact .change (.marked uid seen faults)
    · rintro _ f _ ⟨rfl, -⟩
      exact .failed _ f faults
  · rintro _ f _ ⟨faults, rfl⟩
    exact .failed _ f faults

theorem ensures_move (uid mailbox : String) :
    (move uid mailbox).Ensures s fun _ o s' =>
      Effect s (.move uid mailbox) (.of (fun _ => .done) o) s' := by
  refine .bind (ensures_meetFault (.move uid)) ?_ ?_
  · rintro _ _ _ ⟨faults, rfl⟩
    refine .bind (ensures_find uid) ?_ ?_
    · rintro _ m _ ⟨rfl, hm⟩
      exact .change (.moved uid mailbox faults (hm m rfl))
    · rintro _ f _ ⟨rfl, -⟩
      exact .failed _ f faults
  · rintro _ f _ ⟨faults, rfl⟩
    exact .failed _ f faults

theorem ensures_close (expunge : Bool) :
    close.Ensures s fun _ o s' => Effect s (.close expunge) (.of (fun _ => .done) o) s' := by
  refine .change_bind ((ensures_meetFault .close).mono ?_)
  rintro _ o _ ⟨faults, rfl⟩
  exact .closed expunge _ faults

theorem ensures_connect : (meetFault .connect).Ensures s fun _ o s' =>
    Effect s .connect (.of (fun _ => .done) o) s' := by
  refine (ensures_meetFault .connect).mono ?_
  rintro _ (f | u) _ ⟨faults, rfl⟩
  · exact .failed _ f faults
  · exact .connected faults

/-- Following a script stays in the same state, by induction on the script. -/
theorem silent_runScript {I : Store → Prop} (hs : I s) (total : Int) (script : List Action) :
    (runScript s total script).Silent I := by
  induction script generalizing total with
  | nil => exact hs
  | cons action script ih =>
    cases action with
    | write data =>
      rintro (f | n)
      · exact hs
      · exact ih _
    | finish =>
      rintro (f | u)
      · exact hs
      · exact ih _
    | release => exact ih _
    | raise f => exact hs
    | answer n => exact hs

theorem silent_readBody (uid : String) :
    (readBody uid s).Silent fun s' => ∃ faults, s' = { s with faults } := by
  unfold readBody
  split
  · exact silent_runScript ⟨s.faults, rfl⟩ 0 _
  · split
    · exact ⟨s.faults, rfl⟩
    · dsimp only
      split
      · refine Streaming.silent_writeAll ?_ (fun _ => ?_) 0 _ <;> exact ⟨_, rfl⟩
      · split
        · exact ⟨_, rfl⟩
        · rintro (f | n) <;> exact ⟨_, rfl⟩

/-- **Every call** does one of these things. -/
theorem effect_of_does {title : String} {c : Session.Call} {a : Session.Answer}
    {xs : List Exchange} {s' : Store} (h : (session title).Does c s a xs s') : Effect s c a s' := by
  cases c with
  | connect =>
    obtain ⟨o, rfl, he⟩ := ensures_connect.of_carries h
    exact he
  | close expunge =>
    obtain ⟨o, rfl, he⟩ := (ensures_close expunge).of_carries h
    exact he
  | list mailbox pattern includeSeen =>
    obtain ⟨o, rfl, he⟩ := (ensures_list mailbox pattern includeSeen).of_carries h
    exact he
  | readBody uid =>
    obtain ⟨o, hends, rfl⟩ := h
    obtain ⟨-, faults, rfl⟩ := (silent_readBody uid).ends hends
    exact .read uid _ faults
  | mark uid seen =>
    obtain ⟨o, rfl, he⟩ := (ensures_mark uid seen).of_carries h
    exact he
  | move uid mailbox =>
    obtain ⟨o, rfl, he⟩ := (ensures_move uid mailbox).of_carries h
    exact he

end Mailroom.Store
