import Mailroom.Proofs.Comparing
import Mailroom.Proofs.Effects

/-!
# Stores that differ in one candidate

Two stores are `Siblings` when they differ only in what concerns one candidate: its message, the
faults that are due for it, its script. The same call about another candidate ends alike on siblings
and leaves siblings; a call about that candidate on one of them leaves siblings too, and fails in an
ordinary way at most.
-/

namespace Mailroom

/-! ### Readings -/

variable {σ : Type}

/-- However an ordinary refusal comes in between, the reading ends as `I` says. -/
def Streaming.EndsIn (I : Except Failure Int → σ → Prop) : Streaming σ → Prop
  | done o y => I o y
  | say _ next => next.EndsIn I
  | write _ next => ∀ r, Ordinary r → (next r).EndsIn I
  | finish next => ∀ r, Ordinary r → (next r).EndsIn I
  | release next => next.EndsIn I

/-- A message refuses in an ordinary way, so what a reading leaves is as `I` says, by induction on
the reading. -/
theorem Streaming.EndsIn.fill {I : Except Failure Int → σ → Prop} {st : Streaming σ}
    (h : st.EndsIn I) (subject : Option Subject) (m : Staged) :
    I (st.fill subject m).outcome (st.fill subject m).state := by
  have hrefusal (e : StagingError) {α : Type} : Ordinary (.error e.failure : Except Failure α) :=
    .error rfl
  induction st generalizing m with
  | done o y => exact h
  | say r next ih => exact ih h m
  | write data next ih =>
    rw [Streaming.fill]
    rcases m.write data with ⟨e | n, m'⟩
    · exact ih _ (h _ (hrefusal e)) m'
    · exact ih _ (h _ (.ok _)) m'
  | finish next ih =>
    rw [Streaming.fill]
    rcases m.finish with ⟨e | u, m'⟩
    · exact ih _ (h _ (hrefusal e)) m'
    · exact ih _ (h _ (.ok _)) m'
  | release next ih => exact ih h m.release.1

/-- Writing pieces ends as what comes after it, or in a refusal, by induction on the pieces. -/
theorem Streaming.endsIn_writeAll {I : Except Failure Int → σ → Prop} {y : σ}
    (hrefused : ∀ f, f.isFault = true → I (.error f) y) {next : Int → Streaming σ}
    (hnext : ∀ total, (next total).EndsIn I) (total : Int) (pieces : List Bytes) :
    (writeAll y total next pieces).EndsIn I := by
  induction pieces generalizing total with
  | nil => exact hnext total
  | cons piece pieces ih =>
    intro r hr
    cases r with
    | ok n => exact ih _
    | error f => exact hrefused f hr.isFault

namespace Store

/-! ### Stores -/

/-- The messages of a box other than one candidate. -/
def others (a : String) (ms : List Message) : List Message := ms.filter (·.uid ≠ a)

@[simp] theorem others_nil (a : String) : others a [] = [] := rfl

theorem others_cons (a : String) (m : Message) (ms : List Message) :
    others a (m :: ms) = if m.uid = a then others a ms else m :: others a ms := by
  unfold others
  by_cases h : m.uid = a <;> simp [h]

theorem others_append (a : String) (ms ns : List Message) :
    others a (ms ++ ns) = others a ms ++ others a ns := List.filter_append ..

/-- Messages that change in place, by induction on the messages. -/
theorem others_map {a : String} {f : Message → Message} (hf : ∀ m, (f m).uid = m.uid)
    (ms : List Message) : others a (ms.map f) = (others a ms).map f := by
  induction ms with
  | nil => rfl
  | cons m ms ih =>
    rw [List.map_cons, others_cons, others_cons, hf]
    split
    · exact ih
    · rw [List.map_cons, ih]

/-- Only that candidate changes in place. -/
theorem others_map_self {a : String} {f : Message → Message} (hf : ∀ m, (f m).uid = m.uid)
    (hsame : ∀ m, m.uid ≠ a → f m = m) (ms : List Message) :
    others a (ms.map f) = others a ms := by
  induction ms with
  | nil => rfl
  | cons m ms ih =>
    rw [List.map_cons, others_cons, others_cons, hf]
    split
    · exact ih
    · next h => rw [hsame m h, ih]

theorem any_others {a uid : String} (h : uid ≠ a) (ms : List Message) :
    (others a ms).any (·.uid = uid) = ms.any (·.uid = uid) := by
  induction ms with
  | nil => rfl
  | cons m ms ih =>
    rw [others_cons]
    split
    · next hm =>
      have hne : m.uid ≠ uid := fun he => h (he.symm.trans hm)
      simp [hne, ih]
    · rw [List.any_cons, List.any_cons, ih]

theorem find?_others {a uid : String} (h : uid ≠ a) (ms : List Message) :
    (others a ms).find? (·.uid = uid) = ms.find? (·.uid = uid) := by
  induction ms with
  | nil => rfl
  | cons m ms ih =>
    rw [others_cons]
    split
    · next hm =>
      have hne : m.uid ≠ uid := fun he => h (he.symm.trans hm)
      rw [ih, List.find?_cons_of_neg (by simpa using hne)]
    · rw [List.find?_cons, List.find?_cons, ih]

theorem others_put {a : String} {m : Message} (h : m.uid ≠ a) (ms : List Message) :
    others a (put m ms) = put m (others a ms) := by
  unfold put
  rw [any_others h]
  split
  · exact others_map (fun x => by split <;> simp_all) ms
  · rw [others_append, others_cons, if_neg h, others_nil]

theorem others_put_self {a : String} {m : Message} (h : m.uid = a) (ms : List Message) :
    others a (put m ms) = others a ms := by
  unfold put
  split
  · refine others_map_self (fun x => ?_) (fun x hx => ?_) ms
    · split
      · next hx => exact hx.symm
      · rfl
    · rw [if_neg fun he => hx (he.trans h)]
  · rw [others_append, others_cons, if_pos h, others_nil, List.append_nil]

/-- The candidate that a queue of faults is for. -/
def Slot.uid? : Slot → Option String
  | .connect | .list | .close => none
  | .read uid | .mark uid | .move uid => some uid

/-- What is due for a candidate fails in an ordinary way. -/
structure Tame (a : String) (s : Store) : Prop where
  /-- Its faults. -/
  faults : ∀ {slot q d}, slot.uid? = some a → s.faults.lookup slot = some q → some d ∈ q →
    d.value.failure.isFault = true
  /-- Its script. -/
  script : ∀ {script f}, s.scripts.lookup a = some script → .raise f ∈ script → f.isFault = true

/-- Two stores differ only in what concerns one candidate, and that fails in an ordinary way at
most. -/
structure Siblings (a : String) (s t : Store) : Prop where
  /-- The other messages of every box, with their flags and in order. -/
  boxes : ∀ name, others a (s.box name) = others a (t.box name)
  /-- The other faults. -/
  faults : ∀ slot, slot.uid? ≠ some a → s.faults.lookup slot = t.faults.lookup slot
  /-- The other scripts. -/
  scripts : ∀ uid, uid ≠ a → s.scripts.lookup uid = t.scripts.lookup uid
  /-- The others in a fixed listing. -/
  listing : s.listing.map (·.filter (· ≠ a)) = t.listing.map (·.filter (· ≠ a))
  /-- The size of pieces. -/
  chunk : s.chunk = t.chunk
  /-- The selected box. -/
  selected : s.selected = t.selected
  /-- The candidate in the first store. -/
  tame₁ : Tame a s
  /-- The candidate in the second store. -/
  tame₂ : Tame a t

theorem modifySelected_eq (s : Store) (f : List Message → List Message) :
    s.modifySelected f = { s with boxes := (s.modifySelected f).boxes } := by
  unfold modifySelected
  split <;> rfl

/-- Taking what is due leaves tame what is tame. -/
theorem Tame.take {a : String} {s : Store} (h : Tame a s) (slot : Slot) :
    Tame a { s with faults := (s.faults.take slot).2 } := by
  refine ⟨fun {slot' q d} huid hq hd => ?_, h.script⟩
  rw [Schedule.lookup_take] at hq
  split at hq
  · next hslot =>
    obtain ⟨q', hq', rfl⟩ := Option.map_eq_some_iff.mp hq
    exact h.faults (hslot ▸ huid) hq' (Schedule.mem_of_mem_restOf hd)
  · exact h.faults huid hq hd

/-- What is due for the candidate is an ordinary failure. -/
theorem Tame.isFault {a : String} {s : Store} (h : Tame a s) (slot : Slot)
    (huid : slot.uid? = some a) {f : Fault} (hf : (s.faults.take slot).1 = some f) :
    f.failure.isFault = true := by
  rw [Schedule.take_fst] at hf
  obtain ⟨q, hq, hdue⟩ := Option.bind_eq_some_iff.mp hf
  obtain ⟨d, hd, rfl⟩ := Schedule.mem_of_dueOf hdue
  exact h.faults huid hq hd

namespace Siblings

variable {a : String} {s t : Store}

theorem symm (h : Siblings a s t) : Siblings a t s :=
  ⟨fun name => (h.boxes name).symm, fun slot hs => (h.faults slot hs).symm,
    fun uid hu => (h.scripts uid hu).symm, h.listing.symm, h.chunk.symm, h.selected.symm, h.tame₂,
    h.tame₁⟩

/-- The same is due for the others, and is taken. -/
theorem take (h : Siblings a s t) (slot : Slot) (hslot : slot.uid? ≠ some a) :
    (s.faults.take slot).1 = (t.faults.take slot).1 ∧
      Siblings a { s with faults := (s.faults.take slot).2 }
        { t with faults := (t.faults.take slot).2 } := by
  constructor
  · rw [Schedule.take_fst, Schedule.take_fst, h.faults slot hslot]
  · refine { h with faults := fun slot' hs => ?_, tame₁ := h.tame₁.take slot,
                    tame₂ := h.tame₂.take slot }
    rw [Schedule.lookup_take, Schedule.lookup_take, h.faults slot hslot, h.faults slot' hs]

/-- What is due for the candidate is taken from one store. -/
theorem take_left (h : Siblings a s t) (slot : Slot) (hslot : slot.uid? = some a) :
    Siblings a { s with faults := (s.faults.take slot).2 } t := by
  refine { h with faults := fun slot' hs => ?_, tame₁ := h.tame₁.take slot }
  have hne : slot' ≠ slot := fun he => hs (he ▸ hslot)
  rw [Schedule.lookup_take, if_neg hne]
  exact h.faults slot' hs

/-- The same box is selected in both. -/
theorem select (h : Siblings a s t) (o : Option String) :
    Siblings a { s with selected := o } { t with selected := o } :=
  { h with selected := rfl, tame₁ := ⟨h.tame₁.faults, h.tame₁.script⟩,
           tame₂ := ⟨h.tame₂.faults, h.tame₂.script⟩ }

/-- The boxes change. -/
theorem of_boxes (h : Siblings a s t) {boxes boxes' : List (String × List Message)}
    (hb : ∀ name,
      others a ((boxes.lookup name).getD []) = others a ((boxes'.lookup name).getD [])) :
    Siblings a { s with boxes } { t with boxes := boxes' } :=
  { h with boxes := hb, tame₁ := ⟨h.tame₁.faults, h.tame₁.script⟩,
           tame₂ := ⟨h.tame₂.faults, h.tame₂.script⟩ }

/-- The others in the selected box change alike. -/
theorem modify (h : Siblings a s t) {f g : List Message → List Message}
    (hfg : ∀ ms ns, others a ms = others a ns → others a (f ms) = others a (g ns)) :
    Siblings a (s.modifySelected f) (t.modifySelected g) := by
  rw [modifySelected_eq s f, modifySelected_eq t g]
  refine h.of_boxes fun name => ?_
  have hs := box_modifySelected s f name
  have ht := box_modifySelected t g name
  unfold box at hs ht
  rw [hs, ht, h.selected]
  split
  · exact hfg _ _ (h.boxes name)
  · exact h.boxes name

/-- Only the candidate changes in the selected box of one store. -/
theorem modify_left (h : Siblings a s t) {f : List Message → List Message}
    (hf : ∀ ms, others a (f ms) = others a ms) : Siblings a (s.modifySelected f) t := by
  rw [modifySelected_eq s f]
  refine h.of_boxes fun name => ?_
  have hs := box_modifySelected s f name
  unfold box at hs
  rw [hs]
  split
  · exact (hf _).trans (h.boxes name)
  · exact h.boxes name

/-- Another message is added to both. -/
theorem add (h : Siblings a s t) {m : Message} (hm : m.uid ≠ a) (name : String) :
    Siblings a (s.add name m) (t.add name m) := by
  refine h.of_boxes fun name' => ?_
  rw [box_updateBox, box_updateBox]
  split
  · rw [others_put hm, others_put hm]
    exact congrArg (put m) (h.boxes name')
  · exact h.boxes name'

/-- The candidate is added to one store. -/
theorem add_left (h : Siblings a s t) {m : Message} (hm : m.uid = a) (name : String) :
    Siblings a (s.add name m) t := by
  refine h.of_boxes fun name' => ?_
  rw [box_updateBox]
  split
  · rw [others_put_self hm]
    exact h.boxes name'
  · exact h.boxes name'

theorem find?_eq (h : Siblings a s t) {uid : String} (huid : uid ≠ a) :
    s.find? uid = t.find? uid := by
  unfold find?
  rw [h.selected]
  congr 1
  funext name
  rw [← find?_others huid, h.boxes, find?_others huid]

/-- The others are listed alike. -/
theorem listed_eq (h : Siblings a s t) (mailbox pattern : String) (includeSeen : Bool) :
    (s.listed mailbox pattern includeSeen).filter (· ≠ a) =
      (t.listed mailbox pattern includeSeen).filter (· ≠ a) := by
  have hnames (ms : List Message) :
      ((ms.filter (isListed pattern includeSeen)).map (·.uid)).filter (· ≠ a) =
        ((others a ms).filter (isListed pattern includeSeen)).map (·.uid) := by
    unfold others
    rw [List.filter_map, List.filter_filter, List.filter_filter]
    congr 1
    refine List.filter_congr fun m _ => ?_
    exact Bool.and_comm ..
  have hlisting := h.listing
  unfold listed
  cases hs : s.listing with
  | none =>
    rw [hs] at hlisting
    rw [Option.map_eq_none_iff.mp hlisting.symm]
    show List.filter _ (List.map _ _) = List.filter _ (List.map _ _)
    rw [hnames, hnames, h.boxes]
  | some us =>
    rw [hs] at hlisting
    obtain ⟨vs, hvs, heq⟩ := Option.map_eq_some_iff.mp hlisting.symm
    rw [hvs]
    exact heq.symm

end Siblings

/-! ### Operations on siblings -/

theorem runFrom_meetFault (slot : Slot) (s : Store) (rs : List Remark) :
    runFrom (meetFault slot) ⟨s, rs⟩ =
      (match (s.faults.take slot).1 with
        | some f => .error f.failure
        | none => .ok (), ⟨{ s with faults := (s.faults.take slot).2 }, rs⟩) := by
  show runFrom (match (s.faults.take slot).1 with
    | some f => throw f.failure
    | none => pure () : Session.Op Store Unit) ⟨{ s with faults := (s.faults.take slot).2 }, rs⟩ = _
  cases (s.faults.take slot).1 <;> rfl

theorem runFrom_find (uid : String) (s : Store) (rs : List Remark) :
    runFrom (find uid) ⟨s, rs⟩ =
      (match s.find? uid with
        | some m => .ok m
        | none => .error (noSuchMessage uid), ⟨s, rs⟩) := by
  show runFrom (match s.find? uid with
    | some m => pure m
    | none => throw (noSuchMessage uid) : Session.Op Store Message) ⟨s, rs⟩ = _
  cases s.find? uid <;> rfl

/-- The relation of two operations' states. -/
abbrev Framed (S : Store → Store → Prop) (r₁ r₂ : Session.Frame Store) : Prop := S r₁.state r₂.state

section

variable {a : String} {slot : Slot} {uid : String}

theorem agree_meetFault (hslot : slot.uid? ≠ some a) :
    Agree (Framed (Siblings a)) (meetFault slot) (meetFault slot) (fun _ _ => Framed (Siblings a))
      (Framed (Siblings a)) := by
  rintro ⟨s, rs⟩ ⟨t, rs'⟩ h
  obtain ⟨hsame, hafter⟩ := Siblings.take h slot hslot
  rw [runFrom_meetFault, runFrom_meetFault, hsame]
  cases (t.faults.take slot).1 with
  | none => exact .ok hafter
  | some f => exact .error hafter

theorem agree_find (huid : uid ≠ a) :
    Agree (Framed (Siblings a)) (find uid) (find uid)
      (fun m₁ m₂ => Framed fun s t => (m₁ = m₂ ∧ m₁.uid = uid) ∧ Siblings a s t)
      (Framed (Siblings a)) := by
  rintro ⟨s, rs⟩ ⟨t, rs'⟩ h
  rw [runFrom_find, runFrom_find, Siblings.find?_eq h huid]
  cases hm : t.find? uid with
  | none => exact .error h
  | some m => exact .ok ⟨⟨rfl, uid_of_find? hm⟩, h⟩

theorem concur_connect : Session.Op.Concur (Siblings a) (meetFault .connect) (meetFault .connect)
    (fun _ _ => Siblings a) (Siblings a) :=
  .of_agree (agree_meetFault (by simp [Slot.uid?]))

theorem concur_close : Session.Op.Concur (Siblings a) close close (fun _ _ => Siblings a)
    (Siblings a) :=
  .of_agree (.change_bind (fun _ _ h => Siblings.select h none)
    (agree_meetFault (by simp [Slot.uid?])))

theorem concur_list (mailbox pattern : String) (includeSeen : Bool) :
    Session.Op.Concur (Siblings a) (list mailbox pattern includeSeen)
      (list mailbox pattern includeSeen)
      (fun us vs s t => us.filter (· ≠ a) = vs.filter (· ≠ a) ∧ Siblings a s t) (Siblings a) := by
  have hselect (r₁ r₂ : Session.Frame Store) (h : Framed (Siblings a) r₁ r₂) :
      Framed (Siblings a) ⟨{ r₁.state with selected := some mailbox }, r₁.remarks⟩
        ⟨{ r₂.state with selected := some mailbox }, r₂.remarks⟩ := Siblings.select h (some mailbox)
  refine .of_agree (.bind (agree_meetFault (by simp [Slot.uid?])) fun _ _ =>
    .change_bind hselect ?_)
  rintro ⟨s, rs⟩ ⟨t, rs'⟩ h
  exact .ok ⟨Siblings.listed_eq h mailbox pattern includeSeen, h⟩

theorem concur_mark (huid : uid ≠ a) (seen : Bool) :
    Session.Op.Concur (Siblings a) (mark uid seen) (mark uid seen) (fun _ _ => Siblings a)
      (Siblings a) := by
  refine .of_agree (.bind (agree_meetFault (by simpa [Slot.uid?] using huid)) fun _ _ =>
    .bind (agree_find huid) fun m₁ m₂ => ?_)
  rintro ⟨s, rs⟩ ⟨t, rs'⟩ ⟨-, h⟩
  refine .ok (Siblings.modify h fun ms ns hms => ?_)
  rw [others_map (fun x => by split <;> rfl), others_map (fun x => by split <;> rfl), hms]

theorem concur_move (huid : uid ≠ a) (mailbox : String) :
    Session.Op.Concur (Siblings a) (move uid mailbox) (move uid mailbox) (fun _ _ => Siblings a)
      (Siblings a) := by
  refine .of_agree (.bind (agree_meetFault (by simpa [Slot.uid?] using huid)) fun _ _ =>
    .bind (agree_find huid) fun m₁ m₂ => ?_)
  rintro ⟨s, rs⟩ ⟨t, rs'⟩ ⟨⟨rfl, hm⟩, h⟩
  refine .ok (Siblings.add (Siblings.modify h fun ms ns hms => ?_) (hm ▸ huid) mailbox)
  have hcomm (l : List Message) :
      others a (l.filter (·.uid ≠ uid)) = (others a l).filter (·.uid ≠ uid) := by
    simp only [others, List.filter_filter, Bool.and_comm]
  rw [hcomm, hcomm, hms]

/-- Following the same script, by induction on the script. -/
theorem mirrors_runScript {S : Store → Store → Prop} {s t : Store} (h : S s t) (total : Int)
    (script : List Action) :
    Streaming.Mirrors S (runScript s total script) (runScript t total script) := by
  induction script generalizing total with
  | nil => exact .done _ h
  | cons action script ih =>
    cases action with
    | write data =>
      refine .write data fun r => ?_
      cases r with
      | ok n => exact ih _
      | error f => exact .done _ h
    | finish =>
      refine .finish fun r => ?_
      cases r with
      | ok u => exact ih _
      | error f => exact .done _ h
    | release => exact .release (ih _)
    | raise f => exact .done _ h
    | answer n => exact .done _ h

/-- Another candidate is read alike. -/
theorem mirrors_readBody (huid : uid ≠ a) {s t : Store} (h : Siblings a s t) :
    Streaming.Mirrors (Siblings a) (readBody uid s) (readBody uid t) := by
  unfold readBody
  rw [h.scripts uid huid, h.find?_eq huid]
  cases t.scripts.lookup uid with
  | some script => exact mirrors_runScript h 0 script
  | none =>
    cases t.find? uid with
    | none => exact .done _ h
    | some m =>
      obtain ⟨hsame, hafter⟩ := h.take (.read uid) (by simpa [Slot.uid?] using huid)
      have hpieces : Bytes.pieces m.body s.chunk = Bytes.pieces m.body t.chunk := by rw [h.chunk]
      dsimp only
      rw [hsame, hpieces]
      cases (t.faults.take (.read uid)).1 with
      | none => exact .writeAll hafter (fun total => .done _ hafter) 0 _
      | some f =>
        dsimp only
        cases f.after with
        | none => exact .done _ hafter
        | some n =>
          refine .write _ fun r => ?_
          cases r with
          | ok k => exact .done _ hafter
          | error g => exact .done _ hafter

/-! ### The candidate in one store -/

/-- Following the script of the candidate changes nothing, by induction on the script. -/
theorem endsIn_runScript {s t : Store} (h : Siblings a s t) (total : Int) {script : List Action}
    (hscript : ∀ f, .raise f ∈ script → f.isFault = true) :
    (runScript s total script).EndsIn fun o s' =>
      Siblings a s' t ∧ Ordinary o := by
  have hrefused (f : Failure) (hf : f.isFault = true) :
      Siblings a s t ∧ Ordinary (.error f : Except Failure Int) :=
    ⟨h, .error hf⟩
  induction script generalizing total with
  | nil => exact ⟨h, .ok _⟩
  | cons action script ih =>
    have hrest : ∀ f, .raise f ∈ script → f.isFault = true := fun f hf =>
      hscript f (List.mem_cons_of_mem _ hf)
    cases action with
    | write data =>
      intro r hr
      cases r with
      | ok n => exact ih _ hrest
      | error f => exact hrefused f hr.isFault
    | finish =>
      intro r hr
      cases r with
      | ok u => exact ih _ hrest
      | error f => exact hrefused f hr.isFault
    | release => exact ih _ hrest
    | raise f => exact hrefused f (hscript f List.mem_cons_self)
    | answer n => exact ⟨h, .ok _⟩

/-- Reading the candidate from one store concerns nothing else. -/
theorem endsIn_readBody {s t : Store} (h : Siblings a s t) :
    (readBody a s).EndsIn fun o s' => Siblings a s' t ∧ Ordinary o := by
  unfold readBody
  cases hscript : s.scripts.lookup a with
  | some script => exact endsIn_runScript h 0 fun f hf => h.tame₁.script hscript hf
  | none =>
    cases s.find? a with
    | none => exact ⟨h, .error rfl⟩
    | some m =>
      have hafter := h.take_left (.read a) rfl
      have hfailed (f : Failure) (hf : f.isFault = true) :
          Siblings a { s with faults := (s.faults.take (.read a)).2 } t ∧
            Ordinary (.error f : Except Failure Int) :=
        ⟨hafter, .error hf⟩
      dsimp only
      cases hdue : (s.faults.take (.read a)).1 with
      | none =>
        refine Streaming.endsIn_writeAll hfailed (fun total => ?_) 0 _
        exact ⟨hafter, .ok _⟩
      | some f =>
        have hfault := h.tame₁.isFault (.read a) rfl hdue
        dsimp only
        cases f.after with
        | none => exact hfailed _ hfault
        | some n =>
          intro r hr
          cases r with
          | ok k => exact hfailed _ hfault
          | error g => exact hfailed g hr.isFault

theorem ensures_meetFault_self {s t : Store} (h : Siblings a s t) (hslot : slot.uid? = some a) :
    (meetFault slot).Ensures s fun _ o s' => Siblings a s' t ∧ Ordinary o := by
  intro rs
  rw [runFrom_meetFault]
  refine ⟨_, _, [], by rw [List.append_nil], h.take_left slot hslot, ?_⟩
  cases hdue : (s.faults.take slot).1 with
  | none => exact .ok ()
  | some f => exact .error (h.tame₁.isFault slot hslot hdue)

theorem ensures_find_self {s t : Store} (h : Siblings a s t) :
    (find a).Ensures s fun _ o s' =>
      (∀ m, o = .ok m → m.uid = a) ∧ Siblings a s' t ∧ Ordinary o := by
  intro rs
  rw [runFrom_find]
  refine ⟨_, _, [], by rw [List.append_nil], ?_⟩
  cases hm : s.find? a with
  | none =>
    refine ⟨?_, h, .error rfl⟩
    intro m he
    cases he
  | some m =>
    refine ⟨?_, h, .ok m⟩
    intro m' he
    cases he
    exact uid_of_find? hm

theorem ensures_mark_self (seen : Bool) {s t : Store} (h : Siblings a s t) :
    (mark a seen).Ensures s fun _ o s' => Siblings a s' t ∧ Ordinary o := by
  refine .bind (ensures_meetFault_self h rfl) (fun _ _ s₁ h₁ => ?_) fun _ f s₁ h₁ => h₁
  refine .bind (ensures_find_self h₁.1) (fun _ m s₂ h₂ => ?_) fun _ f s₂ h₂ =>
    ⟨h₂.2.1, .error h₂.2.2.isFault⟩
  refine .change ⟨h₂.2.1.modify_left fun ms => ?_, .ok _⟩
  exact others_map_self (fun x => by split <;> rfl) (fun x hx => if_neg hx) ms

theorem ensures_move_self (mailbox : String) {s t : Store} (h : Siblings a s t) :
    (move a mailbox).Ensures s fun _ o s' => Siblings a s' t ∧ Ordinary o := by
  refine .bind (ensures_meetFault_self h rfl) (fun _ _ s₁ h₁ => ?_) fun _ f s₁ h₁ => h₁
  refine .bind (ensures_find_self h₁.1) (fun _ m s₂ h₂ => ?_) fun _ f s₂ h₂ =>
    ⟨h₂.2.1, .error h₂.2.2.isFault⟩
  refine .change ⟨?_, .ok _⟩
  refine (h₂.2.1.modify_left fun ms => ?_).add_left (h₂.1 m rfl) mailbox
  unfold others
  rw [List.filter_filter]
  simp only [Bool.and_self]

end

end Store

end Mailroom
