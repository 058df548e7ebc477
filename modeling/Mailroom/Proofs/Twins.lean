import Mailroom.Proofs.Accesses
import Mailroom.Proofs.Scenes

/-!
# Spools of one content

Two spools are twins when they differ at most in where they keep their bytes and in the limit for
that, and two messages when they differ at most in twin spools. Writing and reading treat twins
alike. Of what a reader does this is true as long as it is `Plain`: no negative count but -1 and
none beyond the room of the disk, no target beyond the reach of the disk, and no step to before the
start from anywhere but the start. A plain access is refused of both twins or comes to the same on
both (`Spool.Twins.access`); only how a refusal is worded depends on the place. Any other access is
answered in memory and refused on disk (`Spool.plain_iff`).
-/

namespace Mailroom

variable {σ : Type}

/-! ### Spools -/

namespace Spool

/-- The same bytes and the same position; place and limit may differ. -/
def Twins (s₁ s₂ : Spool) : Prop := { s₁ with place := s₂.place, limit := s₂.limit } = s₂

namespace Twins

variable {s₁ s₂ : Spool}

theorem write (h : Twins s₁ s₂) (data : Bytes) : Twins (s₁.write data) (s₂.write data) := by
  obtain ⟨content, position, place, limit, disk, closed⟩ := s₂
  cases h
  rfl

theorem rewind (h : Twins s₁ s₂) : Twins s₁.rewind s₂.rewind := by
  rw [← h]
  rfl

theorem close (h : Twins s₁ s₂) : Twins { s₁ with closed := true } { s₂ with closed := true } := by
  rw [← h]
  rfl

end Twins

/-- An access as callbacks make it: a target counts from the start, the position or the end, and the
spool is not closed. -/
def Usual : Access → Prop
  | .read _ | .readLine | .tell => True
  | .seek _ whence => whence = 0 ∨ whence = 1 ∨ whence = 2
  | .close => False

/-- An access on which the place has no bearing. A count is not below -1, and there is room for it;
a target lies within the reach of the disk, and not before the start unless it counts from there.
What is out of the range of counts or offsets is refused in both places. -/
def Plain (s : Spool) : Access → Prop
  | .read none | .readLine | .tell => True
  | .read (some n) => isOffset n = false ∨ -1 ≤ n ∧ n ≤ s.disk.room
  | .seek offset whence => (whence = 0 ∨ whence = 1 ∨ whence = 2) ∧ (isOffset offset = false ∨
      (whence = 0 ∨ 0 ≤ s.base whence + offset) ∧
        (s.base whence + offset ≤ s.disk.reach ∨ longMax < s.base whence + offset))
  | .close => False

variable {s : Spool} {a : Access}

/-- What an open spool refuses in a place. In memory a target before the start counts as the start,
unless it counts from there; what goes beyond the disk is refused on disk only. -/
def Refuses (s : Spool) (p : Place) : Access → Prop
  | .read none | .readLine | .tell | .close => False
  | .read (some n) => isOffset n = false ∨ p = .disk ∧ (n < -1 ∨ s.disk.room < n)
  | .seek offset whence => isOffset offset = false ∨ match p with
    | .memory => whence = 0 ∧ offset < 0 ∨ longMax < s.base whence + offset
    | .disk => s.base whence + offset < 0 ∨ s.disk.reach < s.base whence + offset

/-- A read is refused on disk only, for want of room. -/
theorem isSome_readFault {n : Int} :
    (s.readFault (some n)).isSome = true ↔ s.place = .disk ∧ s.disk.room < n := by
  have hroom := s.disk.room_le
  cases hp : s.place with
  | memory => simp [readFault, hp]
  | disk =>
    simp only [readFault, hp, true_and]
    split
    · simpa using by omega
    · split <;> simp_all

theorem isSome_argumentFault_read {p : Place} {n : Int} :
    (argumentFault p (.read (some n))).isSome = true ↔ isOffset n = false ∨ p = .disk ∧ n < -1 := by
  cases ho : isOffset n <;> cases p <;> simp [argumentFault, ho]

/-- Where a target counts from is never why it is refused. -/
theorem isSome_moveFault {offset whence : Int} (hw : whence = 0 ∨ whence = 1 ∨ whence = 2) :
    ((argumentFault s.place (.seek offset whence)).or (s.seekFault offset whence)).isSome = true ↔
      s.Refuses s.place (.seek offset whence) := by
  have hshort : isShort whence = true := by
    rcases hw with rfl | rfl | rfl <;> decide
  have hlow : 0 ≤ whence := by omega
  have hhigh : ¬2 < whence ∧ ¬3 ≤ whence ∧ ¬4 < whence := by omega
  cases hp : s.place <;> cases ho : isOffset offset <;>
    simp [argumentFault, seekFault, Refuses, hshort, hlow, hhigh, hp, ho]
  split
  · simp [*]
  · split <;> simp [*]

/-- A usual access is refused where the spool is closed, and for what its place refuses. -/
theorem isSome_refusal? (ha : Usual a) :
    (s.refusal? a).isSome = true ↔ s.closed = true ∨ s.Refuses s.place a := by
  have hne : a ≠ .close := by
    rintro rfl
    exact ha
  unfold refusal?
  cases hc : s.closed with
  | true => simp [hne]
  | false =>
    cases a with
    | read n =>
      cases n with
      | none => cases hp : s.place <;> simp [argumentFault, openRefusal?, readFault, Refuses, hp]
      | some n =>
        have hread := isSome_argumentFault_read (p := s.place) (n := n)
        have hroom := isSome_readFault (s := s) (n := n)
        simp [openRefusal?, Refuses, hread, hroom, or_assoc, ← and_or_left]
    | seek offset whence => simpa [openRefusal?] using isSome_moveFault ha
    | readLine | tell => simp [argumentFault, openRefusal?, Refuses]
    | close => cases ha

/-- What is refused in memory is refused on disk as well. -/
theorem Refuses.disk_of_memory (h : s.Refuses .memory a) : s.Refuses .disk a := by
  have hreach := s.disk.reach_le
  cases a with
  | read n =>
    cases n with
    | none => exact h
    | some n => exact .inl (h.resolve_right fun h => by cases h.1)
  | seek offset whence =>
    obtain h | ⟨rfl, h⟩ | h := h
    · exact .inl h
    · exact .inr (.inl (by simpa [base] using h))
    · exact .inr (.inr (by omega))
  | readLine | tell | close => exact h

theorem Plain.usual (h : s.Plain a) : Usual a := by
  cases a with
  | read | readLine | tell => trivial
  | seek => exact h.1
  | close => cases h

/-- **Plain accesses are those on which the place has no bearing**: any other is answered in memory
and refused on disk. -/
theorem plain_iff (ha : Usual a) : s.Plain a ↔ (s.Refuses .disk a → s.Refuses .memory a) := by
  have hreach := s.disk.reach_le
  cases a with
  | read n =>
    cases n with
    | none => simp [Plain, Refuses]
    | some n => cases ho : isOffset n <;> simp [Plain, Refuses, ho]
  | seek offset whence =>
    have hwhence : whence = 0 ∨ whence = 1 ∨ whence = 2 := ha
    have hbase : whence = 0 → s.base whence = 0 := by
      rintro rfl
      rfl
    cases ho : isOffset offset with
    | false => simp [Plain, Refuses, ho, hwhence]
    | true =>
      simp only [Plain, Refuses, ho, hwhence, Bool.true_eq_false, false_or, true_and]
      omega
  | readLine | tell => simp [Plain, Refuses]
  | close => cases ha

/-- Of a plain access the same is refused in every place. -/
theorem Plain.refuses_iff (h : s.Plain a) (p q : Place) : s.Refuses p a ↔ s.Refuses q a := by
  have hsame : s.Refuses .memory a ↔ s.Refuses .disk a :=
    ⟨Refuses.disk_of_memory, (plain_iff h.usual).mp h⟩
  cases p <;> cases q <;> simp [hsame]

namespace Twins

variable {s₁ s₂ : Spool}

/-- A plain access is refused of both twins, or of none. -/
theorem isSome_refusal?_eq (h : Twins s₁ s₂) (ha : s₁.Plain a) :
    (s₁.refusal? a).isSome = (s₂.refusal? a).isSome := by
  have hclosed : s₁.closed = s₂.closed := by rw [← h]
  have hrefuses : s₂.Refuses s₂.place a ↔ s₁.Refuses s₂.place a := by
    rw [← h]
    exact .rfl
  rw [Bool.eq_iff_iff, isSome_refusal? ha.usual, isSome_refusal? ha.usual, hclosed, hrefuses,
    ha.refuses_iff s₁.place s₂.place]

/-- What is served of twins is the same, and leaves twins. -/
theorem serve (h : Twins s₁ s₂) (a : Access) :
    (s₁.serve a).1 = (s₂.serve a).1 ∧ Twins (s₁.serve a).2 (s₂.serve a).2 := by
  rw [← h]
  cases a with
  | read n => exact ⟨rfl, rfl⟩
  | readLine => exact ⟨rfl, rfl⟩
  | seek offset whence => exact ⟨rfl, rfl⟩
  | tell => exact ⟨rfl, rfl⟩
  | close => exact ⟨rfl, rfl⟩

/-- **A plain access treats twins alike**: it is refused of both, or comes to the same on both. -/
theorem access (h : Twins s₁ s₂) (ha : s₁.Plain a) :
    (∃ f₁ f₂, s₁.access a = (.error f₁, s₁) ∧ s₂.access a = (.error f₂, s₂) ∧
      f₁.isFault = true ∧ f₂.isFault = true) ∨
    ∃ r s₁' s₂', s₁.access a = (.ok r, s₁') ∧ s₂.access a = (.ok r, s₂') ∧ Twins s₁' s₂' := by
  have hsome := h.isSome_refusal?_eq ha
  rw [s₁.access_eq, s₂.access_eq]
  cases h₁ : s₁.refusal? a with
  | some f₁ =>
    rw [h₁] at hsome
    obtain ⟨f₂, h₂⟩ := Option.isSome_iff_exists.mp hsome.symm
    rw [h₂]
    exact .inl ⟨f₁, f₂, rfl, rfl, isFault_of_refusal? h₁, isFault_of_refusal? h₂⟩
  | none =>
    rw [h₁] at hsome
    have h₂ : s₂.refusal? a = none :=
      Option.isNone_iff_eq_none.mp (Option.isSome_eq_false_iff.mp hsome.symm)
    obtain ⟨hsame, htwins⟩ := h.serve a
    rw [h₂, ← hsame]
    exact .inr ⟨_, _, _, rfl, rfl, htwins⟩

end Twins

end Spool

/-! ### Messages and readings -/

namespace Staged

/-- The same but for twin spools. -/
structure Twins (m₁ m₂ : Staged) : Prop where
  /-- All but the spool is the same. -/
  rest : { m₁ with spool := m₂.spool } = m₂
  /-- The spools are twins. -/
  spool : m₁.spool.Twins m₂.spool

namespace Twins

variable {m₁ m₂ : Staged}

/-- A message and the same one with a twin spool. -/
theorem of_spool {m : Staged} {s : Spool} (h : m.spool.Twins s) : m.Twins { m with spool := s } :=
  ⟨rfl, h⟩

/-- A twin is the same message with another spool. -/
theorem exists_spool (h : Twins m₁ m₂) : ∃ s, m₁.spool.Twins s ∧ m₂ = { m₁ with spool := s } :=
  ⟨m₂.spool, h.spool, h.rest.symm⟩

theorem write (h : Twins m₁ m₂) (data : Bytes) :
    (m₁.write data).1 = (m₂.write data).1 ∧ Twins (m₁.write data).2 (m₂.write data).2 := by
  obtain ⟨s, hs, rfl⟩ := h.exists_spool
  obtain ⟨uid, spool, hasher, size, sealedDigest, released⟩ := m₁
  cases released with
  | true => exact ⟨rfl, .of_spool hs⟩
  | false =>
    cases sealedDigest with
    | some digest => exact ⟨rfl, .of_spool hs⟩
    | none => exact ⟨rfl, rfl, hs.write data⟩

theorem finish (h : Twins m₁ m₂) :
    m₁.finish.1 = m₂.finish.1 ∧ Twins m₁.finish.2 m₂.finish.2 := by
  obtain ⟨s, hs, rfl⟩ := h.exists_spool
  unfold Staged.finish
  dsimp only
  split
  · exact ⟨rfl, .of_spool hs⟩
  · exact ⟨rfl, .of_spool hs.rewind⟩

theorem release (h : Twins m₁ m₂) : Twins m₁.release.1 m₂.release.1 := by
  obtain ⟨s, hs, rfl⟩ := h.exists_spool
  unfold Staged.release
  dsimp only
  split
  · exact .of_spool hs
  · exact .of_spool hs.close

theorem farewell_eq (h : Twins m₁ m₂) (subject : Option Subject) :
    m₁.farewell subject = m₂.farewell subject := by
  rw [← h.rest]
  rfl

theorem readable_eq (h : Twins m₁ m₂) : m₁.readable = m₂.readable := by
  rw [← h.rest]
  rfl

theorem digest_eq (h : Twins m₁ m₂) : m₁.digest = m₂.digest := by
  rw [← h.rest]
  rfl

end Twins

/-- The body of a message that can be read is what its spool holds. -/
theorem body_of_readable {m : Staged} (h : m.readable = .ok ()) : m.body = .ok m.spool := by
  rw [body, h]
  rfl

/-- Two stages with one algorithm open twins. -/
theorem twins_openFor {s₁ s₂ : Stage} (h : s₁.algorithm = s₂.algorithm) (disk : Disk)
    (uid : String) : (s₁.openFor disk uid).Twins (s₂.openFor disk uid) := by
  unfold Stage.openFor
  rw [h]
  exact ⟨rfl, rfl⟩

end Staged

namespace Filled

/-- The same but for twin messages. -/
structure Twins (f₁ f₂ : Filled σ) : Prop where
  /-- The outcomes. -/
  outcome : f₁.outcome = f₂.outcome
  /-- The states of the session. -/
  state : f₁.state = f₂.state
  /-- The records. -/
  record : f₁.record = f₂.record
  /-- The messages. -/
  message : f₁.message.Twins f₂.message

variable {f₁ f₂ : Filled σ}

theorem Twins.after (h : Twins f₁ f₂) (t : List Step) : Twins (f₁.after t) (f₂.after t) :=
  ⟨h.outcome, h.state, congrArg (t ++ ·) h.record, h.message⟩

theorem Twins.rest (h : Twins f₁ f₂) : f₁.rest.Twins f₂.rest := by
  unfold Filled.rest
  rw [← h.outcome]
  cases f₁.outcome with
  | error e => exact h.message
  | ok n => exact h.message.finish.2

theorem Twins.reading_eq (h : Twins f₁ f₂) (uid : String) : f₁.reading uid = f₂.reading uid := by
  unfold reading
  rw [h.outcome, h.record, h.message.finish.1]

/-- Of twins the same is offered: nothing, or twins with the same count. -/
theorem Twins.offer (h : Twins f₁ f₂) :
    (∃ e, f₁.offer = .error e ∧ f₂.offer = .error e) ∨
      ∃ n m₁ m₂, f₁.offer = .ok (n, m₁) ∧ f₂.offer = .ok (n, m₂) ∧ m₁.Twins m₂ := by
  obtain ⟨hsame, htwins⟩ := h.message.finish
  unfold Filled.offer
  rw [← h.outcome]
  cases f₁.outcome with
  | error e => exact .inl ⟨e, rfl, rfl⟩
  | ok n =>
    generalize f₁.message.finish = p₁ at hsame htwins
    generalize f₂.message.finish = p₂ at hsame htwins
    obtain ⟨o, m₁⟩ := p₁
    obtain ⟨_, m₂⟩ := p₂
    cases hsame
    cases o with
    | error e => exact .inl ⟨e.failure, rfl, rfl⟩
    | ok u => exact .inr ⟨n, m₁, m₂, rfl, rfl, htwins⟩

end Filled

/-- **A reading fills twins alike**, by induction on it. -/
theorem Streaming.twins_fill (subject : Option Subject) (st : Streaming σ) {m₁ m₂ : Staged}
    (h : m₁.Twins m₂) : (st.fill subject m₁).Twins (st.fill subject m₂) := by
  induction st generalizing m₁ m₂ with
  | done o x => exact ⟨rfl, rfl, rfl, h⟩
  | say r next ih => exact (ih h).after _
  | write data next ih =>
    obtain ⟨hsame, htwins⟩ := h.write data
    rw [fill, fill]
    generalize m₁.write data = p₁ at hsame htwins
    generalize m₂.write data = p₂ at hsame htwins
    obtain ⟨o, m₁'⟩ := p₁
    obtain ⟨_, m₂'⟩ := p₂
    cases hsame
    cases o with
    | ok n => exact ih _ htwins
    | error e => exact ih _ htwins
  | finish next ih =>
    obtain ⟨hsame, htwins⟩ := h.finish
    rw [fill, fill]
    generalize m₁.finish = p₁ at hsame htwins
    generalize m₂.finish = p₂ at hsame htwins
    obtain ⟨o, m₁'⟩ := p₁
    obtain ⟨_, m₂'⟩ := p₂
    cases hsame
    cases o with
    | ok u => exact ih _ htwins
    | error e => exact ih _ htwins
  | release next ih =>
    rw [fill, fill, h.farewell_eq]
    exact (ih h.release).after _

end Mailroom
