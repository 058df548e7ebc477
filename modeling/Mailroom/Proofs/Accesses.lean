import Mailroom.Spool

/-!
# Accesses to a spool

An access to a spool is refused and changes nothing, or it is served (`Spool.access_eq`). Why it is
refused depends on its arguments, on whether the spool is closed, and on its count or target
(`Spool.refusal?`), and is always an ordinary failure. What is served moves the position at most, or
closes the spool.
-/

namespace Mailroom

namespace Spool

/-- What an access to a spool comes to that is not refused. -/
def serve (s : Spool) : Access → Answer × Spool
  | .read n => (.bytes (s.take (s.countFor n)).1, (s.take (s.countFor n)).2)
  | .readLine => (.bytes (s.take (lineLength s.rest)).1, (s.take (lineLength s.rest)).2)
  | .seek offset whence =>
    (.position (s.target offset whence), { s with position := s.target offset whence })
  | .tell => (.position s.position, s)
  | .close => (.none, { s with closed := true })

/-- Why an open spool refuses an access. -/
def openRefusal? (s : Spool) : Access → Option Failure
  | .read n => s.readFault n
  | .seek offset whence => s.seekFault offset whence
  | .readLine | .tell | .close => none

/-- Why an access is refused: for its arguments, because the spool is closed, or for its count or
its target. -/
def refusal? (s : Spool) (a : Access) : Option Failure :=
  (argumentFault s.place a).or
    (if s.closed = true ∧ a ≠ .close then some (.plain .value (closedText s.place a))
      else s.openRefusal? a)

/-- An access is refused and changes nothing, or it is served. -/
theorem access_eq (s : Spool) (a : Access) : s.access a = match s.refusal? a with
    | some f => (.error f, s)
    | none => (.ok (s.serve a).1, (s.serve a).2) := by
  obtain ⟨content, position, place, limit, disk, closed⟩ := s
  unfold access refusal?
  rcases argumentFault place a with _ | f
  · cases closed with
    | false =>
      cases a with
      | read n =>
        rcases hf : readFault ⟨content, position, place, limit, disk, false⟩ n with _ | f
        · simp [accessOpen, openRefusal?, serve, hf]
        · simp [accessOpen, openRefusal?, hf]
      | seek offset whence =>
        rcases hf : seekFault ⟨content, position, place, limit, disk, false⟩ offset whence
          with _ | f
        · simp [accessOpen, openRefusal?, serve, hf]
        · simp [accessOpen, openRefusal?, hf]
      | readLine | tell | close => rfl
    | true => cases a <;> rfl
  · rfl

variable {s : Spool} {a : Access}

/-- What is served moves the position and closes the spool at most. -/
theorem exists_serve (s : Spool) (a : Access) :
    ∃ position closed, (s.serve a).2 = { s with position, closed } := by
  cases a <;> exact ⟨_, _, rfl⟩

/-- An access moves the position and closes the spool at most. -/
theorem exists_access (s : Spool) (a : Access) :
    ∃ position closed, (s.access a).2 = { s with position, closed } := by
  rw [access_eq]
  cases s.refusal? a with
  | some f => exact ⟨_, _, rfl⟩
  | none => exact s.exists_serve a

theorem content_access (s : Spool) (a : Access) : (s.access a).2.content = s.content := by
  obtain ⟨position, closed, h⟩ := s.exists_access a
  rw [h]

theorem disk_access (s : Spool) (a : Access) : (s.access a).2.disk = s.disk := by
  obtain ⟨position, closed, h⟩ := s.exists_access a
  rw [h]

/-- Only closing closes a spool. -/
theorem closed_access (s : Spool) (ha : a ≠ .close) : (s.access a).2.closed = s.closed := by
  rw [access_eq]
  cases s.refusal? a with
  | some f => rfl
  | none =>
    cases a with
    | close => exact absurd rfl ha
    | read | readLine | seek | tell => rfl

/-- A closed spool refuses every access but closing, and stays as it is. -/
theorem access_of_closed (hs : s.closed = true) (ha : a ≠ .close) :
    ∃ f, s.access a = (.error f, s) := by
  have hrefused : (s.refusal? a).isSome = true := by
    simp [refusal?, hs, ha]
  obtain ⟨f, hf⟩ := Option.isSome_iff_exists.mp hrefused
  rw [access_eq, hf]
  exact ⟨f, rfl⟩

/-- A read goes on by no more than it asks for. -/
theorem position_read_le (s : Spool) (n : Nat) :
    (s.access (.read (some n))).2.position ≤ s.position + n := by
  rw [access_eq]
  cases s.refusal? (.read (some n)) with
  | some f => exact Nat.le_add_right _ _
  | none =>
    have hcount : s.countFor (some n) ≤ n := by
      rw [countFor, if_neg (by omega)]
      exact Nat.min_le_left _ _
    exact Nat.add_le_add_left hcount _

theorem isFault_of_argumentFault {place : Place} {f : Failure}
    (h : argumentFault place a = some f) : f.isFault = true := by
  unfold argumentFault at h
  repeat' split at h
  all_goals first | cases h; rfl | cases h

theorem isFault_of_readFault {n : Option Int} {f : Failure} (h : s.readFault n = some f) :
    f.isFault = true := by
  unfold readFault at h
  repeat' split at h
  all_goals first | cases h; rfl | cases h

theorem isFault_of_seekFault {offset whence : Int} {f : Failure}
    (h : s.seekFault offset whence = some f) : f.isFault = true := by
  unfold seekFault at h
  repeat' split at h
  all_goals first | cases h; rfl | cases h

/-- Refusals are ordinary failures. -/
theorem isFault_of_refusal? {f : Failure} (h : s.refusal? a = some f) : f.isFault = true := by
  unfold refusal? at h
  rcases Option.or_eq_some_iff.mp h with h | ⟨-, h⟩
  · exact isFault_of_argumentFault h
  · split at h
    · cases h
      rfl
    · cases a with
      | read => exact isFault_of_readFault h
      | seek => exact isFault_of_seekFault h
      | readLine | tell | close => cases h

end Spool

end Mailroom
