import Mailroom.Proofs.Accesses
import Mailroom.Proofs.Filling

/-!
# Uses of a staged message

A staged message is written, finished, asked for its body and its digest, and released, and once it
was finished a reader moves about in its body; all that in any order and any number of times. Of a
row of uses, an observer sees the uses and what they are answered (`Trace`). From that alone it
follows what the message allows next and what it holds (`Staged.Lawful`): what was written is what
the accepted writes bring, one after the other.

Whether a use is allowed depends on two flags, and the digest, the size and the spool are kept in
step with the bytes (`Staged.Sound`). So the proof is that the trace determines the flags and the
bytes (`Staged.Follows`), use by use.
-/

namespace Mailroom

namespace Staged

/-! ### Uses and their answers -/

/-- A use of a staged message. -/
inductive Use where
  /-- Append a piece of the body. -/
  | write (data : Bytes)
  /-- Finish the message. -/
  | finish
  /-- Release the message. -/
  | close
  /-- Ask for the body. -/
  | body
  /-- Ask for the digest. -/
  | digest
  /-- Ask for the digest in hexadecimal notation. -/
  | hexdigest
  /-- Ask for the size. -/
  | size
  /-- Ask whether the message is finished. -/
  | finished
  /-- Ask whether the message was released. -/
  | closed
  /-- Use the body, which was fetched before. -/
  | access (a : Spool.Access)

/-- What an accepted use is answered. -/
inductive Reply where
  /-- It was done. -/
  | done
  /-- The length of the piece that was written. -/
  | length (n : Nat)
  /-- The body. -/
  | body (s : Spool)
  /-- The digest. -/
  | digest (d : Bytes)
  /-- The digest in hexadecimal notation. -/
  | hexdigest (s : String)
  /-- The size. -/
  | size (n : Nat)
  /-- A flag. -/
  | flag (b : Bool)
  /-- What the use of the body comes to. -/
  | sight (r : Except Failure Spool.Answer)

/-- Use a message. -/
def use (m : Staged) : Use → Except StagingError Reply × Staged
  | .write data => ((m.write data).1.map .length, (m.write data).2)
  | .finish => (m.finish.1.map fun _ => .done, m.finish.2)
  | .close => (.ok .done, m.release.1)
  | .body => (m.body.map .body, m)
  | .digest => (m.digest.map .digest, m)
  | .hexdigest => (m.hexdigest.map .hexdigest, m)
  | .size => (.ok (.size m.size), m)
  | .finished => (.ok (.flag m.finished), m)
  | .closed => (.ok (.flag m.released), m)
  | .access a => (.ok (.sight (m.spool.access a).1), { m with spool := (m.spool.access a).2 })

theorem use_write {m m' : Staged} {data : Bytes} {r : Except StagingError Nat}
    (h : m.write data = (r, m')) : m.use (.write data) = (r.map .length, m') := by
  show ((m.write data).1.map Reply.length, (m.write data).2) = _
  rw [h]

theorem use_finish {m m' : Staged} {r : Except StagingError Unit} (h : m.finish = (r, m')) :
    m.use .finish = (r.map fun _ => .done, m') := by
  show (m.finish.1.map fun _ => Reply.done, m.finish.2) = _
  rw [h]

/-- What is logged of a use: the release of the spool. -/
def logged (m : Staged) : Use → List Event
  | .close => m.release.2
  | _ => []

/-- The message after some uses. -/
def after (m : Staged) : List Use → Staged
  | [] => m
  | u :: us => (m.use u).2.after us

/-- What is logged of some uses. -/
def log (m : Staged) : List Use → List Event
  | [] => []
  | u :: us => m.logged u ++ (m.use u).2.log us

/-- The uses of a message with their answers. -/
abbrev Trace : Type := List (Use × Except StagingError Reply)

/-- What an observer sees of some uses. -/
def trace (m : Staged) : List Use → Trace
  | [] => []
  | u :: us => (u, (m.use u).1) :: (m.use u).2.trace us

/-- The body is used after the message was finished only, and not closed by its reader. -/
def Permits (m : Staged) : Use → Prop
  | .access a => m.finished = true ∧ a ≠ .close
  | _ => True

instance (m : Staged) : (u : Use) → Decidable (m.Permits u)
  | .access a => inferInstanceAs (Decidable (m.finished = true ∧ a ≠ .close))
  | .write _ | .finish | .close | .body | .digest | .hexdigest | .size | .finished | .closed =>
    isTrue trivial

/-- Each of the uses is permitted when its turn comes. -/
def PermitsAll (m : Staged) : List Use → Prop
  | [] => True
  | u :: us => m.Permits u ∧ (m.use u).2.PermitsAll us

instance decidablePermitsAll : (m : Staged) → (us : List Use) → Decidable (m.PermitsAll us)
  | _, [] => isTrue trivial
  | m, u :: us =>
    have := decidablePermitsAll (m.use u).2 us
    inferInstanceAs (Decidable (m.Permits u ∧ (m.use u).2.PermitsAll us))

/-! ### What a trace says -/

namespace Trace

/-- The piece that an accepted write brings. -/
def piece? : Use × Except StagingError Reply → Option Bytes
  | (.write data, .ok _) => some data
  | _ => none

/-- What the accepted writes bring, one after the other. -/
def written (tr : Trace) : Bytes := (tr.filterMap piece?).foldl (· ++ ·) ByteArray.empty

/-- Whether finishing was accepted. -/
def finished (tr : Trace) : Bool :=
  tr.any fun
    | (.finish, .ok _) => true
    | _ => false

/-- Whether the message was closed. -/
def closed (tr : Trace) : Bool :=
  tr.any fun
    | (.close, _) => true
    | _ => false

variable (tr : Trace) (x : Use × Except StagingError Reply)

/-- A trace with one more use. -/
theorem written_snoc : written (tr ++ [x]) = tr.written ++ (piece? x).getD ByteArray.empty := by
  unfold written
  cases hx : piece? x <;> simp [hx]

theorem finished_append (tr' : Trace) : finished (tr ++ tr') = (tr.finished || tr'.finished) :=
  List.any_append

theorem closed_append (tr' : Trace) : closed (tr ++ tr') = (tr.closed || tr'.closed) :=
  List.any_append

end Trace

/-! ### The trace determines the message -/

/-- A message is as the trace of its uses says. -/
structure Follows (m : Staged) (a : Algorithm) (uid : String) (tr : Trace) : Prop where
  /-- It is the message of the candidate. -/
  uid : m.uid = uid
  /-- Digest and size keep track of the bytes. -/
  sound : m.Sound a
  /-- It is finished when finishing was accepted. -/
  finished : m.finished = tr.finished
  /-- It is released when it was closed. -/
  released : m.released = tr.closed
  /-- It contains what was written. -/
  content : m.spool.content = tr.written

theorem follows_openFor (s : Stage) (disk : Disk) (uid : String) :
    (s.openFor disk uid).Follows s.algorithm uid [] :=
  ⟨rfl, sound_openFor s disk uid, rfl, rfl, rfl⟩

variable {m : Staged} {a : Algorithm} {uid : String} {tr : Trace}

/-- A use that brings nothing, is no finish and no close, and leaves the message alone. -/
theorem Follows.aside (h : m.Follows a uid tr) {x : Use × Except StagingError Reply}
    (hp : Trace.piece? x = none) (hf : Trace.finished [x] = false) (hc : Trace.closed [x] = false) :
    m.Follows a uid (tr ++ [x]) := by
  refine ⟨h.uid, h.sound, ?_, ?_, ?_⟩
  · rw [Trace.finished_append, hf, Bool.or_false, h.finished]
  · rw [Trace.closed_append, hc, Bool.or_false, h.released]
  · rw [Trace.written_snoc, hp, h.content]
    exact ByteArray.append_empty.symm

theorem Follows.write (h : m.Follows a uid tr) (data : Bytes) :
    (m.use (.write data)).2.Follows a uid (tr ++ [(.write data, (m.use (.write data)).1)]) := by
  cases hr : m.released with
  | true =>
    have hw : m.write data = (.error (.released m.uid), m) := if_pos hr
    rw [use_write hw]
    exact h.aside rfl rfl rfl
  | false =>
    cases hs : m.sealedDigest with
    | some digest =>
      have hw : m.write data = (.error (.finished m.uid), m) := by
        simp [Staged.write, Staged.finished, hr, hs]
      rw [use_write hw]
      exact h.aside rfl rfl rfl
    | none =>
      obtain ⟨m', hw, ⟨hsound, hr', hs', hcontent⟩, huid⟩ :=
        Holds.write ⟨h.sound, hr, hs, h.content⟩ data
      have hf := h.finished
      have hc := h.released
      rw [use_write hw]
      refine ⟨huid.trans h.uid, hsound, ?_, ?_, ?_⟩
      · rw [Trace.finished_append, ← hf, Staged.finished, Staged.finished, hs, hs']
        rfl
      · rw [Trace.closed_append, ← hc, hr, hr']
        rfl
      · rw [Trace.written_snoc, hcontent]
        rfl

theorem Follows.finish (h : m.Follows a uid tr) :
    (m.use .finish).2.Follows a uid (tr ++ [(.finish, (m.use .finish).1)]) := by
  have hsound := h.sound.finish
  cases hr : m.released with
  | true =>
    have hfin : m.finish = (.error (.released m.uid), m) := if_pos hr
    rw [use_finish hfin]
    exact h.aside rfl rfl rfl
  | false =>
    have hfin : m.finish = (.ok (), { m with
        sealedDigest := some (m.sealedDigest.getD m.hasher.digest), spool := m.spool.rewind }) :=
      if_neg (by simp [hr])
    rw [hfin] at hsound
    rw [use_finish hfin]
    refine ⟨h.uid, hsound, ?_, ?_, ?_⟩
    · rw [Trace.finished_append]
      exact (Bool.or_true _).symm
    · rw [Trace.closed_append, ← h.released, hr]
      rfl
    · rw [Trace.written_snoc, ← h.content]
      exact ByteArray.append_empty.symm

theorem Follows.close (h : m.Follows a uid tr) :
    (m.use .close).2.Follows a uid (tr ++ [(.close, (m.use .close).1)]) := by
  have hsound := h.sound.release
  have hcontent : m.release.1.spool.content = m.spool.content := by
    unfold release
    split <;> rfl
  have hfinished : m.release.1.finished = m.finished := by
    unfold release
    split <;> rfl
  have hreleased : m.release.1.released = true := by
    unfold release
    split
    · assumption
    · rfl
  refine ⟨m.uid_release.trans h.uid, hsound, ?_, ?_, ?_⟩
  · rw [Trace.finished_append, ← h.finished]
    exact hfinished.trans (Bool.or_false _).symm
  · rw [Trace.closed_append]
    exact hreleased.trans (Bool.or_true _).symm
  · rw [Trace.written_snoc, ← h.content]
    exact hcontent.trans ByteArray.append_empty.symm

theorem Follows.access (h : m.Follows a uid tr) {acc : Spool.Access} (ha : acc ≠ .close) :
    (m.use (.access acc)).2.Follows a uid (tr ++ [(.access acc, (m.use (.access acc)).1)]) := by
  have hcontent := m.spool.content_access acc
  have hsound : (m.use (.access acc)).2.Sound a := by
    obtain ⟨hhasher, hsize, hsealed, hclosed⟩ := h.sound
    refine ⟨?_, ?_, ?_, (m.spool.closed_access ha).trans hclosed⟩
    · exact hhasher.trans (by rw [← hcontent]; rfl)
    · exact hsize.trans (by rw [← hcontent]; rfl)
    · intro digest hd
      rw [hsealed digest hd, ← hcontent]
      rfl
  have hsame : (m.use (.access acc)).2.Follows a uid tr :=
    ⟨h.uid, hsound, h.finished, h.released, hcontent.trans h.content⟩
  exact hsame.aside rfl rfl rfl

/-- **One use**: the message goes on as the trace says. -/
theorem Follows.step (h : m.Follows a uid tr) {u : Use} (hu : m.Permits u) :
    (m.use u).2.Follows a uid (tr ++ [(u, (m.use u).1)]) := by
  cases u with
  | write data => exact h.write data
  | finish => exact h.finish
  | close => exact h.close
  | access acc => exact h.access hu.2
  | body | digest | hexdigest | size | finished | closed => exact h.aside rfl rfl rfl

/-- **Any uses**, by induction on the uses. -/
theorem Follows.run (h : m.Follows a uid tr) {us : List Use} (hus : m.PermitsAll us) :
    (m.after us).Follows a uid (tr ++ m.trace us) := by
  induction us generalizing m tr with
  | nil =>
    show m.Follows a uid (tr ++ [])
    rwa [List.append_nil]
  | cons u us ih =>
    have hrest := ih (h.step hus.1) hus.2
    rwa [List.append_assoc] at hrest

/-- A message that is finished or released accepts no more writes. -/
theorem piece?_of_ended (h : m.released = true ∨ m.finished = true) (u : Use) :
    Trace.piece? (u, (m.use u).1) = none := by
  cases u with
  | write data =>
    cases hr : m.released with
    | true => rw [use_write (if_pos hr)]; rfl
    | false =>
      have hf : m.finished = true := h.resolve_left (by simp [hr])
      have hw : m.write data = (.error (.finished m.uid), m) := by simp [Staged.write, hr, hf]
      rw [use_write hw]
      rfl
  | finish | close | body | digest | hexdigest | size | finished | closed | access => rfl

/-- What was written stays once the message is finished or released, by induction on the uses. -/
theorem Follows.written_eq (h : m.Follows a uid tr)
    (hend : tr.closed = true ∨ tr.finished = true) {us : List Use} (hus : m.PermitsAll us) :
    (tr ++ m.trace us).written = tr.written := by
  induction us generalizing m tr with
  | nil => exact congrArg Trace.written (List.append_nil tr)
  | cons u us ih =>
    have hmore : (tr ++ [(u, (m.use u).1)]).closed = true ∨
        (tr ++ [(u, (m.use u).1)]).finished = true := by
      rw [Trace.closed_append, Trace.finished_append]
      exact hend.imp (by simp +contextual) (by simp +contextual)
    have hrest := ih (h.step hus.1) hmore hus.2
    rw [List.append_assoc] at hrest
    have hnone : Trace.piece? (u, (m.use u).1) = none :=
      piece?_of_ended (by rwa [h.released, h.finished]) u
    refine hrest.trans ?_
    rw [Trace.written_snoc, hnone]
    exact ByteArray.append_empty

theorem logged_of_released (h : m.released = true) (u : Use) : m.logged u = [] := by
  cases u with
  | close => simp [logged, release, h]
  | write | finish | body | digest | hexdigest | size | finished | closed | access => rfl

/-- A released message is not released again, by induction on the uses. -/
theorem log_of_closed (h : m.Follows a uid tr) (hc : tr.closed = true) {us : List Use}
    (hus : m.PermitsAll us) : m.log us = [] := by
  induction us generalizing m tr with
  | nil => rfl
  | cons u us ih =>
    have hmore : (tr ++ [(u, (m.use u).1)]).closed = true := by
      rw [Trace.closed_append, hc]
      rfl
    have hu := logged_of_released (h.released.trans hc) u
    have hrest := ih (h.step hus.1) hmore hus.2
    exact (congrArg (· ++ _) hu).trans hrest

/-- **The spool is released once**, by the first close, by induction on the uses. -/
theorem Follows.log_eq (h : m.Follows a uid tr) (hc : tr.closed = false) {us : List Use}
    (hus : m.PermitsAll us) :
    m.log us =
      if (m.trace us).closed then [.released uid (tr ++ m.trace us).written.size] else [] := by
  induction us generalizing m tr with
  | nil => rfl
  | cons u us ih =>
    have hstep := h.step hus.1
    have hassoc : tr ++ m.trace (u :: us) =
        tr ++ [(u, (m.use u).1)] ++ (m.use u).2.trace us := by
      rw [List.append_assoc]
      rfl
    rw [hassoc]
    by_cases hu : u = Use.close
    · subst hu
      have hclosed : (tr ++ [(Use.close, (m.use .close).1)]).closed = true := by
        rw [Trace.closed_append]
        exact Bool.or_true _
      have hlogged : m.logged .close = [.released uid m.size] := by
        simp [logged, release, h.released.trans hc, h.uid]
      rw [hstep.written_eq (.inl hclosed) hus.2, Trace.written_snoc, ← h.content]
      show m.logged .close ++ (m.use .close).2.log us = [.released uid (m.spool.content ++ _).size]
      rw [hlogged, log_of_closed hstep hclosed hus.2, h.sound.size]
      simp [Trace.piece?]
    · obtain ⟨hclosed, hlogged⟩ : Trace.closed [(u, (m.use u).1)] = false ∧ m.logged u = [] := by
        cases u with
        | close => exact absurd rfl hu
        | write | finish | body | digest | hexdigest | size | finished | closed | access =>
          exact ⟨rfl, rfl⟩
      have hrest := ih hstep (by rw [Trace.closed_append, hc, hclosed]; rfl) hus.2
      have htail : (m.trace (u :: us)).closed = ((m.use u).2.trace us).closed := by
        show Trace.closed ([(u, (m.use u).1)] ++ _) = _
        rw [Trace.closed_append, hclosed, Bool.false_or]
      rw [htail, ← hrest]
      show m.logged u ++ _ = _
      rw [hlogged, List.nil_append]

/-! ### What a message allows and holds -/

/-- Whether the body and the digest are available after some uses. -/
def Trace.offers (tr : Trace) : Bool := tr.finished && !tr.closed

/-- What a trace says of the message: what it allows next, what it holds, and that no use which is
refused changes anything. -/
structure Lawful (a : Algorithm) (uid : String) (tr : Trace) (m : Staged) : Prop where
  /-- A write is accepted while the message is neither finished nor closed. -/
  write : ∀ data, (m.use (.write data)).1 =
    if tr.closed then .error (.released uid)
    else if tr.finished then .error (.finished uid) else .ok (.length data.size)
  /-- Finishing is accepted while the message is not closed. -/
  finish : (m.use .finish).1 = if tr.closed then .error (.released uid) else .ok .done
  /-- Each time, it takes the body back to its start. -/
  rewind : tr.closed = false → (m.use .finish).2.spool.position = 0
  /-- Body and digest are available while the message is finished and not closed. -/
  offer : tr.offers = true → (m.use .body).1 = .ok (.body m.spool) ∧
    (m.use .digest).1 = .ok (.digest (a.hash tr.written)) ∧
    (m.use .hexdigest).1 = .ok (.hexdigest (a.hash tr.written).hex)
  /-- Else they are refused. -/
  withhold : tr.offers = false → ∀ u ∈ [Use.body, .digest, .hexdigest],
    (m.use u).1 = .error (if tr.closed then .released uid else .unfinished uid)
  /-- The body is what was written. -/
  content : m.spool.content = tr.written
  /-- The spool is open until the first close. -/
  shut : m.spool.closed = tr.closed
  /-- The size and the flags can be asked for at any time. -/
  look : (m.use .size).1 = .ok (.size tr.written.size) ∧
    (m.use .finished).1 = .ok (.flag tr.finished) ∧ (m.use .closed).1 = .ok (.flag tr.closed)
  /-- A refused use leaves everything as it is. -/
  refused : ∀ u e, (m.use u).1 = .error e → (m.use u).2 = m
  /-- After the first close everything but closing and looking is refused, -/
  released : tr.closed = true → ∀ u, u ∉ [Use.close, .size, .finished, .closed] →
    (∀ acc, u ≠ .access acc) → (m.use u).1 = .error (.released uid)
  /-- a body that was fetched before refuses to be read, -/
  unread : tr.closed = true → ∀ acc, acc ≠ .close →
    ∃ f, m.use (.access acc) = (.ok (.sight (.error f)), m)
  /-- and closing again does nothing. -/
  again : tr.closed = true → m.use .close = (.ok .done, m) ∧ m.logged .close = []

theorem Follows.readable_eq (h : m.Follows a uid tr) : m.readable =
    if tr.offers then .ok ()
    else .error (if tr.closed then .released uid else .unfinished uid) := by
  unfold readable Trace.offers
  rw [h.released, h.finished, h.uid]
  cases tr.closed <;> cases tr.finished <;> rfl

/-- **A trace determines what its message allows and holds.** -/
theorem Follows.lawful (h : m.Follows a uid tr) : m.Lawful a uid tr where
  write data := by
    unfold use Staged.write
    rw [h.released, h.finished, h.uid]
    cases tr.closed <;> cases tr.finished <;> rfl
  finish := by
    unfold use Staged.finish
    rw [h.released, h.uid]
    cases tr.closed <;> rfl
  rewind hc := by
    have hfin : m.released = false := h.released.trans hc
    simp [use, Staged.finish, hfin, Spool.rewind]
  offer ho := by
    have hread := h.readable_eq
    rw [if_pos ho] at hread
    have hfinished : m.finished = true := h.finished.trans (Bool.and_eq_true_iff.mp ho).1
    obtain ⟨digest, hd⟩ := Option.isSome_iff_exists.mp hfinished
    have hdigest : m.digest = .ok (a.hash tr.written) := by
      rw [← h.content, ← h.sound.sealedDigest digest hd, Staged.digest, hread, hd]
      rfl
    refine ⟨?_, ?_, ?_⟩
    · simp [use, Staged.body, hread, Except.map]
    · simp [use, hdigest, Except.map]
    · simp [use, Staged.hexdigest, hdigest, Except.map]
  withhold ho u hu := by
    have hread := h.readable_eq
    rw [ho, if_neg Bool.false_ne_true] at hread
    obtain rfl | rfl | rfl : u = .body ∨ u = .digest ∨ u = .hexdigest := by simpa using hu
    · simp [use, Staged.body, hread, Except.map]
    · simp [use, Staged.digest, hread, Except.map]
    · simp [use, Staged.hexdigest, Staged.digest, hread, Except.map]
  content := h.content
  shut := h.sound.closed.trans h.released
  look := by
    rw [← h.content, ← h.finished, ← h.released, ← h.sound.size]
    exact ⟨rfl, rfl, rfl⟩
  refused u e he := by
    cases u with
    | write data =>
      unfold use Staged.write at he ⊢
      cases hr : m.released <;> cases hf : m.finished <;> simp_all [Except.map]
    | finish =>
      unfold use Staged.finish at he ⊢
      cases hr : m.released <;> simp_all [Except.map]
    | close => cases he
    | access acc => cases he
    | body | digest | hexdigest | size | finished | closed => rfl
  released hc u hu hacc := by
    have hr : m.released = true := h.released.trans hc
    have hread : m.readable = .error (.released uid) := by rw [readable, if_pos hr, h.uid]
    cases u with
    | write data => simp [use, Staged.write, hr, h.uid, Except.map]
    | finish => simp [use, Staged.finish, hr, h.uid, Except.map]
    | body => simp [use, Staged.body, hread, Except.map]
    | digest => simp [use, Staged.digest, hread, Except.map]
    | hexdigest => simp [use, Staged.hexdigest, Staged.digest, hread, Except.map]
    | access acc => exact absurd rfl (hacc acc)
    | close | size | finished | closed => simp at hu
  unread hc acc hacc := by
    obtain ⟨f, hf⟩ := m.spool.access_of_closed (h.sound.closed.trans (h.released.trans hc)) hacc
    exact ⟨f, by simp [use, hf]⟩
  again hc := by
    have hr : m.released = true := h.released.trans hc
    exact ⟨by simp [use, release, hr], logged_of_released hr _⟩

/-- **The uses of a staged message**: for every stage, candidate, and row of uses in which the body
is used after finishing only and not closed by its reader. What the uses are answered determines
what the message allows and holds (`Lawful`), and so it does after every beginning of the row. Once
the message is finished or closed, no further uses change what was written. The spool is released
once, by the first close, and never otherwise. -/
theorem uses_lawful (s : Stage) (disk : Disk) (uid : String) {us : List Use}
    (h : (s.openFor disk uid).PermitsAll us) :
    let m := (s.openFor disk uid).after us
    let tr := (s.openFor disk uid).trace us
    m.Lawful s.algorithm uid tr ∧
      (tr.closed = true ∨ tr.finished = true → ∀ vs, m.PermitsAll vs →
        Trace.written (tr ++ m.trace vs) = tr.written) ∧
      (s.openFor disk uid).log us = if tr.closed then [.released uid tr.written.size] else [] := by
  intro m tr
  have hopen := follows_openFor s disk uid
  have hfollows : m.Follows s.algorithm uid tr := hopen.run h
  exact ⟨hfollows.lawful, fun hend vs hvs => hfollows.written_eq hend hvs, hopen.log_eq rfl h⟩

/-- A body that goes to disk is read in part, finished again, and closed twice. -/
theorem uses_lawful_reread :
    let s : Stage := ⟨"sha256", .sha256, 4⟩
    let us : List Use := [.write "hel".toUTF8, .write "lo".toUTF8, .finish, .write "!".toUTF8,
      .access (.read (some 2)), .finish, .close, .body, .close]
    (s.openFor .usual "7").PermitsAll us ∧
      ((s.openFor .usual "7").after us).Lawful .sha256 "7" ((s.openFor .usual "7").trace us) ∧
      (s.openFor .usual "7").log us = [.released "7" 5] := by
  intro s us
  have hus : (s.openFor .usual "7").PermitsAll us := by decide +kernel
  obtain ⟨hlawful, -, hlog⟩ := uses_lawful s .usual "7" hus
  exact ⟨hus, hlawful, hlog⟩

end Staged

end Mailroom
