import Mailroom.Proofs.Uses
import Mailroom.Round.Basic
import Mathlib.Data.List.Induction

/-!
# Where a body is kept

The settings limit how many bytes of a body are kept in memory. With any limit but zero a staged
message has its bytes there as long as there are no more of them than that, and on disk from the
write on that brings more, whatever else is done with the message before, between and after
(`Staged.uses_keep`). Moving to disk loses nothing, and later writes only add at the end.

Zero is a limit that the settings accept, and it stands for none: every body then stays in memory,
the ones that are larger than the limit included (`Staged.kept_above_zero`).

A use of a message writes to its spool, or else moves the position and closes the spool at most
(`Staged.spool_use`). So the place is a matter of the writes, and of the bytes that are there.
-/

namespace Mailroom

namespace Staged

variable {m : Staged} {limit : Nat}

theorem spool_finish (m : Staged) :
    ∃ position closed, m.finish.2.spool = { m.spool with position, closed } := by
  unfold finish
  split <;> exact ⟨_, _, rfl⟩

theorem spool_release (m : Staged) :
    ∃ position closed, m.release.1.spool = { m.spool with position, closed } := by
  unfold release
  split <;> exact ⟨_, _, rfl⟩

/-- What a use does to the spool: it writes a piece, or it moves the position and closes the spool
at most. -/
theorem spool_use (m : Staged) (u : Use) :
    (∃ data, (m.use u).2.spool = m.spool.write data) ∨
      ∃ position closed, (m.use u).2.spool = { m.spool with position, closed } := by
  cases u with
  | write data =>
    show (∃ piece, (m.write data).2.spool = m.spool.write piece) ∨
      ∃ position closed, (m.write data).2.spool = { m.spool with position, closed }
    unfold Staged.write
    split
    · exact .inr ⟨_, _, rfl⟩
    · split
      · exact .inr ⟨_, _, rfl⟩
      · exact .inl ⟨data, rfl⟩
  | finish => exact .inr m.spool_finish
  | close => exact .inr m.spool_release
  | access a => exact .inr (m.spool.exists_access a)
  | body | digest | hexdigest | size | finished | closed => exact .inr ⟨_, _, rfl⟩

/-! ### The place -/

/-- The message keeps to a limit: its bytes are in memory exactly when there are no more of them, or
when the limit stands for none. -/
structure Within (m : Staged) (limit : Nat) : Prop where
  /-- The spool has the limit. -/
  limit_eq : m.spool.limit = limit
  /-- The place goes by the size. -/
  place_iff : m.spool.place = .memory ↔ limit = 0 ∨ m.spool.content.size ≤ limit

theorem within_openFor {s : Stage} (hs : s.memoryLimit = limit) (disk : Disk) (uid : String) :
    (s.openFor disk uid).Within limit := ⟨hs, iff_of_true rfl (.inr (Nat.zero_le _))⟩

/-- **One use** keeps the message to its limit. A piece that is written can only take the bytes past
the limit, so a spool that is on disk has no way back. -/
theorem Within.use (h : m.Within limit) (u : Use) : (m.use u).2.Within limit := by
  obtain ⟨hlimit, hplace⟩ := h
  rcases m.spool_use u with ⟨data, hu⟩ | ⟨position, closed, hu⟩
  · refine ⟨by rw [hu]; exact hlimit, ?_⟩
    have hcontent : (m.spool.write data).content = m.spool.content ++ data := rfl
    rw [hu, Spool.place_write, hplace, hlimit, hcontent, ByteArray.size_append]
    omega
  · refine ⟨by rw [hu]; exact hlimit, ?_⟩
    rw [hu]
    exact hplace

/-- **Any uses**, by induction on the uses. -/
theorem Within.after (h : m.Within limit) (us : List Use) : (m.after us).Within limit := by
  induction us generalizing m with
  | nil => exact h
  | cons u us ih => exact ih (h.use u)

/-- A spool that is on disk stays there, by induction on the uses. -/
theorem place_after (hm : m.spool.place = .disk) (us : List Use) :
    (m.after us).spool.place = .disk := by
  induction us generalizing m with
  | nil => exact hm
  | cons u us ih =>
    refine ih ?_
    rcases m.spool_use u with ⟨data, hu⟩ | ⟨position, closed, hu⟩
    · rw [hu, Spool.write, Spool.placeAfter, hm]
      exact ite_self _
    · rw [hu]
      exact hm

/-- What two traces bring stands one after the other, by induction on the second from its end. -/
theorem Trace.written_append (tr tr' : Trace) :
    written (tr ++ tr') = tr.written ++ tr'.written := by
  induction tr' using List.reverseRecOn with
  | nil => exact (congrArg written (List.append_nil tr)).trans ByteArray.append_empty.symm
  | append_singleton tr' x ih =>
    rw [← List.append_assoc, written_snoc, ih, written_snoc, ByteArray.append_assoc]

/-- **Where a body is kept**: for all settings, every candidate and every row of uses in which the
body is used after finishing only and not closed by its reader. After the uses the message contains
what the accepted writes bring, one after the other. These bytes are in memory exactly when there
are no more of them than the settings allow, or when the settings allow none, which stands for any
number. Whatever uses follow, they stay at the front as they are, and on disk if they are there. -/
theorem uses_keep (d : Settings.Delivery) (disk : Disk) (uid : String) {us : List Use}
    (h : ((Stage.ofSettings d).openFor disk uid).PermitsAll us) :
    let m := ((Stage.ofSettings d).openFor disk uid).after us
    let tr := ((Stage.ofSettings d).openFor disk uid).trace us
    m.spool.content = tr.written ∧
    (m.spool.place = .memory ↔ d.memoryLimit = 0 ∨ tr.written.size ≤ d.memoryLimit) ∧
    ∀ vs, m.PermitsAll vs →
      (m.after vs).spool.content = tr.written ++ (m.trace vs).written ∧
      (m.spool.place = .disk → (m.after vs).spool.place = .disk) := by
  intro m tr
  have hfollows : m.Follows d.algorithm uid tr :=
    (follows_openFor (Stage.ofSettings d) disk uid).run h
  have hwithin : m.Within d.memoryLimit :=
    (within_openFor (s := Stage.ofSettings d) rfl disk uid).after us
  refine ⟨hfollows.content, hfollows.content ▸ hwithin.place_iff, fun vs hvs => ⟨?_, ?_⟩⟩
  · rw [(hfollows.run hvs).content, Trace.written_append]
  · exact fun hm => place_after hm vs

/-- With a limit of four bytes, the second of three writes takes a body to disk in its middle. -/
theorem uses_keep_crossing :
    let d : Settings.Delivery := ⟨"INBOX", "", "", "", 1, 300, 4, .sha1⟩
    let us : List Use := [.write "hel".toUTF8, .write "lo".toUTF8]
    let vs : List Use := [.write "!".toUTF8, .finish, .access (.read (some 2)), .finish]
    let m := (Stage.ofSettings d).openFor .usual "7"
    m.PermitsAll us ∧ (m.after us).PermitsAll vs ∧
      (m.after [.write "hel".toUTF8]).spool.place = .memory ∧
      (m.after us).spool.place = .disk ∧ ((m.after us).after vs).spool.place = .disk ∧
      ((m.after us).after vs).spool.content = "hello!".toUTF8 := by
  intro d us vs m
  have hfirst : m.PermitsAll [.write "hel".toUTF8] := by decide +kernel
  have hus : m.PermitsAll us := by decide +kernel
  have hvs : (m.after us).PermitsAll vs := by decide +kernel
  obtain ⟨-, hmemory, -⟩ := uses_keep d .usual "7" hfirst
  obtain ⟨-, hdisk, hlater⟩ := uses_keep d .usual "7" hus
  have hplace : (m.after us).spool.place = .disk := by decide +kernel
  obtain ⟨hcontent, hstays⟩ := hlater vs hvs
  refine ⟨hus, hvs, hmemory.mpr (by decide +kernel), hplace, hstays hplace, ?_⟩
  rw [hcontent]
  decide +kernel

/-- The settings accept a limit of zero, and one byte is then more than the limit and in memory. -/
theorem kept_above_zero : ∃ d,
    Settings.Delivery.read [("spool_max_memory_bytes", .int 0)] [] = .ok d ∧
    let m := (Stage.ofSettings d).openFor .usual "7"
    let us : List Use := [.write "a".toUTF8]
    (m.use (.write "a".toUTF8)).1 = .ok (.length 1) ∧
      ¬ ((m.after us).spool.place = .memory ↔ (m.trace us).written.size ≤ d.memoryLimit) := by
  refine ⟨⟨"INBOX", "", "", "", 1, 300, 0, .sha1⟩, rfl, rfl, ?_⟩
  intro h
  exact absurd (h.mp rfl) (by decide +kernel)

end Staged

end Mailroom
