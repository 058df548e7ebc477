import Mailroom.Proofs.Idle

/-!
# What a reading leaves in a message

A session reads a body by writing into the message it is given. `Streaming.fill` says what comes of
that: the outcome, the message, the session's state and the record. Work carries out a reading
exactly so (`Work.runFrom_stream`), and a reading that is carried out ends as the session says
(`Streaming.ends_fill`).

Whatever a session does with a message, digest and size of the message keep track of the bytes in
its spool (`Staged.Sound`), and finishing gives these bytes from their start, with their digest. A
message that is being written `Holds` what was written so far.
-/

namespace Mailroom

open Imap (Exchange)

variable {σ κ η : Type}

/-! ### Readings -/

/-- What is recorded of a release. -/
def Staged.farewell (m : Staged) (subject : Option Subject) : List Step :=
  if m.released then [] else [.spool m.uid false, .log ⟨.released m.uid m.size, subject⟩]

/-- What a reading leaves behind. -/
structure Filled (σ : Type) where
  /-- The answer or failure. -/
  outcome : Except Failure Int
  /-- The message. -/
  message : Staged
  /-- The session's state. -/
  state : σ
  /-- The record. -/
  record : List Step

/-- The same with more in front of the record. -/
def Filled.after (t : List Step) (f : Filled σ) : Filled σ := { f with record := t ++ f.record }

/-- What comes of a reading into a message, about a candidate. -/
def Streaming.fill (subject : Option Subject) : Streaming σ → Staged → Filled σ
  | .done outcome state, m => ⟨outcome, m, state, []⟩
  | .say r next, m => (next.fill subject m).after [Work.ofRemark subject r]
  | .write data next, m =>
    match m.write data with
    | (.ok n, m) => (next (.ok n)).fill subject m
    | (.error e, m) => (next (.error e.failure)).fill subject m
  | .finish next, m =>
    match m.finish with
    | (.ok (), m) => (next (.ok ())).fill subject m
    | (.error e, m) => (next (.error e.failure)).fill subject m
  | .release next, m => (next.fill subject m.release.1).after (m.farewell subject)

namespace Work

/-- A release is recorded, and changes nothing else. -/
theorem runFrom_release (m : Staged) (b : Bench σ κ η) :
    runFrom (release m) b = (.ok (), { b with steps := b.steps ++ m.farewell b.about }) := by
  unfold release Staged.release Staged.farewell
  cases m.released with
  | true =>
    show (_, b) = _
    rw [if_pos rfl, List.append_nil]
  | false =>
    show (_, ({ b with steps := b.steps ++ [_] ++ [_] } : Bench σ κ η)) = _
    rw [List.append_assoc]
    rfl

/-- **Readings are carried out** as `fill` says, by induction on the reading. -/
theorem runFrom_stream (st : Streaming σ) (m : Staged) (b : Bench σ κ η) :
    runFrom (stream st m) b =
      (.ok ((st.fill b.about m).outcome, (st.fill b.about m).message),
        { b with
          session := (st.fill b.about m).state
          steps := b.steps ++ (st.fill b.about m).record }) := by
  induction st generalizing m b with
  | done o x =>
    show (_, ({ b with session := x } : Bench σ κ η)) = _
    rw [Streaming.fill, List.append_nil]
  | say r next ih =>
    rw [stream, runFrom_bind_ok (runFrom_modify _ _), ih]
    simp only [Streaming.fill, Filled.after, List.append_assoc]
  | write data next ih =>
    rw [stream, Streaming.fill]
    rcases m.write data with ⟨e | n, m'⟩
    · exact ih _ m' b
    · exact ih _ m' b
  | finish next ih =>
    rw [stream, Streaming.fill]
    rcases m.finish with ⟨e | u, m'⟩
    · exact ih _ m' b
    · exact ih _ m' b
  | release next ih =>
    rw [stream, runFrom_bind_ok (runFrom_release m b), ih]
    simp only [Streaming.fill, Filled.after, List.append_assoc]

/-- Reading a candidate is recorded with what it leaves behind. -/
theorem runFrom_read (s : Session σ) (uid : String) (m : Staged) (b : Bench σ κ η) {f : Filled σ}
    (hf : (s.readBody uid b.session).fill b.about m = f) :
    runFrom (read s uid m) b = (.ok (f.outcome, f.message),
      { b with
        session := f.state
        steps := b.steps ++
          .call (.readBody uid) :: (f.record ++ [.answer (.of .count f.outcome)]) }) := by
  subst hf
  rw [read, runFrom_bind_ok (runFrom_record _ _), runFrom_bind_ok (runFrom_get _),
    runFrom_bind_ok (runFrom_stream _ _ _), runFrom_bind_ok (runFrom_record _ _)]
  simp

end Work

theorem wires_farewell (m : Staged) (subject : Option Subject) :
    wires (m.farewell subject) = [] := by
  unfold Staged.farewell
  split <;> rfl

/-- The steps that a session takes while it reads: its requests and log entries, and the release of
the message. -/
def Step.isReading : Step → Bool
  | wire _ | log _ | spool .. => true
  | call _ | answer _ | finish _ | deliver .. | verdict .. | observe _ | backoff _ | pause _
  | report .. | status _ | configure .. | serve _ => false

theorem Step.isTalk_of_isReading {s : Step} (h : s.isReading = true) : s.isTalk = false := by
  cases s <;> first | rfl | cases h

namespace Streaming

/-- A reading that is carried out ends as the session says, with the exchanges in its record. -/
theorem ends_fill (subject : Option Subject) (st : Streaming σ) (m : Staged) :
    st.Ends (wires (st.fill subject m).record) (st.fill subject m).outcome
      (st.fill subject m).state := by
  induction st generalizing m with
  | done o x => exact .done o x
  | say r next ih =>
    cases r with
    | event e => exact .event e (ih m)
    | wire x => exact .wire x (ih m)
  | write data next ih =>
    rw [fill]
    rcases m.write data with ⟨e | n, m'⟩
    · exact .write data _ (ih _ m')
    · exact .write data _ (ih _ m')
  | finish next ih =>
    rw [fill]
    rcases m.finish with ⟨e | u, m'⟩
    · exact .finish _ (ih _ m')
    · exact .finish _ (ih _ m')
  | release next ih =>
    rw [fill, Filled.after, wires_append, wires_farewell]
    exact .release (ih m.release.1)

/-- A reading takes no steps but its own. -/
theorem isReading_of_mem_fill {subject : Option Subject} {st : Streaming σ} {m : Staged} {s : Step}
    (h : s ∈ (st.fill subject m).record) : s.isReading = true := by
  induction st generalizing m with
  | done o x => cases h
  | say r next ih =>
    rcases List.mem_cons.mp h with rfl | h
    · cases r <;> rfl
    · exact ih h
  | write data next ih =>
    rw [fill] at h
    rcases hw : m.write data with ⟨e | n, m'⟩ <;> rw [hw] at h <;> exact ih _ h
  | finish next ih =>
    rw [fill] at h
    rcases hf : m.finish with ⟨e | u, m'⟩ <;> rw [hf] at h <;> exact ih _ h
  | release next ih =>
    rcases List.mem_append.mp h with h | h
    · unfold Staged.farewell at h
      split at h
      · cases h
      · obtain rfl | rfl : s = .spool m.uid false ∨ s = .log ⟨.released m.uid m.size, subject⟩ := by
          simpa using h
        · rfl
        · rfl
    · exact ih h

end Streaming

/-! ### What a message holds -/

namespace Staged

theorem uid_write (m : Staged) (data : Bytes) : (m.write data).2.uid = m.uid := by
  unfold write
  split
  · rfl
  · split <;> rfl

theorem uid_finish (m : Staged) : m.finish.2.uid = m.uid := by
  unfold finish
  split <;> rfl

theorem uid_release (m : Staged) : m.release.1.uid = m.uid := by
  unfold release
  split <;> rfl

theorem disk_write (m : Staged) (data : Bytes) : (m.write data).2.spool.disk = m.spool.disk := by
  unfold write
  split
  · rfl
  · split <;> rfl

theorem disk_finish (m : Staged) : m.finish.2.spool.disk = m.spool.disk := by
  unfold finish
  split <;> rfl

theorem disk_release (m : Staged) : m.release.1.spool.disk = m.spool.disk := by
  unfold release
  split <;> rfl

end Staged

/-- **What writing, finishing and releasing keep of a message is kept by a reading**, by induction
on the reading. -/
theorem Streaming.fill_keeps {P : Staged → Prop} (hwrite : ∀ m data, P m → P (m.write data).2)
    (hfinish : ∀ m, P m → P m.finish.2) (hrelease : ∀ m, P m → P m.release.1)
    (subject : Option Subject) (st : Streaming σ) {m : Staged} (h : P m) :
    P (st.fill subject m).message := by
  induction st generalizing m with
  | done o x => exact h
  | say r next ih => exact ih h
  | write data next ih =>
    have hw := hwrite m data h
    rw [fill]
    rcases he : m.write data with ⟨e | n, m'⟩ <;> rw [he] at hw <;> exact ih _ hw
  | finish next ih =>
    have hf := hfinish m h
    rw [fill]
    rcases he : m.finish with ⟨e | u, m'⟩ <;> rw [he] at hf <;> exact ih _ hf
  | release next ih => exact ih (hrelease m h)

/-- A message stays that of its candidate. -/
theorem Streaming.uid_fill (subject : Option Subject) (st : Streaming σ) (m : Staged) :
    (st.fill subject m).message.uid = m.uid :=
  fill_keeps (P := fun m' => m'.uid = m.uid) (fun m' data h => (m'.uid_write data).trans h)
    (fun m' h => m'.uid_finish.trans h) (fun m' h => m'.uid_release.trans h) subject st rfl

/-- The disk behind a message stays the same. -/
theorem Streaming.disk_fill (subject : Option Subject) (st : Streaming σ) (m : Staged) :
    (st.fill subject m).message.spool.disk = m.spool.disk :=
  fill_keeps (P := fun m' => m'.spool.disk = m.spool.disk)
    (fun m' data h => (m'.disk_write data).trans h) (fun m' h => m'.disk_finish.trans h)
    (fun m' h => m'.disk_release.trans h) subject st rfl

/-- The body can be read from its start, and is the given one. -/
structure Spool.Presents (s : Spool) (body : Bytes) : Prop where
  /-- The bytes. -/
  content : s.content = body
  /-- The position is at the start. -/
  position : s.position = 0
  /-- The spool is open. -/
  isOpen : s.closed = false

/-- Digest and size of the message keep track of the bytes in its spool. -/
structure Staged.Sound (m : Staged) (a : Algorithm) : Prop where
  /-- The digest has been fed the bytes. -/
  hasher : m.hasher = ⟨a, m.spool.content⟩
  /-- The size is theirs. -/
  size : m.size = m.spool.content.size
  /-- Once it is fixed, the digest is theirs. -/
  sealedDigest : ∀ digest, m.sealedDigest = some digest → digest = a.hash m.spool.content
  /-- The spool is open until the message is released. -/
  closed : m.spool.closed = m.released

namespace Staged

variable {m : Staged} {a : Algorithm} {body : Bytes}

theorem sound_openFor (s : Stage) (disk : Disk) (uid : String) :
    (s.openFor disk uid).Sound s.algorithm :=
  ⟨rfl, rfl, fun _ h => (by cases h), rfl⟩

theorem Sound.write (h : m.Sound a) (data : Bytes) : (m.write data).2.Sound a := by
  obtain ⟨uid, spool, hasher, size, sealedDigest, released⟩ := m
  obtain ⟨hh, hn, hd, hc⟩ := h
  dsimp only at hh hn hd hc
  subst hh hn hc
  unfold Staged.write
  split
  · exact ⟨rfl, rfl, hd, rfl⟩
  · next hr =>
    split
    · exact ⟨rfl, rfl, hd, rfl⟩
    · next hf =>
      refine ⟨rfl, ByteArray.size_append.symm, ?_, rfl⟩
      intro digest hs
      dsimp only at hs
      subst hs
      exact absurd rfl hf

theorem Sound.finish (h : m.Sound a) : m.finish.2.Sound a := by
  obtain ⟨hh, hn, hd, hc⟩ := h
  unfold Staged.finish
  split
  · exact ⟨hh, hn, hd, hc⟩
  · refine ⟨hh, hn, ?_, hc⟩
    intro digest hs
    dsimp only at hs
    cases hsealed : m.sealedDigest with
    | none =>
      rw [hsealed, hh] at hs
      exact (Option.some.inj hs).symm
    | some d =>
      rw [hsealed] at hs
      exact hd digest (hsealed.trans hs)

theorem Sound.release (h : m.Sound a) : m.release.1.Sound a := by
  unfold Staged.release
  split
  · exact h
  · exact ⟨h.hasher, h.size, h.sealedDigest, rfl⟩

/-- A finished message gives the bytes in its spool, from their start, and their digest. -/
theorem Sound.offered (h : m.Sound a) {m' : Staged} (hf : m.finish = (.ok (), m')) :
    m'.digest = .ok (a.hash m.spool.content) ∧
      (∃ body, m'.body = .ok body ∧ body.Presents m.spool.content) ∧
      m'.uid = m.uid ∧ m'.size = m.spool.content.size := by
  have hread := Staged.readable_of_finish hf
  have hsound := h.finish
  unfold Staged.finish at hf hsound
  split at hf
  · cases hf
  · next hr =>
    rw [if_neg hr] at hsound
    cases hf
    refine ⟨?_, ⟨m.spool.rewind, ?_, rfl, rfl, ?_⟩, rfl, h.size⟩
    · unfold Staged.digest
      rw [hread]
      exact congrArg Except.ok (hsound.sealedDigest _ rfl)
    · unfold Staged.body
      rw [hread]
      rfl
    · exact h.closed.trans (by simpa using hr)

end Staged

/-- Whatever a session does with a message, it stays sound. -/
theorem Streaming.sound_fill (subject : Option Subject) (st : Streaming σ) {m : Staged}
    {a : Algorithm} (h : m.Sound a) : (st.fill subject m).message.Sound a :=
  fill_keeps (P := (·.Sound a)) (fun _ data h => h.write data) (fun _ h => h.finish)
    (fun _ h => h.release) subject st h

/-- The message is being written, and so far it holds a body. -/
structure Staged.Holds (m : Staged) (a : Algorithm) (body : Bytes) : Prop where
  /-- Digest and size keep track of the body. -/
  sound : m.Sound a
  /-- It is not released. -/
  unreleased : m.released = false
  /-- It is not finished. -/
  unfinished : m.sealedDigest = none
  /-- The spool contains the body. -/
  content : m.spool.content = body

/-- A message that is opened is empty. -/
theorem Staged.holds_openFor (s : Stage) (disk : Disk) (uid : String) :
    (s.openFor disk uid).Holds s.algorithm ByteArray.empty :=
  ⟨sound_openFor s disk uid, rfl, rfl, rfl⟩

/-- Every piece is accepted, and counts with its whole length. -/
theorem Staged.Holds.write {m : Staged} {a : Algorithm} {body : Bytes} (h : m.Holds a body)
    (data : Bytes) :
    ∃ m', m.write data = (.ok data.size, m') ∧ m'.Holds a (body ++ data) ∧ m'.uid = m.uid := by
  have hsound := h.sound.write data
  obtain ⟨uid, spool, hasher, size, sealedDigest, released⟩ := m
  obtain ⟨-, hr, hs, hc⟩ := h
  dsimp only at hr hs hc
  subst hr hs hc
  exact ⟨_, rfl, ⟨hsound, rfl, rfl, rfl⟩, rfl⟩

/-- Writing pieces one after the other adds what they make together, by induction on the pieces. -/
theorem Streaming.fill_writeAll (subject : Option Subject) (x : σ) (next : Int → Streaming σ)
    (pieces : List Bytes) {m : Staged} {a : Algorithm} {body : Bytes} (h : m.Holds a body)
    (total : Int) :
    ∃ m', m'.Holds a (pieces.foldl (· ++ ·) body) ∧ m'.uid = m.uid ∧
      (writeAll x total next pieces).fill subject m =
        (next (total + ((pieces.foldl (· ++ ·) body).size - body.size))).fill subject m' := by
  induction pieces generalizing m body total with
  | nil => exact ⟨m, h, rfl, by simp [writeAll]⟩
  | cons piece pieces ih =>
    obtain ⟨m₁, hw, h₁, hu₁⟩ := h.write piece
    obtain ⟨m', h', hu', hfill⟩ := ih h₁ (total + piece.size)
    refine ⟨m', h', hu'.trans hu₁, ?_⟩
    rw [writeAll, fill, hw, List.foldl_cons]
    refine hfill.trans (congrArg (fun count => (next count).fill subject m') ?_)
    rw [ByteArray.size_append]
    omega

/-- Remarks are recorded, and do nothing to the message. -/
theorem Streaming.fill_sayAll (subject : Option Subject) (rs : List Remark) (next : Streaming σ)
    (m : Staged) :
    (sayAll rs next).fill subject m =
      (next.fill subject m).after (rs.map (Work.ofRemark subject)) := by
  induction rs with
  | nil => rfl
  | cons r rs ih =>
    show ((sayAll rs next).fill subject m).after [_] = _
    rw [ih]
    rfl

end Mailroom
