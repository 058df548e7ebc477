import Mailroom.Digest.Algorithm
import Mailroom.Event
import Mailroom.Spool

/-!
# Staged messages

A message body is staged before it is handed on: it is written into a spool and a running digest
at once, then finished, which fixes the digest and rewinds the spool, and in the end released.
What is allowed depends on the two flags only: writing needs a message that is neither finished
nor released, finishing one that is not released, the body and the digest one that is finished and
not released.
-/

namespace Mailroom

/-- A use of a staged message out of order. -/
inductive StagingError where
  /-- The message was released. -/
  | released (uid : String)
  /-- The message was finished. -/
  | finished (uid : String)
  /-- The message is not finished. -/
  | unfinished (uid : String)
  deriving DecidableEq, Repr

/-- The wording of a use out of order. -/
def StagingError.message : StagingError → String
  | released uid => s!"message {uid} already released"
  | finished uid => s!"message {uid} already finished staging"
  | unfinished uid => s!"message {uid} is still being staged"

/-- A use out of order is a failure. -/
def StagingError.failure (e : StagingError) : Failure := .plain .staging e.message

/-- A message body on its way from a mailbox to a callback. -/
structure Staged where
  /-- The candidate whose body this is. -/
  uid : String
  /-- The bytes written so far. -/
  spool : Spool
  /-- The running digest of the bytes written so far. -/
  hasher : Hasher
  /-- How many bytes were written. -/
  size : Nat
  /-- The digest, once the message is finished. -/
  sealedDigest : Option Bytes
  /-- Whether the message was released. -/
  released : Bool

namespace Staged

/-- Whether the digest is fixed. -/
def finished (m : Staged) : Bool := m.sealedDigest.isSome

/-- Append a piece of the body; the answer is its length. -/
def write (m : Staged) (data : Bytes) : Except StagingError Nat × Staged :=
  if m.released then (.error (.released m.uid), m)
  else if m.finished then (.error (.finished m.uid), m)
  else
    let ⟨uid, spool, hasher, size, sealedDigest, released⟩ := m
    (.ok data.size,
      ⟨uid, spool.write data, hasher.update data, size + data.size, sealedDigest, released⟩)

/-- Fix the digest, if it is not fixed yet, and rewind the body. -/
def finish (m : Staged) : Except StagingError Unit × Staged :=
  if m.released then (.error (.released m.uid), m)
  else (.ok (), { m with sealedDigest := some (m.sealedDigest.getD m.hasher.digest),
                         spool := m.spool.rewind })

/-- Why the body and the digest are not available. -/
def readable (m : Staged) : Except StagingError Unit :=
  if m.released then .error (.released m.uid)
  else if m.finished then .ok ()
  else .error (.unfinished m.uid)

/-- The body for a reader. -/
def body (m : Staged) : Except StagingError Spool := m.readable.map fun _ => m.spool

/-- The digest of the body. -/
def digest (m : Staged) : Except StagingError Bytes :=
  m.readable.map fun _ => m.sealedDigest.getD ByteArray.empty

/-- The digest in hexadecimal notation. -/
def hexdigest (m : Staged) : Except StagingError String := m.digest.map Bytes.hex

/-- A message that was finished can be read. -/
theorem readable_of_finish {m m' : Staged} {u : Unit} (h : m.finish = (.ok u, m')) :
    m'.readable = .ok () := by
  unfold finish at h
  split at h
  · cases h
  · next hr =>
    cases h
    simp [readable, finished, hr]

/-- Give the spool up; a second release does nothing. The events say what happened. -/
def release (m : Staged) : Staged × List Event :=
  if m.released then (m, [])
  else ({ m with released := true, spool := { m.spool with closed := true } },
    [.released m.uid m.size])

end Staged

/-- Where messages are staged: the name under which the digest was asked for, the algorithm the
name stands for, and the memory limit of the spools. -/
structure Stage where
  /-- The name under which the algorithm was asked for. -/
  algorithmName : String
  /-- The digest algorithm. -/
  algorithm : Algorithm
  /-- The memory limit of a spool. -/
  memoryLimit : Int
  deriving DecidableEq, Repr

namespace Stage

/-- A stage for a named algorithm. -/
def ofName (name : String) (memoryLimit : Int) : Except Algorithm.NameError Stage :=
  (Algorithm.ofName name).map fun a => ⟨name, a, memoryLimit⟩

/-- Begin staging a candidate; a body beyond the memory limit goes to the disk. -/
def openFor (s : Stage) (disk : Disk) (uid : String) : Staged :=
  ⟨uid, .new s.memoryLimit disk, .new s.algorithm, 0, none, false⟩

end Stage

end Mailroom
