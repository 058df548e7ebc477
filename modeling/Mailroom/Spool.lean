import Mailroom.Bytes
import Mailroom.Failure
import Mailroom.Number

/-!
# Spools

A spool is a byte string with a reading position. It starts in memory and moves to disk after the
write that takes its position past the memory limit; a limit of zero never moves it, a negative
limit moves it at the first write. Once on disk it stays there.

Reading what is there is the same in both places. Repositioning is not, where the target lies before
the start: in memory an absolute target is refused and a relative one is raised to the start, on
disk both are refused. A count below -1 is refused on disk only, and so is all that goes beyond what
the disk can take (`Disk`): a target past the end of the largest file, and a count for which there
is no room, since a read from disk makes room for all that is asked, and one in memory only for what
is there. The texts of the refusals and of the use of a closed spool differ as well.

What is not here is memory that runs out otherwise, and disks that are full or fail.
-/

namespace Mailroom

/-- Where a spool keeps its bytes. -/
inductive Place where
  /-- In memory. -/
  | memory
  /-- In a temporary file. -/
  | disk
  deriving DecidableEq, Repr

/-- What the machine that keeps the temporary files can take. -/
structure Disk where
  /-- The largest position in a file. -/
  reach : Nat
  /-- The largest count of bytes that can be read at once. -/
  room : Nat
  /-- A position is in the range of offsets. -/
  reach_le : reach ≤ longMax
  /-- What can be read at once fits a byte string. -/
  room_le : room ≤ bytesMax
  deriving DecidableEq, Repr

/-- A disk as it is found on many machines: files with 2 ^ 32 - 1 blocks of 4096 bytes, and room for
16 GiB at once. -/
def Disk.usual : Disk := ⟨17592186040320, 17179869184, by decide, by decide⟩

/-- A byte string with a reading position. -/
structure Spool where
  /-- The bytes. -/
  content : Bytes
  /-- The reading position; it may lie past the end. -/
  position : Nat
  /-- Where the bytes are kept. -/
  place : Place
  /-- The memory limit; zero stands for none. -/
  limit : Int
  /-- The disk it moves to. -/
  disk : Disk
  /-- Whether the spool was closed. -/
  closed : Bool

namespace Spool

/-- An empty spool. -/
def new (limit : Int) (disk : Disk) : Spool := ⟨ByteArray.empty, 0, .memory, limit, disk, false⟩

/-- The place after the position has come to `position`. -/
def placeAfter (s : Spool) (position : Nat) : Place :=
  if s.limit ≠ 0 ∧ s.limit < position then .disk else s.place

/-- Write at the end of the spool. -/
def write (s : Spool) (data : Bytes) : Spool :=
  let size := s.content.size + data.size
  let place := s.placeAfter size
  let ⟨content, _, _, limit, disk, closed⟩ := s
  ⟨content ++ data, size, place, limit, disk, closed⟩

/-- Go back to the start. -/
def rewind (s : Spool) : Spool := { s with position := 0 }

/-! ### The reader's side -/

/-- What a reader can do with a spool. -/
inductive Access where
  /-- Read at most `n` bytes, or everything that is left: without a count or for a negative one,
  which on disk can only be -1. -/
  | read (n : Option Int)
  /-- Read up to and including the next line feed. -/
  | readLine
  /-- Move the position: `whence` is 0 for the start, 1 for the position, 2 for the end, and on disk
  also 3 for the next data and 4 for the next gap. -/
  | seek (offset whence : Int)
  /-- Ask for the position. -/
  | tell
  /-- Close the spool. -/
  | close
  deriving DecidableEq, Repr

/-- What a reader gets back. -/
inductive Answer where
  /-- Bytes that were read. -/
  | bytes (b : Bytes)
  /-- A position. -/
  | position (n : Nat)
  /-- Nothing. -/
  | none

/-- The bytes from the position on. -/
def rest (s : Spool) : Bytes := s.content.extract s.position s.content.size

/-- How many bytes a read takes. -/
def countFor (s : Spool) (n : Option Int) : Nat :=
  match n with
  | none => s.rest.size
  | some n => if n < 0 then s.rest.size else min n.toNat s.rest.size

/-- The length of the front of `b` up to and including its first line feed. -/
def lineLength (b : Bytes) : Nat :=
  match b.data.toList.findIdx? (· == 10) with
  | some i => i + 1
  | none => b.size

/-- Take `n` bytes from the position on. -/
def take (s : Spool) (n : Nat) : Bytes × Spool :=
  (s.rest.extract 0 n, { s with position := s.position + n })

/-- Whether an integer is in the range of offsets. -/
def isOffset (n : Int) : Bool := -longMax - 1 ≤ n && n ≤ longMax

/-- Whether an integer is in the range of the numbers that name starting points. -/
def isShort (n : Int) : Bool := -shortMax - 1 ≤ n && n ≤ shortMax

/-- Why the arguments of an access are refused before the spool is looked at. -/
def argumentFault (place : Place) : Access → Option Failure
  | .read (some n) =>
    if !isOffset n then
      some (.plain .overflow "cannot fit 'int' into an index-sized integer")
    else match place with
      | .memory => none
      | .disk =>
        if n < -1 then some (.plain .value "read length must be non-negative or -1") else none
  | .seek offset whence =>
    match place with
    | .memory =>
      if !isOffset offset then
        some (.plain .overflow "Python int too large to convert to C ssize_t")
      else if !isShort whence then
        some (.plain .overflow "Python int too large to convert to C int")
      else none
    | .disk =>
      if !isShort whence then
        some (.plain .overflow "Python int too large to convert to C int")
      else if ¬(0 ≤ whence ∧ whence ≤ 4) then
        some (.plain .value s!"whence value {whence} unsupported")
      else none
  | .read none | .readLine | .tell | .close => none

/-- Why an open spool is not read. -/
def readFault (s : Spool) (n : Option Int) : Option Failure :=
  match s.place, n with
  | .memory, _ | .disk, none => none
  | .disk, some n =>
    if bytesMax < n then some (.plain .overflow "byte string is too large")
    else if s.disk.room < n then some (.plain .memory "")
    else none

/-- The position that an offset counts from. -/
def base (s : Spool) (whence : Int) : Int :=
  if whence = 1 then s.position else if whence = 2 then s.content.size else 0

/-- Why the position of an open spool cannot be moved. -/
def seekFault (s : Spool) (offset whence : Int) : Option Failure :=
  match s.place with
  | .memory =>
    if whence = 0 ∧ offset < 0 then some (.plain .value s!"negative seek value {offset}")
    else if ¬(0 ≤ whence ∧ whence ≤ 2) then
      some (.plain .value s!"invalid whence ({whence}, should be 0, 1 or 2)")
    else if longMax < s.base whence + offset then
      some (.plain .overflow "new position too large")
    else none
  | .disk =>
    if !isOffset offset then some (.plain .value "cannot fit 'int' into an offset-sized integer")
    else if 3 ≤ whence then
      if offset < 0 ∨ s.content.size ≤ offset then
        some (.plain .os "[Errno 6] No such device or address")
      else none
    else if s.base whence + offset < 0 ∨ s.disk.reach < s.base whence + offset then
      some (.plain .os "[Errno 22] Invalid argument")
    else none

/-- The position a move leads to, where none before the start is left. A file has no gaps, so the
next data are where they are looked for, and the next gap is at the end. -/
def target (s : Spool) (offset whence : Int) : Nat :=
  if whence = 4 then s.content.size else (s.base whence + offset).toNat

/-- How the use of a closed spool is refused. -/
def closedText (place : Place) : Access → String
  | .read _ => match place with
    | .memory => "I/O operation on closed file."
    | .disk => "read of closed file"
  | .readLine => match place with
    | .memory => "I/O operation on closed file."
    | .disk => "readline of closed file"
  | .seek _ _ => match place with
    | .memory => "I/O operation on closed file."
    | .disk => "seek of closed file"
  | .tell => match place with
    | .memory => "I/O operation on closed file."
    | .disk => "I/O operation on closed file"
  | .close => ""

/-- One access to an open spool. -/
def accessOpen (s : Spool) : Access → Except Failure Answer × Spool
  | .read n =>
    match s.readFault n with
    | some f => (.error f, s)
    | none =>
      let (b, s) := s.take (s.countFor n)
      (.ok (.bytes b), s)
  | .readLine =>
    let (b, s) := s.take (lineLength s.rest)
    (.ok (.bytes b), s)
  | .seek offset whence =>
    match s.seekFault offset whence with
    | some f => (.error f, s)
    | none =>
      let p := s.target offset whence
      (.ok (.position p), { s with position := p })
  | .tell => (.ok (.position s.position), s)
  | .close => (.ok .none, { s with closed := true })

/-- One access. A closed spool can only be closed again. -/
def access (s : Spool) (a : Access) : Except Failure Answer × Spool :=
  match argumentFault s.place a with
  | some f => (.error f, s)
  | none =>
    if s.closed then
      match a with
      | .close => (.ok .none, s)
      | a => (.error (.plain .value (closedText s.place a)), s)
    else s.accessOpen a

/-- A write leaves the bytes in memory exactly when they were there and the limit allows it. -/
theorem place_write (s : Spool) (data : Bytes) :
    (s.write data).place = .memory ↔
      s.place = .memory ∧ (s.limit = 0 ∨ ((s.content ++ data).size : Int) ≤ s.limit) := by
  simp only [write, placeAfter, ByteArray.size_append]
  split <;> rename_i h
  · constructor
    · intro h'; exact Place.noConfusion h'
    · rintro ⟨-, h' | h'⟩ <;> omega
  · constructor
    · intro h'
      exact ⟨h', by omega⟩
    · exact fun h' => h'.1

end Spool

end Mailroom
