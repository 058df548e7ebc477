import Mailroom.Schedule
import Mailroom.Session
import Mailroom.Text.Blank

/-!
# The in-memory store

A mailbox session over boxes kept in memory: named lists of messages in which a uid occurs at most
once. Operations fail on schedule: connecting, listing and closing have a queue of faults each, and
so have reading, marking and moving for each uid. A failing mark or move changes nothing. For
chosen uids a script replaces the reading of the body.
-/

namespace Mailroom

/-- A message in a box. -/
structure Message where
  /-- Its identifier, unique in a box. -/
  uid : String
  /-- Its body. -/
  body : Bytes
  /-- Its subject. -/
  subject : String
  /-- Whether it was marked seen. -/
  seen : Bool

namespace Store

/-- What a queue of faults is for. -/
inductive Slot where
  /-- Connecting. -/
  | connect
  /-- Listing. -/
  | list
  /-- Closing. -/
  | close
  /-- Reading a body. -/
  | read (uid : String)
  /-- Marking. -/
  | mark (uid : String)
  /-- Moving. -/
  | move (uid : String)
  deriving DecidableEq, Repr

/-- A scheduled failure. -/
structure Fault where
  /-- The failure. -/
  failure : Failure
  /-- How many bytes of a body are written before it, if any. -/
  after : Option Nat

/-- An action of a script that stands in for reading a body. -/
inductive Action where
  /-- Write bytes. -/
  | write (data : Bytes)
  /-- Finish the message. -/
  | finish
  /-- Release the message. -/
  | release
  /-- Fail. -/
  | raise (f : Failure)
  /-- Answer a count. -/
  | answer (n : Int)

end Store

/-- Boxes in memory with scheduled faults. -/
structure Store where
  /-- The boxes in order, each with its messages in order. -/
  boxes : List (String × List Message)
  /-- The faults that are due. -/
  faults : Schedule Store.Slot Store.Fault
  /-- Scripts for reading chosen uids. -/
  scripts : List (String × List Store.Action)
  /-- What listing answers, when it is fixed. -/
  listing : Option (List String)
  /-- The size of the pieces in which bodies are written. -/
  chunk : Nat
  /-- The selected box. -/
  selected : Option String

namespace Store

/-! ### Boxes -/

/-- The messages of a box; a missing box has none. -/
def box (s : Store) (name : String) : List Message := (s.boxes.lookup name).getD []

/-- Put a message into a box: in place of the one with its uid, else at the end. -/
def put (m : Message) (ms : List Message) : List Message :=
  if ms.any (·.uid = m.uid) then ms.map fun x => if x.uid = m.uid then m else x else ms ++ [m]

/-- Change the messages of a box; a missing box is added at the end. -/
def updateBox (boxes : List (String × List Message)) (name : String)
    (f : List Message → List Message) : List (String × List Message) :=
  if boxes.any (·.1 = name) then boxes.map fun b => if b.1 = name then (b.1, f b.2) else b
  else boxes ++ [(name, f [])]

/-- Add a message to a box. -/
def add (s : Store) (name : String) (m : Message) : Store :=
  { s with boxes := updateBox s.boxes name (put m) }

/-- The message with a uid in the selected box. -/
def find? (s : Store) (uid : String) : Option Message :=
  s.selected.bind fun name => (s.box name).find? (·.uid = uid)

/-- Change every message with a uid in the selected box. -/
def modifySelected (s : Store) (f : List Message → List Message) : Store :=
  match s.selected with
  | some name => { s with boxes := updateBox s.boxes name f }
  | none => s

/-! ### Faults -/

/-- Fail if a fault is due. -/
def meetFault (slot : Slot) : Session.Op Store Unit := do
  let s ← Session.Op.look
  let (fault, faults) := s.faults.take slot
  Session.Op.change fun s => { s with faults }
  match fault with
  | some f => throw f.failure
  | none => pure ()

/-- The failure of looking for a uid that is not in the selected box. -/
def noSuchMessage (uid : String) : Failure := .plain .os s!"no such message {uid}"

/-- The message with a uid in the selected box, or a failure. -/
def find (uid : String) : Session.Op Store Message := do
  match (← Session.Op.look).find? uid with
  | some m => pure m
  | none => throw (noSuchMessage uid)

/-! ### Operations -/

/-- Whether listing answers a message. -/
def isListed (pattern : String) (includeSeen : Bool) (m : Message) : Bool :=
  (includeSeen || !m.seen) && Text.hasInfix pattern.toList m.subject.toList

/-- The uids that listing a box answers. -/
def listed (s : Store) (mailbox pattern : String) (includeSeen : Bool) : List String :=
  s.listing.getD (((s.box mailbox).filter (isListed pattern includeSeen)).map (·.uid))

/-- List a box and select it. -/
def list (mailbox pattern : String) (includeSeen : Bool) : Session.Op Store (List String) := do
  meetFault .list
  Session.Op.change fun s => { s with selected := some mailbox }
  return (← Session.Op.look).listed mailbox pattern includeSeen

/-- Set the seen flag of a message in the selected box. -/
def mark (uid : String) (seen : Bool) : Session.Op Store Unit := do
  meetFault (.mark uid)
  let _ ← find uid
  Session.Op.change fun s =>
    s.modifySelected (·.map fun m => if m.uid = uid then { m with seen } else m)

/-- Move a message from the selected box to the end of another. -/
def move (uid mailbox : String) : Session.Op Store Unit := do
  meetFault (.move uid)
  let m ← find uid
  Session.Op.change fun s =>
    (s.modifySelected (·.filter (·.uid ≠ uid))).add mailbox m

/-- Close: nothing is selected any more, also when closing fails. -/
def close : Session.Op Store Unit := do
  Session.Op.change fun s => { s with selected := none }
  meetFault .close

/-- Follow a script, with the sum of the lengths written so far. -/
def runScript (s : Store) (total : Int) : List Action → Streaming Store
  | [] => .done (.ok total) s
  | .write data :: rest => .write data fun
    | .ok n => runScript s (total + n) rest
    | .error f => .done (.error f) s
  | .finish :: rest => .finish fun
    | .ok () => runScript s total rest
    | .error f => .done (.error f) s
  | .release :: rest => .release (runScript s total rest)
  | .raise f :: _ => .done (.error f) s
  | .answer n :: _ => .done (.ok n) s

/-- Write the body of a message in pieces. -/
def readBody (uid : String) (s : Store) : Streaming Store :=
  match s.scripts.lookup uid with
  | some script => runScript s 0 script
  | none =>
    match s.find? uid with
    | none => .done (.error (noSuchMessage uid)) s
    | some m =>
      let (fault, faults) := s.faults.take (.read uid)
      let s := { s with faults }
      match fault with
      | none => .writeAll s 0 (fun total => .done (.ok total) s) (Bytes.pieces m.body s.chunk)
      | some f =>
        match f.after with
        | none => .done (.error f.failure) s
        | some n => .write (m.body.front n) fun
          | .ok _ => .done (.error f.failure) s
          | .error g => .done (.error g) s

/-- The store as a session. -/
def session (title : String) : Session Store where
  title := title
  connect := meetFault .connect
  close _ := close
  list := list
  readBody := readBody
  mark := mark
  move := move

end Store

end Mailroom
