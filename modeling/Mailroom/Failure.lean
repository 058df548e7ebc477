import Mailroom.Text.Shown

/-!
# Failures

A call into the outside world (a mailbox session, a callback, a hook) can fail. A failure has a
kind, a text, and, when it wraps another failure, the kind of that one. Kinds form a hierarchy:
`Kind.isA` says that a handler for one kind also answers to another. The kinds that the poller
itself knows have names of their own here, and whoever calls it may define more of them below these
(`Kind.other`). A cancellation is a failure that no ordinary handler absorbs (`Failure.isFault`).

Every failure has a text here. Left out are failures that fail again when they are asked for their
text, kinds directly below several others, and failures that are neither ordinary nor cancellations,
such as the end of the whole program.
-/

namespace Mailroom

/-- The kind of a failure. -/
inductive Kind where
  /-- The top of all ordinary failures. -/
  | general
  /-- The operating system refused. -/
  | os
  /-- A connection broke. -/
  | connection
  /-- A connection was refused. -/
  | connectionRefused
  /-- A time limit ran out. -/
  | timeout
  /-- A value of the right type but out of bounds. -/
  | value
  /-- Text that cannot be written or read as bytes. -/
  | unicode
  /-- Bytes that are not the text they should be. -/
  | decoding
  /-- Settings that do not validate. -/
  | validation
  /-- Anything detected while running. -/
  | runtime
  /-- Something that is not where it is looked for. -/
  | lookup
  /-- A key that is not there. -/
  | key
  /-- A position that is not there. -/
  | index
  /-- A value of the wrong type. -/
  | type
  /-- An operation the value does not have. -/
  | operation
  /-- A calculation that has no result. -/
  | arithmetic
  /-- A number out of range. -/
  | overflow
  /-- There is no memory for what was asked. -/
  | memory
  /-- An iteration is over. -/
  | exhausted
  /-- The top of the poller's own failures. -/
  | poller
  /-- A session command failed. -/
  | session
  /-- Connecting failed. -/
  | connect
  /-- Listing failed. -/
  | list
  /-- A staged message was used out of order. -/
  | staging
  /-- The mail server answered against the protocol. -/
  | protocol
  /-- The mail server broke off. -/
  | abort
  /-- The work was cancelled from outside. -/
  | cancelled
  /-- Any other kind, with the kind directly above it. -/
  | other (name : String) (parent : Kind)
  deriving DecidableEq, Repr

namespace Kind

/-- The kinds above a kind, nearest first. A cancellation stands outside the hierarchy. -/
def above : Kind → List Kind
  | general | cancelled => []
  | connection | timeout => [os, general]
  | connectionRefused => [connection, os, general]
  | unicode | validation => [value, general]
  | decoding => [unicode, value, general]
  | key | index => [lookup, general]
  | overflow => [arithmetic, general]
  | session | staging => [poller, general]
  | connect | list => [session, poller, general]
  | abort => [protocol, general]
  | os | value | runtime | lookup | type | operation | arithmetic | memory | exhausted | poller
  | protocol => [general]
  | other _ parent => parent :: parent.above

/-- Whether a handler for kind `other` answers to kind `k`. -/
def isA (k other : Kind) : Bool := (k :: k.above).contains other

/-- The name under which a kind is reported. -/
def name : Kind → String
  | general => "Exception"
  | os => "OSError"
  | connection => "ConnectionError"
  | connectionRefused => "ConnectionRefusedError"
  | timeout => "TimeoutError"
  | value => "ValueError"
  | unicode => "UnicodeError"
  | decoding => "UnicodeDecodeError"
  | validation => "ValidationError"
  | runtime => "RuntimeError"
  | lookup => "LookupError"
  | key => "KeyError"
  | index => "IndexError"
  | type => "TypeError"
  | operation => "AttributeError"
  | arithmetic => "ArithmeticError"
  | overflow => "OverflowError"
  | memory => "MemoryError"
  | exhausted => "StopIteration"
  | poller => "MailPollError"
  | session => "SessionError"
  | connect => "ConnectError"
  | list => "ListError"
  | staging => "StagingError"
  | protocol => "error"
  | abort => "abort"
  | cancelled => "CancelledError"
  | other name _ => name

/-- Any other kind is below its parent and whatever that is below. -/
theorem isA_other_iff {name : String} {parent k : Kind} :
    (other name parent).isA k = true ↔ k = other name parent ∨ parent.isA k = true := by
  simp [isA, above]

/-- What is above a kind has nothing above it that is not above the kind as well. -/
theorem above_subset {k l : Kind} (h : l ∈ k.above) : l.above ⊆ k.above := by
  induction k with
  | other name parent ih =>
    obtain rfl | h := List.mem_cons.mp h
    · exact List.subset_cons_self _ _
    · exact List.subset_cons_of_subset _ (ih h)
  | _ => revert l; decide

theorem isA_trans {k l m : Kind} (h : k.isA l = true) (h' : l.isA m = true) : k.isA m = true := by
  simp only [isA, List.contains_iff_mem, List.mem_cons] at *
  obtain rfl | h := h
  · exact h'
  · obtain rfl | h' := h'
    · exact .inr h
    · exact .inr (above_subset h h')

/-- Everything but cancellations is below the top of ordinary failures, by induction on what is
above a kind. -/
theorem isA_general_iff (k : Kind) : k.isA general = true ↔ k.isA cancelled = false := by
  induction k with
  | other name parent ih => simp [isA_other_iff, ← Bool.not_eq_true, ih]
  | _ => decide

/-- A failure to list is none to connect. -/
theorem isA_connect_eq_false {k : Kind} (h : k.isA list = true) : k.isA connect = false := by
  induction k with
  | other name parent ih =>
    obtain h | h := isA_other_iff.mp h
    · cases h
    · simpa [isA_other_iff, ← Bool.not_eq_true] using ih h
  | _ => revert h; decide

theorem isA_list_eq_false {k : Kind} (h : k.isA connect = true) : k.isA list = false :=
  Bool.eq_false_iff.mpr fun hl => Bool.false_ne_true ((isA_connect_eq_false hl).symm.trans h)

end Kind

/-- A failure of a call. -/
structure Failure where
  /-- Its kind. -/
  kind : Kind
  /-- Its text. -/
  text : String
  /-- The kind of the failure it wraps. -/
  cause : Option Kind
  deriving DecidableEq, Repr

namespace Failure

/-- A failure that wraps nothing. -/
def plain (kind : Kind) (text : String) : Failure := ⟨kind, text, none⟩

/-- A failure of a kind with an optional message. A missing key is shown in quotes, any other
message as it is; without a message the text is empty. -/
def ofMessage (kind : Kind) (message : Option String) : Failure :=
  match message with
  | none => plain kind ""
  | some m => plain kind (if kind.isA .key then Text.shown m else m)

/-- Whether ordinary handlers absorb the failure. -/
def isFault (f : Failure) : Bool := f.kind.isA .general

/-- The failure that an outcome is, if it is one. -/
def of? {α : Type} : Except Failure α → Option Failure
  | .ok _ => none
  | .error f => some f

@[simp] theorem of?_ok {α : Type} (a : α) : of? (.ok a) = none := rfl

@[simp] theorem of?_error {α : Type} (f : Failure) : of? (.error f : Except Failure α) = some f :=
  rfl

/-- Wrap a failure in another kind and text. -/
def wrap (f : Failure) (kind : Kind) (text : String) : Failure := ⟨kind, text, some f.kind⟩

/-- A failure as it comes out of a coroutine: that an iteration is over does not come out of one,
but is a failure of the coroutine. -/
def outOfCoroutine (f : Failure) : Failure :=
  if f.kind.isA .exhausted then f.wrap .runtime "coroutine raised StopIteration" else f

/-- An outcome as it comes out of a coroutine. -/
def awaited {α : Type} : Except Failure α → Except Failure α := Except.mapError outOfCoroutine

/-- A failure is a cancellation exactly when no ordinary handler absorbs it. -/
theorem isFault_eq_false_iff (f : Failure) :
    f.isFault = false ↔ f.kind.isA .cancelled = true := by
  rw [isFault, ← Bool.not_eq_true, Kind.isA_general_iff, Bool.not_eq_false]

/-- Ordinary handlers absorb the failures of every ordinary kind. -/
theorem isFault_of_isA {f : Failure} {k : Kind} (h : f.kind.isA k = true)
    (hk : k.isA .general = true) : f.isFault = true := Kind.isA_trans h hk

/-- What ordinary handlers absorb is the same out of a coroutine. -/
@[simp] theorem isFault_outOfCoroutine (f : Failure) : f.outOfCoroutine.isFault = f.isFault := by
  unfold outOfCoroutine
  split
  · next h => exact (isFault_of_isA h rfl).symm
  · rfl

end Failure

end Mailroom
