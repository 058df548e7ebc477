import Mailroom.Work

/-!
# Callbacks

A callback gets the body, the uid and the digest of a candidate. It may use the body, wait, and
request a stop; in the end it returns or fails (`Handling`). A scripted callback (`Script`) has a
list of actions for each delivery of each uid.
-/

namespace Mailroom

/-- What a callback does with a delivery. -/
inductive Handling (κ : Type) : Type where
  /-- Done: return or fail. -/
  | done (outcome : Except Failure Unit) (state : κ)
  /-- Use the body. -/
  | access (a : Spool.Access) (next : Except Failure Spool.Answer → Handling κ)
  /-- Request a stop. -/
  | requestStop (r : StopRequest) (next : Handling κ)
  /-- Wait. -/
  | wait (seconds : Float) (next : Except Failure Unit → Handling κ)

/-- A callback, given the uid, the digest and what it keeps. -/
abbrev Callback (κ : Type) : Type := (uid : String) → (digest : Bytes) → κ → Handling κ

/-- Carry out what a callback does with a body; what it sees of the body is recorded. -/
def Work.handle {σ κ η : Type} : Handling κ → Spool → Work σ κ η (Except Failure Unit × Spool)
  | .done outcome state, s => do
    modify fun b => { b with receiver := state }
    pure (outcome, s)
  | .access a next, s => do
    let (r, s) := s.access a
    match r with
    | .ok (.bytes x) => record (.observe (.bytes x))
    | .ok (.position n) => record (.observe (.position n))
    | .ok .none => pure ()
    | .error _ => pure ()
    handle (next r) s
  | .requestStop r next, s => do
    Work.requestStop r
    handle next s
  | .wait seconds next, s => do
    let r ← settle (Work.wait seconds)
    handle (next r) s

/-! ### Scripts -/

namespace Script

/-- An action of a script. -/
inductive Action where
  /-- Use the body; a failing use fails the delivery. -/
  | access (a : Spool.Access)
  /-- Fail. -/
  | raise (f : Failure)
  /-- Request a stop. -/
  | requestStop (r : StopRequest)
  /-- Wait. -/
  | wait (seconds : Float)

end Script

/-- The actions for the deliveries. -/
structure Script where
  /-- For chosen uids, the actions of the first delivery, the second, and so on. -/
  byUid : List (String × List (List Script.Action))
  /-- The actions of any other delivery. -/
  fallback : List Script.Action
  /-- How often each uid was delivered. -/
  counts : List (String × Nat)

namespace Script

/-- How often a uid was delivered. -/
def countOf (s : Script) (uid : String) : Nat := (s.counts.lookup uid).getD 0

/-- The actions of the next delivery of a uid. -/
def actionsFor (s : Script) (uid : String) : List Action :=
  (((s.byUid.lookup uid).getD [])[s.countOf uid]?).getD s.fallback

/-- Count one more delivery of a uid. -/
def counted (s : Script) (uid : String) : Script :=
  { s with counts := (uid, s.countOf uid + 1) :: s.counts.filter (·.1 ≠ uid) }

/-- Follow the actions. -/
def follow (s : Script) : List Action → Handling Script
  | [] => .done (.ok ()) s
  | .access a :: rest => .access a fun
    | .ok _ => follow s rest
    | .error f => .done (.error f) s
  | .raise f :: _ => .done (.error f) s
  | .requestStop r :: rest => .requestStop r (follow s rest)
  | .wait seconds :: rest => .wait seconds fun
    | .ok () => follow s rest
    | .error f => .done (.error f) s

/-- Scripts as a callback. -/
def callback : Callback Script := fun uid _ s => (s.counted uid).follow (s.actionsFor uid)

end Script

end Mailroom
