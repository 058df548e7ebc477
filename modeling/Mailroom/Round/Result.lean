import Mailroom.Failure

/-!
# Results of rounds

A round counts what became of its candidates. A connect or listing failure is kept in the result;
such a round has no candidates.
-/

namespace Mailroom

/-- What became of a candidate. -/
inductive Outcome where
  /-- The callback accepted it. -/
  | delivered
  /-- The callback refused it. -/
  | rejected
  /-- Its body could not be read. -/
  | unreadable
  deriving DecidableEq, Repr

namespace Outcome

/-- The word for an outcome. -/
def name : Outcome → String
  | delivered => "delivered"
  | rejected => "rejected"
  | unreadable => "unreadable"

/-- The outcome a word stands for. -/
def ofName? (s : String) : Option Outcome :=
  [delivered, rejected, unreadable].find? (·.name = s)

/-- A word that stands for no outcome. -/
def unknown (s : String) : Failure :=
  .plain .value (Text.shown s ++ " is not a valid DeliveryOutcome")

end Outcome

/-- The result of a round. -/
structure RoundResult where
  /-- How many candidates were delivered. -/
  delivered : Int
  /-- The connect or listing failure. -/
  error : Option Failure
  /-- How many candidates were listed. -/
  candidates : Int
  /-- How many candidates were rejected. -/
  rejected : Int
  /-- How many candidates were unreadable. -/
  unreadable : Int
  deriving DecidableEq, Repr

namespace RoundResult

/-- A round that has processed nothing. -/
def empty : RoundResult := ⟨0, none, 0, 0, 0⟩

/-- Whether the round ended without a connect or listing failure. -/
def ok (r : RoundResult) : Bool := r.error.isNone

/-- Count one more outcome. -/
def count (r : RoundResult) : Outcome → RoundResult
  | .delivered => { r with delivered := r.delivered + 1 }
  | .rejected => { r with rejected := r.rejected + 1 }
  | .unreadable => { r with unreadable := r.unreadable + 1 }

/-- The result of a round over `n` candidates with the given outcomes. -/
def ofOutcomes (n : Nat) (os : List Outcome) : RoundResult :=
  os.foldl count { empty with candidates := n }

/-- The result of a round that could not connect or list. -/
def failed (f : Failure) : RoundResult := { empty with error := some f }

end RoundResult

end Mailroom
