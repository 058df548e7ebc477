import Mailroom.Json.Printer
import Mailroom.Text.Shown

/-!
# Issues with settings

Settings that do not validate are reported as a list of issues: where the value stands, what is
wrong with it, and the value itself. Each fault has a code and a wording.
-/

namespace Mailroom.Settings

/-- What is wrong with a value. -/
inductive Fault where
  /-- A required value is absent. -/
  | missing
  /-- Not a text. -/
  | notText
  /-- Not a whole number. -/
  | notInt
  /-- A number with a fractional part. -/
  | fractional
  /-- A text that is no whole number. -/
  | unreadableInt
  /-- A whole number of too many digits. -/
  | oversizedInt
  /-- An infinity or not-a-number where a whole number is wanted. -/
  | notFinite
  /-- Not a number. -/
  | notNumber
  /-- A text that is no number. -/
  | unreadableNumber
  /-- Not a truth value. -/
  | notBool
  /-- A text or whole number that is no truth value. -/
  | unreadableBool
  /-- A number below the least one allowed. -/
  | tooSmall (least : Nat)
  /-- A value that a check of its own refused. -/
  | refused (reason : String)
  /-- A value nobody asked for. -/
  | unexpected
  /-- Not a group of settings. -/
  | notGroup (group : String)
  deriving DecidableEq, Repr

/-- The code of a fault. -/
def Fault.code : Fault → String
  | missing => "missing"
  | notText => "string_type"
  | notInt => "int_type"
  | fractional => "int_from_float"
  | unreadableInt => "int_parsing"
  | oversizedInt => "int_parsing_size"
  | notFinite => "finite_number"
  | notNumber => "float_type"
  | unreadableNumber => "float_parsing"
  | notBool => "bool_type"
  | unreadableBool => "bool_parsing"
  | tooSmall _ => "greater_than_equal"
  | refused _ => "value_error"
  | unexpected => "extra_forbidden"
  | notGroup _ => "model_type"

/-- The wording of a fault. -/
def Fault.message : Fault → String
  | missing => "Field required"
  | notText => "Input should be a valid string"
  | notInt => "Input should be a valid integer"
  | fractional => "Input should be a valid integer, got a number with a fractional part"
  | unreadableInt => "Input should be a valid integer, unable to parse string as an integer"
  | oversizedInt => "Unable to parse input string as an integer, exceeded maximum size"
  | notFinite => "Input should be a finite number"
  | notNumber => "Input should be a valid number"
  | unreadableNumber => "Input should be a valid number, unable to parse string as a number"
  | notBool => "Input should be a valid boolean"
  | unreadableBool => "Input should be a valid boolean, unable to interpret input"
  | tooSmall least => s!"Input should be greater than or equal to {least}"
  | refused reason => "Value error, " ++ reason
  | unexpected => "Extra inputs are not permitted"
  | notGroup group => "Input should be a valid dictionary or instance of " ++ group

/-- One thing wrong with settings. -/
structure Issue where
  /-- The path to the value. -/
  place : List String
  /-- What is wrong. -/
  fault : Fault
  /-- The offending value. -/
  input : Json

/-- The same issue one level further out. -/
def Issue.under (outer : String) (i : Issue) : Issue := { i with place := outer :: i.place }

/-- A value as a report shows it, and the word for its type. -/
def shownInput : Json → String × String
  | .text s => (Text.shown s, "str")
  | .int n => (toString n, "int")
  | .bool b => (if b then "True" else "False", "bool")
  | .null => ("None", "NoneType")
  | v => (v.print fun _ => "", "object")

/-- The paragraph of a report on one issue; `help` is where explanations of the codes are found. -/
def Issue.report (help : String) (i : Issue) : String :=
  let (shown, type) := shownInput i.input
  ".".intercalate i.place ++ "\n  " ++ i.fault.message ++ " [type=" ++ i.fault.code ++
    ", input_value=" ++ Text.abridged 50 shown ++ ", input_type=" ++ type ++ "]\n" ++
    "    For further information visit " ++ help ++ i.fault.code

/-- A report on all issues with a group of settings. -/
def report (help group : String) (issues : List Issue) : String :=
  let noun := if issues.length = 1 then "error" else "errors"
  "\n".intercalate (s!"{issues.length} validation {noun} for {group}" ::
    issues.map (Issue.report help))

/-! ### Collecting issues -/

/-- A value, or everything that keeps it from being one. -/
inductive Checked (α : Type) where
  /-- The value. -/
  | ok (value : α)
  /-- What is wrong, in order. -/
  | bad (issues : List Issue)

namespace Checked

/-- What is wrong. -/
def issues {α : Type} : Checked α → List Issue
  | ok _ => []
  | bad is => is

/-- Apply a checked function to a checked value; issues of both are kept, in order. -/
def ap {α β : Type} (f : Checked (α → β)) (x : Checked α) : Checked β :=
  match f, x with
  | ok f, ok x => ok (f x)
  | f, x => bad (f.issues ++ x.issues)

/-- Require that there be no more issues. -/
def without {α : Type} (x : Checked α) (more : List Issue) : Checked α :=
  match x, more with
  | ok x, [] => ok x
  | x, more => bad (x.issues ++ more)

/-- The same issues one level further out. -/
def under {α : Type} (outer : String) : Checked α → Checked α
  | ok x => ok x
  | bad is => bad (is.map (·.under outer))

end Checked

end Mailroom.Settings
