/-!
# JSON values

Settings arrive as JSON values, log lines and probe answers leave as JSON values. Whole numbers and
floating-point numbers are kept apart, whole numbers have any size, and the members of an object
keep their order.
-/

namespace Mailroom

/-- A JSON value. -/
inductive Json where
  /-- The null value. -/
  | null
  /-- A truth value. -/
  | bool (b : Bool)
  /-- A number written without fraction and exponent. -/
  | int (n : Int)
  /-- Any other number, and the infinities and not-a-number. -/
  | float (x : Float)
  /-- A text. -/
  | text (s : String)
  /-- A list of values. -/
  | list (items : List Json)
  /-- Named values, in order. -/
  | object (members : List (String × Json))
  deriving Inhabited

namespace Json

instance : Coe String Json := ⟨text⟩
instance : Coe Bool Json := ⟨bool⟩
instance : Coe Int Json := ⟨int⟩
instance : Coe Nat Json := ⟨fun n => int n⟩

/-- The value of the last member with a name. -/
def member? (members : List (String × Json)) (name : String) : Option Json :=
  members.foldl (fun found m => if m.1 = name then some m.2 else found) none

/-- Set a member: in place if the name is there, else at the end. -/
def setMember (members : List (String × Json)) (name : String) (value : Json) :
    List (String × Json) :=
  if members.any (·.1 = name) then
    members.map fun m => if m.1 = name then (name, value) else m
  else members ++ [(name, value)]

/-- The members of `first`, with those of `second` set over them. -/
def override (first second : List (String × Json)) : List (String × Json) :=
  second.foldl (fun acc m => setMember acc m.1 m.2) first

/-- A member of an object; nothing for a missing name or another kind of value. -/
def get? (v : Json) (name : String) : Option Json :=
  match v with
  | object members => member? members name
  | _ => none

/-- A text or null. -/
def ofText? : Option String → Json
  | some s => text s
  | none => null

end Json

end Mailroom
