import Mailroom.Settings.Value
import Mailroom.Text.Case

/-!
# Sources of settings

A group of settings has a name, a prefix, and fields. A field's value comes from the arguments,
else from the environment variable called prefix and field name in any letter case, else it is the
default, which is not validated. Arguments that no field is called after are issues; environment
variables are not.
-/

namespace Mailroom.Settings

/-- Environment variables, in order. -/
abbrev Environment := List (String × String)

/-- The value of a variable in any letter case; the last one counts. -/
def Environment.find? (env : Environment) (name : String) : Option String :=
  let wanted := Text.lower name
  env.foldl (fun found v => if Text.lower v.1 = wanted then some v.2 else found) none

/-- Named arguments, in order. -/
abbrev Arguments := List (String × Json)

/-- Where the values of a group come from. -/
structure Source where
  /-- The arguments. -/
  arguments : Arguments
  /-- The environment. -/
  environment : Environment
  /-- What the group's variables start with. -/
  stem : String

/-- The value given for a field, from the arguments or the environment. -/
def Source.given? (s : Source) (field : String) : Option Json :=
  match Json.member? s.arguments field with
  | some v => some v
  | none => (s.environment.find? (s.stem ++ field)).map .text

/-- Read a field; `fallback` stands in for an absent value. -/
def Source.field {α : Type} (s : Source) (name : String) (fallback : Option α)
    (read : Json → Except Fault α) : Checked α :=
  match s.given? name with
  | some v => match read v with
    | .ok x => .ok x
    | .error f => .bad [⟨[name], f, v⟩]
  | none => match fallback with
    | some x => .ok x
    | none => .bad [⟨[name], .missing, .object s.arguments⟩]

/-- Arguments that belong to no field. -/
def Source.strangers (s : Source) (fields : List String) : List Issue :=
  (s.arguments.filter fun a => !fields.contains a.1).map fun a => ⟨[a.1], .unexpected, a.2⟩

end Mailroom.Settings
