import Mailroom.Digest.Algorithm
import Mailroom.Json.Reader
import Mailroom.Settings.Source

/-!
# The groups of settings

What to poll and where processed messages go (`Delivery`), how a connection is retried (`Retry`),
how the mail server is reached (`Server`), how log lines are written (`Logging`), and a whole
poller (`Poller`), which nests three of the others. A nested group is read from its own argument,
merged over the JSON text of its environment variable, and fills what is missing from its own
variables; without either it is read from its own variables alone, and issues with those end the
reading at once.
-/

namespace Mailroom.Settings

/-- Why settings cannot be read. -/
inductive Trouble where
  /-- The values of a group do not validate. -/
  | invalid (group : String) (issues : List Issue)
  /-- The variable of a nested group is not JSON. -/
  | unparsable (field : String)

/-- The wording of a variable that is not JSON. -/
def unparsableText (field : String) : String :=
  s!"error parsing value for field \"{field}\" from source \"EnvSettingsSource\""

/-! ### Delivery -/

/-- What to poll, where processed messages go, and how long to sleep. -/
structure Delivery where
  /-- The polled mailbox. -/
  mailbox : String
  /-- Only subjects with this text count; empty for all. -/
  pattern : String
  /-- Where delivered messages go; empty to leave them. -/
  outbox : String
  /-- Where rejected messages go; empty to leave them. -/
  errbox : String
  /-- The sleep after a round that delivered something. -/
  shortSleep : Float
  /-- The sleep after any other round. -/
  longSleep : Float
  /-- The memory limit of a spool. -/
  memoryLimit : Nat
  /-- The digest passed to the callback. -/
  algorithm : Algorithm

namespace Delivery

/-- The mailbox that is polled when none is named. -/
def defaultMailbox : String := "INBOX"

/-- Seen messages are listed too when every processed message leaves the mailbox: when both boxes
are set. -/
def includeSeen (d : Delivery) : Bool := d.outbox ≠ "" && d.errbox ≠ ""

/-- An empty mailbox name stands for the default one. -/
def readMailbox (v : Json) : Except Fault String :=
  (text v).map fun s => if s = "" then defaultMailbox else s

/-- An algorithm by its catalogue name in any letter case. -/
def readAlgorithm (v : Json) : Except Fault Algorithm :=
  match text v with
  | .error f => .error f
  | .ok s =>
    let name := Text.lower s
    match Algorithm.catalogue.lookup name with
    | none => .error (.refused ("unsupported digest algorithm: " ++ name))
    | some (.fixed a) => .ok a
    | some .extendable => .error (.refused (Algorithm.NameError.extendable name).message)

/-- The group's name. -/
def group : String := "DeliveryConfig"

/-- The names of the fields. -/
def fields : List String :=
  ["mailbox", "pattern", "outbox", "errbox", "short_sleep_seconds", "long_sleep_seconds",
    "spool_max_memory_bytes", "digest_algorithm"]

/-- Read the group. -/
def read (arguments : Arguments) (env : Environment) : Checked Delivery :=
  let s : Source := ⟨arguments, env, "delivery_"⟩
  let made := (Checked.ok Delivery.mk)
    |>.ap (s.field "mailbox" (some defaultMailbox) readMailbox)
    |>.ap (s.field "pattern" (some "") text)
    |>.ap (s.field "outbox" (some "") text)
    |>.ap (s.field "errbox" (some "") text)
    |>.ap (s.field "short_sleep_seconds" (some 1) fun v => (number v).bind nonNegative)
    |>.ap (s.field "long_sleep_seconds" (some 300) fun v => (number v).bind nonNegative)
    |>.ap (s.field "spool_max_memory_bytes" (some 1048576) fun v => (int v).bind (atLeast 0))
    |>.ap (s.field "digest_algorithm" (some .sha1) readAlgorithm)
  made.without (s.strangers fields)

end Delivery

/-! ### Retry -/

/-- How a connection is retried. -/
structure Retry where
  /-- How often it is tried in all. -/
  maxAttempts : Nat
  /-- The least wait between two attempts. -/
  initialWait : Float
  /-- The longest wait between two attempts. -/
  maxWait : Float
  /-- What the powers of two are multiplied with. -/
  multiplier : Float

namespace Retry

/-- The group's name. -/
def group : String := "RetryConfig"

/-- The names of the fields. -/
def fields : List String :=
  ["max_attempts", "initial_wait_seconds", "max_wait_seconds", "multiplier"]

/-- Read the group. -/
def read (arguments : Arguments) (env : Environment) : Checked Retry :=
  let s : Source := ⟨arguments, env, "retry_"⟩
  let made := (Checked.ok Retry.mk)
    |>.ap (s.field "max_attempts" (some 3) fun v => (int v).bind (atLeast 1))
    |>.ap (s.field "initial_wait_seconds" (some 1) number)
    |>.ap (s.field "max_wait_seconds" (some 10) number)
    |>.ap (s.field "multiplier" (some 2) number)
  made.without (s.strangers fields)

end Retry

/-! ### Server -/

/-- How the mail server is reached. -/
structure Server where
  /-- The host. -/
  host : String
  /-- The port. -/
  port : Int
  /-- Whether the connection is encrypted from the start. -/
  encrypted : Bool
  /-- The login name. -/
  username : String
  /-- The password. -/
  password : String
  /-- The time limit of a command, if there is one. -/
  timeout : Option Float

namespace Server

/-- The group's name. -/
def group : String := "ImapConfig"

/-- The names of the fields. -/
def fields : List String :=
  ["host", "port", "use_ssl", "username", "password", "timeout_seconds"]

/-- Read the group. -/
def read (arguments : Arguments) (env : Environment) : Checked Server :=
  let s : Source := ⟨arguments, env, "imap_"⟩
  let made := (Checked.ok Server.mk)
    |>.ap (s.field "host" none text)
    |>.ap (s.field "port" (some 993) int)
    |>.ap (s.field "use_ssl" (some true) bool)
    |>.ap (s.field "username" none text)
    |>.ap (s.field "password" none text)
    |>.ap (s.field "timeout_seconds" (some (some 60)) optionalNumber)
  made.without (s.strangers fields)

/-- A password as reports show it. -/
def masked (password : String) : String := if password = "" then "" else "**********"

end Server

/-! ### Logging -/

/-- How log lines are written. -/
structure Logging where
  /-- The name of the least level that is written. -/
  level : String
  /-- JSON lines, or lines for people. -/
  jsonOutput : Bool
  deriving DecidableEq, Repr

namespace Logging

/-- The group's name. -/
def group : String := "LoggingConfig"

/-- The names of the fields. -/
def fields : List String := ["level", "json_output"]

/-- Read the group. -/
def read (arguments : Arguments) (env : Environment) : Checked Logging :=
  let s : Source := ⟨arguments, env, "log_"⟩
  let made := (Checked.ok Logging.mk)
    |>.ap (s.field "level" (some "INFO") text)
    |>.ap (s.field "json_output" (some true) bool)
  made.without (s.strangers fields)

end Logging

/-! ### Poller -/

/-- A whole poller. -/
structure Poller where
  /-- The name in log lines and probe answers. -/
  name : String
  /-- The port of the probe server. -/
  healthPort : Int
  /-- What to poll. -/
  delivery : Delivery
  /-- How to retry. -/
  retry : Retry
  /-- How to log. -/
  logging : Logging

namespace Poller

/-- The group's name. -/
def group : String := "PollerConfig"

/-- The names of the fields. -/
def fields : List String := ["name", "health_port", "delivery", "retry", "logging"]

/-- Spell the member names of a nested group as the group does, where only the letter case
differs. -/
def respelled (names : List String) (members : Arguments) : Arguments :=
  members.foldl (fun acc m =>
    let name := (names.find? fun n => Text.lower n = Text.lower m.1).getD m.1
    Json.setMember acc name m.2) []

/-- The value of a nested group: its argument merged over the JSON text of its variable. -/
def nested? (arguments : Arguments) (env : Environment) (field : String) (names : List String) :
    Except Trouble (Option Json) :=
  let argument := Json.member? arguments field
  match env.find? ("poller_" ++ field) with
  | none => .ok argument
  | some s =>
    match Json.read? s with
    | none => .error (.unparsable field)
    | some v =>
      let v : Json := match v with
        | .object members => .object (respelled names members)
        | v => v
      .ok <| match argument, v with
        | none, .null => none
        | none, v => some v
        | some (.object a), .object b => some (.object (Json.override b a))
        | some a, _ => some a

/-- Read a nested group. -/
def nestedGroup {α : Type} (env : Environment) (field group : String)
    (read : Arguments → Environment → Checked α) : Option Json → Except Trouble (Checked α)
  | none => match read [] env with
    | .ok x => .ok (.ok x)
    | .bad issues => .error (.invalid group issues)
  | some (.object members) => .ok ((read members env).under field)
  | some v => .ok (.bad [⟨[field], .notGroup group, v⟩])

/-- Read the group. -/
def read (arguments : Arguments) (env : Environment) : Except Trouble Poller := do
  let s : Source := ⟨arguments, env, "poller_"⟩
  let delivery ← nested? arguments env "delivery" Delivery.fields
  let retry ← nested? arguments env "retry" Retry.fields
  let logging ← nested? arguments env "logging" Logging.fields
  let delivery ← nestedGroup env "delivery" Delivery.group Delivery.read delivery
  let retry ← nestedGroup env "retry" Retry.group Retry.read retry
  let logging ← nestedGroup env "logging" Logging.group Logging.read logging
  let made := (Checked.ok Poller.mk)
    |>.ap (s.field "name" (some "mailpoll") text)
    |>.ap (s.field "health_port" (some 8080) int)
    |>.ap delivery
    |>.ap retry
    |>.ap logging
  match made.without (s.strangers fields) with
  | .ok p => .ok p
  | .bad issues => .error (.invalid group issues)

end Poller

end Mailroom.Settings
