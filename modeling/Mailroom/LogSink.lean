import Mailroom.Failure
import Mailroom.Json.Basic
import Mailroom.Settings.Groups

/-!
# Where log lines go

A log sink has a least level and a format, and adds the name of a poller to every line once it was
given one. Setting it up again replaces the level and the format and keeps the name, unless there
is a new one. The loggers of the probe server write a line for every probe, so they and everything
below them are held to warnings, whatever the sink's level.
-/

namespace Mailroom

/-- The severity of each level name. -/
def severities : List (String × Nat) :=
  [("CRITICAL", 50), ("FATAL", 50), ("ERROR", 40), ("WARN", 30), ("WARNING", 30), ("INFO", 20),
    ("DEBUG", 10), ("NOTSET", 0)]

/-- The severity of a level name in any letter case. -/
def severity (level : String) : Except Failure Nat :=
  let name := Text.upper level
  match severities.lookup name with
  | some n => .ok n
  | none => .error (.plain .value ("Unknown level: " ++ Text.shown name))

/-- A place where log lines go. -/
structure LogSink where
  /-- The least severity that is written. -/
  threshold : Nat
  /-- JSON lines, or lines for people. -/
  jsonOutput : Bool
  /-- The poller whose name is added to every line. -/
  poller : Option String

/-- A line as it is asked for. -/
structure LogRequest where
  /-- The logger's name. -/
  logger : String
  /-- The level's name. -/
  level : String
  /-- The event's name. -/
  event : String
  /-- Further fields. -/
  fields : List (String × Json)

namespace LogSink

/-- The loggers that are held to warnings. -/
def noisyLoggers : List String := ["uvicorn.access", "uvicorn.error"]

/-- What noisy loggers are held to. -/
def noisyThreshold : Nat := 30

/-- A sink that nobody has set up. -/
def initial : LogSink := ⟨30, false, none⟩

/-- Set a sink up. An empty poller name counts as none. -/
def setUp (s : LogSink) (l : Settings.Logging) (poller : Option String) :
    Except Failure LogSink :=
  (severity l.level).map fun threshold =>
    ⟨threshold, l.jsonOutput, match poller with
      | some name => if name = "" then s.poller else some name
      | none => s.poller⟩

/-- Whether a logger is one of the noisy ones or below one. -/
def isNoisy (logger : String) : Bool :=
  noisyLoggers.any fun n => logger = n || (n ++ ".").toList.isPrefixOf logger.toList

/-- Whether a line is written. -/
def admits (s : LogSink) (r : LogRequest) : Bool :=
  match severity r.level with
  | .ok n => (if isNoisy r.logger then noisyThreshold else s.threshold) ≤ n
  | .error _ => false

/-- The fields of a line: the poller's name, under the fields of the request, under the event, the
level and the logger. The time is left to the writer. -/
def line (s : LogSink) (r : LogRequest) : Json :=
  let bound : List (String × Json) := match s.poller with
    | some name => [("poller", name)]
    | none => []
  .object ((Json.override (Json.override bound r.fields)
    [("event", r.event), ("level", r.level), ("logger", r.logger)]).filter (·.1 ≠ "timestamp"))

/-- The lines that are written. -/
def lines (s : LogSink) (rs : List LogRequest) : List Json := (rs.filter s.admits).map s.line

end LogSink

end Mailroom
