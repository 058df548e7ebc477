import Mailroom.Imap.Quoting
import Mailroom.Session
import Mailroom.Settings.Groups
import Mailroom.Text.Utf8

/-!
# The mail-server client

A session on a mail server. The client remembers whether it is connected and which mailbox it
selected last, and asks for a mailbox again only when it is another one. A reply whose status is
not `OK` is a failure of the session.

* Connecting opens a connection and authenticates; where authentication fails, the connection is
  dropped.
* Listing sends the pattern as a quoted argument when it is ASCII and as a literal otherwise.
* Reading does not mark a message seen.
* Moving uses the server's own command when there is one. Otherwise the message is copied and
  flagged as deleted, and closing removes it.
-/

namespace Mailroom.Imap

/-- The state of a client on a server with state `ρ`. -/
structure Client (ρ : Type) where
  /-- The server's state. -/
  server : ρ
  /-- Whether there is a connection. -/
  connected : Bool
  /-- The mailbox that was selected last. -/
  selected : Option String

namespace Client

variable {ρ : Type}

/-- A client that is not connected. -/
def fresh (server : ρ) : Client ρ := ⟨server, false, none⟩

/-! ### Requests -/

/-- Make a request; the remark on it says what came of it. -/
def ask (srv : Server ρ) (r : Request) : Session.Op (Client ρ) Reply := do
  let (answer, server) := srv.answer r (← Session.Op.look).server
  Session.Op.remark (.wire ⟨r, answer⟩)
  Session.Op.change fun c => { c with server }
  match answer with
  | .ok reply => pure reply
  | .error f => throw f

/-- The items of a good reply; any other reply is a failure that names the command. -/
def expectOk (word : String) (reply : Reply) : Session.Op (Client ρ) (List Item) :=
  if reply.status = "OK" then pure reply.items
  else throw (.plain .session s!"{word} failed: {reply.status} {reply.shownItems}")

/-- Give a command about messages. -/
def command (srv : Server ρ) (c : Command) (literal : Option Bytes) :
    Session.Op (Client ρ) (List Item) := do
  expectOk c.word (← ask srv (.uid c literal))

/-- Refuse to work without a connection. -/
def requireConnection : Session.Op (Client ρ) Unit := do
  if (← Session.Op.look).connected then pure ()
  else throw (.plain .session "not connected")

/-! ### Connecting and closing -/

/-- How messages name a client. -/
def title (cfg : Settings.Server) : String :=
  s!"ImapSession({cfg.username}@{cfg.host}:{cfg.port})"

/-- Open a connection and authenticate on it. -/
def openConnection (cfg : Settings.Server) (srv : Server ρ) : Session.Op (Client ρ) Unit := do
  let _ ← ask srv (.construct cfg.encrypted cfg.host cfg.port cfg.timeout)
  match ← settle (ask srv (.login cfg.username cfg.password)) with
  | .ok _ => Session.Op.change fun c => { c with connected := true, selected := none }
  | .error f =>
    if f.isFault then
      let _ ← ask srv .shutdown
    throw f

/-- Failures of the connection itself: those of the server's protocol and of the operating
system. -/
def isConnectionFault (f : Failure) : Bool := f.kind.isA .protocol || f.kind.isA .os

/-- Connect. -/
def connect (cfg : Settings.Server) (srv : Server ρ) : Session.Op (Client ρ) Unit := do
  match ← settle (openConnection cfg srv) with
  | .ok () => Session.Op.log (.connected cfg.host cfg.port)
  | .error f =>
    if isConnectionFault f then throw (f.wrap .connect s!"connect to {title cfg}: {f.text}")
    else throw f

/-- Leave the selected mailbox. -/
def leave (srv : Server ρ) (expunge : Bool) : Session.Op (Client ρ) Unit := do
  match (← Session.Op.look).selected with
  | none => pure ()
  | some _ =>
    if expunge then
      let _ ← expectOk "CLOSE" (← ask srv .close)
    else
      let _ ← expectOk "UNSELECT" (← ask srv .unselect)

/-- Leave the selected mailbox and end the conversation, whether or not leaving failed. -/
def endConversation (srv : Server ρ) (expunge : Bool) : Session.Op (Client ρ) Unit := do
  let left ← settle (leave srv expunge)
  let _ ← ask srv .logout
  match left with
  | .ok () => pure ()
  | .error f => throw f

/-- Close. The client is disconnected afterwards, also when the server failed. -/
def close (srv : Server ρ) (expunge : Bool) : Session.Op (Client ρ) Unit := do
  if (← Session.Op.look).connected then
    let ended ← settle (endConversation srv expunge)
    Session.Op.change fun c => { c with connected := false, selected := none }
    match ended with
    | .ok () => Session.Op.log (.disconnected expunge)
    | .error f => throw f
  else pure ()

/-! ### Listing -/

/-- Select a mailbox unless it was selected last. -/
def select (srv : Server ρ) (mailbox : String) : Session.Op (Client ρ) Unit := do
  requireConnection
  if (← Session.Op.look).selected ≠ some mailbox then
    let _ ← expectOk "SELECT" (← ask srv (.select (quote mailbox)))
    Session.Op.change fun c => { c with selected := some mailbox }

/-- The criteria of a search, and the literal that goes with them. -/
def criteria (pattern : String) (includeSeen : Bool) : List String × Option Bytes :=
  let scope := if includeSeen then "ALL" else "UNSEEN"
  if pattern = "" then ([scope], none)
  else if Text.isAscii pattern then ([scope, "SUBJECT", quote pattern], none)
  else (["CHARSET", "UTF-8", scope, "SUBJECT"], some (Text.encodeUtf8 pattern))

/-- The uids named by the words of an item. -/
def uidsOf (b : Bytes) : Except Failure (List String) :=
  (Bytes.words b).mapM fun w => match Text.decodeUtf8 w with
    | .ok s => .ok s
    | .error e => .error (.plain .decoding e.message)

/-- The candidates that the items of a reply name. Only the first item counts; without one, or with
an empty one, there is nothing to name. -/
def candidatesIn (items : List Item) : Except Failure (Option (List String)) :=
  match items.head? with
  | none | some .absent | some (.group []) => .ok none
  | some (.group _) =>
    .error (.plain .operation "'tuple' object has no attribute 'split'")
  | some (.bytes b) => if b.isEmpty then .ok none else (uidsOf b).map some

/-- List the candidates. -/
def list (srv : Server ρ) (mailbox pattern : String) (includeSeen : Bool) :
    Session.Op (Client ρ) (List String) := do
  select srv mailbox
  let (wanted, literal) := criteria pattern includeSeen
  let items ← command srv (.search wanted) literal
  match candidatesIn items with
  | .error f => throw f
  | .ok none => pure []
  | .ok (some uids) =>
    Session.Op.log (.searched mailbox wanted uids.length)
    pure uids

/-! ### Reading -/

/-- The size of the pieces in which a body is passed on. -/
def pieceSize : Nat := 65536

/-- The body in the items of a reply: the second part of the first group. -/
def bodyOf (items : List Item) : Except Failure (Option Bytes) :=
  let group := items.findSome? fun
    | .group parts => some parts
    | _ => none
  match group with
  | none => .ok none
  | some (_ :: part :: _) => .ok part
  | some _ => .error (.plain .index "tuple index out of range")

/-- Get the body of a candidate. -/
def fetch (srv : Server ρ) (uid : String) : Session.Op (Client ρ) Bytes := do
  requireConnection
  let items ← command srv (.fetch uid "(BODY.PEEK[])") none
  match bodyOf items with
  | .error f => throw f
  | .ok none => throw (.plain .session s!"message {uid} not found")
  | .ok (some body) => pure body

/-- Pass on a body that was got, in pieces, or the failure to get it. -/
def passOn (fetched : Except Failure Bytes) (c : Client ρ) : Streaming (Client ρ) :=
  match fetched with
  | .error f => .done (.error f) c
  | .ok body =>
    .writeAll c 0 (fun total => .done (.ok total) c) (Bytes.pieces body pieceSize)

/-- Read the body of a candidate into a message. -/
def readBody (srv : Server ρ) (uid : String) (c : Client ρ) : Streaming (Client ρ) :=
  let (fetched, after) := (fetch srv uid).run.run ⟨c, []⟩
  .sayAll after.remarks (passOn fetched after.state)

/-! ### Flags and relocation -/

/-- Set or clear the seen flag. -/
def mark (srv : Server ρ) (uid : String) (seen : Bool) : Session.Op (Client ρ) Unit := do
  requireConnection
  let _ ← command srv (.store uid (if seen then "+FLAGS" else "-FLAGS") "(\\Seen)") none

/-- Move a candidate. -/
def move (srv : Server ρ) (uid mailbox : String) : Session.Op (Client ρ) Unit := do
  requireConnection
  if srv.capabilities.contains "MOVE" then
    let _ ← command srv (.move uid (quote mailbox)) none
  else
    let _ ← command srv (.copy uid (quote mailbox)) none
    let _ ← command srv (.store uid "+FLAGS.SILENT" "(\\Deleted)") none

/-- The client as a session. -/
def session (cfg : Settings.Server) (srv : Server ρ) : Session (Client ρ) where
  title := title cfg
  connect := connect cfg srv
  close := close srv
  list := list srv
  readBody := readBody srv
  mark := mark srv
  move := move srv

end Client

end Mailroom.Imap
