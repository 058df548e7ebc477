import Mailroom.Bytes
import Mailroom.Failure
import Mailroom.Text.Shown

/-!
# The conversation with a mail server

The requests a client makes of a server connection, and the replies it gets: a status and a list
of items, each a byte string, nothing, or a group of byte strings. A request together with what came
of it is an `Exchange`.
-/

namespace Mailroom.Imap

/-- A command about messages named by uid. -/
inductive Command where
  /-- Look for messages. -/
  | search (criteria : List String)
  /-- Get a part of a message. -/
  | fetch (uid item : String)
  /-- Change the flags of a message. -/
  | store (uid mode flags : String)
  /-- Move a message. -/
  | move (uid destination : String)
  /-- Copy a message. -/
  | copy (uid destination : String)
  deriving DecidableEq, Repr

/-- The word that names a command. -/
def Command.word : Command → String
  | search _ => "SEARCH"
  | fetch .. => "FETCH"
  | store .. => "STORE"
  | move .. => "MOVE"
  | copy .. => "COPY"

/-- The arguments of a command; a search names no character set in front. -/
def Command.arguments : Command → List (Option String)
  | search criteria => none :: criteria.map some
  | fetch uid item => [some uid, some item]
  | store uid mode flags => [some uid, some mode, some flags]
  | move uid destination => [some uid, some destination]
  | copy uid destination => [some uid, some destination]

/-- A request on a connection. -/
inductive Request where
  /-- Open a connection. -/
  | construct (encrypted : Bool) (host : String) (port : Int) (timeout : Option Float)
  /-- Authenticate. -/
  | login (user password : String)
  /-- Drop the connection. -/
  | shutdown
  /-- Select a mailbox. -/
  | select (argument : String)
  /-- Leave the mailbox and remove what is flagged as deleted. -/
  | close
  /-- Leave the mailbox. -/
  | unselect
  /-- End the conversation. -/
  | logout
  /-- A command about messages, with the literal that was pending on the connection. -/
  | uid (command : Command) (literal : Option Bytes)

/-- An item of a reply. -/
inductive Item where
  /-- A byte string. -/
  | bytes (b : Bytes)
  /-- Nothing. -/
  | absent
  /-- A group. -/
  | group (parts : List (Option Bytes))

/-- A byte string or nothing, as messages show it. -/
def shownPart : Option Bytes → String
  | some b => Text.shownBytes b
  | none => "None"

/-- An item as messages show it; a group of one keeps a comma. -/
def Item.shown : Item → String
  | bytes b => Text.shownBytes b
  | absent => "None"
  | group [p] => "(" ++ shownPart p ++ ",)"
  | group parts => "(" ++ Text.commaSeparated (parts.map shownPart) ++ ")"

/-- The answer to a request. -/
structure Reply where
  /-- The status word. -/
  status : String
  /-- The items. -/
  items : List Item

/-- The items of a reply as messages show them. -/
def Reply.shownItems (r : Reply) : String :=
  "[" ++ Text.commaSeparated (r.items.map Item.shown) ++ "]"

/-- A request and what came of it: a reply or a failure. -/
structure Exchange where
  /-- The request. -/
  request : Request
  /-- What came of it. -/
  answer : Except Failure Reply

/-- Where only the request matters, an exchange stands for it. -/
instance : Coe Exchange Request := ⟨Exchange.request⟩

/-- A mail server: what it can do, and how it answers requests. A request may also fail. -/
structure Server (ρ : Type) where
  /-- The words for what it can do. -/
  capabilities : List String
  /-- How it answers. -/
  answer : Request → ρ → Except Failure Reply × ρ

end Mailroom.Imap
