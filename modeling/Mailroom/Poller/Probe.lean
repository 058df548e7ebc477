import Mailroom.Poller.Ledger

/-!
# Probes

Two questions about a poller can be asked over HTTP: whether it is alive, with its books
(`/health`), and whether it is ready (`/ready`). Both are asked with GET. Any other method is
refused, a path with a slash too many or too few is redirected to the one that is meant, and
anything else is not found. A HEAD request never gets a body. How long the poller has been up is
left out of what `/health` answers: it is read off the clock.
-/

namespace Mailroom.Probe

/-- What a probe is answered. -/
structure Answer where
  /-- The HTTP status code. -/
  code : Nat
  /-- The body, if it is not empty. -/
  body : Option Json

/-- A refusal. -/
def refusal (code : Nat) (reason : String) : Answer := ⟨code, some (.object [("detail", reason)])⟩

/-- Whether the poller is alive, and its books. -/
def health (p : Settings.Poller) (l : Ledger) : Answer where
  code := if l.status.isLive then 200 else 503
  body := some (.object [("poller_name", p.name), ("status", l.status.name),
    ("details", l.details p.delivery)])

/-- Whether the poller is ready. -/
def ready (l : Ledger) : Answer where
  code := if l.status.isReady then 200 else 503
  body := some (.object [("ready", l.status.isReady)])

/-- The answer of the question at a path. -/
def question? (p : Settings.Poller) (l : Ledger) (path : String) : Option Answer :=
  if path = "/health" then some (health p l)
  else if path = "/ready" then some (ready l)
  else none

/-- The path that differs in slashes at the end: without them, or with one where there is none. -/
def otherSlash (path : String) : String :=
  let cs := path.toList.reverse
  if cs.head? = some '/' then String.ofList (cs.dropWhile (· = '/')).reverse else path.push '/'

/-- The answer to a request for a path without its query. -/
def answerTo (p : Settings.Poller) (l : Ledger) (method path : String) : Answer :=
  match question? p l path with
  | some a => if method = "GET" then a else refusal 405 "Method Not Allowed"
  | none =>
    if path ≠ "/" ∧ (question? p l (otherSlash path)).isSome then ⟨307, none⟩
    else refusal 404 "Not Found"

/-- The answer to a request; the query and what follows it play no part. -/
def answer (p : Settings.Poller) (l : Ledger) (method target : String) : Answer :=
  let path := String.ofList (target.toList.takeWhile fun c => c ≠ '?' ∧ c ≠ '#')
  let a := answerTo p l method path
  if method = "HEAD" then { a with body := none } else a

end Mailroom.Probe
