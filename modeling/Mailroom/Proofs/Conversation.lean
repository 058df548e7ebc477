import Mailroom.Imap.Client
import Mailroom.Proofs.Operations

/-!
# The conversation of a call

What the mail-server client asks of its server in each call, what the call ends in, and where it
leaves the client. There is one relation for each operation, with a constructor for each way the
operation can go, and one lemma that says that it goes in one of them. The server may answer and
fail as it likes; only the relations say what depends on its answers.
-/

namespace Mailroom

namespace Imap

/-- The server answered that all is well. -/
def Exchange.Confirmed (x : Exchange) : Prop := ∃ reply, x.answer = .ok reply ∧ reply.status = "OK"

/-- The server confirmed a search, and its reply can be read as these uids. -/
def Exchange.Lists (x : Exchange) (uids : List String) : Prop :=
  ∃ reply found, x.answer = .ok reply ∧ reply.status = "OK" ∧
    Client.candidatesIn reply.items = .ok found ∧ uids = found.getD []

namespace Client

open Session.Op (Ensures)

variable {ρ : Type} {srv : Server ρ} {c : Client ρ}

/-! ### Requests -/

/-- A request is one exchange, and only the server's state changes. -/
theorem ensures_ask (r : Request) : (ask srv r).Ensures c fun xs o y => xs = [⟨r, o⟩] ∧
    ∃ server, srv.answer r c.server = (o, server) ∧ y = { c with server } := by
  refine .look_bind ?_
  rcases hs : srv.answer r c.server with ⟨answer, server⟩
  refine .remark_bind (.change_bind ?_)
  cases answer with
  | ok reply => exact .pure ⟨rfl, server, rfl, rfl⟩
  | error f => exact .throw ⟨rfl, server, rfl, rfl⟩

/-- What comes of a request whose reply must be good. -/
inductive Expecting (r : Request) (c : Client ρ) :
    List Exchange → Except Failure (List Item) → Client ρ → Prop where
  /-- The reply is good. -/
  | good {reply : Reply} (h : reply.status = "OK") (server : ρ) :
    Expecting r c [⟨r, .ok reply⟩] (.ok reply.items) { c with server }
  /-- The reply is not good, or there is none. -/
  | bad {answer : Except Failure Reply} (h : ¬Exchange.Confirmed ⟨r, answer⟩) (f : Failure)
    (server : ρ) : Expecting r c [⟨r, answer⟩] (.error f) { c with server }

theorem ensures_expect (word : String) (r : Request) :
    (ask srv r >>= expectOk word).Ensures c (Expecting r c) := by
  refine .bind (ensures_ask r) ?_ ?_
  · rintro xs reply y ⟨rfl, server, -, rfl⟩
    unfold expectOk
    split
    · next h => exact .pure (.good h server)
    · next h =>
      refine .throw (.bad ?_ _ server)
      rintro ⟨_, ⟨⟩, h'⟩
      exact h h'
  · rintro xs f y ⟨rfl, server, -, rfl⟩
    refine .bad ?_ f server
    rintro ⟨_, ⟨⟩, -⟩

theorem ensures_command (command : Command) (literal : Option Bytes) :
    (Client.command srv command literal).Ensures c (Expecting (.uid command literal) c) :=
  ensures_expect _ _

/-- A request whose reply only has to be good. -/
theorem ensures_discard {op : Session.Op (Client ρ) (List Item)} {r : Request}
    (h : op.Ensures c (Expecting r c)) :
    (do let _ ← op : Session.Op (Client ρ) Unit).Ensures c fun xs _ y =>
      (∃ server, y = { c with server }) ∧ ∃ answer, xs = [⟨r, answer⟩] := by
  refine .bind h ?_ ?_
  · rintro xs items y (⟨_, server⟩ | ⟨_, _, server⟩)
    exact .pure ⟨⟨server, rfl⟩, _, rfl⟩
  · rintro xs f y (⟨_, server⟩ | ⟨_, _, server⟩)
    exact ⟨⟨server, rfl⟩, _, rfl⟩

/-- Without a connection the client refuses to work, and says nothing. -/
theorem ensures_requireConnection : (requireConnection : Session.Op (Client ρ) Unit).Ensures c
    fun xs o y => xs = [] ∧ y = c ∧ match o with
      | .ok _ => c.connected = true
      | .error _ => c.connected = false := by
  refine .look_bind ?_
  split
  · next h => exact .pure ⟨rfl, rfl, h⟩
  · next h => exact .throw ⟨rfl, rfl, by simpa using h⟩

/-! ### Connecting and closing -/

/-- How connecting goes. -/
inductive Connecting (cfg : Settings.Server) (srv : Server ρ) (c : Client ρ) :
    List Exchange → Except Failure Unit → Client ρ → Prop where
  /-- No connection can be opened. -/
  | unopened (f g : Failure) (server : ρ) : Connecting cfg srv c
    [⟨.construct cfg.encrypted cfg.host cfg.port cfg.timeout, .error f⟩] (.error g)
    { c with server }
  /-- Authentication fails, and the connection is dropped. -/
  | dropped (reply : Reply) (f g : Failure) (answer : Except Failure Reply) (server : ρ) :
    Connecting cfg srv c
      [⟨.construct cfg.encrypted cfg.host cfg.port cfg.timeout, .ok reply⟩,
        ⟨.login cfg.username cfg.password, .error f⟩, ⟨.shutdown, answer⟩]
      (.error g) { c with server }
  /-- Authentication is cancelled. -/
  | cut (reply : Reply) {f : Failure} (hf : f.isFault = false) {r : Request} {state : ρ}
    (hs : (srv.answer r state).1 = .error f) (g : Failure) (server : ρ) : Connecting cfg srv c
      [⟨.construct cfg.encrypted cfg.host cfg.port cfg.timeout, .ok reply⟩,
        ⟨.login cfg.username cfg.password, .error f⟩]
      (.error g) { c with server }
  /-- The client is connected. -/
  | connected (reply reply' : Reply) (server : ρ) : Connecting cfg srv c
    [⟨.construct cfg.encrypted cfg.host cfg.port cfg.timeout, .ok reply⟩,
      ⟨.login cfg.username cfg.password, .ok reply'⟩]
    (.ok ()) ⟨server, true, none⟩

theorem ensures_openConnection (cfg : Settings.Server) (srv : Server ρ) :
    (openConnection cfg srv).Ensures c (Connecting cfg srv c) := by
  refine .bind (ensures_ask _) ?_ ?_
  · rintro xs reply y ⟨rfl, server, -, rfl⟩
    refine .settle_bind (ensures_ask _) ?_
    rintro xs (f | reply') y ⟨rfl, server', hs, rfl⟩
    · dsimp only
      cases hf : f.isFault with
      | true =>
        rw [if_pos rfl]
        refine .bind (ensures_ask _) ?_ ?_
        · rintro xs reply' y ⟨rfl, server'', -, rfl⟩
          exact .throw (.dropped reply f f (.ok reply') server'')
        · rintro xs g y ⟨rfl, server'', -, rfl⟩
          exact .dropped reply f g (.error g) server''
      | false =>
        rw [if_neg Bool.false_ne_true]
        exact .throw (.cut reply hf (congrArg Prod.fst hs) f server')
    · exact .change (.connected reply reply' server')
  · rintro xs f y ⟨rfl, server, -, rfl⟩
    exact .unopened f f server

/-- Whatever failure connecting ends in, the conversation is the same. -/
theorem Connecting.failed {cfg : Settings.Server} {xs : List Exchange} {f : Failure} {y : Client ρ}
    (h : Connecting cfg srv c xs (.error f) y) (g : Failure) :
    Connecting cfg srv c xs (.error g) y := by
  cases h with
  | unopened f _ server => exact .unopened f g server
  | dropped reply f _ answer server => exact .dropped reply f g answer server
  | cut reply hf hs _ server => exact .cut reply hf hs g server

theorem ensures_connect (cfg : Settings.Server) (srv : Server ρ) :
    (connect cfg srv).Ensures c (Connecting cfg srv c) := by
  refine .settle_bind (ensures_openConnection cfg srv) ?_
  rintro xs (f | u) y h
  · dsimp only
    split
    · exact .throw (by simpa using h.failed _)
    · exact .throw (by simpa using h)
  · exact .remark (by simpa [List.filterMap, Remark.exchange?] using h)

/-- The request to leave a mailbox. -/
def leaving (expunge : Bool) : Request := if expunge then .close else .unselect

/-- How closing goes. -/
inductive Closing (expunge : Bool) (c : Client ρ) :
    List Exchange → Except Failure Unit → Client ρ → Prop where
  /-- There is no connection to close. -/
  | unconnected (h : c.connected = false) : Closing expunge c [] (.ok ()) c
  /-- There is no mailbox to leave. -/
  | unselected (h : c.connected = true) (hs : c.selected = none) (answer : Except Failure Reply)
    (o : Except Failure Unit) (server : ρ) :
    Closing expunge c [⟨.logout, answer⟩] o ⟨server, false, none⟩
  /-- The mailbox is left, or not, and the conversation ends. -/
  | selected (h : c.connected = true) (hs : c.selected ≠ none)
    (answer answer' : Except Failure Reply) (o : Except Failure Unit) (server : ρ) :
    Closing expunge c [⟨leaving expunge, answer⟩, ⟨.logout, answer'⟩] o ⟨server, false, none⟩

/-- Leaving a mailbox asks for it exactly when there is one. -/
theorem ensures_leave (expunge : Bool) : (leave srv expunge).Ensures c fun xs _ y =>
    (∃ server, y = { c with server }) ∧ match c.selected with
      | none => xs = []
      | some _ => ∃ answer, xs = [⟨leaving expunge, answer⟩] := by
  refine .look_bind ?_
  obtain ⟨server, connected, selected⟩ := c
  cases selected with
  | none => exact .pure ⟨⟨server, rfl⟩, rfl⟩
  | some mailbox =>
    cases expunge with
    | true =>
      dsimp only
      rw [if_pos rfl, ← bind_assoc]
      exact ensures_discard (ensures_expect "CLOSE" .close)
    | false =>
      dsimp only
      rw [if_neg Bool.false_ne_true, ← bind_assoc]
      exact ensures_discard (ensures_expect "UNSELECT" .unselect)

/-- Once the mailbox is left, what remains is to end the conversation. -/
theorem Closing.of_leaving {expunge : Bool} (hc : c.connected = true) {xs : List Exchange}
    (h : match c.selected with
      | none => xs = []
      | some _ => ∃ answer, xs = [⟨leaving expunge, answer⟩])
    (answer : Except Failure Reply) (o : Except Failure Unit) (server : ρ) :
    Closing expunge c (xs ++ [⟨.logout, answer⟩]) o ⟨server, false, none⟩ := by
  cases hs : c.selected with
  | none =>
    rw [hs] at h
    subst h
    exact .unselected hc hs answer o server
  | some mailbox =>
    rw [hs] at h
    obtain ⟨answer', rfl⟩ := h
    exact .selected hc (by simp [hs]) answer' answer o server

theorem ensures_endConversation (expunge : Bool) (hc : c.connected = true) :
    (endConversation srv expunge).Ensures c fun xs _ y => ∀ o' : Except Failure Unit,
      Closing expunge c xs o' { y with connected := false, selected := none } := by
  refine .settle_bind (ensures_leave expunge) ?_
  rintro xs left y ⟨⟨server, rfl⟩, hxs⟩
  refine .bind (ensures_ask _) ?_ ?_
  · rintro ys reply z ⟨rfl, server', -, rfl⟩
    have hclosing := Closing.of_leaving hc hxs (.ok reply)
    cases left with
    | ok u => exact .pure fun o => by simpa using hclosing o server'
    | error f => exact .throw fun o => by simpa using hclosing o server'
  · rintro ys f z ⟨rfl, server', -, rfl⟩ o
    exact .of_leaving hc hxs (.error f) o server'

theorem ensures_close (expunge : Bool) :
    (close srv expunge).Ensures c (Closing expunge c) := by
  refine .look_bind ?_
  cases hc : c.connected with
  | false => exact .pure (.unconnected hc)
  | true =>
    refine .settle_bind (ensures_endConversation expunge hc) ?_
    rintro xs (f | u) y h
    · exact .change_bind (.throw (by simpa using h (.error f)))
    · exact .change_bind (.remark (by simpa [List.filterMap, Remark.exchange?] using h (.ok ())))

/-! ### Listing -/

/-- How selecting a mailbox goes. -/
inductive Selecting (mailbox : String) (c : Client ρ) :
    List Exchange → Except Failure Unit → Client ρ → Prop where
  /-- There is no connection. -/
  | unconnected (h : c.connected = false) (f : Failure) : Selecting mailbox c [] (.error f) c
  /-- The mailbox was selected last. -/
  | already (h : c.connected = true) (hs : c.selected = some mailbox) :
    Selecting mailbox c [] (.ok ()) c
  /-- The server does not confirm. -/
  | refused (h : c.connected = true) {answer : Except Failure Reply}
    (ha : ¬Exchange.Confirmed ⟨.select (quote mailbox), answer⟩) (f : Failure) (server : ρ) :
    Selecting mailbox c [⟨.select (quote mailbox), answer⟩] (.error f) { c with server }
  /-- The server confirms. -/
  | selected (h : c.connected = true) {reply : Reply} (hr : reply.status = "OK") (server : ρ) :
    Selecting mailbox c [⟨.select (quote mailbox), .ok reply⟩] (.ok ())
      ⟨server, c.connected, some mailbox⟩

theorem ensures_select (mailbox : String) :
    (select srv mailbox).Ensures c (Selecting mailbox c) := by
  refine .bind ensures_requireConnection ?_ ?_
  · rintro xs u y ⟨rfl, rfl, hc⟩
    refine .look_bind ?_
    split
    · rw [← bind_assoc]
      refine .bind (ensures_expect _ _) ?_ ?_
      · rintro xs items z (⟨hr, server⟩ | ⟨_, _, server⟩)
        exact .change (.selected hc hr server)
      · rintro xs f z (⟨_, server⟩ | ⟨ha, _, server⟩)
        exact .refused hc ha f server
    · next hs => exact .pure (.already hc (by simpa using hs))
  · rintro xs f y ⟨rfl, rfl, hc⟩
    exact .unconnected hc f

/-- How listing goes: a search follows once the mailbox is selected. -/
inductive Listing (mailbox : String) (c : Client ρ) :
    List Exchange → Except Failure (List String) → Client ρ → Prop where
  /-- The mailbox cannot be selected. -/
  | unselected {xs : List Exchange} {f : Failure} {y : Client ρ}
    (h : Selecting mailbox c xs (.error f) y) : Listing mailbox c xs (.error f) y
  /-- The search fails, or its reply cannot be read. -/
  | unlisted {xs : List Exchange} {y : Client ρ} (h : Selecting mailbox c xs (.ok ()) y)
    (criteria : List String) (literal : Option Bytes) (answer : Except Failure Reply) (f : Failure)
    (server : ρ) :
    Listing mailbox c (xs ++ [⟨.uid (.search criteria) literal, answer⟩]) (.error f)
      { y with server }
  /-- The reply can be read. -/
  | listed {xs : List Exchange} {y : Client ρ} (h : Selecting mailbox c xs (.ok ()) y)
    (criteria : List String) (literal : Option Bytes) {answer : Except Failure Reply}
    {uids : List String}
    (hl : Exchange.Lists ⟨.uid (.search criteria) literal, answer⟩ uids) (server : ρ) :
    Listing mailbox c (xs ++ [⟨.uid (.search criteria) literal, answer⟩]) (.ok uids)
      { y with server }

theorem ensures_list (mailbox pattern : String) (includeSeen : Bool) :
    (list srv mailbox pattern includeSeen).Ensures c (Listing mailbox c) := by
  refine .bind (ensures_select mailbox) ?_ fun _ _ _ h => .unselected h
  rintro xs u y h
  rcases criteria pattern includeSeen with ⟨wanted, literal⟩
  refine .bind (ensures_command (.search wanted) literal) ?_ ?_
  · rintro ys items z (⟨hr, server⟩ | ⟨_, _, server⟩)
    split
    · exact .throw (by simpa using .unlisted h wanted literal _ _ server)
    · next hc =>
      have hl := Listing.listed h wanted literal ⟨_, _, rfl, hr, hc, rfl⟩ server
      exact .pure (by simpa using hl)
    · next uids hc =>
      have hl := Listing.listed h wanted literal ⟨_, _, rfl, hr, hc, rfl⟩ server
      exact .remark_bind (.pure (by simpa [List.filterMap, Remark.exchange?] using hl))
  · rintro ys f z (⟨_, server⟩ | ⟨_, _, server⟩)
    exact .unlisted h wanted literal _ f server

/-! ### Messages -/

/-- The conversation of a call about a message. It may be empty: without a connection there is
none. -/
inductive Errand : Session.Call → List Exchange → Prop where
  /-- Nothing is said. -/
  | mute (call : Session.Call) : Errand call []
  /-- The body is fetched, without marking the message seen. -/
  | fetch (uid : String) (answer : Except Failure Reply) :
    Errand (.readBody uid) [⟨.uid (.fetch uid "(BODY.PEEK[])") none, answer⟩]
  /-- The seen flag is set or cleared. -/
  | mark (uid : String) (seen : Bool) (answer : Except Failure Reply) :
    Errand (.mark uid seen)
      [⟨.uid (.store uid (if seen then "+FLAGS" else "-FLAGS") "(\\Seen)") none, answer⟩]
  /-- The server moves the message itself. -/
  | move (uid mailbox : String) (answer : Except Failure Reply) :
    Errand (.move uid mailbox) [⟨.uid (.move uid (quote mailbox)) none, answer⟩]
  /-- The server does not confirm the copy. -/
  | uncopied (uid mailbox : String) (answer : Except Failure Reply) :
    Errand (.move uid mailbox) [⟨.uid (.copy uid (quote mailbox)) none, answer⟩]
  /-- The server confirms the copy, and the message is flagged as deleted. -/
  | copied (uid mailbox : String) {reply : Reply} (h : reply.status = "OK")
    (answer : Except Failure Reply) :
    Errand (.move uid mailbox) [⟨.uid (.copy uid (quote mailbox)) none, .ok reply⟩,
      ⟨.uid (.store uid "+FLAGS.SILENT" "(\\Deleted)") none, answer⟩]

theorem ensures_fetch (uid : String) : (fetch srv uid).Ensures c fun xs _ y =>
    Errand (.readBody uid) xs ∧ ∃ server, y = { c with server } := by
  refine .bind ensures_requireConnection ?_ ?_
  · rintro xs u y ⟨rfl, rfl, -⟩
    refine .bind (ensures_command (.fetch uid "(BODY.PEEK[])") none) ?_ ?_
    · rintro xs items z (⟨_, server⟩ | ⟨_, _, server⟩)
      split
      · exact .throw ⟨.fetch uid _, server, rfl⟩
      · exact .throw ⟨.fetch uid _, server, rfl⟩
      · exact .pure ⟨.fetch uid _, server, rfl⟩
    · rintro xs f z (⟨_, server⟩ | ⟨_, _, server⟩)
      exact ⟨.fetch uid _, server, rfl⟩
  · rintro xs f y ⟨rfl, rfl, -⟩
    exact ⟨.mute _, y.server, rfl⟩

theorem ensures_mark (uid : String) (seen : Bool) : (mark srv uid seen).Ensures c fun xs _ y =>
    Errand (.mark uid seen) xs ∧ ∃ server, y = { c with server } := by
  refine .bind ensures_requireConnection ?_ ?_
  · rintro xs u y ⟨rfl, rfl, -⟩
    refine (ensures_discard (ensures_command _ none)).mono ?_
    rintro xs o z ⟨hz, answer, rfl⟩
    exact ⟨.mark uid seen answer, hz⟩
  · rintro xs f y ⟨rfl, rfl, -⟩
    exact ⟨.mute _, y.server, rfl⟩

theorem ensures_move (uid mailbox : String) : (move srv uid mailbox).Ensures c fun xs _ y =>
    Errand (.move uid mailbox) xs ∧ ∃ server, y = { c with server } := by
  refine .bind ensures_requireConnection ?_ ?_
  · rintro xs u y ⟨rfl, rfl, -⟩
    split
    · refine (ensures_discard (ensures_command (.move uid (quote mailbox)) none)).mono ?_
      rintro xs o z ⟨hz, answer, rfl⟩
      exact ⟨.move uid mailbox answer, hz⟩
    · refine .bind (ensures_command (.copy uid (quote mailbox)) none) ?_ ?_
      · rintro xs items z (⟨hr, server⟩ | ⟨_, _, server⟩)
        refine (ensures_discard (ensures_command _ none)).mono ?_
        rintro xs o z ⟨⟨server', rfl⟩, answer, rfl⟩
        exact ⟨.copied uid mailbox hr answer, server', rfl⟩
      · rintro xs f z (⟨_, server⟩ | ⟨_, _, server⟩)
        exact ⟨.uncopied uid mailbox _, server, rfl⟩
  · rintro xs f y ⟨rfl, rfl, -⟩
    exact ⟨.mute _, y.server, rfl⟩

theorem silent_passOn (fetched : Except Failure Bytes) (c : Client ρ) :
    (passOn fetched c).Silent fun c' => c' = c := by
  cases fetched with
  | error f => exact rfl
  | ok body => refine Streaming.silent_writeAll ?_ (fun _ => ?_) 0 _ <;> exact rfl

theorem readBody_eq (uid : String) : readBody srv uid c =
    .sayAll (runFrom (fetch srv uid) ⟨c, []⟩).2.remarks
      (passOn (runFrom (fetch srv uid) ⟨c, []⟩).1 (runFrom (fetch srv uid) ⟨c, []⟩).2.state) :=
  rfl

/-- Reading a body is fetching it; passing it on says nothing. -/
theorem ends_readBody {uid : String} {xs : List Exchange} {o : Except Failure Int} {y : Client ρ}
    (h : (readBody srv uid c).Ends xs o y) :
    Errand (.readBody uid) xs ∧ ∃ server, y = { c with server } := by
  have hfetch : (fetch srv uid).Ensures c fun xs _ y =>
      Errand (.readBody uid) xs ∧ ∃ server, y = { c with server } := ensures_fetch uid
  obtain ⟨fetched, after, rs, hr, hxs, hafter⟩ := hfetch []
  rw [readBody_eq, hr] at h
  obtain ⟨ys, rfl, hys⟩ := Streaming.ends_sayAll h
  obtain ⟨rfl, rfl⟩ := (silent_passOn fetched after).ends hys
  exact ⟨by simpa using hxs, hafter⟩

/-- A call about a message is an errand, and leaves the client connected as it was and on the same
mailbox. -/
theorem errand_of_does {cfg : Settings.Server} {call : Session.Call} {uid : String}
    (hcall : call.uid? = some uid) {a : Session.Answer} {xs : List Exchange} {c' : Client ρ}
    (h : (session cfg srv).Does call c a xs c') :
    Errand call xs ∧ ∃ server, c' = { c with server } := by
  cases call with
  | connect | close | list => cases hcall
  | readBody uid =>
    obtain ⟨o, he, -⟩ := h
    exact ends_readBody he
  | mark uid seen =>
    obtain ⟨o, -, he⟩ := (ensures_mark uid seen).of_carries h
    exact he
  | move uid mailbox =>
    obtain ⟨o, -, he⟩ := (ensures_move uid mailbox).of_carries h
    exact he

end Client

end Imap

end Mailroom
