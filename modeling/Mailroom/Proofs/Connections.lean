import Mailroom.Imap.Rehearsal
import Mailroom.Proofs.Conversation
import Mailroom.Proofs.Turns

/-!
# The discipline of connections

What a round over the mail-server client says to the server, as a grammar of exchanges
(`Imap.Talk`): attempts to connect that come to nothing, each of which drops the connection if it
opened one; then at most one connection that lasts, on which there is one selection, a search if
that is confirmed, messages if the search can be read, and in the end a closing exactly when the
selection was confirmed, and a logout. So every connection that is ever opened is ended exactly
once, and nothing is said on it afterwards (`Imap.follow`).

The server may answer every request with any status, or fail in any ordinary way. A cancelled login
would leave a connection open, so cancellations are excluded.
-/

namespace Mailroom

namespace Imap

/-- The server fails in ordinary ways only. -/
def Server.Ordinary {ρ : Type} (srv : Server ρ) : Prop :=
  ∀ r state f, (srv.answer r state).1 = .error f → f.isFault = true

/-- The request is a command about a message. -/
def Request.About (u : String) : Request → Prop
  | uid (.fetch v _) _ | uid (.store v _ _) _ | uid (.move v _) _ | uid (.copy v _) _ => v = u
  | uid (.search _) _ | construct .. | login .. | shutdown | select _ | close | unselect | logout =>
    False

/-! ### The grammar -/

/-- The request to open a connection. -/
def opening (cfg : Settings.Server) : Request :=
  .construct cfg.encrypted cfg.host cfg.port cfg.timeout

/-- The request to authenticate. -/
def authentication (cfg : Settings.Server) : Request := .login cfg.username cfg.password

/-- Attempts to connect that come to nothing. -/
inductive FailedAttempts (cfg : Settings.Server) : List Exchange → Prop where
  /-- There is none. -/
  | none : FailedAttempts cfg []
  /-- No connection is opened. -/
  | unopened (f : Failure) {xs : List Exchange} (h : FailedAttempts cfg xs) :
    FailedAttempts cfg (⟨opening cfg, .error f⟩ :: xs)
  /-- Authentication fails, and the connection is dropped. -/
  | dropped (reply : Reply) (f : Failure) (answer : Except Failure Reply) {xs : List Exchange}
    (h : FailedAttempts cfg xs) : FailedAttempts cfg
      (⟨opening cfg, .ok reply⟩ :: ⟨authentication cfg, .error f⟩ :: ⟨.shutdown, answer⟩ :: xs)

/-- What is said on a connection after authentication. -/
inductive Visit (d : Settings.Delivery) : List Exchange → Prop where
  /-- The mailbox cannot be selected, and is not closed. -/
  | unselected {answer : Except Failure Reply}
    (h : ¬Exchange.Confirmed ⟨.select (quote d.mailbox), answer⟩) (ended : Except Failure Reply) :
    Visit d [⟨.select (quote d.mailbox), answer⟩, ⟨.logout, ended⟩]
  /-- The search fails, or its reply cannot be read. -/
  | unlisted {reply : Reply} (h : reply.status = "OK") (criteria : List String)
    (literal : Option Bytes) (answer closed ended : Except Failure Reply) :
    Visit d [⟨.select (quote d.mailbox), .ok reply⟩, ⟨.uid (.search criteria) literal, answer⟩,
      ⟨.close, closed⟩, ⟨.logout, ended⟩]
  /-- The reply to the search can be read, and messages are processed. -/
  | listed {reply : Reply} (h : reply.status = "OK") {criteria : List String}
    {literal : Option Bytes} {answer : Except Failure Reply} {uids : List String}
    (hl : Exchange.Lists ⟨.uid (.search criteria) literal, answer⟩ uids) {xs : List Exchange}
    (hxs : ∀ x ∈ xs, ∃ uid ∈ uids, x.request.About uid) (closed ended : Except Failure Reply) :
    Visit d (⟨.select (quote d.mailbox), .ok reply⟩ :: ⟨.uid (.search criteria) literal, answer⟩ ::
      (xs ++ [⟨.close, closed⟩, ⟨.logout, ended⟩]))

/-- What is said in a round. -/
inductive Talk (cfg : Settings.Server) (d : Settings.Delivery) : List Exchange → Prop where
  /-- No attempt to connect succeeds. -/
  | unconnected {xs : List Exchange} (h : FailedAttempts cfg xs) : Talk cfg d xs
  /-- The last attempt succeeds, and its connection is used. -/
  | connected {xs ys : List Exchange} (h : FailedAttempts cfg xs) (reply reply' : Reply)
    (k : Visit d ys) :
    Talk cfg d (xs ++ ⟨opening cfg, .ok reply⟩ :: ⟨authentication cfg, .ok reply'⟩ :: ys)

/-! ### Following the connections -/

/-- Whether a connection is open after an exchange, if the exchange is allowed: opening one while
none is open, anything else while one is. -/
def Exchange.next (x : Exchange) : (isOpen : Bool) → Option Bool
  | false => match x.request with
    | .construct .. => some (Except.isOk x.answer)
    | _ => none
  | true => match x.request with
    | .construct .. => none
    | .shutdown | .logout => some false
    | .login .. | .select _ | .close | .unselect | .uid .. => some true

/-- Whether a connection is open after exchanges, if each is allowed. -/
def follow : Bool → List Exchange → Option Bool
  | isOpen, [] => some isOpen
  | isOpen, x :: xs => (x.next isOpen).bind fun isOpen => follow isOpen xs

theorem follow_append (isOpen : Bool) (xs ys : List Exchange) :
    follow isOpen (xs ++ ys) = (follow isOpen xs).bind fun isOpen => follow isOpen ys := by
  induction xs generalizing isOpen with
  | nil => rfl
  | cons x xs ih => simp only [List.cons_append, follow, ih, Option.bind_assoc]

theorem FailedAttempts.follow_eq {cfg : Settings.Server} {xs : List Exchange}
    (h : FailedAttempts cfg xs) : follow false xs = some false := by
  induction h with
  | none => rfl
  | unopened f _ ih => exact ih
  | dropped reply f answer _ ih => exact ih

theorem follow_messages {uids : List String} {xs : List Exchange}
    (h : ∀ x ∈ xs, ∃ uid ∈ uids, x.request.About uid) : follow true xs = some true := by
  induction xs with
  | nil => rfl
  | cons x xs ih =>
    have hx : x.next true = some true := by
      obtain ⟨uid, -, hx⟩ := h x List.mem_cons_self
      unfold Exchange.next
      cases hr : x.request <;> simp_all [Request.About]
    rw [follow, hx]
    exact ih fun y hy => h y (List.mem_cons_of_mem x hy)

theorem Visit.follow_eq {d : Settings.Delivery} {xs : List Exchange} (h : Visit d xs) :
    follow true xs = some false := by
  cases h with
  | unselected | unlisted => rfl
  | @listed _ _ criteria literal answer uids hl xs hxs closed ended =>
    change follow true (xs ++ [⟨.close, closed⟩, ⟨.logout, ended⟩]) = some false
    rw [follow_append, follow_messages hxs]
    rfl

/-- In a round every connection that is opened is ended once, and nothing is said on it after. -/
theorem Talk.follow_eq {cfg : Settings.Server} {d : Settings.Delivery} {xs : List Exchange}
    (h : Talk cfg d xs) : follow false xs = some false := by
  cases h with
  | unconnected h => exact h.follow_eq
  | connected h reply reply' k =>
    rw [follow_append, h.follow_eq]
    exact k.follow_eq

/-! ### Every round keeps to the grammar -/

namespace Client

variable {ρ : Type} {cfg : Settings.Server} {srv : Server ρ} {c c' : Client ρ} {as : List Act}
  {t : List Step}

/-- The client is disconnected, and no mailbox is selected. -/
def Idle (c : Client ρ) : Prop := c.connected = false ∧ c.selected = none

/-- An attempt to connect that fails adds to the attempts before it. -/
theorem attempts_of_failed (hsrv : srv.Ordinary) (hc : c.Idle) {f : Failure} {xs : List Exchange}
    (h : (session cfg srv).Does .connect c (.failed f) xs c') :
    c'.Idle ∧ ∀ ys, FailedAttempts cfg ys → FailedAttempts cfg (xs ++ ys) := by
  obtain ⟨g | u, ho, hconnecting⟩ := (ensures_connect cfg srv).of_carries h
  · cases hconnecting with
    | unopened g => exact ⟨hc, fun ys hys => .unopened g hys⟩
    | dropped reply g _ answer => exact ⟨hc, fun ys hys => .dropped reply g answer hys⟩
    | cut reply hf hs =>
      -- An ordinary server does not cancel a login, so the connection is always dropped.
      rw [hsrv _ _ _ hs] at hf
      cases hf
  · cases ho

theorem attempts_of_last (hsrv : srv.Ordinary) (hc : c.Idle) {f : Failure}
    (hp : Path (session cfg srv) c [.call .connect (.failed f)] t c') :
    c'.Idle ∧ FailedAttempts cfg (wires t) := by
  obtain ⟨v, hv, hw⟩ := hp.single_inv
  obtain ⟨hc', hadd⟩ := attempts_of_failed hsrv hc hv.does
  rw [hw]
  exact ⟨hc', by simpa using hadd [] .none⟩

/-- Connecting, by induction on the attempts. -/
theorem talk_of_attempts (hsrv : srv.Ordinary) (hc : c.Idle) {fragile : Bool} {left : Nat}
    {o : Except Failure Unit} (h : Round.Attempts fragile left as o)
    (hp : Path (session cfg srv) c as t c') :
    (∃ f, o = .error f ∧ c'.Idle ∧ FailedAttempts cfg (wires t)) ∨
      o = .ok () ∧ c'.connected = true ∧ c'.selected = none ∧ ∃ xs reply reply',
        FailedAttempts cfg xs ∧ wires t =
          xs ++ [⟨opening cfg, .ok reply⟩, ⟨authentication cfg, .ok reply'⟩] := by
  induction h generalizing c t with
  | connected =>
    obtain ⟨v, hv, hw⟩ := hp.single_inv
    obtain ⟨f | u, ho, hconnecting⟩ := (ensures_connect cfg srv).of_carries hv.does
    · cases ho
    · rw [hw]
      generalize wires v = xs at hconnecting
      cases hconnecting with
      | connected reply reply' => exact .inr ⟨rfl, rfl, rfl, [], reply, reply', .none, rfl⟩
  | exhausted | cutAttempt | cutWait => exact .inl ⟨_, rfl, attempts_of_last hsrv hc hp⟩
  | again _ _ ih =>
    obtain ⟨v, w, y, hv, hpath, hw⟩ := hp.cons_inv
    obtain ⟨hy, hadd⟩ := attempts_of_failed hsrv hc hv.does
    rw [hw]
    rcases ih hy hpath with ⟨f, ho, hc', hw'⟩ | ⟨ho, hc', hs, xs, reply, reply', hxs, hw'⟩
    · exact .inl ⟨f, ho, hc', hadd _ hw'⟩
    · refine .inr ⟨ho, hc', hs, _, reply, reply', hadd _ hxs, ?_⟩
      rw [hw', List.append_assoc]

theorem Errand.about {call : Session.Call} {uid : String} {xs : List Exchange}
    (h : Errand call xs) (hcall : call.uid? = some uid) : ∀ x ∈ xs, x.request.About uid := by
  cases h with
  | mute => simp
  | fetch | mark | move | uncopied =>
    cases hcall
    simp [Request.About]
  | copied =>
    cases hcall
    rw [List.forall_mem_cons, List.forall_mem_singleton]
    exact ⟨rfl, rfl⟩

/-- Acts about candidates say something about these only, by induction on the path. -/
theorem about_of_path {uids : List String} (hp : Path (session cfg srv) c as t c')
    (has : ∀ a ∈ as, a.Within uids) :
    (∃ server, c' = { c with server }) ∧ ∀ x ∈ wires t, ∃ uid ∈ uids, x.request.About uid := by
  induction hp with
  | stay c => exact ⟨⟨c.server, rfl⟩, by simp⟩
  | @aside _ _ _ t step hstep _ ih =>
    rw [wires_cons, wires_eq_nil_of_aside (t := [step]) (by simpa using hstep)]
    exact ih has
  | @act c _ _ a _ t u hp _ ih =>
    rw [List.forall_mem_cons] at has
    obtain ⟨⟨server, rfl⟩, hu⟩ := ih has.2
    rw [wires_append, List.forall_mem_append]
    cases a with
    | call call a =>
      obtain ⟨uid, huid, hcall⟩ := has.1
      obtain ⟨herrand, server', rfl⟩ := errand_of_does hcall hp.does
      exact ⟨⟨server, rfl⟩, fun x hx => ⟨uid, huid, herrand.about hcall x hx⟩, hu⟩
    | finish =>
      obtain ⟨ht, rfl⟩ := hp.of_finish
      exact ⟨⟨server, rfl⟩, by simp [ht], hu⟩
    | deliver =>
      obtain ⟨ht, rfl⟩ := hp.of_deliver
      exact ⟨⟨server, rfl⟩, by simp [ht], hu⟩

/-- Closing a connected client says goodbye, and closes the mailbox if there is one. -/
theorem closing_of_path {a : Session.Answer}
    (hp : Path (session cfg srv) c [.call (.close true) a] t c') (hc : c.connected = true) :
    c'.Idle ∧ ∃ ended, (c.selected = none ∧ wires t = [⟨.logout, ended⟩]) ∨
      (c.selected ≠ none ∧ ∃ closed, wires t = [⟨.close, closed⟩, ⟨.logout, ended⟩]) := by
  obtain ⟨v, hv, hw⟩ := hp.single_inv
  obtain ⟨o, -, hclosing⟩ := (ensures_close true).of_carries hv.does
  rw [hw]
  generalize wires v = xs at hclosing
  cases hclosing with
  | unconnected h =>
    rw [hc] at h
    cases h
  | unselected _ hs ended => exact ⟨⟨rfl, rfl⟩, ended, .inl ⟨hs, rfl⟩⟩
  | selected _ hs closed ended => exact ⟨⟨rfl, rfl⟩, ended, .inr ⟨hs, closed, rfl⟩⟩

/-- Selecting on a new connection asks the server. -/
theorem selecting_new {mailbox : String} {xs : List Exchange} {o : Except Failure Unit}
    (hc : c.connected = true) (hs : c.selected = none) (h : Selecting mailbox c xs o c') :
    c'.connected = true ∧
      ((∃ f, o = .error f ∧ c'.selected = none ∧ ∃ answer,
        ¬Exchange.Confirmed ⟨.select (quote mailbox), answer⟩ ∧
          xs = [⟨.select (quote mailbox), answer⟩]) ∨
        o = .ok () ∧ c'.selected = some mailbox ∧ ∃ reply, reply.status = "OK" ∧
          xs = [⟨.select (quote mailbox), .ok reply⟩]) := by
  cases h with
  | unconnected h =>
    rw [hc] at h
    cases h
  | already _ hsel =>
    rw [hs] at hsel
    cases hsel
  | refused _ ha f => exact ⟨hc, .inl ⟨f, rfl, hs, _, ha, rfl⟩⟩
  | selected _ hr => exact ⟨hc, .inr ⟨rfl, rfl, _, hr, rfl⟩⟩

/-- A listing that fails is followed by closing. -/
theorem visit_of_unlisted {d : Settings.Delivery} (hc : c.connected = true) (hs : c.selected = none)
    {f : Failure} {a : Session.Answer}
    (hp : Path (session cfg srv) c [.call (Round.listing d) (.failed f), .call (.close true) a] t
      c') :
    c'.Idle ∧ Imap.Visit d (wires t) := by
  obtain ⟨v, w, y, hv, hpath, hw⟩ := hp.cons_inv
  obtain ⟨o, ho, hlisting⟩ := (ensures_list _ _ _).of_carries hv.does
  rw [hw]
  generalize wires v = xs at hlisting
  cases hlisting with
  | unselected h =>
    obtain ⟨hy, ⟨_, -, hsel, answer, ha, rfl⟩ | ⟨⟨⟩, -⟩⟩ := selecting_new hc hs h
    obtain ⟨hidle, ended, ⟨-, hwires⟩ | ⟨hsel', -⟩⟩ := closing_of_path hpath hy
    · rw [hwires]
      exact ⟨hidle, .unselected ha ended⟩
    · exact absurd hsel hsel'
  | unlisted h criteria literal answer =>
    obtain ⟨hy, ⟨_, ⟨⟩, -⟩ | ⟨-, hsel, reply, hr, rfl⟩⟩ := selecting_new hc hs h
    obtain ⟨hidle, ended, ⟨hsel', -⟩ | ⟨-, closed, hwires⟩⟩ := closing_of_path hpath hy
    · rw [hsel] at hsel'
      cases hsel'
    · rw [hwires]
      exact ⟨hidle, .unlisted hr criteria literal answer closed ended⟩
  | listed => cases ho

/-- What is said on a new connection, and that it ends. -/
theorem visit_of_path {κ : Type} {r : Round (Client ρ) κ} (hc : c.connected = true)
    (hs : c.selected = none) {o : Except Failure RoundResult} {a : Session.Answer}
    (h : Round.Visit r as o)
    (hp : Path (session cfg srv) c (as ++ [.call (.close true) a]) t c') :
    c'.Idle ∧ Imap.Visit r.settings (wires t) := by
  cases h with
  | unlisted | cutListing => exact visit_of_unlisted hc hs hp
  | @listed uids bs _ hblocks =>
    obtain ⟨v, w, y, hv, hpath, hw⟩ := hp.cons_inv
    obtain ⟨z, t₁, t₂, hp₁, hp₂, rfl⟩ := hpath.append_inv
    obtain ⟨o, ho, hlisting⟩ := (ensures_list _ _ _).of_carries hv.does
    obtain ⟨⟨server, rfl⟩, habout⟩ := about_of_path hp₁ (hblocks.within fun _ hu => hu)
    rw [hw, wires_append]
    generalize wires v = xs at hlisting
    cases hlisting with
    | unselected | unlisted => cases ho
    | listed h criteria literal hl =>
      cases ho
      obtain ⟨hy, ⟨_, ⟨⟩, -⟩ | ⟨-, hsel, reply, hr, rfl⟩⟩ := selecting_new hc hs h
      obtain ⟨hidle, ended, ⟨hsel', -⟩ | ⟨-, closed, hwires⟩⟩ := closing_of_path hp₂ hy
      · dsimp only at hsel'
        rw [hsel] at hsel'
        cases hsel'
      · rw [hwires]
        exact ⟨hidle, .listed hr hl habout closed ended⟩

variable {κ η : Type} {r : Round (Client ρ) κ} {rs : List (Round (Client ρ) κ)}

theorem talk_of_closed (hsrv : srv.Ordinary) (hc : c.Idle) {fragile : Bool} {left : Nat}
    {bs : List Act} {o : Except Failure RoundResult} {a : Session.Answer}
    (h : Round.Attempts fragile left as (.ok ())) (k : Round.Visit r bs o)
    (hp : Path (session cfg srv) c (as ++ (bs ++ [.call (.close true) a])) t c') :
    c'.Idle ∧ Talk cfg r.settings (wires t) := by
  obtain ⟨y, t₁, t₂, hp₁, hp₂, rfl⟩ := hp.append_inv
  obtain ⟨_, ⟨⟩, -⟩ | ⟨-, hy, hs, xs, reply, reply', hxs, hw⟩ := talk_of_attempts hsrv hc h hp₁
  obtain ⟨hidle, hvisit⟩ := visit_of_path hy hs k hp₂
  rw [wires_append, hw, List.append_assoc]
  exact ⟨hidle, .connected hxs reply reply' hvisit⟩

/-- What a round says, and that it leaves the client disconnected. -/
theorem talk_of_protocol (hsrv : srv.Ordinary) (hc : c.Idle) {fragile : Bool}
    {o : Except Failure RoundResult} (h : Round.Protocol r fragile as o)
    (hp : Path (session cfg srv) c as t c') : c'.Idle ∧ Talk cfg r.settings (wires t) := by
  cases h with
  | unconnected _ h | cutConnecting _ h =>
    obtain ⟨_, -, hidle, hxs⟩ | ⟨⟨⟩, -⟩ := talk_of_attempts hsrv hc h hp
    exact ⟨hidle, .unconnected hxs⟩
  | closed h k _ | cutClosing h k _ => exact talk_of_closed hsrv hc h k hp

theorem talk_of_run (hsrv : srv.Ordinary) (hr : r.session = session cfg srv)
    {b : Bench (Client ρ) κ η} (hb : b.session.Idle) : ∃ t,
      (runFrom (r.run : Work (Client ρ) κ η RoundResult) b).2.steps = b.steps ++ t ∧
        Talk cfg r.settings (wires t) ∧
        (runFrom (r.run : Work (Client ρ) κ η RoundResult) b).2.session.Idle := by
  obtain ⟨as, t, ht, hpath, hprotocol⟩ := r.run_path b
  rw [hr] at hpath
  obtain ⟨hidle, htalk⟩ := talk_of_protocol hsrv hb hprotocol hpath
  exact ⟨t, ht, htalk, hidle⟩

theorem follow_flatten {ts : List (List Step)}
    (h : List.Forall₂ (fun r t => Talk cfg r.settings (wires t)) rs ts) :
    follow false (wires ts.flatten) = some false := by
  induction h with
  | nil => rfl
  | cons ht _ ih =>
    rw [List.flatten_cons, wires_append, follow_append, ht.follow_eq]
    exact ih

/-- **The discipline of connections**: in any number of rounds over a client that is disconnected at
first, with a server that fails in ordinary ways only, each round says what the grammar allows. So
in the whole run a connection is opened only while none is open, every connection that is opened is
ended exactly once, and nothing is said on it afterwards. After each round the client is
disconnected and has no mailbox selected. -/
theorem inTurn_disciplined (hsrv : srv.Ordinary) (hrs : ∀ r ∈ rs, r.session = session cfg srv)
    {b : Bench (Client ρ) κ η} (hb : b.session.Idle) :
    ∃ ts, (runFrom (Round.inTurn rs) b).2.steps = b.steps ++ ts.flatten ∧
      List.Forall₂ (fun r t => Talk cfg r.settings (wires t)) rs ts ∧
      follow false (wires ts.flatten) = some false ∧
      ∀ n, (runFrom (Round.inTurn (rs.take n)) b).2.session.Idle := by
  have hround (r : Round (Client ρ) κ) (hr : r ∈ rs) (b : Bench (Client ρ) κ η)
      (hb : b.session.Idle) := talk_of_run hsrv (hrs r hr) hb
  obtain ⟨ts, hts, htalk, -⟩ := Round.inTurn_records hround hb
  refine ⟨ts, hts, htalk, follow_flatten htalk, fun n => ?_⟩
  refine Round.inTurn_keeps (I := fun b : Bench (Client ρ) κ η => b.session.Idle)
    (fun r hr b hb => ?_) hb
  obtain ⟨-, -, -, hidle⟩ := hround r (List.mem_of_mem_take hr) b hb
  exact hidle

/-- A round that connects in its second attempt, and a round after it, on a server that refuses the
first login. -/
theorem inTurn_disciplined_refused :
    let cfg : Settings.Server := ⟨"mail", 993, true, "user", "word", none⟩
    let srv : Server Bool := ⟨["MOVE"], fun r refused => match r, refused with
      | .login .., false => (.error (.plain .protocol "busy"), true)
      | r, refused => (.ok r.usualReply, refused)⟩
    let r : Round (Client Bool) Unit := ⟨session cfg srv, fun _ _ k => .done (.ok ()) k,
      ⟨"INBOX", "", "", "", 1, 10, 0, .sha256⟩, none, some ⟨2, 0, 0, 0⟩, .usual⟩
    ∃ ts : List (List Step),
      (runFrom (Round.inTurn [r, r]) (Bench.start (fresh false) () ())).2.steps = ts.flatten ∧
        ts.length = 2 ∧ follow false (wires ts.flatten) = some false := by
  intro cfg srv r
  have hsrv : srv.Ordinary := by
    intro request refused f h
    dsimp only [srv] at h
    split at h <;> cases h
    rfl
  have hrs : ∀ r' ∈ [r, r], r'.session = session cfg srv := by simp [r]
  have hb : (Bench.start (fresh false) () () : Bench (Client Bool) Unit Unit).session.Idle :=
    ⟨rfl, rfl⟩
  obtain ⟨ts, hts, htalk, hfollow, -⟩ := inTurn_disciplined hsrv hrs hb
  exact ⟨ts, hts, htalk.length_eq.symm, hfollow⟩

end Client

end Imap

end Mailroom
