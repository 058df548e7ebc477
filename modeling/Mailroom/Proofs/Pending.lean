import Mailroom.Imap.Rehearsal
import Mailroom.Proofs.Filling
import Mailroom.Proofs.Searching
import Mailroom.Proofs.Selection

/-!
# Literals that are pending

A literal is not an argument of the request that goes with it. It is left on the connection, where
the next command about messages takes it along. `Imap.Channel` is a client together with what is
pending on its connection; its operations are those of the client, but a listing leaves the literal
on the connection, and a command takes what is there, whoever left it. When nothing is pending at
first, every operation does what the client's does, and nothing is pending at its end
(`Imap.Channel.WorksAs.useAll`): the literal that the client's own request names is the one that was
pending.

So each listing is one search, which says exactly what was asked for, and no other command ever
takes a literal (`Imap.Channel.useAll_says`).
-/

namespace Mailroom

/-! ### Readings in another state -/

/-- A reading whose session's state is seen through `f`. -/
def Streaming.map {σ τ : Type} (f : σ → τ) : Streaming σ → Streaming τ
  | .done outcome state => .done outcome (f state)
  | .say r next => .say r (next.map f)
  | .write data next => .write data fun r => (next r).map f
  | .finish next => .finish fun r => (next r).map f
  | .release next => .release (next.map f)

namespace Streaming

variable {σ τ : Type} {f : σ → τ}

theorem map_sayAll (rs : List Remark) (st : Streaming σ) :
    (sayAll rs st).map f = sayAll rs (st.map f) := by
  induction rs with
  | nil => rfl
  | cons r rs ih => exact congrArg (say r) ih

/-- What a reading leaves in a message does not depend on how its state is seen, by induction on
the reading. -/
theorem fill_map (subject : Option Subject) (st : Streaming σ) (m : Staged) :
    (st.map f).fill subject m = ⟨(st.fill subject m).outcome, (st.fill subject m).message,
      f (st.fill subject m).state, (st.fill subject m).record⟩ := by
  induction st generalizing m with
  | done => rfl
  | say r next ih => rw [map, fill, fill, ih]; rfl
  | write data next ih =>
    rw [map, fill, fill]
    rcases m.write data with ⟨e | n, m'⟩ <;> exact ih _ m'
  | finish next ih =>
    rw [map, fill, fill]
    rcases m.finish with ⟨e | u, m'⟩ <;> exact ih _ m'
  | release next ih => rw [map, fill, fill, ih]; rfl

end Streaming

namespace Imap

/-- A client, and the literal that is pending on its connection. -/
structure Channel (ρ : Type) where
  /-- The client. -/
  client : Client ρ
  /-- What is pending. -/
  pending : Option Bytes

namespace Channel

variable {ρ α β : Type}

/-! ### The operations -/

/-- An operation of the client, which does nothing to what is pending. -/
def onClient (op : Session.Op (Client ρ) α) : Session.Op (Channel ρ) α := do
  let before ← get
  let (outcome, after) := runFrom op ⟨before.state.client, before.remarks⟩
  set (⟨{ before.state with client := after.state }, after.remarks⟩ : Session.Frame (Channel ρ))
  match outcome with
  | .ok a => pure a
  | .error f => throw f

/-- Leave a literal on the connection, if there is one. -/
def leave (literal : Option Bytes) : Session.Op (Channel ρ) Unit :=
  if literal.isSome then Session.Op.change fun x => { x with pending := literal } else pure ()

/-- Give a command about messages, which takes what is pending. -/
def command (srv : Server ρ) (c : Command) : Session.Op (Channel ρ) (List Item) := do
  let literal := (← Session.Op.look).pending
  Session.Op.change fun x => { x with pending := none }
  onClient (Client.command srv c literal)

/-- Connect. On a new connection nothing is pending. -/
def connect (cfg : Settings.Server) (srv : Server ρ) : Session.Op (Channel ρ) Unit := do
  onClient (Client.connect cfg srv)
  Session.Op.change fun x => { x with pending := none }

/-- List the candidates. -/
def list (srv : Server ρ) (mailbox pattern : String) (includeSeen : Bool) :
    Session.Op (Channel ρ) (List String) := do
  onClient (Client.select srv mailbox)
  let (wanted, literal) := Client.criteria pattern includeSeen
  leave literal
  let items ← command srv (.search wanted)
  match Client.candidatesIn items with
  | .error f => throw f
  | .ok none => pure []
  | .ok (some uids) =>
    Session.Op.log (.searched mailbox wanted uids.length)
    pure uids

/-- Get the body of a candidate. -/
def fetch (srv : Server ρ) (uid : String) : Session.Op (Channel ρ) Bytes := do
  onClient Client.requireConnection
  let items ← command srv (.fetch uid "(BODY.PEEK[])")
  match Client.bodyOf items with
  | .error f => throw f
  | .ok none => throw (.plain .session s!"message {uid} not found")
  | .ok (some body) => pure body

/-- Read the body of a candidate into a message. -/
def readBody (srv : Server ρ) (uid : String) (x : Channel ρ) : Streaming (Channel ρ) :=
  let (fetched, after) := runFrom (fetch srv uid) ⟨x, []⟩
  .sayAll after.remarks
    ((Client.passOn fetched after.state.client).map fun c => { after.state with client := c })

/-- Set or clear the seen flag. -/
def mark (srv : Server ρ) (uid : String) (seen : Bool) : Session.Op (Channel ρ) Unit := do
  onClient Client.requireConnection
  let _ ← command srv (.store uid (if seen then "+FLAGS" else "-FLAGS") "(\\Seen)")

/-- Move a candidate. -/
def move (srv : Server ρ) (uid mailbox : String) : Session.Op (Channel ρ) Unit := do
  onClient Client.requireConnection
  if srv.capabilities.contains "MOVE" then
    let _ ← command srv (.move uid (quote mailbox))
  else
    let _ ← command srv (.copy uid (quote mailbox))
    let _ ← command srv (.store uid "+FLAGS.SILENT" "(\\Deleted)")

/-- The channel as a session. -/
def session (cfg : Settings.Server) (srv : Server ρ) : Session (Channel ρ) where
  title := Client.title cfg
  connect := connect cfg srv
  close := fun expunge => onClient (Client.close srv expunge)
  list := list srv
  readBody := readBody srv
  mark := mark srv
  move := move srv

/-! ### Nothing stays pending -/

/-- A client on whose connection nothing is pending. -/
def idle (c : Client ρ) : Channel ρ := ⟨c, none⟩

/-- When nothing is pending, an operation of the channel is one of the client, and nothing is
pending at its end. -/
def Matches (op : Session.Op (Channel ρ) α) (op' : Session.Op (Client ρ) α) : Prop :=
  ∀ c rs, runFrom op ⟨idle c, rs⟩ =
    ((runFrom op' ⟨c, rs⟩).1,
      ⟨idle (runFrom op' ⟨c, rs⟩).2.state, (runFrom op' ⟨c, rs⟩).2.remarks⟩)

theorem runFrom_onClient (op : Session.Op (Client ρ) α) (fr : Session.Frame (Channel ρ)) :
    runFrom (onClient op) fr = ((runFrom op ⟨fr.state.client, fr.remarks⟩).1,
      ⟨{ fr.state with client := (runFrom op ⟨fr.state.client, fr.remarks⟩).2.state },
        (runFrom op ⟨fr.state.client, fr.remarks⟩).2.remarks⟩) := by
  rw [onClient, runFrom_bind_ok (runFrom_get _)]
  rcases runFrom op ⟨fr.state.client, fr.remarks⟩ with ⟨f | a, after⟩ <;> rfl

namespace Matches

theorem onClient (op : Session.Op (Client ρ) α) : Matches (onClient op) op := fun c rs => by
  rw [runFrom_onClient]
  rfl

theorem pure (a : α) : Matches (pure a : Session.Op (Channel ρ) α) (pure a) := fun _ _ => rfl

theorem throw (f : Failure) : Matches (throw f : Session.Op (Channel ρ) α) (throw f) :=
  fun _ _ => rfl

theorem log (e : Event) : Matches (Session.Op.log e : Session.Op (Channel ρ) Unit)
    (Session.Op.log e) := fun _ _ => rfl

theorem bind {op : Session.Op (Channel ρ) α} {op' : Session.Op (Client ρ) α}
    {k : α → Session.Op (Channel ρ) β} {k' : α → Session.Op (Client ρ) β} (h : Matches op op')
    (hk : ∀ a, Matches (k a) (k' a)) : Matches (op >>= k) (op' >>= k') := by
  intro c rs
  rw [runFrom_bind, runFrom_bind, h c rs]
  rcases runFrom op' ⟨c, rs⟩ with ⟨f | a, ⟨c', rs'⟩⟩
  · rfl
  · exact hk a c' rs'

/-- A command takes the literal that was left for it. -/
theorem command (srv : Server ρ) (c : Command) (literal : Option Bytes) :
    Matches (do leave literal; command srv c) (Client.command srv c literal) := by
  intro x rs
  have hleave : runFrom (leave literal) ⟨idle x, rs⟩ = (.ok (), ⟨⟨x, literal⟩, rs⟩) := by
    cases literal <;> rfl
  rw [runFrom_bind_ok hleave]
  exact Matches.onClient (Client.command srv c literal) x rs

/-- A command for which nothing was left goes without a literal. -/
theorem bare (srv : Server ρ) (c : Command) :
    Matches (Channel.command srv c) (Client.command srv c none) := command srv c none

end Matches

variable {cfg : Settings.Server} {srv : Server ρ}

theorem matches_connect : Matches (connect cfg srv) (Client.connect cfg srv) := by
  intro c rs
  rw [connect, runFrom_bind, Matches.onClient _ c rs]
  rcases runFrom (Client.connect cfg srv) ⟨c, rs⟩ with ⟨f | u, after⟩ <;> rfl

theorem matches_list (mailbox pattern : String) (includeSeen : Bool) :
    Matches (list srv mailbox pattern includeSeen)
      (Client.list srv mailbox pattern includeSeen) := by
  refine (Matches.onClient _).bind fun _ => ?_
  rcases Client.criteria pattern includeSeen with ⟨wanted, literal⟩
  dsimp only
  rw [← bind_assoc]
  refine (Matches.command srv _ literal).bind fun items => ?_
  rcases Client.candidatesIn items with f | _ | uids
  · exact .throw f
  · exact .pure []
  · exact (Matches.log _).bind fun _ => .pure uids

theorem matches_fetch (uid : String) : Matches (fetch srv uid) (Client.fetch srv uid) := by
  refine (Matches.onClient _).bind fun _ => (Matches.bare srv _).bind fun items => ?_
  rcases Client.bodyOf items with f | _ | body
  · exact .throw f
  · exact .throw _
  · exact .pure body

theorem matches_mark (uid : String) (seen : Bool) :
    Matches (mark srv uid seen) (Client.mark srv uid seen) :=
  (Matches.onClient _).bind fun _ => (Matches.bare srv _).bind fun _ => .pure _

theorem matches_move (uid mailbox : String) :
    Matches (move srv uid mailbox) (Client.move srv uid mailbox) := by
  refine (Matches.onClient _).bind fun _ => ?_
  split
  · exact (Matches.bare srv _).bind fun _ => .pure _
  · exact (Matches.bare srv _).bind fun _ => (Matches.bare srv _).bind fun _ => .pure _

/-- Reading a body is the client's, with nothing pending at its end. -/
theorem readBody_idle (uid : String) (c : Client ρ) :
    readBody srv uid (idle c) = (Client.readBody srv uid c).map idle := by
  rw [readBody, matches_fetch uid c [], Client.readBody_eq, Streaming.map_sayAll]
  rfl

/-! ### Calls in any order -/

variable {κ η : Type}

/-- A bench with a client, with a channel in its place on which nothing is pending. -/
def onIdle (b : Bench (Client ρ) κ η) : Bench (Channel ρ) κ η :=
  { b with session := idle b.session }

/-- When nothing is pending, work on a channel is work on its client, and nothing is pending at its
end. -/
def WorksAs (x : Work (Channel ρ) κ η α) (x' : Work (Client ρ) κ η α) : Prop :=
  ∀ b, runFrom x (onIdle b) = ((runFrom x' b).1, onIdle (runFrom x' b).2)

namespace WorksAs

theorem pure (a : α) : WorksAs (pure a : Work (Channel ρ) κ η α) (pure a) := fun _ => rfl

theorem bind {x : Work (Channel ρ) κ η α} {x' : Work (Client ρ) κ η α}
    {k : α → Work (Channel ρ) κ η β} {k' : α → Work (Client ρ) κ η β} (h : WorksAs x x')
    (hk : ∀ a, WorksAs (k a) (k' a)) : WorksAs (x >>= k) (x' >>= k') := by
  intro b
  rw [runFrom_bind, runFrom_bind, h b]
  rcases runFrom x' b with ⟨f | a, b'⟩
  · rfl
  · exact hk a b'

theorem settle {x : Work (Channel ρ) κ η α} {x' : Work (Client ρ) κ η α} (h : WorksAs x x') :
    WorksAs (settle x) (settle x') := fun b => by
  rw [runFrom_settle, runFrom_settle, h b]

theorem call {op : Session.Op (Channel ρ) α} {op' : Session.Op (Client ρ) α} (h : Matches op op')
    (call : Session.Call) (shown : α → Session.Answer) :
    WorksAs (Work.call call shown op : Work (Channel ρ) κ η α) (Work.call call shown op') := by
  intro b
  rw [Work.runFrom_call, Work.runFrom_call, show (onIdle b).session = idle b.session from rfl,
    h b.session []]
  rfl

theorem read (uid : String) (m : Staged) :
    WorksAs (Work.read (session cfg srv) uid m : Work (Channel ρ) κ η _)
      (Work.read (Client.session cfg srv) uid m) := by
  intro b
  have hread : (session cfg srv).readBody uid (onIdle b).session =
      ((Client.session cfg srv).readBody uid b.session).map idle := readBody_idle uid b.session
  have hfill := Streaming.fill_map (f := idle) b.about
    ((Client.session cfg srv).readBody uid b.session) m
  rw [← hread] at hfill
  rw [Work.runFrom_read (session cfg srv) uid m (onIdle b) hfill,
    Work.runFrom_read (Client.session cfg srv) uid m b rfl]
  rfl

/-- Each call. -/
theorem use (m : Staged) (c : Session.Call) :
    WorksAs ((session cfg srv).use m c : Work (Channel ρ) κ η Unit)
      ((Client.session cfg srv).use m c) := by
  cases c with
  | connect => exact (call matches_connect _ _).settle.bind fun _ => .pure _
  | close expunge =>
    exact (call (Matches.onClient (Client.close srv expunge)) _ _).settle.bind fun _ => .pure _
  | list mailbox pattern includeSeen =>
    exact (call (matches_list mailbox pattern includeSeen) _ _).settle.bind fun _ => .pure _
  | readBody uid => exact (read uid m).bind fun _ => .pure _
  | mark uid seen => exact (call (matches_mark uid seen) _ _).settle.bind fun _ => .pure _
  | move uid mailbox => exact (call (matches_move uid mailbox) _ _).settle.bind fun _ => .pure _

/-- **Nothing stays pending**: calls in any order on a channel on which nothing is pending do what
they do on the client, and at their end nothing is pending. -/
theorem useAll (uses : List (Staged × Session.Call)) :
    WorksAs ((session cfg srv).useAll uses : Work (Channel ρ) κ η Unit)
      ((Client.session cfg srv).useAll uses) := by
  induction uses with
  | nil => exact .pure ()
  | cons u uses ih => exact (use u.1 u.2).bind fun _ => ih

end WorksAs

end Channel

end Imap

/-! ### What each call says -/

/-- The records that calls in any order leave, one for each: what is so of every call is so of
these. -/
theorem Session.useAll_records {σ κ η : Type} (s : Session σ)
    {P : Session.Call → Session.Answer → List Imap.Exchange → Prop}
    (step : ∀ c x a xs y, s.Does c x a xs y → P c a xs) (uses : List (Staged × Session.Call))
    (b : Bench σ κ η) :
    ∃ ts, (runFrom (s.useAll uses) b).2.steps = b.steps ++ ts.flatten ∧
      List.Forall₂ (fun use t => ∃ a, talk t = [.call use.2, .answer a] ∧ P use.2 a (wires t))
        uses ts := by
  induction uses generalizing b with
  | nil => exact ⟨[], (List.append_nil _).symm, .nil⟩
  | cons u uses ih =>
    obtain ⟨as, hl, ho, a, rfl⟩ := s.follows_use b.fragile u.1 u.2 b rfl
    obtain ⟨t, ht, hpath⟩ := hl.path
    obtain ⟨v, hv, hw⟩ := hpath.single_inv
    obtain ⟨ts, hts, hall⟩ := ih (runFrom (s.use u.1 u.2 : Work σ κ η Unit) b).2
    refine ⟨t :: ts, ?_, .cons ⟨a, hpath.talk_eq, hw ▸ step _ _ _ _ _ hv.does⟩ hall⟩
    rw [Session.useAll, runFrom_bind_ok (Prod.ext ho rfl), hts, ht, List.flatten_cons,
      List.append_assoc]

namespace Imap

/-- The line and the literal of a search. -/
def Request.search? : Request → Option (List Char × Option Bytes)
  | uid (.search criteria) literal => some ((Command.search criteria).line, literal)
  | _ => none

/-- The searches among exchanges. -/
def searches (xs : List Exchange) : List (List Char × Option Bytes) :=
  xs.filterMap fun x => x.request.search?

/-- The literal that goes with a request. -/
def Request.literal? : Request → Option Bytes
  | uid _ literal => literal
  | _ => none

/-- What a call says: a listing makes one search, unless it fails before that, which reads back as
what was asked for and names the text as it should, with a literal where the text is not ASCII. No
other call searches, and only a search goes with a literal. -/
def Says (call : Session.Call) (a : Session.Answer) (xs : List Exchange) : Prop :=
  (match call with
    | .list _ pattern includeSeen => (searches xs = [] ∧ ∃ f, a = .failed f) ∨
      ∃ line literal, searches xs = [(line, literal)] ∧
        readSearch line literal = some ⟨includeSeen, .naming pattern⟩ ∧
        (SubjectKey.naming pattern).text = pattern ∧
        (literal.isSome = true ↔ Text.isAscii pattern = false)
    | .connect | .close _ | .readBody _ | .mark .. | .move .. => searches xs = []) ∧
  ∀ x ∈ xs, x.request.literal? ≠ none → x.request.search? ≠ none

namespace Client

variable {ρ : Type} {cfg : Settings.Server} {srv : Server ρ} {c c' : Client ρ} {xs : List Exchange}

theorem says_of_does {call : Session.Call} {a : Session.Answer}
    (h : (session cfg srv).Does call c a xs c') : Says call a xs := by
  cases call with
  | connect =>
    obtain ⟨o, -, hc⟩ := (ensures_connect cfg srv).of_carries h
    cases hc <;> simp [Says, searches, Request.search?, Request.literal?]
  | close expunge =>
    obtain ⟨o, -, hc⟩ := (ensures_close expunge).of_carries h
    cases expunge <;> cases hc <;>
      simp [Says, searches, Request.search?, Request.literal?, leaving]
  | list mailbox pattern includeSeen =>
    obtain ⟨o, rfl, ys, zs, rfl, hys, hzs⟩ :=
      (ensures_list_searches mailbox pattern includeSeen).of_carries h
    have hsearches : searches ys = [] :=
      List.filterMap_eq_nil_iff.mpr fun y hy => by rw [hys y hy]; rfl
    have hliterals : ∀ x ∈ ys, x.request.literal? ≠ none → x.request.search? ≠ none :=
      fun y hy => by rw [hys y hy]; exact fun h => absurd rfl h
    rcases hzs with ⟨rfl, f, rfl⟩ | ⟨answer, rfl⟩
    · rw [List.append_nil]
      exact ⟨.inl ⟨hsearches, f, rfl⟩, hliterals⟩
    · obtain ⟨hread, hliteral⟩ := readSearch_criteria pattern includeSeen
      refine ⟨.inr ⟨_, _, ?_, hread, SubjectKey.text_naming pattern, hliteral⟩, ?_⟩
      · rw [searches, List.filterMap_append]
        exact congrArg (· ++ _) hsearches
      · rw [List.forall_mem_append, List.forall_mem_singleton]
        exact ⟨hliterals, fun _ => Option.some_ne_none _⟩
  | readBody uid | mark uid seen | move uid box =>
    cases (errand_of_does rfl h).1 <;> simp [Says, searches, Request.search?, Request.literal?]

end Client

namespace Channel

variable {ρ κ η : Type}

/-- **What searches say**: for every server and every row of calls on a channel on which nothing is
pending, each listing says exactly what was asked for, from an argument or from the literal that it
left on the connection. No other command takes a literal, nothing is pending at the end, and the
record is the one that the client itself leaves. -/
theorem useAll_says (cfg : Settings.Server) (srv : Server ρ) (uses : List (Staged × Session.Call))
    {b : Bench (Channel ρ) κ η} (hb : b.session.pending = none) :
    (∃ ts, (runFrom ((session cfg srv).useAll uses) b).2.steps = b.steps ++ ts.flatten ∧
      List.Forall₂ (fun use t => ∃ a, talk t = [.call use.2, .answer a] ∧ Says use.2 a (wires t))
        uses ts) ∧
    (runFrom ((session cfg srv).useAll uses) b).2.session.pending = none ∧
    (runFrom ((session cfg srv).useAll uses) b).2.steps =
      (runFrom ((Client.session cfg srv).useAll uses)
        ({ b with session := b.session.client } : Bench (Client ρ) κ η)).2.steps := by
  obtain ⟨b₀, rfl⟩ : ∃ b₀ : Bench (Client ρ) κ η, b = onIdle b₀ := by
    refine ⟨{ b with session := b.session.client }, ?_⟩
    rcases b with ⟨⟨client, pending⟩, _⟩
    cases hb
    rfl
  rw [WorksAs.useAll uses b₀]
  exact ⟨(Client.session cfg srv).useAll_records (fun _ _ _ _ _ => Client.says_of_does) uses b₀,
    rfl, rfl⟩

/-- Connecting, searching for a text that is not ASCII and for one that looks like criteria, and
reading a message. -/
def mixedCalls : List (Staged × Session.Call) :=
  [Session.Call.connect, .list "A" "né" false, .list "A" "ALL \"SUBJECT" true, .readBody "7"].map
    (Stage.openFor ⟨"md5", .md5, 0⟩ .usual "7", ·)

/-- A new channel, with nothing pending. -/
def newChannel : Bench (Channel Rehearsal) Unit Unit := Bench.start (idle (.fresh [])) () ()

/-- What comes of these calls on it. -/
def mixedRun : Bench (Channel Rehearsal) Unit Unit :=
  (runFrom ((session ⟨"mail", 993, true, "user", "word", none⟩ (.rehearsed [])).useAll mixedCalls)
    newChannel).2

/-- Their searches, each with the literal that is its own. -/
theorem useAll_says_mixed : newChannel.session.pending = none ∧ mixedRun.session.pending = none ∧
    searches (wires mixedRun.steps) =
      [("CHARSET UTF-8 UNSEEN SUBJECT".toList, some (.ofList [0x6E, 0xC3, 0xA9])),
        ("ALL SUBJECT \"ALL \\\"SUBJECT\"".toList, none)] ∧
    ∃ ts, mixedRun.steps = newChannel.steps ++ ts.flatten ∧ List.Forall₂ (fun use t =>
      ∃ a, talk t = [.call use.2, .answer a] ∧ Says use.2 a (wires t)) mixedCalls ts := by
  have hnew : newChannel.session.pending = none := rfl
  obtain ⟨hrecords, hpending, -⟩ := useAll_says
    ⟨"mail", 993, true, "user", "word", none⟩ (.rehearsed []) mixedCalls hnew
  unfold mixedRun
  refine ⟨hnew, hpending, ?_, hrecords⟩
  decide +kernel

end Channel

end Imap

end Mailroom
