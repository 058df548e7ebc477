import Mailroom.Proofs.Arguments
import Mailroom.Proofs.Conversation

/-!
# Mail stores

A mail store keeps mailboxes of letters; at most one mailbox is selected. `Postbox.after` is what a
request does to a store: a copy has the body and the flags of the letter and goes to the end of its
mailbox, a move is a copy and removes the letter at once, and closing removes the letters of the
selected mailbox that are flagged as deleted.

A server `Serves` a store when it grants every request that makes sense for the store, changes the
store accordingly, and tells the truth about it. How it searches is left open, but for one thing: it
names no letter twice. `Postbox.server` is such a server (`Postbox.serves_server`).
-/

namespace Mailroom.Imap

/-! ### Letters and folders -/

/-- A message in a mailbox. -/
structure Letter where
  /-- Its number, which is never used for another letter of the mailbox. -/
  uid : Nat
  /-- Its body. -/
  body : Bytes
  /-- Its flags. -/
  flags : List String

namespace Letter

/-- How requests name it. -/
def name (l : Letter) : String := l.uid.repr

/-- Whether it is flagged as deleted. -/
def isDeleted (l : Letter) : Bool := l.flags.contains "\\Deleted"

/-- Whether a way of changing flags takes them away. -/
def takesAway (mode : String) : Bool := mode = "-FLAGS" || mode = "-FLAGS.SILENT"

/-- Take flags away or add those that are missing. -/
def flag (mode : String) (flags : List String) (l : Letter) : Letter :=
  { l with flags :=
      if takesAway mode then l.flags.filter fun x => !flags.contains x
      else l.flags ++ flags.filter fun x => !l.flags.contains x }

@[simp] theorem uid_flag (mode : String) (flags : List String) (l : Letter) :
    (l.flag mode flags).uid = l.uid := rfl

end Letter

/-- A mailbox: its letters, with ascending numbers, and the number that the next one gets. -/
@[ext] structure Folder where
  /-- The letters. -/
  letters : List Letter
  /-- The next number. -/
  next : Nat
  /-- The numbers ascend. -/
  ascending : (letters.map Letter.uid ++ [next]).Pairwise (· < ·)

namespace Folder

/-- The letter with a name. -/
def find? (f : Folder) (uid : String) : Option Letter := f.letters.find? (·.name = uid)

theorem uid_lt_next {f : Folder} {l : Letter} (h : l ∈ f.letters) : l.uid < f.next :=
  (List.pairwise_append.mp f.ascending).2.2 _ (List.mem_map_of_mem h) _ List.mem_cons_self

/-- Keep some of the letters. -/
def keep (f : Folder) (p : Letter → Bool) : Folder where
  letters := f.letters.filter p
  next := f.next
  ascending := f.ascending.sublist ((List.filter_sublist.map _).append_right _)

/-- Change the flags of the letter with a name. -/
def store (f : Folder) (uid mode : String) (flags : List String) : Folder where
  letters := f.letters.map fun l => if l.name = uid then l.flag mode flags else l
  next := f.next
  ascending := by
    have huids : (f.letters.map fun l => if l.name = uid then l.flag mode flags else l).map
        Letter.uid = f.letters.map Letter.uid := by
      rw [List.map_map]
      refine List.map_congr_left fun l _ => ?_
      simp only [Function.comp_apply]
      split <;> rfl
    rw [huids]
    exact f.ascending

/-- Put a letter at the end. -/
def add (f : Folder) (body : Bytes) (flags : List String) : Folder where
  letters := f.letters ++ [⟨f.next, body, flags⟩]
  next := f.next + 1
  ascending := by
    rw [List.map_append]
    refine List.pairwise_append.mpr ⟨f.ascending, List.pairwise_singleton _ _, fun n hn m hm => ?_⟩
    obtain rfl := List.mem_singleton.mp hm
    rcases List.mem_append.mp hn with hn | hn
    · have hlt := (List.pairwise_append.mp f.ascending).2.2 n hn f.next List.mem_cons_self
      omega
    · obtain rfl := List.mem_singleton.mp hn
      exact Nat.lt_succ_self _

end Folder

/-! ### Stores -/

/-- The mailbox that an argument of a request names. -/
def named (argument : String) : String :=
  match readArgument argument.toList with
  | some (name, _) => String.ofList name
  | none => ""

/-- A server reads what the client quotes. -/
@[simp] theorem named_quote (mailbox : String) : named (quote mailbox) = mailbox := by
  have hread := readArgument_quoteChars mailbox.toList (.inl rfl : Delimited [])
  rw [List.append_nil] at hread
  simp [named, quote, hread]

/-- The flags that an argument of a request names, in parentheses. -/
def flagsIn (argument : String) : List String :=
  ((argument.toList.filter fun c => c ≠ '(' && c ≠ ')').splitOn ' ').map String.ofList

/-- A mail store. -/
structure Postbox where
  /-- The mailboxes. -/
  folders : String → Option Folder
  /-- The mailbox that is selected. -/
  selected : Option String

namespace Postbox

/-- The selected mailbox. -/
def current (p : Postbox) : Option Folder := p.selected.bind p.folders

/-- The letter with a name in the selected mailbox. -/
def letter? (p : Postbox) (uid : String) : Option Letter := p.current.bind (·.find? uid)

/-- Change a mailbox. -/
def modify (p : Postbox) (name : String) (g : Folder → Folder) : Postbox :=
  { p with folders := fun n => if n = name then (p.folders n).map g else p.folders n }

@[simp] theorem folders_modify (p : Postbox) (name : String) (g : Folder → Folder) (n : String) :
    (p.modify name g).folders n = if n = name then (p.folders n).map g else p.folders n := rfl

theorem isSome_folders_modify (p : Postbox) (name : String) (g : Folder → Folder) (n : String) :
    ((p.modify name g).folders n).isSome = (p.folders n).isSome := by
  rw [folders_modify]
  split <;> simp

theorem modify_congr {p : Postbox} {name : String} {f : Folder} (hf : p.folders name = some f)
    {g h : Folder → Folder} (hgh : g f = h f) : p.modify name g = p.modify name h := by
  unfold modify
  congr 1
  funext n
  split
  · next hn => rw [hn, hf, Option.map_some, Option.map_some, hgh]
  · rfl

theorem modify_id (p : Postbox) (name : String) : p.modify name (fun f => f) = p := by
  unfold modify
  congr 1
  funext n
  split
  · exact Option.map_id'
  · rfl

theorem modify_modify (p : Postbox) (name : String) (g h : Folder → Folder) :
    (p.modify name g).modify name h = p.modify name fun f => h (g f) := by
  unfold modify
  congr 1
  funext n
  dsimp only
  split
  · exact Option.map_map h g _
  · rfl

theorem modify_comm (p : Postbox) {name other : String} (hne : name ≠ other)
    (g h : Folder → Folder) :
    (p.modify name g).modify other h = (p.modify other h).modify name g := by
  unfold modify
  congr 1
  funext n
  dsimp only
  by_cases hn : n = name
  · subst hn
    simp [hne]
  · simp [hn]

/-- Change the selected mailbox. -/
def modifyCurrent (p : Postbox) (g : Folder → Folder) : Postbox :=
  match p.selected with
  | some name => p.modify name g
  | none => p

theorem modifyCurrent_eq {p : Postbox} {name : String} (h : p.selected = some name)
    (g : Folder → Folder) : p.modifyCurrent g = p.modify name g := by
  unfold modifyCurrent
  rw [h]

theorem letter?_eq {p : Postbox} {name : String} (h : p.selected = some name) {f : Folder}
    (hf : p.folders name = some f) (uid : String) : p.letter? uid = f.find? uid := by
  simp [letter?, current, h, hf]

/-- Copy a letter to a mailbox. -/
def copy (p : Postbox) (uid mailbox : String) : Postbox :=
  match p.letter? uid with
  | some l => p.modify mailbox (·.add l.body l.flags)
  | none => p

/-- Move a letter to a mailbox. -/
def move (p : Postbox) (uid mailbox : String) : Postbox :=
  (p.copy uid mailbox).modifyCurrent (·.keep fun l => l.name ≠ uid)

/-- Remove what is flagged as deleted. -/
def expunge (p : Postbox) : Postbox := p.modifyCurrent (·.keep fun l => !l.isDeleted)

/-- Select a mailbox. -/
def select (p : Postbox) (name : String) : Postbox := { p with selected := some name }

/-- Leave the selected mailbox. -/
def leave (p : Postbox) : Postbox := { p with selected := none }

/-- What a request does to a store. -/
def after (p : Postbox) : Request → Postbox
  | .construct .. | .login .. | .shutdown | .unselect | .logout => p.leave
  | .select argument => p.select (named argument)
  | .close => p.expunge.leave
  | .uid (.search _) _ | .uid (.fetch ..) _ => p
  | .uid (.store uid mode flags) _ => p.modifyCurrent (·.store uid mode (flagsIn flags))
  | .uid (.copy uid destination) _ => p.copy uid (named destination)
  | .uid (.move uid destination) _ => p.move uid (named destination)

/-- A text is a number in decimal notation. -/
def isUid (s : String) : Bool := s = (Nat.ofDigitChars 10 s.toList 0).repr

@[simp] theorem isUid_repr (n : Nat) : isUid n.repr = true := by
  simp [isUid, Nat.ofDigitChars_ten_toDigits]

/-- Whether a store grants a request. Flags are changed one way or the other, and moving is granted
by a server only that says so. -/
def grants (capabilities : List String) (p : Postbox) : Request → Bool
  | .construct .. | .login .. | .shutdown | .logout => true
  | .select argument => (p.folders (named argument)).isSome
  | .close | .unselect => p.current.isSome
  | .uid command _ => p.current.isSome && match command with
    | .search _ => true
    | .fetch uid item => isUid uid && item = "(BODY.PEEK[])"
    | .store uid mode _ =>
      isUid uid && (Letter.takesAway mode || mode = "+FLAGS" || mode = "+FLAGS.SILENT")
    | .copy uid destination => isUid uid && (p.folders (named destination)).isSome
    | .move uid destination =>
      isUid uid && capabilities.contains "MOVE" && (p.folders (named destination)).isSome

end Postbox

/-! ### Servers that keep a store -/

/-- How a server searches a mailbox: it names no letter twice. -/
structure Searching where
  /-- What it finds. -/
  finds : (criteria : List String) → (literal : Option Bytes) → Folder → List Nat
  /-- No letter is found twice. -/
  nodup : ∀ criteria literal f, (finds criteria literal f).Nodup

/-- A server, seen through `view`, keeps a store. -/
structure Server.Serves {ρ : Type} (srv : Server ρ) (search : Searching) (view : ρ → Postbox) :
    Prop where
  /-- It grants requests, and does to the store what they ask for. -/
  granted : ∀ r s, (view s).grants srv.capabilities r = true → ∃ reply s',
    srv.answer r s = (.ok reply, s') ∧ (r ≠ .logout → reply.status = "OK") ∧
      view s' = (view s).after r
  /-- It lists what it finds. -/
  listed : ∀ criteria literal s f reply s', (view s).current = some f →
    srv.answer (.uid (.search criteria) literal) s = (.ok reply, s') →
    Exchange.Lists ⟨.uid (.search criteria) literal, .ok reply⟩
      ((search.finds criteria literal f).map Nat.repr)
  /-- It brings the body of a letter, and none where there is no letter. -/
  fetched : ∀ uid literal s reply s',
    (view s).grants srv.capabilities (.uid (.fetch uid "(BODY.PEEK[])") literal) = true →
    srv.answer (.uid (.fetch uid "(BODY.PEEK[])") literal) s = (.ok reply, s') →
    Client.bodyOf reply.items = .ok (((view s).letter? uid).map Letter.body)

/-! ### What the client's calls do to a store -/

namespace Client

variable {ρ α : Type} {srv : Server ρ} {search : Searching} {view : ρ → Postbox} {c : Client ρ}
  {Q : Except Failure α → Client ρ → Prop}

/-- Only the server has changed, and it keeps the given store now. -/
def Reaches (view : ρ → Postbox) (c : Client ρ) (p : Postbox) (y : Client ρ) : Prop :=
  ∃ server, y = { c with server } ∧ view server = p

/-- A request that is granted is answered. -/
theorem ensures_ask_granted (h : srv.Serves search view) {r : Request}
    (hr : (view c.server).grants srv.capabilities r = true) :
    (ask srv r).Ensures c fun _ o y => ∃ reply server, srv.answer r c.server = (.ok reply, server) ∧
      o = .ok reply ∧ (r ≠ .logout → reply.status = "OK") ∧ y = { c with server } ∧
      view server = (view c.server).after r := by
  refine (ensures_ask r).mono ?_
  rintro xs o y ⟨-, server, hs, rfl⟩
  obtain ⟨reply, server', hs', hok, hview⟩ := h.granted r c.server hr
  rw [hs] at hs'
  cases hs'
  exact ⟨reply, server, hs, rfl, hok, rfl, hview⟩

theorem ensures_ask_bind (h : srv.Serves search view) {r : Request}
    (hr : (view c.server).grants srv.capabilities r = true) {k : Reply → Session.Op (Client ρ) α}
    (hk : ∀ reply server, srv.answer r c.server = (.ok reply, server) →
      (r ≠ .logout → reply.status = "OK") → view server = (view c.server).after r →
      (k reply).Ensures { c with server } fun _ => Q) :
    (ask srv r >>= k).Ensures c fun _ => Q := by
  refine .bind (ensures_ask_granted h hr) ?_ ?_
  · rintro xs reply y ⟨_, server, hs, ⟨⟩, hok, rfl, hview⟩
    exact hk reply server hs hok hview
  · rintro xs f y ⟨_, server, -, ⟨⟩, -⟩

/-- The reply to a request that is granted is good. -/
theorem ensures_expect_bind (h : srv.Serves search view) {r : Request} (hlogout : r ≠ .logout)
    (hr : (view c.server).grants srv.capabilities r = true) {word : String}
    {k : List Item → Session.Op (Client ρ) α}
    (hk : ∀ reply server, srv.answer r c.server = (.ok reply, server) →
      view server = (view c.server).after r →
        (k reply.items).Ensures { c with server } fun _ => Q) :
    (ask srv r >>= expectOk word >>= k).Ensures c fun _ => Q := by
  rw [bind_assoc]
  refine ensures_ask_bind h hr fun reply server hs hok hview => ?_
  have hpure : (expectOk word reply : Session.Op (Client ρ) (List Item)) = pure reply.items :=
    if_pos (hok hlogout)
  rw [hpure, pure_bind]
  exact hk reply server hs hview

/-- A request whose reply only has to be good. -/
theorem ensures_discard_granted (h : srv.Serves search view) {r : Request} (hlogout : r ≠ .logout)
    (hr : (view c.server).grants srv.capabilities r = true) {word : String} :
    (do let _ ← ask srv r >>= expectOk word : Session.Op (Client ρ) Unit).Ensures c fun _ o y =>
      o = .ok () ∧ Reaches view c ((view c.server).after r) y :=
  ensures_expect_bind (Q := fun o y => o = .ok () ∧ Reaches view c ((view c.server).after r) y) h
    hlogout hr fun _ server _ hview => .pure ⟨rfl, server, rfl, hview⟩

/-- A connected client does not refuse to work. -/
theorem ensures_connected_bind (hc : c.connected = true) {k : Unit → Session.Op (Client ρ) α}
    (hk : (k ()).Ensures c fun _ => Q) : (requireConnection >>= k).Ensures c fun _ => Q := by
  refine .bind ensures_requireConnection ?_ ?_
  · rintro xs u y ⟨-, rfl, -⟩
    exact hk
  · rintro xs f y ⟨-, rfl, hne⟩
    rw [hc] at hne
    cases hne

/-- Connecting succeeds, and no mailbox is selected. -/
theorem ensures_connect_granted (h : srv.Serves search view) (cfg : Settings.Server) :
    (connect cfg srv).Ensures c fun _ o y => o = .ok () ∧ y.connected = true ∧ y.selected = none ∧
      view y.server = (view c.server).leave := by
  have hopen : (openConnection cfg srv).Ensures c fun _ o y => o = .ok () ∧ y.connected = true ∧
      y.selected = none ∧ view y.server = (view c.server).leave := by
    refine ensures_ask_bind h rfl fun reply server _ _ hview => ?_
    refine .settle_bind (ensures_ask_granted h rfl) ?_
    rintro xs _ y ⟨reply', server', -, rfl, -, rfl, hview'⟩
    have hleft : (view server).leave = (view c.server).leave := by
      rw [hview]
      rfl
    exact .change ⟨rfl, rfl, rfl, hview'.trans hleft⟩
  refine .settle_bind hopen ?_
  rintro xs _ y ⟨rfl, hy⟩
  exact .remark ⟨rfl, hy⟩

/-- Selecting a mailbox after connecting asks the server for it. -/
theorem ensures_select_bind (h : srv.Serves search view) (hc : c.connected = true)
    (hs : c.selected = none) {mailbox : String}
    (hf : ((view c.server).folders mailbox).isSome = true) {k : Unit → Session.Op (Client ρ) α}
    (hk : ∀ server, view server = (view c.server).select mailbox →
      (k ()).Ensures ⟨server, true, some mailbox⟩ fun _ => Q) :
    (select srv mailbox >>= k).Ensures c fun _ => Q := by
  have hgrants : (view c.server).grants srv.capabilities (.select (quote mailbox)) = true := by
    simpa [Postbox.grants] using hf
  have hselect : (select srv mailbox).Ensures c fun _ o y => o = .ok () ∧ ∃ server,
      y = ⟨server, true, some mailbox⟩ ∧ view server = (view c.server).select mailbox := by
    refine ensures_connected_bind hc (.look_bind ?_)
    rw [if_pos (by simp [hs]), ← bind_assoc]
    refine ensures_expect_bind h (by simp) hgrants fun reply server _ hview => ?_
    exact .change ⟨rfl, server, by rw [hc], by simpa [Postbox.after] using hview⟩
  refine .bind hselect ?_ ?_
  · rintro xs u y ⟨-, server, rfl, hview⟩
    exact hk server hview
  · rintro xs f y ⟨⟨⟩, -⟩

/-- Listing selects the mailbox and names what is found there. -/
theorem ensures_list_granted (h : srv.Serves search view) (hc : c.connected = true)
    (hs : c.selected = none) {mailbox : String} {f : Folder}
    (hf : (view c.server).folders mailbox = some f) (pattern : String) (includeSeen : Bool) :
    (list srv mailbox pattern includeSeen).Ensures c fun _ o y =>
      o = .ok ((search.finds (criteria pattern includeSeen).1
        (criteria pattern includeSeen).2 f).map Nat.repr) ∧
      y.connected = true ∧ y.selected = some mailbox ∧
      view y.server = (view c.server).select mailbox := by
  refine ensures_select_bind h hc hs (by rw [hf]; rfl) fun server hview => ?_
  rcases criteria pattern includeSeen with ⟨wanted, literal⟩
  have hcurrent : (view server).current = some f := by
    rw [hview]
    exact hf
  have hgrants : (view server).grants srv.capabilities (.uid (.search wanted) literal) = true := by
    simp [Postbox.grants, hcurrent]
  refine ensures_expect_bind h (by simp) hgrants fun reply server' hserver hview' => ?_
  obtain ⟨_, found, ⟨⟩, -, hfound, huids⟩ := h.listed wanted literal server f reply server' hcurrent
    hserver
  have hafter : view server' = (view c.server).select mailbox := hview'.trans hview
  dsimp only at hfound ⊢
  rw [hfound, huids]
  cases found with
  | none => exact .pure ⟨rfl, rfl, rfl, hafter⟩
  | some uids => exact .remark_bind (.pure ⟨rfl, rfl, rfl, hafter⟩)

/-- Fetching a letter gets its body, and fails where there is no letter. -/
theorem ensures_fetch_granted (h : srv.Serves search view) (hc : c.connected = true) {uid : String}
    (hr : (view c.server).grants srv.capabilities (.uid (.fetch uid "(BODY.PEEK[])") none) = true) :
    (fetch srv uid).Ensures c fun _ o y =>
      o = (match (view c.server).letter? uid with
        | some l => .ok l.body
        | none => .error (.plain .session s!"message {uid} not found")) ∧
      Reaches view c (view c.server) y := by
  refine ensures_connected_bind hc (ensures_expect_bind h (by simp) hr ?_)
  intro reply server hserver hview
  rw [h.fetched uid none c.server reply server hr hserver]
  cases (view c.server).letter? uid with
  | none => exact .throw ⟨rfl, server, rfl, hview⟩
  | some l => exact .pure ⟨rfl, server, rfl, hview⟩

/-- Marking a letter flags it as seen. -/
theorem ensures_mark_granted (h : srv.Serves search view) (hc : c.connected = true) {uid : String}
    (hr : (view c.server).grants srv.capabilities
      (.uid (.store uid "+FLAGS" "(\\Seen)") none) = true) :
    (mark srv uid true).Ensures c fun _ o y => o = .ok () ∧
      Reaches view c ((view c.server).modifyCurrent (·.store uid "+FLAGS" ["\\Seen"])) y :=
  ensures_connected_bind hc (ensures_discard_granted h (by simp) hr)

/-- Where the server says that it can move letters, moving is left to it. -/
theorem ensures_move_granted (h : srv.Serves search view) (hc : c.connected = true)
    (hmove : srv.capabilities.contains "MOVE" = true) {uid mailbox : String}
    (hr : (view c.server).grants srv.capabilities (.uid (.move uid (quote mailbox)) none) = true) :
    (move srv uid mailbox).Ensures c fun _ o y => o = .ok () ∧
      Reaches view c ((view c.server).move uid mailbox) y := by
  have hafter : (view c.server).after (.uid (.move uid (quote mailbox)) none) =
      (view c.server).move uid mailbox := by
    simp [Postbox.after]
  refine ensures_connected_bind hc ?_
  rw [if_pos hmove, ← hafter]
  exact ensures_discard_granted h (by simp) hr

/-- Elsewhere the letter is copied and flagged as deleted. -/
theorem ensures_move_copying (h : srv.Serves search view) (hc : c.connected = true)
    (hmove : srv.capabilities.contains "MOVE" = false) {uid mailbox : String}
    (hr : (view c.server).grants srv.capabilities (.uid (.copy uid (quote mailbox)) none) = true)
    (hr' : ((view c.server).copy uid mailbox).grants srv.capabilities
      (.uid (.store uid "+FLAGS.SILENT" "(\\Deleted)") none) = true) :
    (move srv uid mailbox).Ensures c fun _ o y => o = .ok () ∧
      Reaches view c (((view c.server).copy uid mailbox).modifyCurrent
        (·.store uid "+FLAGS.SILENT" ["\\Deleted"])) y := by
  refine ensures_connected_bind hc ?_
  rw [if_neg (by rw [hmove]; exact Bool.false_ne_true)]
  refine ensures_expect_bind h (by simp) hr fun reply server _ hview => ?_
  have hcopied : view server = (view c.server).copy uid mailbox := by
    simpa [Postbox.after] using hview
  rw [← hcopied] at hr' ⊢
  exact ensures_discard_granted h (by simp) hr'

/-- Closing removes what is flagged as deleted. -/
theorem ensures_close_granted (h : srv.Serves search view) (hc : c.connected = true)
    (hs : c.selected ≠ none) (hr : (view c.server).grants srv.capabilities .close = true) :
    (close srv true).Ensures c fun _ o y => o = .ok () ∧
      view y.server = (view c.server).expunge.leave := by
  have hleave : (leave srv true).Ensures c fun _ o y => o = .ok () ∧
      Reaches view c ((view c.server).expunge.leave) y := by
    obtain ⟨mailbox, hmailbox⟩ := Option.ne_none_iff_exists'.mp hs
    refine .look_bind ?_
    rw [hmailbox]
    dsimp only
    rw [if_pos rfl, ← bind_assoc]
    exact ensures_discard_granted h (by simp) hr
  have hend : (endConversation srv true).Ensures c fun _ o y => o = .ok () ∧
      view y.server = (view c.server).expunge.leave := by
    refine .settle_bind hleave ?_
    rintro xs _ y ⟨rfl, server, rfl, hview⟩
    refine ensures_ask_bind h rfl fun reply server' _ _ hview' => ?_
    have hleft : (view server).leave = (view c.server).expunge.leave := by
      rw [hview]
      rfl
    exact .pure ⟨rfl, hview'.trans hleft⟩
  refine .look_bind ?_
  rw [if_pos hc]
  refine .settle_bind hend ?_
  rintro xs _ y ⟨rfl, hview⟩
  exact .change_bind (.remark ⟨rfl, hview⟩)

end Client

end Mailroom.Imap
