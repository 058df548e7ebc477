import Mailroom.Proofs.Keeping
import Mailroom.Proofs.SafeDeletion

/-!
# What the callback gets

The body that the callback gets of a candidate is what the session wrote when it read that
candidate, from the start, and the digest is the digest of that (`Scene.Genuine`); whatever was
written for other candidates, read to the end or not, is in neither. This holds of every session
(`Round.run_genuine`).

A round over the mail-server client hands on exactly the bodies that the server's replies bring
(`Imap.Exchange.brings?`), in order and unchanged, however long they are
(`Imap.Client.run_hands_on`). In between they are cut into pieces, written into a spool and a digest
piece by piece, counted, finished and rewound.
-/

namespace Mailroom

open Imap (Exchange)

variable {σ κ η : Type}

/-! ### Genuine deliveries -/

/-- Where a scene is a delivery, the callback gets what a reading of that candidate alone left in an
empty message, with its digest. -/
def Scene.Genuine (r : Round σ κ) (fragile : Bool) : Scene → Prop
  | .call .. => True
  | .delivery uid digest seen failure => ∃ subject x raw k body o k',
    (∃ n m, (r.filled uid subject x).offer = .ok (n, m)) ∧
    (r.filled uid subject x).message.spool.content = raw ∧
    digest = r.stageInUse.algorithm.hash raw ∧ body.Presents raw ∧
    (r.callback uid digest k).Goes fragile body seen o k' ∧
    failure = Failure.of? (Failure.awaited o)

/-- The deliveries of a stretch of work are genuine. -/
def GenuineStretch (r : Round σ κ) : Stretch σ κ η := fun b t b' =>
  b'.fragile = b.fragile ∧ ∃ vs, Shows t vs ∧ ∀ v ∈ vs, v.Genuine r b.fragile

theorem composes_genuine (r : Round σ κ) : Composes (GenuineStretch r : Stretch σ κ η) where
  idle hf _ _ _ hidle :=
    ⟨hf, [], .of_hidden fun s hs => Step.isScene_of_isIdle (hidle s hs), by simp⟩
  trans := by
    intro b₁ b₂ b₃ t u h k
    obtain ⟨hf, vs, ht, hvs⟩ := h
    obtain ⟨hf', ws, hu, hws⟩ := k
    rw [hf] at hws
    exact ⟨hf'.trans hf, vs ++ ws, ht.append hu, List.forall_mem_append.mpr ⟨hvs, hws⟩⟩

namespace Round

/-- A candidate is staged alone, so that its delivery is genuine. -/
theorem genuine_stageAndDeliver (r : Round σ κ) (uid : String) :
    Keeps (GenuineStretch r) (r.stageAndDeliver uid : Work σ κ η Outcome) := by
  intro b
  generalize hf : r.filled uid b.about b.session = f
  cases ho : f.offer with
  | error e =>
    obtain ⟨t, hr, hshows, -⟩ := runFrom_stageAndDeliver_unread r uid b hf ho
    rw [hr]
    exact ⟨t, rfl, rfl, _, hshows, by simp [Scene.Genuine]⟩
  | ok p =>
    obtain ⟨n, m⟩ := p
    obtain ⟨hdigest, ⟨body, hbody, hpresents⟩, -⟩ := offered_of_filled hf ho
    obtain ⟨o, b', t, seen, hr, hfragile, -, ht, hshows, -, -, hgo⟩ :=
      runFrom_stageAndDeliver_offered r uid b hf ho hdigest hbody
    rw [hr]
    refine ⟨t, ht, hfragile, _, hshows, ?_⟩
    simp only [List.mem_cons, List.not_mem_nil, or_false, forall_eq_or_imp, forall_eq]
    refine ⟨trivial, b.about, b.session, f.message.spool.content, b.receiver, body, o, b'.receiver,
      ?_, ?_, rfl, hpresents, hgo, rfl⟩
    · exact ⟨n, m, hf ▸ ho⟩
    · rw [hf]

/-- **Deliveries are genuine**: whatever session and callback a round has. -/
theorem run_genuine (r : Round σ κ) :
    Keeps (GenuineStretch r) (r.run : Work σ κ η RoundResult) := by
  refine keeps_run (composes_genuine r) r ?_ (genuine_stageAndDeliver r)
  intro α c shown op _ hdoes b
  obtain ⟨o, t, y, hr, hshows, -⟩ := Work.runFrom_call_shows hdoes b
  rw [hr]
  exact ⟨t, rfl, rfl, _, hshows, by simp [Scene.Genuine]⟩

end Round

/-! ### What replies bring -/

namespace Imap

/-- The body in the items of a reply: the second part of the first group, if there is one. -/
def bodyIn : List Item → Option Bytes
  | [] => none
  | .group (_ :: part :: _) :: _ => part
  | .group _ :: _ => none
  | .bytes _ :: rest | .absent :: rest => bodyIn rest

/-- The body that an exchange brings of a message: a good reply to a fetch has it. -/
def Exchange.brings? (x : Exchange) : Option (String × Bytes) :=
  match x.request, x.answer with
  | .uid (.fetch uid _) _, .ok reply =>
    if reply.status = "OK" then (bodyIn reply.items).map fun raw => (uid, raw) else none
  | _, _ => none

/-- What stands before the first group of a reply, or after it, does not count. -/
example (header raw : Bytes) :
    Exchange.brings? ⟨.uid (.fetch "7" "(BODY.PEEK[])") none,
      .ok ⟨"OK", [.absent, .bytes header, .group [some header, some raw], .group [none]]⟩⟩ =
        some ("7", raw) := rfl

/-- The bodies that a row of exchanges brings. -/
def brought (xs : List Exchange) : List (String × Bytes) := xs.filterMap Exchange.brings?

@[simp] theorem brought_nil : brought [] = [] := rfl

@[simp] theorem brought_append (xs ys : List Exchange) :
    brought (xs ++ ys) = brought xs ++ brought ys := List.filterMap_append

namespace Client

/-- The client looks for the body where it is. -/
theorem bodyOf_eq_ok_iff (items : List Item) (raw : Bytes) :
    bodyOf items = .ok (some raw) ↔ bodyIn items = some raw := by
  induction items with
  | nil => simp [bodyOf, bodyIn]
  | cons item items ih =>
    cases item with
    | bytes b => exact ih
    | absent => exact ih
    | group parts =>
      rcases parts with _ | ⟨header, _ | ⟨part, parts⟩⟩
      · simp [bodyOf, bodyIn]
      · simp [bodyOf, bodyIn]
      · simp [bodyOf, bodyIn]

variable {ρ : Type} {cfg : Settings.Server} {srv : Server ρ} {c : Client ρ}

/-- Fetching a body ends in it exactly if a reply brings it. -/
theorem ensures_fetch_brought (uid : String) : (fetch srv uid).Ensures c fun xs o _ =>
    brought xs = match o with
      | .ok raw => [(uid, raw)]
      | .error _ => [] := by
  refine .bind ensures_requireConnection ?_ ?_
  · rintro xs u y ⟨rfl, rfl, -⟩
    refine .bind (ensures_command (.fetch uid "(BODY.PEEK[])") none) ?_ ?_
    · rintro xs items z (⟨hr, server⟩ | ⟨_, _, server⟩)
      rename_i reply
      have hbrings : brought [⟨.uid (.fetch uid "(BODY.PEEK[])") none, .ok reply⟩] =
          ((bodyIn reply.items).map fun raw => (uid, raw)).toList := by
        cases hb : bodyIn reply.items <;> simp [brought, Exchange.brings?, hr, hb]
      split
      · next f hb =>
        refine .throw ?_
        cases hin : bodyIn reply.items with
        | none => simpa [hin] using hbrings
        | some raw => simp [(bodyOf_eq_ok_iff _ _).mpr hin] at hb
      · next hb =>
        refine .throw ?_
        cases hin : bodyIn reply.items with
        | none => simpa [hin] using hbrings
        | some raw => simp [(bodyOf_eq_ok_iff _ _).mpr hin] at hb
      · next body hb =>
        refine .pure ?_
        simpa [(bodyOf_eq_ok_iff _ _).mp hb] using hbrings
    · rintro xs f z (_ | ⟨hbad, _, server⟩)
      rename_i answer
      have hnone : Exchange.brings? ⟨.uid (.fetch uid "(BODY.PEEK[])") none, answer⟩ = none := by
        cases answer with
        | error g => rfl
        | ok reply => exact if_neg fun h => hbad ⟨reply, rfl, h⟩
      simp [brought, hnone]
  · rintro xs f y ⟨rfl, rfl, -⟩
    rfl

/-- Only reading a candidate brings a body. -/
theorem brought_of_does {call : Session.Call} (hcall : ∀ uid, call ≠ .readBody uid)
    {a : Session.Answer} {xs : List Exchange} {c' : Client ρ}
    (h : (session cfg srv).Does call c a xs c') : brought xs = [] := by
  cases huid : call.uid? with
  | none =>
    refine List.filterMap_eq_nil_iff.mpr fun x hx => ?_
    have hplain := plain_of_does huid h x hx
    obtain ⟨request, answer⟩ := x
    cases request with
    | uid command literal => cases command <;> first | rfl | cases hplain
    | _ => rfl
  | some uid =>
    obtain ⟨herrand, -⟩ := errand_of_does huid h
    cases herrand with
    | mute => rfl
    | fetch uid answer => exact absurd rfl (hcall uid)
    | mark | move | uncopied | copied => rfl

end Client

end Imap

/-! ### Bodies handed on -/

/-- The count that a scene answers of a candidate. -/
def Scene.count? : Scene → Option (String × Int)
  | .call (.readBody uid) (.count n) => some (uid, n)
  | _ => none

theorem Round.HandedOn.append_left {uid : String} {n : Int} {digest : Bytes} {size : Nat}
    {u : List Step} (h : HandedOn uid n digest size u) (t : List Step) :
    HandedOn uid n digest size (t ++ u) := by
  obtain ⟨pre, mid, post, about, about', rfl⟩ := h
  exact ⟨t ++ pre, mid, post, about, about', by simp⟩

theorem Round.HandedOn.append_right {uid : String} {n : Int} {digest : Bytes} {size : Nat}
    {t : List Step} (h : HandedOn uid n digest size t) (u : List Step) :
    HandedOn uid n digest size (t ++ u) := by
  obtain ⟨pre, mid, post, about, about', rfl⟩ := h
  exact ⟨pre, mid, post ++ u, about, about', by simp⟩

/-- What a record shows of the bodies that were brought: they were counted, staged and handed on,
and nothing else was. -/
structure Round.HandsOn (r : Round σ κ) (b : Bench σ κ η) (t : List Step) (b' : Bench σ κ η)
    (vs : List Scene) : Prop where
  /-- The record shows the scenes. -/
  shows : Shows t vs
  /-- Reading a candidate is answered by the number of its bytes. -/
  counts : vs.filterMap Scene.count? =
    (Imap.brought (wires t)).map fun p => (p.1, (p.2.size : Int))
  /-- The callback gets exactly the bodies that were brought, in order, with their digests. -/
  handed : Handed r.callback r.stageInUse.algorithm.hash b.fragile b.receiver
    (Imap.brought (wires t)) (vs.filter Scene.isDelivery) b'.receiver
  /-- Each of them was staged with its own size. -/
  sizes : ∀ p ∈ Imap.brought (wires t),
    Round.HandedOn p.1 p.2.size (r.stageInUse.algorithm.hash p.2) p.2.size t

namespace Imap.Client

variable {ρ : Type} {cfg : Settings.Server} {srv : Server ρ}

/-- The bodies that a stretch of work brings are handed on. -/
def HandingStretch (r : Round (Client ρ) κ) : Stretch (Client ρ) κ η := fun b t b' =>
  b'.fragile = b.fragile ∧ ∃ vs, r.HandsOn b t b' vs

theorem composes_handing (r : Round (Client ρ) κ) :
    Composes (HandingStretch r : Stretch (Client ρ) κ η) where
  idle := by
    intro b b' t hf _ hreceiver _ hidle
    have hwires : wires t = [] := wires_eq_nil_of_aside fun s hs =>
      Step.isAside_of_isNote (Step.isNote_of_isIdle (hidle s hs))
    refine ⟨hf, [], .of_hidden fun s hs => Step.isScene_of_isIdle (hidle s hs), ?_, ?_, ?_⟩
    · rw [hwires]
      rfl
    · rw [hwires, hreceiver]
      exact .nil _
    · rw [hwires]
      simp
  trans := by
    intro b₁ b₂ b₃ t u ⟨hf, vs, ht⟩ ⟨hf', ws, hu⟩
    have hhanded := hu.handed
    rw [hf] at hhanded
    refine ⟨hf'.trans hf, vs ++ ws, ht.shows.append hu.shows, ?_, ?_, ?_⟩
    · rw [List.filterMap_append, ht.counts, hu.counts, wires_append, brought_append,
        List.map_append]
    · rw [List.filter_append, wires_append, brought_append]
      exact ht.handed.append hhanded
    · rw [wires_append, brought_append]
      refine List.forall_mem_append.mpr ⟨fun p hp => ?_, fun p hp => ?_⟩
      · exact (ht.sizes p hp).append_right u
      · exact (hu.sizes p hp).append_left t

/-- A call that reads no body brings none. -/
theorem handing_call (r : Round (Client ρ) κ) (hr : r.session = session cfg srv) {α : Type}
    {call : Session.Call} {shown : α → Session.Answer} {op : Session.Op (Client ρ) α}
    (hcall : ∀ uid, call ≠ .readBody uid)
    (h : ∀ x a xs y, op.Carries shown x a xs y → r.session.Does call x a xs y) :
    Keeps (HandingStretch r) (Work.call call shown op : Work (Client ρ) κ η α) := by
  intro b
  obtain ⟨o, t, y, hrun, hshows, hdoes⟩ := Work.runFrom_call_shows h b
  rw [hr] at hdoes
  have hnone := brought_of_does hcall hdoes
  rw [hrun]
  refine ⟨t, rfl, rfl, _, hshows, ?_, ?_, ?_⟩
  · rw [hnone]
    cases call <;> first | rfl | exact absurd rfl (hcall _)
  · rw [hnone]
    exact .nil _
  · simp [hnone]

/-- What the reading of a candidate leaves: the body that was fetched, or nothing. -/
theorem filled_eq (r : Round (Client ρ) κ) (hr : r.session = session cfg srv) (uid : String)
    (subject : Option Subject) (c : Client ρ) {f : Filled (Client ρ)}
    (hf : r.filled uid subject c = f) :
    (∃ e, f.offer = .error e ∧ f.outcome = .error e ∧ brought (wires f.record) = []) ∨
      ∃ raw m, f.offer = .ok ((raw.size : Int), m) ∧ f.message.spool.content = raw ∧
        brought (wires f.record) = [(uid, raw)] := by
  have hfetch : (fetch srv uid).Ensures c fun xs o _ =>
      brought xs = match o with
        | .ok raw => [(uid, raw)]
        | .error _ => [] := ensures_fetch_brought uid
  obtain ⟨fetched, after, rs, hrun, hbrought⟩ := hfetch []
  have hread : r.session.readBody uid c = .sayAll rs (passOn fetched after) := by
    rw [hr]
    show readBody srv uid c = _
    rw [readBody_eq, hrun]
    rfl
  have hwires : wires (rs.map (Work.ofRemark subject)) = rs.filterMap Remark.exchange? := by
    rw [wires, List.filterMap_map]
    congr 1
    funext r
    cases r <;> rfl
  rw [Round.filled, hread, Streaming.fill_sayAll] at hf
  cases fetched with
  | error e =>
    subst hf
    refine .inl ⟨e, rfl, rfl, ?_⟩
    simpa [passOn, Streaming.fill, Filled.after, hwires] using hbrought
  | ok raw =>
    obtain ⟨m, hm, -, hfill⟩ := Streaming.fill_writeAll subject after
      (fun total => .done (.ok total) after) (Bytes.pieces raw pieceSize)
      (Staged.holds_openFor r.stageInUse r.disk uid) 0
    rw [Bytes.foldl_append_pieces, ByteArray.empty_append] at hm hfill
    have hsize : 0 + ((raw.size : Int) - ByteArray.empty.size) = raw.size := by simp
    rw [passOn, hfill, hsize] at hf
    subst hf
    refine .inr ⟨raw, m.finish.2, ?_, hm.content, ?_⟩
    · have hfinish : m.finish = (.ok (), m.finish.2) := by
        unfold Staged.finish
        rw [hm.unreleased]
        rfl
      unfold Filled.offer
      simp only [Filled.after, Streaming.fill]
      rw [hfinish]
    · simpa [Streaming.fill, Filled.after, hwires] using hbrought

/-- A candidate is handed on exactly if its body is brought. -/
theorem handing_stageAndDeliver (r : Round (Client ρ) κ) (hr : r.session = session cfg srv)
    (uid : String) : Keeps (HandingStretch r) (r.stageAndDeliver uid : Work (Client ρ) κ η _) := by
  intro b
  generalize hf : r.filled uid b.about b.session = f
  rcases filled_eq r hr uid b.about b.session hf with ⟨e, ho, houtcome, hnone⟩ |
    ⟨raw, m, ho, hraw, hone⟩
  · obtain ⟨t, hrun, hshows, hwires⟩ := Round.runFrom_stageAndDeliver_unread r uid b hf ho
    rw [← hwires] at hnone
    rw [hrun]
    refine ⟨t, rfl, rfl, _, hshows, ?_, ?_, ?_⟩
    · rw [hnone, houtcome]
      rfl
    · rw [hnone]
      exact .nil _
    · simp [hnone]
  · obtain ⟨hdigest, ⟨body, hbody, hpresents⟩, hsize⟩ := Round.offered_of_filled hf ho
    obtain ⟨o, b', t, seen, hrun, hfragile, -, ht, hshows, hwires, hon, hgo⟩ :=
      Round.runFrom_stageAndDeliver_offered r uid b hf ho hdigest hbody
    rw [hraw] at hdigest hpresents hsize hshows hgo hon
    rw [hsize] at hon
    rw [← hwires] at hone
    rw [hrun]
    refine ⟨t, ht, hfragile, _, hshows, ?_, ?_, ?_⟩
    · rw [hone]
      rfl
    · rw [hone]
      exact .cons hpresents hgo (.nil _)
    · rw [hone]
      simpa using hon

/-- **Bodies arrive as they were sent**: whatever the server answers and the callback does, a round
over the client hands on exactly the bodies that good replies to its fetches bring, in order. Each
is counted with all its bytes, staged with that size, and given to the callback from its start,
unchanged and with its digest, whatever algorithm and memory limit the stage has. All of it comes
from the reading of that candidate alone. -/
theorem run_hands_on (cfg : Settings.Server) (srv : Server ρ) (callback : Callback κ)
    (d : Settings.Delivery) (stage : Option Stage) (retry : Option Settings.Retry) (disk : Disk)
    (b : Bench (Client ρ) κ η) :
    let r : Round (Client ρ) κ := ⟨session cfg srv, callback, d, stage, retry, disk⟩
    ∃ t vs, (runFrom (r.run : Work (Client ρ) κ η RoundResult) b).2.steps = b.steps ++ t ∧
      r.HandsOn b t (runFrom (r.run : Work (Client ρ) κ η RoundResult) b).2 vs ∧
      ∀ v ∈ vs, v.Genuine r b.fragile := by
  intro r
  obtain ⟨t, ht, -, vs, hvs⟩ := r.keeps_run (composes_handing (η := η) r)
    (fun hcall => handing_call r rfl hcall) (handing_stageAndDeliver r rfl) b
  obtain ⟨t', ht', -, vs', hshows, hgenuine⟩ := r.run_genuine b
  obtain rfl : t = t' := List.append_cancel_left (ht.symm.trans ht')
  obtain rfl : vs = vs' := hvs.shows.unique hshows
  exact ⟨t, vs, ht, hvs, hgenuine⟩

end Imap.Client

end Mailroom
