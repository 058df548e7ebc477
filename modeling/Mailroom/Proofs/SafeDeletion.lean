import Mailroom.Imap.Rehearsal
import Mailroom.Proofs.Conversation
import Mailroom.Proofs.Turns

/-!
# Safe deletion

What a round over the mail-server client asks of the server is backed by what came before it
(`Imap.Request.Backed`): a message is flagged as deleted only right after the server confirmed its
copy, moved or copied only to the box that the last verdict sends it to, and marked seen only when
that verdict accepted it; bodies are fetched without marking them. So closing, which removes what is
flagged, can remove only messages of which there is a confirmed copy.

The server may answer every request with any status, or fail; nothing is assumed of the client's
state at the start either.
-/

namespace Mailroom.Imap

/-- A confirmed copy of a message. -/
def Exchange.Copies (uid : String) (x : Exchange) : Prop :=
  x.Confirmed ∧ ∃ box literal, x.request = .uid (.copy uid box) literal

/-- An exchange that flags a message as deleted. -/
def Exchange.Flags (uid : String) (x : Exchange) : Prop :=
  ∃ mode literal, x.request = .uid (.store uid mode "(\\Deleted)") literal

namespace Request

/-- What came before backs a request: `last` is the last verdict, and `previous` is the exchange
right before the request. -/
def Backed (d : Settings.Delivery) (last : Option Verdict) (previous : Option Exchange) :
    Request → Prop
  | uid (.fetch _ item) _ => item = "(BODY.PEEK[])"
  | uid (.store u mode flags) _ =>
    mode = "+FLAGS" ∧ flags = "(\\Seen)" ∧ last = some (u, none) ∨
      mode = "+FLAGS.SILENT" ∧ flags = "(\\Deleted)" ∧ ∃ x, previous = some x ∧ x.Copies u
  | uid (.move u box) _ | uid (.copy u box) _ =>
    ∃ failure, last = some (u, failure) ∧ d.boxFor failure ≠ "" ∧ box = quote (d.boxFor failure)
  | uid (.search _) _ | construct .. | login .. | shutdown | select _ | close | unselect | logout =>
    True

/-- Requests that do nothing to a message. -/
def Plain : Request → Prop
  | uid (.search _) _ | construct .. | login .. | shutdown | select _ | close | unselect | logout =>
    True
  | uid (.fetch ..) _ | uid (.store ..) _ | uid (.move ..) _ | uid (.copy ..) _ => False

variable {d : Settings.Delivery} {last : Option Verdict} {previous : Option Exchange} {r : Request}

theorem backed_of_plain (h : r.Plain) : r.Backed d last previous := by
  cases r with
  | uid c _ => cases c <;> trivial
  | _ => trivial

/-- What is backed stays so when there was an earlier exchange too. -/
theorem Backed.or (h : r.Backed d last previous) (earlier : Option Exchange) :
    r.Backed d last (previous.or earlier) := by
  cases r with
  | uid c _ =>
    cases c with
    | store u mode flags =>
      rcases h with h | ⟨hmode, hflags, x, rfl, hx⟩
      · exact .inl h
      · exact .inr ⟨hmode, hflags, x, rfl, hx⟩
    | _ => exact h
  | _ => trivial

end Request

namespace Client

variable {ρ : Type} {cfg : Settings.Server} {srv : Server ρ} {c c' : Client ρ}
  {d : Settings.Delivery} {last : Option Verdict} {xs : List Exchange}

theorem eq_of_singleton {us vs : List Exchange} {x y : Exchange} (h : [y] = us ++ x :: vs) :
    us = [] ∧ x = y := by
  rcases List.singleton_eq_append_iff.mp h with ⟨rfl, hx⟩ | ⟨-, ⟨⟩⟩
  cases hx
  exact ⟨rfl, rfl⟩

/-- Every request of a warranted errand is backed. -/
theorem Errand.backed {call : Session.Call} {a : Session.Answer} (h : Errand call xs)
    (hw : (Act.call call a).Warranted d last) {us vs : List Exchange} {x : Exchange}
    (hx : xs = us ++ x :: vs) : x.request.Backed d last us.getLast? := by
  cases h with
  | mute => simp at hx
  | fetch uid answer =>
    obtain ⟨-, rfl⟩ := eq_of_singleton hx
    rfl
  | mark uid seen answer =>
    obtain ⟨rfl, hlast⟩ := hw
    obtain ⟨-, rfl⟩ := eq_of_singleton hx
    exact .inl ⟨rfl, rfl, hlast⟩
  | move uid mailbox answer | uncopied uid mailbox answer =>
    obtain ⟨failure, hlast, rfl, hbox⟩ := hw
    obtain ⟨-, rfl⟩ := eq_of_singleton hx
    exact ⟨failure, hlast, hbox, rfl⟩
  | copied uid mailbox hr answer =>
    obtain ⟨failure, hlast, rfl, hbox⟩ := hw
    rcases List.cons_eq_append_iff.mp hx with ⟨-, hx'⟩ | ⟨us', rfl, hx'⟩
    · cases hx'
      exact ⟨failure, hlast, hbox, rfl⟩
    · -- The second request comes right after the copy.
      obtain ⟨rfl, rfl⟩ := eq_of_singleton hx'
      exact .inr ⟨rfl, rfl, _, rfl, ⟨_, rfl, hr⟩, _, _, rfl⟩

theorem Selecting.plain {mailbox : String} {o : Except Failure Unit}
    (h : Selecting mailbox c xs o c') : ∀ x ∈ xs, x.request.Plain := by
  cases h <;> simp [Request.Plain]

/-- A call that is about no message asks for plain things only. -/
theorem plain_of_does {call : Session.Call} (hcall : call.uid? = none) {a : Session.Answer}
    (h : (session cfg srv).Does call c a xs c') : ∀ x ∈ xs, x.request.Plain := by
  cases call with
  | connect =>
    obtain ⟨o, -, hc⟩ := (ensures_connect cfg srv).of_carries h
    cases hc <;> simp [Request.Plain]
  | close expunge =>
    obtain ⟨o, -, hc⟩ := (ensures_close expunge).of_carries h
    cases expunge <;> cases hc <;> simp [Request.Plain, leaving]
  | list mailbox pattern includeSeen =>
    obtain ⟨o, -, hl⟩ := (ensures_list mailbox pattern includeSeen).of_carries h
    cases hl with
    | unselected hs => exact hs.plain
    | unlisted hs | listed hs =>
      simp only [List.mem_append, List.mem_singleton]
      rintro x (hx | rfl)
      · exact hs.plain x hx
      · trivial
  | readBody | mark | move => cases hcall

/-- Every request of a warranted call is backed. -/
theorem backed_of_does {call : Session.Call} {a : Session.Answer}
    (h : (session cfg srv).Does call c a xs c') (hw : (Act.call call a).Warranted d last)
    {us vs : List Exchange} {x : Exchange} (hx : xs = us ++ x :: vs) :
    x.request.Backed d last us.getLast? := by
  cases hcall : call.uid? with
  | none => exact Request.backed_of_plain (plain_of_does hcall h x (by simp [hx]))
  | some uid => exact (errand_of_does hcall h).1.backed hw hx

/-! ### Records -/

/-- Every request in a record is backed; `last` is the last verdict before it. -/
def SafeAfter (d : Settings.Delivery) (last : Option Verdict) (t : List Step) : Prop :=
  ∀ pre x post, t = pre ++ .wire x :: post →
    x.request.Backed d ((verdicts pre).getLast?.or last) (wires pre).getLast?

theorem safeAfter_append {t u : List Step} (ht : SafeAfter d last t)
    (hu : SafeAfter d ((verdicts t).getLast?.or last) u) : SafeAfter d last (t ++ u) := by
  intro pre x post h
  rcases List.append_eq_append_iff.mp h with ⟨v, rfl, hv⟩ | ⟨v, rfl, hv⟩
  · rw [verdicts_append, wires_append, List.getLast?_append, List.getLast?_append, Option.or_assoc]
    exact (hu v x post hv).or _
  · rcases v with _ | ⟨s, v⟩
    · -- The request is the first step of the second record.
      rw [List.append_nil] at hu
      simpa using (hu [] x post hv.symm).or (wires pre).getLast?
    · obtain ⟨rfl, -⟩ := List.cons.inj hv
      exact ht pre x v rfl

theorem safeAfter_of_mute {t : List Step} (h : wires t = []) : SafeAfter d last t := by
  rintro pre x post rfl
  simp [wires, Step.wire?] at h

/-- The record of a warranted act. -/
theorem safeAfter_of_performs {act : Act} {t : List Step}
    (h : (session cfg srv).Performs act c t c') (hw : act.Warranted d last) :
    SafeAfter d last t := by
  cases act with
  | call call a =>
    rintro pre x post rfl
    have hv := h.verdicts_eq
    rw [verdicts_append] at hv
    have hx : wires (pre ++ .wire x :: post) = wires pre ++ x :: wires post := wires_append ..
    rw [(List.append_eq_nil_iff.mp hv).1]
    exact backed_of_does h.does hw hx
  | finish => exact safeAfter_of_mute h.of_finish.1
  | deliver => exact safeAfter_of_mute h.of_deliver.1

/-- The record of a path of warranted acts, by induction on the path. -/
theorem safeAfter_of_path {as : List Act} {t : List Step} (h : Path (session cfg srv) c as t c')
    (ho : Orderly d last as) : SafeAfter d last t := by
  induction h generalizing last with
  | stay => exact safeAfter_of_mute rfl
  | @aside _ _ _ t step hstep _ ih =>
    have hmute : wires [step] = [] := wires_eq_nil_of_aside (by simpa using hstep)
    have hv : verdicts [step] = [] := verdicts_eq_nil (by simpa using Step.isTalk_of_isAside hstep)
    exact safeAfter_append (t := [step]) (safeAfter_of_mute hmute) (hv ▸ ih ho)
  | @act _ _ _ a _ _ _ hp _ ih =>
    have hlast : a.verdict?.toList.getLast? = a.verdict? := by cases a.verdict? <;> rfl
    refine safeAfter_append (safeAfter_of_performs hp ho.1) ?_
    rw [hp.verdicts_eq, hlast]
    exact ih ho.2

/-! ### Removal -/

/-- A message is flagged as deleted right after its copy was confirmed. -/
def Covered (ws : List Exchange) : Prop :=
  ∀ us x vs, ws = us ++ x :: vs → ∀ uid, x.Flags uid →
    ∃ y, us.getLast? = some y ∧ y.Copies uid

theorem covered_of_safe {t : List Step} (h : SafeAfter d none t) : Covered (wires t) := by
  intro us x vs ht uid hflags
  obtain ⟨pre, post, rfl, rfl⟩ := wires_split ht
  obtain ⟨mode, literal, hx⟩ := hflags
  have hback := h pre x post rfl
  rw [hx] at hback
  rcases hback with ⟨-, hseen, -⟩ | ⟨-, -, y, hy, hcopies⟩
  · simp at hseen
  · exact ⟨y, hy, hcopies⟩

theorem covered_append {us vs : List Exchange} (hu : Covered us) (hv : Covered vs) :
    Covered (us ++ vs) := by
  intro pre x post h uid hflags
  rcases List.append_eq_append_iff.mp h with ⟨ws, rfl, hws⟩ | ⟨ws, rfl, hws⟩
  · obtain ⟨y, hy, hcopies⟩ := hv ws x post hws uid hflags
    exact ⟨y, by rw [List.getLast?_append, hy, Option.some_or], hcopies⟩
  · rcases ws with _ | ⟨x', ws⟩
    · obtain ⟨y, hy, -⟩ := hv [] x post hws.symm uid hflags
      cases hy
    · obtain ⟨rfl, -⟩ := List.cons.inj hws
      exact hu pre x ws rfl uid hflags

variable {κ η : Type} {rs : List (Round (Client ρ) κ)}

theorem covered_of_records {ts : List (List Step)}
    (h : List.Forall₂ (fun r t => SafeAfter r.settings none t) rs ts) :
    Covered (wires ts.flatten) := by
  induction h with
  | nil => simp [Covered]
  | cons hs _ ih =>
    rw [List.flatten_cons, wires_append]
    exact covered_append (covered_of_safe hs) ih

theorem safeAfter_of_run {r : Round (Client ρ) κ} (hr : r.session = session cfg srv)
    (b : Bench (Client ρ) κ η) : ∃ t,
      (runFrom (r.run : Work (Client ρ) κ η RoundResult) b).2.steps = b.steps ++ t ∧
        SafeAfter r.settings none t := by
  obtain ⟨as, t, ht, hpath, hprotocol⟩ := r.run_path b
  rw [hr] at hpath
  exact ⟨t, ht, safeAfter_of_path hpath hprotocol.orderly⟩

/-- **Safe deletion**: in any number of rounds over the client, whatever the server answers and the
callback does, every request is backed by what came before it in its round. Over the whole run, a
message is flagged as deleted right after its copy was confirmed; so where the mailbox is closed,
every message that was flagged by then was copied before. -/
theorem inTurn_safe (hrs : ∀ r ∈ rs, r.session = session cfg srv) (b : Bench (Client ρ) κ η) :
    ∃ ts, (runFrom (Round.inTurn rs) b).2.steps = b.steps ++ ts.flatten ∧
      List.Forall₂ (fun r t => ∀ pre x post, t = pre ++ .wire x :: post →
        x.request.Backed r.settings (verdicts pre).getLast? (wires pre).getLast?) rs ts ∧
      Covered (wires ts.flatten) := by
  have hrun : ∀ r ∈ rs, ∀ b : Bench (Client ρ) κ η, True → ∃ t,
      (runFrom (r.run : Work (Client ρ) κ η RoundResult) b).2.steps = b.steps ++ t ∧
        SafeAfter r.settings none t ∧ True := by
    intro r hr b _
    obtain ⟨t, ht, hs⟩ := safeAfter_of_run (hrs r hr) b
    exact ⟨t, ht, hs, trivial⟩
  obtain ⟨ts, hts, hsafe, -⟩ := Round.inTurn_records hrun trivial
  refine ⟨ts, hts, hsafe.imp fun r t h pre x post ht => ?_, covered_of_records hsafe⟩
  simpa using h pre x post ht

/-- Two rounds on a server that cannot move messages itself, with one message and a callback that
accepts it. -/
theorem inTurn_safe_copying :
    let cfg : Settings.Server := ⟨"mail", 993, true, "user", "word", none⟩
    let r : Round (Client Rehearsal) Unit := ⟨session cfg (.rehearsed []),
      fun _ _ k => .done (.ok ()) k, ⟨"INBOX", "", "Done", "", 1, 10, 0, .sha256⟩, none, none,
      .usual⟩
    let c := fresh [(.command "SEARCH", [some ⟨.ok ⟨"OK", [.bytes (.ofList [55])]⟩, true⟩]),
      (.command "FETCH", [some ⟨.ok ⟨"OK", [.group [none, some (.ofList [33])]]⟩, true⟩])]
    ∃ ts : List (List Step),
      (runFrom (Round.inTurn [r, r]) (Bench.start c () ())).2.steps = ts.flatten ∧
      ts.length = 2 ∧ Covered (wires ts.flatten) := by
  intro cfg r c
  have hrs : ∀ r' ∈ [r, r], r'.session = session cfg (.rehearsed []) := by simp [r]
  obtain ⟨ts, hts, hsafe, hcovered⟩ := inTurn_safe hrs (Bench.start c () ())
  exact ⟨ts, hts, hsafe.length_eq.symm, hcovered⟩

end Client

end Mailroom.Imap
