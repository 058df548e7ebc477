import Mailroom.Imap.Rehearsal
import Mailroom.Proofs.Conversation
import Mailroom.Proofs.Following

/-!
# The selected mailbox

The mail-server client remembers which mailbox it selected last, so that it need not ask again. What
it remembers is the last selection that the server confirmed on the current connection, for every
sequence of calls and every server: when it searches for a listing, that selection is of the mailbox
to be listed, and when it leaves a mailbox there is such a selection (`Imap.Client.useAll_fits`).

This is not always the last selection that the client asked for. A selection that the server
refuses leaves the server without a mailbox, but the client keeps the one it had before
(`Imap.Client.useAll_stale`). So the client agrees with the server as long as no selection is
refused after one that was confirmed.
-/

namespace Mailroom

variable {σ κ η : Type}

/-! ### Calls in any order -/

namespace Session

/-- Make a call on a session, whatever it is answered; a body is read into the given message. -/
def use (s : Session σ) (m : Staged) : Call → Work σ κ η Unit
  | .connect => do
    let _ ← settle (Work.call .connect (fun _ => .done) s.connect)
  | .close expunge => do
    let _ ← settle (Work.call (.close expunge) (fun _ => .done) (s.close expunge))
  | .list mailbox pattern includeSeen => do
    let _ ← settle (Work.call (.list mailbox pattern includeSeen) .listing
      (s.list mailbox pattern includeSeen))
  | .readBody uid => do
    let _ ← Work.read s uid m
  | .mark uid seen => do
    let _ ← settle (Work.call (.mark uid seen) (fun _ => .done) (s.mark uid seen))
  | .move uid mailbox => do
    let _ ← settle (Work.call (.move uid mailbox) (fun _ => .done) (s.move uid mailbox))

/-- Make calls on a session one after the other. -/
def useAll (s : Session σ) : List (Staged × Call) → Work σ κ η Unit
  | [] => pure ()
  | (m, c) :: uses => do
    s.use m c
    s.useAll uses

/-- Whatever it is answered, a call is an act. -/
theorem follows_use (s : Session σ) (fragile : Bool) (m : Staged) (c : Call) :
    Follows s fragile (s.use m c : Work σ κ η Unit) fun as o =>
      o = .ok () ∧ ∃ a, as = [.call c a] := by
  have hcall {α : Type} {shown : α → Answer} {op : Op σ α} {c : Call}
      (h : ∀ x a xs y, op.Carries shown x a xs y → s.Does c x a xs y) :
      Follows s fragile (do let _ ← settle (Work.call c shown op) : Work σ κ η Unit)
        fun as o => o = .ok () ∧ ∃ a, as = [.call c a] := by
    refine ((Follows.call h).settle.bind (q := fun _ as o => as = [] ∧ o = .ok ())
      fun _ _ => .pure ⟨rfl, rfl⟩).mono ?_
    rintro as o (⟨r, bs, cs, rfl, ⟨r', -, rfl⟩, rfl, rfl⟩ | ⟨f, -, r', ⟨⟩, -⟩)
    exact ⟨rfl, _, rfl⟩
  cases c with
  | readBody uid =>
    refine ((follows_read s fragile uid m).bind (q := fun _ as o => as = [] ∧ o = .ok ())
      fun _ _ => .pure ⟨rfl, rfl⟩).mono ?_
    rintro as o (⟨r, bs, cs, rfl, ⟨size, m', rfl, -⟩, rfl, rfl⟩ | ⟨f, -, size, m', -, ⟨⟩⟩)
    exact ⟨rfl, _, rfl⟩
  | connect | close | list | mark | move => exact hcall fun _ _ _ _ h => h

/-- The acts are the calls in order, by induction on the calls. -/
theorem follows_useAll (s : Session σ) (fragile : Bool) (uses : List (Staged × Call)) :
    Follows s fragile (s.useAll uses : Work σ κ η Unit) fun as o =>
      o = .ok () ∧ as.length = uses.length := by
  induction uses with
  | nil => exact .pure ⟨rfl, rfl⟩
  | cons use uses ih =>
    refine ((follows_use s fragile use.1 use.2).bind fun _ _ => ih).mono ?_
    rintro as o (⟨_, bs, cs, rfl, ⟨-, a, rfl⟩, rfl, h⟩ | ⟨f, -, ⟨⟩, -⟩)
    exact ⟨rfl, congrArg (· + 1) h⟩

end Session

/-- The call that a step is. -/
def Step.call? : Step → Option Session.Call
  | call c => some c
  | _ => none

/-- The last call in a record. -/
def lastCall (t : List Step) : Option Session.Call := (t.filterMap Step.call?).getLast?

theorem lastCall_append (t u : List Step) :
    lastCall (t ++ u) = (lastCall u).or (lastCall t) := by
  rw [lastCall, List.filterMap_append, List.getLast?_append]
  rfl

theorem lastCall_cons (s : Step) (t : List Step) :
    lastCall (s :: t) = (lastCall t).or s.call? := by
  rw [← List.singleton_append, lastCall_append]
  cases s <;> rfl

namespace Imap

/-! ### Selections -/

/-- A request to select a mailbox. -/
structure Selection where
  /-- The mailbox, as the request names it. -/
  argument : String
  /-- Whether the server confirmed. -/
  confirmed : Bool
  deriving DecidableEq, Repr

/-- Whether the server answered that all is well. -/
def Exchange.isConfirmed (x : Exchange) : Bool :=
  match x.answer with
  | .ok reply => reply.status = "OK"
  | .error _ => false

theorem Exchange.isConfirmed_iff (x : Exchange) : x.isConfirmed = true ↔ x.Confirmed := by
  unfold isConfirmed Confirmed
  cases x.answer <;> simp

/-- The selections on a connection after an exchange. A login that succeeds begins a new one. -/
def Exchange.addTo (x : Exchange) (sels : List Selection) : List Selection :=
  match x.request, x.answer with
  | .login .., .ok _ => []
  | .select argument, _ => sels ++ [⟨argument, x.isConfirmed⟩]
  | _, _ => sels

/-- The selections on a connection after some exchanges. -/
def selectionsFrom (sels : List Selection) (xs : List Exchange) : List Selection :=
  xs.foldl (fun sels x => x.addTo sels) sels

/-- The selections on the connection that some exchanges end on. -/
def selections (xs : List Exchange) : List Selection := selectionsFrom [] xs

theorem selectionsFrom_append (sels : List Selection) (xs ys : List Exchange) :
    selectionsFrom sels (xs ++ ys) = selectionsFrom (selectionsFrom sels xs) ys :=
  List.foldl_append

/-- The last of some selections that the server confirmed. -/
def lastConfirmed (sels : List Selection) : Option Selection :=
  (sels.filter Selection.confirmed).getLast?

@[simp] theorem lastConfirmed_append_confirmed (sels : List Selection) (argument : String) :
    lastConfirmed (sels ++ [⟨argument, true⟩]) = some ⟨argument, true⟩ := by
  simp [lastConfirmed]

@[simp] theorem lastConfirmed_append_refused (sels : List Selection) (argument : String) :
    lastConfirmed (sels ++ [⟨argument, false⟩]) = lastConfirmed sels := by
  simp [lastConfirmed]

/-- Where the last selection is confirmed, it is the last one that is. -/
theorem lastConfirmed_of_getLast? {sels : List Selection} {sel : Selection}
    (h : sels.getLast? = some sel) (hc : sel.confirmed = true) : lastConfirmed sels = some sel := by
  obtain ⟨sels, rfl⟩ := List.getLast?_eq_some_iff.mp h
  simp [lastConfirmed, hc]

/-- An exchange fits a selection: a search is made for a listing of the mailbox that was selected,
and a mailbox is left that was selected. -/
def Exchange.Fits (call : Option Session.Call) (selection : Option Selection) (x : Exchange) :
    Prop :=
  match x.request with
  | .uid (.search _) _ => ∃ mailbox pattern includeSeen,
    call = some (.list mailbox pattern includeSeen) ∧ selection = some ⟨quote mailbox, true⟩
  | .close | .unselect => ∃ argument, selection = some ⟨argument, true⟩
  | _ => True

/-- Every exchange of a call fits the selection that was confirmed last. -/
def FitAll (call : Session.Call) (sels : List Selection) : List Exchange → Prop
  | [] => True
  | x :: xs => x.Fits (some call) (lastConfirmed sels) ∧ FitAll call (x.addTo sels) xs

theorem fitAll_append {call : Session.Call} {sels : List Selection} {xs ys : List Exchange} :
    FitAll call sels (xs ++ ys) ↔
      FitAll call sels xs ∧ FitAll call (selectionsFrom sels xs) ys := by
  induction xs generalizing sels with
  | nil => simp [FitAll, selectionsFrom]
  | cons x xs ih => rw [List.cons_append, FitAll, FitAll, ih, and_assoc, selectionsFrom,
      selectionsFrom, List.foldl_cons]

namespace Client

variable {ρ : Type} {cfg : Settings.Server} {srv : Server ρ} {c c' : Client ρ}
  {sels : List Selection} {xs : List Exchange}

/-! ### What a call asks for -/

/-- The mailbox that the client remembers is the one that was confirmed last. -/
def Remembers (c : Client ρ) (sels : List Selection) : Prop :=
  ∀ mailbox, c.selected = some mailbox → lastConfirmed sels = some ⟨quote mailbox, true⟩

/-- Connecting selects nothing, and a new connection has no selection. -/
theorem Connecting.fits {o : Except Failure Unit} (hc : c.Remembers sels)
    (h : Connecting cfg srv c xs o c') :
    FitAll .connect sels xs ∧ c'.Remembers (selectionsFrom sels xs) := by
  cases h with
  | unopened | dropped | cut => exact ⟨by simp [FitAll, Exchange.Fits], hc⟩
  | connected => exact ⟨by simp [FitAll, Exchange.Fits], by simp [Remembers]⟩

/-- Closing leaves a mailbox that is selected, if there is one. -/
theorem Closing.fits {expunge : Bool} {o : Except Failure Unit} (hc : c.Remembers sels)
    (h : Closing expunge c xs o c') :
    FitAll (.close expunge) sels xs ∧ c'.Remembers (selectionsFrom sels xs) := by
  cases h with
  | unconnected => exact ⟨trivial, hc⟩
  | unselected => exact ⟨by simp [FitAll, Exchange.Fits], by simp [Remembers]⟩
  | selected _ hs =>
    obtain ⟨mailbox, hmailbox⟩ := Option.ne_none_iff_exists'.mp hs
    have hlast := hc mailbox hmailbox
    refine ⟨?_, by simp [Remembers]⟩
    cases expunge <;> simp [FitAll, Exchange.Fits, leaving, hlast]

/-- Selecting a mailbox ends with the client remembering what was confirmed last; if it succeeds,
that is the mailbox. -/
theorem Selecting.fits {mailbox : String} {o : Except Failure Unit} (hc : c.Remembers sels)
    (h : Selecting mailbox c xs o c') (call : Session.Call) :
    FitAll call sels xs ∧ c'.Remembers (selectionsFrom sels xs) ∧
      (o = .ok () → c'.selected = some mailbox) := by
  cases h with
  | unconnected => exact ⟨trivial, hc, by simp⟩
  | already _ hs => exact ⟨trivial, hc, fun _ => hs⟩
  | refused _ ha =>
    rw [← Exchange.isConfirmed_iff, Bool.not_eq_true] at ha
    refine ⟨by simp [FitAll, Exchange.Fits], ?_, by simp⟩
    simpa [Remembers, selectionsFrom, Exchange.addTo, ha] using hc
  | selected _ hr =>
    refine ⟨by simp [FitAll, Exchange.Fits], ?_, fun _ => rfl⟩
    simp [Remembers, selectionsFrom, Exchange.addTo, Exchange.isConfirmed, hr]

/-- A search is made on the mailbox to be listed. -/
theorem Listing.fits {mailbox : String} {o : Except Failure (List String)} (hc : c.Remembers sels)
    (h : Listing mailbox c xs o c') (pattern : String) (includeSeen : Bool) :
    FitAll (.list mailbox pattern includeSeen) sels xs ∧
      c'.Remembers (selectionsFrom sels xs) := by
  cases h with
  | unselected h =>
    obtain ⟨hfits, hc', -⟩ := h.fits hc _
    exact ⟨hfits, hc'⟩
  | unlisted h | listed h =>
    obtain ⟨hfits, hc', hselected⟩ := h.fits hc (.list mailbox pattern includeSeen)
    have hlast := hc' mailbox (hselected rfl)
    rw [selectionsFrom_append]
    exact ⟨fitAll_append.mpr ⟨hfits, by simp [FitAll, Exchange.Fits, hlast]⟩, hc'⟩

/-- An errand neither selects nor leaves a mailbox. -/
theorem Errand.fits {call : Session.Call} (h : Errand call xs) (sels : List Selection) :
    FitAll call sels xs ∧ selectionsFrom sels xs = sels := by
  cases h <;> simp [FitAll, Exchange.Fits, selectionsFrom, Exchange.addTo]

/-- **Every call fits**, and keeps what the client remembers right. -/
theorem fits_of_does {call : Session.Call} {a : Session.Answer} (hc : c.Remembers sels)
    (h : (session cfg srv).Does call c a xs c') :
    FitAll call sels xs ∧ c'.Remembers (selectionsFrom sels xs) := by
  cases hcall : call.uid? with
  | some uid =>
    obtain ⟨herrand, server, rfl⟩ := errand_of_does hcall h
    obtain ⟨hfits, hsels⟩ := herrand.fits sels
    rw [hsels]
    exact ⟨hfits, hc⟩
  | none =>
    cases call with
    | connect =>
      obtain ⟨o, -, h⟩ := (ensures_connect cfg srv).of_carries h
      exact h.fits hc
    | close expunge =>
      obtain ⟨o, -, h⟩ := (ensures_close expunge).of_carries h
      exact h.fits hc
    | list mailbox pattern includeSeen =>
      obtain ⟨o, -, h⟩ := (ensures_list mailbox pattern includeSeen).of_carries h
      exact h.fits hc pattern includeSeen
    | readBody | mark | move => cases hcall

end Client

/-! ### Records -/

/-- Every exchange in a record fits the selection that was confirmed last. What came before the
record is the call and the selections at its start. -/
def Fitting (call : Option Session.Call) (sels : List Selection) : List Step → Prop
  | [] => True
  | s :: t => (∀ x, s.wire? = some x → x.Fits call (lastConfirmed sels)) ∧
    Fitting (s.call?.or call) (selectionsFrom sels (wires [s])) t

theorem fitting_append {call : Option Session.Call} {sels : List Selection} {t u : List Step} :
    Fitting call sels (t ++ u) ↔ Fitting call sels t ∧
      Fitting ((lastCall t).or call) (selectionsFrom sels (wires t)) u := by
  induction t generalizing call sels with
  | nil => simp [Fitting, lastCall, selectionsFrom]
  | cons s t ih =>
    rw [List.cons_append, Fitting, Fitting, ih, lastCall_cons, wires_cons s t,
      selectionsFrom_append, Option.or_assoc, and_assoc]

/-- Steps that are no exchange fit. -/
theorem fitting_of_mute {call : Option Session.Call} {sels : List Selection} {t : List Step}
    (h : wires t = []) : Fitting call sels t := by
  induction t generalizing call sels with
  | nil => trivial
  | cons s t ih =>
    rw [wires_cons] at h
    obtain ⟨hs, ht⟩ := List.append_eq_nil_iff.mp h
    refine ⟨fun x hx => ?_, ih ht⟩
    simp [wires, hx] at hs

/-- Between a call and its answer only the exchanges matter, by induction on the steps. -/
theorem fitting_of_fitAll {call : Session.Call} {sels : List Selection} {t : List Step}
    (ht : ∀ s ∈ t, s.isTalk = false) (h : FitAll call sels (wires t)) :
    Fitting (some call) sels t := by
  induction t generalizing sels with
  | nil => trivial
  | cons s t ih =>
    rw [List.forall_mem_cons] at ht
    have hcall : s.call? = none := by
      cases s <;> first | rfl | cases ht.1
    rw [wires_cons] at h
    obtain ⟨hs, ht'⟩ := fitAll_append.mp h
    refine ⟨fun x hx => ?_, ?_⟩
    · have hw : wires [s] = [x] := by simp [wires, hx]
      rw [hw] at hs
      exact hs.1
    · rw [hcall]
      exact ih ht.2 ht'

theorem Fitting.spec {t : List Step} (h : Fitting none [] t) {pre post : List Step} {x : Exchange}
    (ht : t = pre ++ .wire x :: post) :
    x.Fits (lastCall pre) (lastConfirmed (selections (wires pre))) := by
  subst ht
  have hx := (fitting_append.mp h).2.1 x rfl
  rwa [Option.or_none] at hx

namespace Client

variable {ρ : Type} {cfg : Settings.Server} {srv : Server ρ} {c c' : Client ρ}
  {sels : List Selection}

theorem fitting_of_performs {call : Option Session.Call} {a : Act} {t : List Step}
    (hc : c.Remembers sels) (h : (session cfg srv).Performs a c t c') :
    Fitting call sels t ∧ c'.Remembers (selectionsFrom sels (wires t)) := by
  cases a with
  | call c₀ a =>
    refine ⟨?_, (fits_of_does hc h.does).2⟩
    cases h with
    | call hd hmid =>
      have hfits := fitting_of_fitAll hmid (fits_of_does hc hd).1
      exact ⟨fun x hx => (by cases hx), fitting_append.mpr ⟨hfits, fitting_of_mute rfl⟩⟩
  | finish =>
    obtain ⟨ht, rfl⟩ := h.of_finish
    rw [ht]
    exact ⟨fitting_of_mute ht, hc⟩
  | deliver =>
    obtain ⟨ht, rfl⟩ := h.of_deliver
    rw [ht]
    exact ⟨fitting_of_mute ht, hc⟩

/-- Every record fits, by induction on the path. -/
theorem fitting_of_path {as : List Act} {t : List Step} (h : Path (session cfg srv) c as t c')
    (hc : c.Remembers sels) (call : Option Session.Call) : Fitting call sels t := by
  induction h generalizing sels call with
  | stay => trivial
  | @aside _ _ _ t step hstep _ ih =>
    have hmute : wires [step] = [] := wires_eq_nil_of_aside (by simpa using hstep)
    refine fitting_append (t := [step]) |>.mpr ⟨fitting_of_mute hmute, ?_⟩
    rw [hmute]
    exact ih hc _
  | act hp _ ih =>
    obtain ⟨hfits, hc'⟩ := fitting_of_performs hc hp
    exact fitting_append.mpr ⟨hfits, ih hc' _⟩

variable {κ η : Type}

/-- **The selected mailbox**: for every server and every row of calls on a client that remembers no
mailbox, each search is made for a listing of the mailbox that was confirmed last on the connection,
and a mailbox is left only where one was confirmed. Where the last selection on the connection was
confirmed, it is that one. -/
theorem useAll_fits (cfg : Settings.Server) (srv : Server ρ)
    (uses : List (Staged × Session.Call)) {b : Bench (Client ρ) κ η}
    (hb : b.session.selected = none) :
    ∃ t, (runFrom ((session cfg srv).useAll uses) b).2.steps = b.steps ++ t ∧
      ∀ pre x post, t = pre ++ .wire x :: post →
        x.Fits (lastCall pre) (lastConfirmed (selections (wires pre))) ∧
          ∀ sel, (selections (wires pre)).getLast? = some sel → sel.confirmed = true →
            x.Fits (lastCall pre) (some sel) := by
  obtain ⟨as, hl, -⟩ := (session cfg srv).follows_useAll b.fragile uses b rfl
  obtain ⟨t, ht, hpath⟩ := hl.path
  have hc : b.session.Remembers [] := by simp [Remembers, hb]
  refine ⟨t, ht, fun pre x post hx => ?_⟩
  have hfits := (fitting_of_path hpath hc none).spec hx
  refine ⟨hfits, fun sel hlast hconfirmed => ?_⟩
  rwa [lastConfirmed_of_getLast? hlast hconfirmed] at hfits

/-- A new client of a server that refuses to select a second mailbox. -/
def refused : Client Rehearsal := fresh [(.select, [none, some ⟨.ok ⟨"NO", []⟩, false⟩])]

/-- Listing a mailbox, another one, and the first one again. -/
def relisting : List (Staged × Session.Call) :=
  [Session.Call.connect, .list "A" "" false, .list "B" "" false, .list "A" "" false].map
    (Stage.openFor ⟨"md5", .md5, 0⟩ .usual "7", ·)

/-- The record of listing again after a selection was refused. -/
def refusedRecord : List Step :=
  (runFrom ((session ⟨"mail", 993, true, "user", "word", none⟩ (.rehearsed [])).useAll relisting)
    (Bench.start refused () () : Bench _ Unit Unit)).2.steps

theorem wires_refusedRecord : wires refusedRecord = (wires refusedRecord).take 5 ++
    ⟨.uid (.search ["UNSEEN"]) none, .ok ⟨"OK", [.bytes ByteArray.empty]⟩⟩ :: [] := rfl

/-- In that record the last search is made on the mailbox that was confirmed, after the one that was
refused. -/
theorem useAll_fits_refused : ∃ pre x post, refusedRecord = pre ++ .wire x :: post ∧
    (selections (wires pre)).getLast? = some ⟨quote "B", false⟩ ∧
      x.Fits (lastCall pre) (lastConfirmed (selections (wires pre))) := by
  obtain ⟨t, ht, hfits⟩ := useAll_fits ⟨"mail", 993, true, "user", "word", none⟩ (.rehearsed [])
    relisting (b := (Bench.start refused () () : Bench _ Unit Unit)) rfl
  obtain ⟨pre, post, hsteps, hpre⟩ := wires_split wires_refusedRecord
  refine ⟨pre, _, post, hsteps, ?_, (hfits pre _ post ?_).1⟩
  · rw [hpre]
    decide +kernel
  · exact (ht.symm.trans hsteps :)

/-- So the client may search after a selection that was refused, which left the server without a
mailbox. -/
theorem useAll_stale : ¬∀ pre x post, refusedRecord = pre ++ .wire x :: post →
    x.Fits (lastCall pre) (selections (wires pre)).getLast? := by
  intro hall
  obtain ⟨pre, post, hsteps, hpre⟩ := wires_split wires_refusedRecord
  obtain ⟨mailbox, _, _, -, hlast⟩ := hall pre _ post hsteps
  have hrefused : (selections (wires pre)).getLast? = some ⟨quote "B", false⟩ := by
    rw [hpre]
    decide +kernel
  simp [hrefused] at hlast

end Client

end Imap

end Mailroom
