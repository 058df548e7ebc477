import Mailroom.Poller.Probe
import Mailroom.Proofs.Chronicle
import Mailroom.Store
import Mathlib.Data.List.Induction

/-!
# What the books say

The books of a poller say what happened: how many rounds completed, how many of them failed, what
they delivered, and how the last one went; and the probes report just that. They say it at every
moment of every row of uses (`Poller.keeps_books`).

The books depend on the deeds alone, so this is an invariant that each deed keeps (`Books.apply`).
What the callback did comes in by the accounts of each round. A round that is cancelled is not
entered, so what the callback accepted in it is missing (`Poller.books_miss_broken`); where no call
and no callback is cancelled, nothing is.
-/

namespace Mailroom

variable {σ κ : Type}

/-! ### Rounds and their verdicts -/

/-- How many of the verdicts say that the callback returned. -/
def returns (vs : List Verdict) : Nat := vs.countP (·.2.isNone)

namespace Round

/-- What a round delivers is what the callback returned from, also where there is an error. -/
theorem Accounts.delivered_eq {d : Settings.Delivery} {as : List Act} {result : RoundResult}
    (h : Accounts d as result) : result.delivered = returns (handed as) := by
  cases he : result.error with
  | none =>
    obtain ⟨-, uids, hlisted⟩ := h.listed.mp he
    exact (h.books uids hlisted).delivered
  | some f =>
    obtain ⟨-, hresult, hhanded⟩ := h.void f he
    rw [hresult, hhanded]
    rfl

/-- A round that is cut short although no call and no callback is cancelled never came to a
candidate. -/
theorem Protocol.handed_eq_nil {r : Round σ κ} {fragile : Bool} {as : List Act} {f : Failure}
    (h : Protocol r fragile as (.error f))
    (hcalm : ∀ a ∈ as, ∀ f, a.failure? = some f → f.isFault = true) : handed as = [] := by
  have hnever {a : Act} (ha : a ∈ as) {g : Failure} (hcut : a.CutBy g) : False := by
    obtain ⟨hg, hfault⟩ := hcut
    rw [hcalm a ha g hg] at hfault
    cases hfault
  cases h with
  | cutConnecting _ h => exact h.handed_eq
  | closed _ k _ =>
    obtain ⟨a, ha, hcut⟩ := k.cutBy
    exact (hnever (by simp [ha]) hcut).elim
  | cutClosing _ _ hf =>
    have hcut : (Act.call (.close true) (.failed f)).CutBy f := ⟨rfl, hf⟩
    exact (hnever (by simp) hcut).elim

end Round

namespace Poller

/-! ### The books -/

/-- The result that a deed enters into the books. -/
def Deed.result? : Deed → Option RoundResult
  | round result _ | entered result => some result
  | begun _ | broken _ | stopping | stopped => none

/-- The results that were entered, in order. -/
def results (ds : List Deed) : List RoundResult := ds.filterMap Deed.result?

/-- What some rounds delivered in all. -/
def deliveredIn (rs : List RoundResult) : Int := rs.foldl (fun n r => n + r.delivered) 0

theorem deliveredIn_snoc (rs : List RoundResult) (r : RoundResult) :
    deliveredIn (rs ++ [r]) = deliveredIn rs + r.delivered := by
  simp [deliveredIn]

/-- The deed ends a loop or a run. -/
def Deed.isShutdown : Deed → Bool
  | stopping | stopped => true
  | begun _ | round .. | broken _ | entered _ => false

/-- Where a poller stands after its last round, while its loop has not ended. -/
def standing : Option RoundResult → Status
  | none => .starting
  | some result => if result.error.isNone then .running else .degraded

/-- The summary of the last of some results, with the reading of the clock that was taken for it. -/
def lastSummary (readings : List Int) (rs : List RoundResult) : Option Summary :=
  rs.getLast?.map fun r => ⟨readings.getD (rs.length - 1) 0, r.delivered, r.candidates, r.rejected,
    r.unreadable, r.error.map (·.text)⟩

/-- The books say what the deeds were. -/
structure Books (readings : List Int) (ds : List Deed) (l : Ledger) : Prop where
  /-- How many rounds were entered. -/
  rounds : l.rounds = (results ds).length
  /-- How many of them failed. -/
  failedRounds : l.failedRounds = (results ds).countP (·.error.isSome)
  /-- What they delivered. -/
  delivered : l.delivered = deliveredIn (results ds)
  /-- How the last one went. -/
  lastRound : l.lastRound = lastSummary readings (results ds)
  /-- One reading of the clock was taken for each. -/
  readings : l.readings = readings.drop (results ds).length
  /-- As long as no loop has ended, the status is that after the last round. -/
  status : (∀ d ∈ ds, d.isShutdown = false) → l.status = standing (results ds).getLast?

variable {readings : List Int} {ds : List Deed} {l : Ledger}

theorem books_fresh (readings : List Int) : Books readings [] (.fresh readings) :=
  ⟨rfl, rfl, rfl, rfl, rfl, fun _ => rfl⟩

/-- A deed that enters nothing. -/
theorem results_snoc_none {d : Deed} (h : d.result? = none) : results (ds ++ [d]) = results ds := by
  rw [results, List.filterMap_append]
  simp [results, h]

theorem results_snoc_some {d : Deed} {result : RoundResult} (h : d.result? = some result) :
    results (ds ++ [d]) = results ds ++ [result] := by
  rw [results, List.filterMap_append]
  simp [results, h]

/-- A round is entered. -/
theorem Books.enter (h : Books readings ds l) {d : Deed} {result : RoundResult}
    (hd : d.result? = some result) : Books readings (ds ++ [d]) (l.enter result) := by
  have hresults : results (ds ++ [d]) = results ds ++ [result] := results_snoc_some hd
  refine ⟨?_, ?_, ?_, ?_, ?_, fun _ => ?_⟩ <;> rw [hresults]
  · simp [Ledger.enter, h.rounds]
  · cases he : result.error <;> simp [Ledger.enter, RoundResult.ok, h.failedRounds, he]
  · rw [deliveredIn_snoc, ← h.delivered, Ledger.enter]
  · have hreading : l.readings.headD 0 = readings.getD (results ds).length 0 := by
      rw [h.readings]
      simp [List.head?_drop]
    simpa [Ledger.enter, lastSummary, Summary.ofResult] using hreading
  · simp [Ledger.enter, h.readings]
  · simp [Ledger.enter, standing, RoundResult.ok]

/-- Nothing is entered; the status changes only if a loop or a run has ended. -/
theorem Books.stand (h : Books readings ds l) {d : Deed} (hd : d.result? = none) {s : Status}
    (hs : d.isShutdown = false → s = l.status) :
    Books readings (ds ++ [d]) { l with status := s } := by
  have hresults : results (ds ++ [d]) = results ds := results_snoc_none hd
  refine ⟨?_, ?_, ?_, ?_, ?_, fun hnone => ?_⟩ <;> rw [hresults]
  · exact h.rounds
  · exact h.failedRounds
  · exact h.delivered
  · exact h.lastRound
  · exact h.readings
  · rw [← h.status fun d' hd' => hnone d' (List.mem_append_left [d] hd')]
    exact hs (hnone d (List.mem_append_right ds (List.mem_singleton.mpr rfl)))

/-- **Each deed keeps the books.** -/
theorem Books.apply (h : Books readings ds l) (d : Deed) :
    Books readings (ds ++ [d]) (d.apply l) := by
  cases d with
  | round result vs => exact h.enter rfl
  | entered result => exact h.enter rfl
  | begun op => exact h.stand (s := l.status) rfl fun _ => rfl
  | broken vs => exact h.stand (s := l.status) rfl fun _ => rfl
  | stopping => exact h.stand rfl nofun
  | stopped => exact h.stand rfl nofun

/-- Deeds in a row keep the books, by induction on them. -/
theorem books_of_deeds (readings : List Int) (ds : List Deed) :
    Books readings ds (ds.foldl Deed.apply (.fresh readings)) := by
  induction ds using List.reverseRecOn with
  | nil => exact books_fresh readings
  | append_singleton ds d ih =>
    rw [List.foldl_append]
    exact ih.apply d

/-! ### What the callback did -/

/-- The verdicts of the rounds that completed. -/
def Deed.completed : Deed → List Verdict
  | round _ vs => vs
  | begun _ | broken _ | entered _ | stopping | stopped => []

/-- What the record shows of a deed: its verdicts. If it is a round that completed, its result
delivers what the callback returned from. If it is one that was cancelled although no call and no
callback was, there are none. -/
structure Deed.Shown (d : Deed) (t : List Step) : Prop where
  /-- The verdicts of the deed stand in the record, and no others. -/
  verdicts : Mailroom.verdicts t = d.verdicts
  /-- A round that completed accounts for its verdicts. -/
  accounts : ∀ (result : RoundResult) vs, d = .round result vs →
    result.delivered = (returns vs : Int)
  /-- A round that was cancelled from outside has none. -/
  broken : Round.Calm t → d.verdicts = d.completed

/-- A deed in which the callback has no share. -/
theorem Deed.Shown.of_void {d : Deed} {t : List Step} (ht : Mailroom.verdicts t = [])
    (hd : d.verdicts = []) (hc : d.completed = []) (hround : ∀ result vs, d ≠ .round result vs) :
    d.Shown t :=
  ⟨ht.trans hd.symm, fun result vs h => absurd h (hround result vs), fun _ => hd.trans hc.symm⟩

variable {p : Poller σ κ} {b b' : Bench σ κ Ledger}

theorem Aside.verdicts_eq_nil {t : List Step} (h : Aside b b') (ht : b'.steps = b.steps ++ t) :
    verdicts t = [] := by
  obtain ⟨u, hu, hidle⟩ := h.steps
  obtain rfl : t = u := List.append_cancel_left (ht.symm.trans hu)
  exact Mailroom.verdicts_eq_nil fun s hs =>
    Step.isTalk_of_isAside (Step.isAside_of_isNote (Step.isNote_of_isIdle (hidle s hs)))

/-- What is added to the record in a round is read as acts that keep the protocol. -/
theorem acts_of_round {o : Except Failure RoundResult} {t : List Step}
    (hround : runFrom p.round.run b = (o, b')) (ht : b'.steps = b.steps ++ t) :
    ∃ as, talk t = as.flatMap Act.steps ∧ Mailroom.verdicts t = handed as ∧
      p.round.Protocol b.fragile as o := by
  obtain ⟨as, u, hu, hpath, hprotocol⟩ := p.round.run_path b
  rw [hround] at hu hpath hprotocol
  obtain rfl : t = u := List.append_cancel_left (ht.symm.trans hu)
  exact ⟨as, hpath.talk_eq, hpath.verdicts_eq, hprotocol⟩

/-- A deed shows in the record. -/
theorem Deed.Takes.shown {d : Deed} (h : d.Takes p b b') :
    ∃ t, b'.steps = b.steps ++ t ∧ d.Shown t := by
  cases h with
  | begun op =>
    exact ⟨[], (List.append_nil _).symm, .of_void rfl rfl rfl fun _ _ => Deed.noConfusion⟩
  | entered result =>
    refine ⟨[.status (b.ledger.enter result).status], ?_, .of_void rfl rfl rfl ?_⟩
    · rw [runFrom_recordRound]
    · exact fun _ _ => Deed.noConfusion
  | stopping =>
    exact ⟨[.status .stopping], rfl, .of_void rfl rfl rfl fun _ _ => Deed.noConfusion⟩
  | stopped =>
    exact ⟨[.status .stopped], rfl, .of_void rfl rfl rfl fun _ _ => Deed.noConfusion⟩
  | @round b after told result t hround ht haside =>
    obtain ⟨as, -, hverdicts, hprotocol⟩ := acts_of_round hround ht
    obtain ⟨u, hu, -⟩ := haside.steps
    have hnone := haside.verdicts_eq_nil hu
    refine ⟨t ++ u ++ [.status (told.ledger.enter result).status], ?_, ?_, ?_, fun _ => rfl⟩
    · simp [runFrom_recordRound, hu, ht]
    · rw [verdicts_append, verdicts_append, hnone]
      simp [Deed.verdicts, Mailroom.verdicts, Step.verdict?]
    · rintro _ _ ⟨⟩
      rw [hverdicts]
      exact hprotocol.accounts.delivered_eq
  | @broken b after f t hround ht =>
    obtain ⟨as, htalk, hverdicts, hprotocol⟩ := acts_of_round hround ht
    refine ⟨t, ht, rfl, fun _ _ => Deed.noConfusion, fun hcalm => ?_⟩
    show Mailroom.verdicts t = []
    rw [hverdicts]
    exact hprotocol.handed_eq_nil fun a ha f hf => hcalm.isFault htalk ha hf

/-- **The record of a chronicle** shows the verdicts of its deeds, in order. -/
theorem Chronicle.shown (h : p.Chronicle b ds b') :
    ∃ t, b'.steps = b.steps ++ t ∧ verdicts t = ds.flatMap Deed.verdicts ∧
      (∀ (result : RoundResult) vs, .round result vs ∈ ds →
        result.delivered = (returns vs : Int)) ∧
      (Round.Calm t → ds.flatMap Deed.verdicts = ds.flatMap Deed.completed) := by
  induction h with
  | nil b => exact ⟨[], (List.append_nil _).symm, rfl, by simp, fun _ => rfl⟩
  | aside ha _ ih =>
    obtain ⟨u, hu, -⟩ := ha.steps
    obtain ⟨t, ht, hverdicts, haccounts, hcalm⟩ := ih
    refine ⟨u ++ t, by rw [ht, hu, List.append_assoc], ?_, haccounts, fun h => ?_⟩
    · rw [verdicts_append, ha.verdicts_eq_nil hu, hverdicts, List.nil_append]
    · exact hcalm fun s hs => h s (List.mem_append_right u hs)
  | deed hd _ ih =>
    obtain ⟨u, hu, hshown⟩ := hd.shown
    obtain ⟨t, ht, hverdicts, haccounts, hcalm⟩ := ih
    refine ⟨u ++ t, by rw [ht, hu, List.append_assoc], ?_, ?_, fun h => ?_⟩
    · rw [verdicts_append, hshown.verdicts, hverdicts, List.flatMap_cons]
    · intro result vs hmem
      rcases List.mem_cons.mp hmem with hhere | hthere
      · exact hshown.accounts result vs hhere.symm
      · exact haccounts result vs hthere
    · rw [List.flatMap_cons, List.flatMap_cons,
        hshown.broken fun s hs => h s (List.mem_append_left t hs),
        hcalm fun s hs => h s (List.mem_append_right u hs)]

/-- What own rounds deliver is what the callback returned from, by induction on the deeds. -/
theorem deliveredIn_results
    (hround : ∀ (result : RoundResult) vs, .round result vs ∈ ds →
      result.delivered = (returns vs : Int))
    (hown : ∀ result, .entered result ∉ ds) :
    deliveredIn (results ds) = (returns (ds.flatMap Deed.completed) : Int) := by
  induction ds using List.reverseRecOn with
  | nil => rfl
  | append_singleton ds d ih =>
    have hlast : d ∈ ds ++ [d] := List.mem_append_right ds (List.mem_singleton.mpr rfl)
    have hrest := ih (fun result vs h => hround result vs (List.mem_append_left [d] h))
      fun result h => hown result (List.mem_append_left [d] h)
    rw [List.flatMap_append, List.flatMap_singleton]
    cases d with
    | round result vs =>
      rw [results_snoc_some rfl, deliveredIn_snoc, hrest, hround result vs hlast]
      simp [returns, Deed.completed]
    | entered result => exact absurd hlast (hown result)
    | begun | broken | stopping | stopped =>
      rw [results_snoc_none rfl, hrest]
      simp [Deed.completed]

/-! ### What the probes say -/

/-- The last of some rounds, as the probes report it. -/
def reportLast (readings : List Int) (rs : List RoundResult) : Json :=
  match rs.getLast? with
  | none => .null
  | some r => .object [("finished_at", Timestamp.written (readings.getD (rs.length - 1) 0)),
      ("delivered", r.delivered), ("candidates", r.candidates), ("rejected", r.rejected),
      ("unreadable", r.unreadable), ("error", .ofText? (r.error.map (·.text)))]

/-- Some rounds, as the probes report them. -/
def report (d : Settings.Delivery) (readings : List Int) (rs : List RoundResult) : Json :=
  .object [("mailbox", d.mailbox), ("pattern", d.pattern), ("outbox", Ledger.boxName d.outbox),
    ("errbox", Ledger.boxName d.errbox), ("rounds", rs.length),
    ("failed_rounds", rs.countP (·.error.isSome)), ("delivered_total", deliveredIn rs),
    ("last_round", reportLast readings rs)]

theorem Books.details_eq (h : Books readings ds l) (d : Settings.Delivery) :
    l.details d = report d readings (results ds) := by
  rw [Ledger.details, report, reportLast, h.rounds, h.failedRounds, h.delivered, h.lastRound,
    lastSummary]
  cases (results ds).getLast? <;> rfl

theorem Books.lastRound_eq_none_iff (h : Books readings ds l) :
    l.lastRound = none ↔ l.rounds = 0 := by
  rw [h.lastRound, h.rounds, lastSummary]
  simp

/-- At a moment after some deeds the books say what was done, and the probes say what is in the
books. -/
structure Accountable (p : Poller σ κ) (readings : List Int) (b : Bench σ κ Ledger)
    (ds : List Deed) (b' : Bench σ κ Ledger) : Prop where
  /-- The books say what the deeds were. -/
  books : Books readings ds b'.ledger
  /-- There is a last round as soon as there is a round. -/
  unused : b'.ledger.lastRound = none ↔ b'.ledger.rounds = 0
  /-- Own rounds that completed delivered what the callback returned from in them. -/
  completed : (∀ result, .entered result ∉ ds) →
    b'.ledger.delivered = (returns (ds.flatMap Deed.completed) : Int)
  /-- Where no call and no callback was cancelled, this is all that the callback returned from. -/
  all : (∀ result, .entered result ∉ ds) → ∀ t, b'.steps = b.steps ++ t → Round.Calm t →
    b'.ledger.delivered = (returns (Mailroom.verdicts t) : Int)
  /-- The poller is alive until its loop has ended, and reports its rounds. -/
  health : Probe.answer p.settings b'.ledger "GET" "/health" =
    ⟨if b'.ledger.status = .starting ∨ b'.ledger.status = .running ∨ b'.ledger.status = .degraded
      then 200 else 503,
      some (.object [("poller_name", p.settings.name), ("status", b'.ledger.status.name),
        ("details", report p.settings.delivery readings (results ds))])⟩
  /-- The poller is ready after a round that went well. -/
  ready : Probe.answer p.settings b'.ledger "GET" "/ready" =
    if b'.ledger.status = .running then ⟨200, some (.object [("ready", true)])⟩
    else ⟨503, some (.object [("ready", false)])⟩

theorem answer_health (p : Settings.Poller) (l : Ledger) :
    Probe.answer p l "GET" "/health" = Probe.health p l := rfl

theorem answer_ready (p : Settings.Poller) (l : Ledger) :
    Probe.answer p l "GET" "/ready" = Probe.ready l := rfl

/-- A poller is accountable at the end of a chronicle that starts with new books. -/
theorem Chronicle.accountable (h : p.Chronicle b ds b') (hnew : b.ledger = .fresh readings) :
    p.Accountable readings b ds b' := by
  have hbooks : Books readings ds b'.ledger := by
    rw [h.ledger_eq, hnew]
    exact books_of_deeds readings ds
  obtain ⟨u, hu, hverdicts, hrounds, hcalm⟩ := h.shown
  have hcompleted (hown : ∀ result, .entered result ∉ ds) :
      b'.ledger.delivered = (returns (ds.flatMap Deed.completed) : Int) := by
    rw [hbooks.delivered, deliveredIn_results hrounds hown]
  refine ⟨hbooks, hbooks.lastRound_eq_none_iff, hcompleted, ?_, ?_, ?_⟩
  · intro hown t ht hcalmed
    obtain rfl : u = t := List.append_cancel_left (hu.symm.trans ht)
    rw [hcompleted hown, hverdicts, hcalm hcalmed]
  · rw [answer_health, Probe.health, hbooks.details_eq]
    cases b'.ledger.status <;> rfl
  · rw [answer_ready, Probe.ready]
    cases b'.ledger.status <;> rfl

/-- **The books are right at every moment.** A poller with new books is put to a row of uses. After
any of the deeds on the way the books say what was done up to there, and the probes say what is in
the books. -/
theorem keeps_books (p : Poller σ κ) (ops : List Op) (hnew : b.ledger = .fresh readings) :
    ∃ ds, p.Chronicle b ds (runFrom (p.performAll ops) b).2 ∧ History ops ds ∧
      ∀ ds₁ ds₂, ds = ds₁ ++ ds₂ → ∃ b₁, p.Chronicle b ds₁ b₁ ∧
        p.Chronicle b₁ ds₂ (runFrom (p.performAll ops) b).2 ∧
        p.Accountable readings b ds₁ b₁ := by
  obtain ⟨ds, hds, hhistory⟩ := p.chronicle_performAll ops b
  refine ⟨ds, hds, hhistory, ?_⟩
  rintro ds₁ ds₂ rfl
  obtain ⟨b₁, hbefore, hafter⟩ := hds.split
  exact ⟨b₁, hbefore, hafter, hbefore.accountable hnew⟩

/-- A round that delivers, and then a run of one round that finds nothing new. -/
theorem keeps_books_run :
    let d : Settings.Delivery := ⟨"INBOX", "", "", "", 1, 10, 64, .sha256⟩
    let p : Poller Store Unit := ⟨Store.session "mail", fun _ _ k => .done (.ok ()) k,
      ⟨"poller", 8080, d, ⟨3, 1, 60, 2⟩, ⟨"INFO", false⟩⟩, .usual⟩
    let s : Store := ⟨[("INBOX", [⟨"7", ⟨#[48, 49]⟩, "report", false⟩])], [], [], none, 4, none⟩
    let b : Bench Store Unit Ledger := .start s () (.fresh [5, 6])
    let ops : List Op := [.once, .run [] ⟨some 1, none⟩ (.ok ()) 5]
    ∃ ds b', History ops ds ∧ p.Accountable [5, 6] b ds b' ∧
      b'.ledger = ⟨.stopped, 2, 0, 1, some ⟨6, 0, 0, 0, 0, none⟩, []⟩ := by
  intro d p s b ops
  have hnew : b.ledger = .fresh [5, 6] := rfl
  obtain ⟨ds, -, hhistory, hmoments⟩ := keeps_books p ops hnew
  obtain ⟨b', -, hrest, haccountable⟩ := hmoments ds [] (List.append_nil ds).symm
  have hend : (runFrom (p.performAll ops) b).2.ledger =
      ⟨.stopped, 2, 0, 1, some ⟨6, 0, 0, 0, 0, none⟩, []⟩ := by decide +kernel
  exact ⟨ds, b', hhistory, haccountable, hrest.ledger_eq.symm.trans hend⟩

/-- The callback returns, then marking the message is cancelled: the books miss the delivery. -/
theorem books_miss_broken :
    let d : Settings.Delivery := ⟨"INBOX", "", "", "", 1, 10, 64, .sha256⟩
    let p : Poller Store Unit := ⟨Store.session "mail", fun _ _ k => .done (.ok ()) k,
      ⟨"poller", 8080, d, ⟨3, 1, 60, 2⟩, ⟨"INFO", false⟩⟩, .usual⟩
    let s : Store := ⟨[("INBOX", [⟨"7", ⟨#[48, 49]⟩, "report", false⟩])],
      [(.mark "7", [some ⟨⟨.plain .cancelled "", none⟩, false⟩])], [], none, 4, none⟩
    let b : Bench Store Unit Ledger := .start s () (.fresh [5])
    returns (verdicts (runFrom (p.performAll [.once]) b).2.steps) = 1 ∧
      (runFrom (p.performAll [.once]) b).2.ledger.delivered = 0 := by
  intro d p s b
  constructor
  · decide +kernel
  · decide +kernel

end Poller

end Mailroom
