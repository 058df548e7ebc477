import Mailroom.Proofs.Order

/-!
# The accounts of a round

The result of a round accounts for what happened in it, whatever failed in an ordinary way. Its
error says how far the round came: a connect failure that no attempt to connect succeeded, a listing
failure that listing failed afterwards, and no error that the candidates were listed. What fails
later, closing included, changes nothing about that; nor does it matter of which kind the failures
are that calls and callbacks end in. Without an error the counters are exactly what the callback
made of the candidates (`Round.Books`): each candidate is counted once, by whether the callback got
it and how it ended.
-/

namespace Mailroom

/-! ### Counting outcomes -/

/-- Counting outcomes one after the other adds up how often each occurs. -/
theorem RoundResult.foldl_count (result : RoundResult) (os : List Outcome) :
    os.foldl count result = { result with
      delivered := result.delivered + os.count .delivered
      rejected := result.rejected + os.count .rejected
      unreadable := result.unreadable + os.count .unreadable } := by
  induction os generalizing result with
  | nil => simp
  | cons out os ih =>
    rw [List.foldl_cons, ih]
    cases out <;> simp [count] <;> omega

/-- Every outcome is one of the three. -/
theorem Outcome.sum_count (os : List Outcome) :
    os.count .delivered + os.count .rejected + os.count .unreadable = os.length := by
  induction os with
  | nil => rfl
  | cons out os ih => cases out <;> simp <;> omega

/-! ### Fates -/

/-- What became of a candidate: how the callback ended with it, if it got it. -/
structure Fate where
  /-- The candidate. -/
  uid : String
  /-- How the callback ended, if it got the candidate. -/
  ending : Option (Option Failure)

namespace Fate

/-- The verdict on a candidate, if the callback got it. -/
def verdict? (fate : Fate) : Option Verdict := fate.ending.map fun failure => (fate.uid, failure)

/-- The outcome that a fate is counted as. -/
def outcome (fate : Fate) : Outcome :=
  match fate.ending with
  | none => .unreadable
  | some none => .delivered
  | some (some _) => .rejected

/-! Each candidate is counted by its fate, by induction on the candidates. -/

theorem count_delivered (fates : List Fate) : (fates.map outcome).count .delivered =
    (fates.filterMap verdict?).countP (·.2.isNone) := by
  induction fates with
  | nil => rfl
  | cons fate fates ih => rcases fate with ⟨uid, _ | _ | f⟩ <;>
    simp [outcome, verdict?, List.filterMap_cons, ih]

theorem count_rejected (fates : List Fate) : (fates.map outcome).count .rejected =
    (fates.filterMap verdict?).countP (·.2.isSome) := by
  induction fates with
  | nil => rfl
  | cons fate fates ih => rcases fate with ⟨uid, _ | _ | f⟩ <;>
    simp [outcome, verdict?, List.filterMap_cons, ih]

theorem count_unreadable (fates : List Fate) :
    (fates.map outcome).count .unreadable = fates.countP (·.ending.isNone) := by
  induction fates with
  | nil => rfl
  | cons fate fates ih => rcases fate with ⟨uid, _ | _ | f⟩ <;> simp [outcome, ih]

end Fate

namespace Round

/-! ### What the callback made of the candidates -/

variable {d : Settings.Delivery} {uid : String} {uids : List String} {as bs : List Act}

theorem Handover.fate {out : Outcome} (h : Handover uid as (.ok out)) :
    ∃ fate : Fate, fate.uid = uid ∧ handed as = fate.verdict?.toList ∧ fate.outcome = out := by
  cases h with
  | unread | unfinished => exact ⟨⟨uid, none⟩, rfl, rfl, rfl⟩
  | @rejected _ digest f _ => exact ⟨⟨uid, some (some f)⟩, rfl, rfl, rfl⟩
  | delivered => exact ⟨⟨uid, some none⟩, rfl, rfl, rfl⟩

theorem Block.fate {out : Outcome} (h : Block d uid as (.ok out)) :
    ∃ fate : Fate, fate.uid = uid ∧ handed as = fate.verdict?.toList ∧ fate.outcome = out := by
  generalize ho : (Except.ok out : Except Failure Outcome) = o at h
  cases h with
  | @whole as bs out' o' h k =>
    rcases o' with f | u <;> cases ho
    rw [handed_append, k.handed_eq, List.append_nil]
    exact h.fate
  | cutHandover => cases ho

/-- Each candidate has its fate, by induction on the blocks. -/
theorem Blocks.fates {os : List Outcome} (h : Blocks d uids as (.ok os)) :
    ∃ fates : List Fate, fates.map (·.uid) = uids ∧ handed as = fates.filterMap Fate.verdict? ∧
      fates.map (·.outcome) = os := by
  generalize ho : (Except.ok os : Except Failure (List Outcome)) = o at h
  induction h generalizing os with
  | nil =>
    cases ho
    exact ⟨[], rfl, rfl, rfl⟩
  | @cons _ _ as bs out o' h _ ih =>
    rcases o' with f | os' <;> cases ho
    obtain ⟨fate, rfl, hfate, rfl⟩ := h.fate
    obtain ⟨fates, rfl, hfates, rfl⟩ := ih rfl
    refine ⟨fate :: fates, rfl, ?_, rfl⟩
    rw [handed_append, hfate, hfates, List.filterMap_cons]
    cases fate.verdict? <;> rfl
  | cut => cases ho

/-! ### Books -/

/-- The books of a round that listed candidates: the counters against the verdicts. -/
structure Books (uids : List String) (vs : List Verdict) (result : RoundResult) : Prop where
  /-- There is no error. -/
  error : result.error = none
  /-- All candidates of the listing count. -/
  candidates : result.candidates = uids.length
  /-- Each of them is delivered, rejected or unreadable. -/
  sum : result.delivered + result.rejected + result.unreadable = result.candidates
  /-- Delivered are those with which the callback returned. -/
  delivered : result.delivered = vs.countP (·.2.isNone)
  /-- Rejected are those with which it failed. -/
  rejected : result.rejected = vs.countP (·.2.isSome)
  /-- Unreadable are those that it never got. -/
  unreadable : ∃ fates : List Fate, fates.map (·.uid) = uids ∧ vs = fates.filterMap Fate.verdict? ∧
    result.unreadable = fates.countP (·.ending.isNone)

/-- Counting the outcomes of all blocks keeps the books. -/
theorem Blocks.books {os : List Outcome} (h : Blocks d uids as (.ok os)) :
    Books uids (handed as) (.ofOutcomes uids.length os) := by
  obtain ⟨fates, rfl, hfates, rfl⟩ := h.fates
  have hsum := Outcome.sum_count (fates.map Fate.outcome)
  rw [List.length_map] at hsum
  rw [RoundResult.ofOutcomes, RoundResult.foldl_count, List.length_map, hfates,
    Fate.count_delivered, Fate.count_rejected, Fate.count_unreadable] at *
  simp only [RoundResult.empty, Int.zero_add]
  refine ⟨rfl, by simp, ?_, rfl, rfl, fates, rfl, rfl, rfl⟩
  dsimp only
  omega

/-! ### Accounts -/

/-- What a round that comes to a result accounts for. -/
structure Accounts (d : Settings.Delivery) (as : List Act) (result : RoundResult) : Prop where
  /-- A connect failure means that no attempt to connect succeeded. -/
  unconnected : (∃ f, result.error = some f ∧ f.kind.isA .connect) ↔ .done ∉ answers .connect as
  /-- A listing failure means that one succeeded and that listing failed then. -/
  unlisted : (∃ f, result.error = some f ∧ f.kind.isA .list) ↔
    .done ∈ answers .connect as ∧ ∃ f, answers (listing d) as = [.failed f]
  /-- No error means that listing was answered. -/
  listed : result.error = none ↔
    .done ∈ answers .connect as ∧ ∃ uids, answers (listing d) as = [.listing uids]
  /-- There is no other error, and with an error nothing was done. -/
  void : ∀ f, result.error = some f →
    (f.kind.isA .connect ∨ f.kind.isA .list) ∧ result = .failed f ∧ handed as = []
  /-- Every listed candidate is accounted for. -/
  books : ∀ uids, answers (listing d) as = [.listing uids] → Books uids (handed as) result

namespace Accounts

variable {result : RoundResult} {f : Failure}

theorem of_unconnected (hc : .done ∉ answers .connect as) (hh : handed as = [])
    (hl : answers (listing d) as = []) (hf : f.kind.isA .connect) : Accounts d as (.failed f) where
  unconnected := by simp [RoundResult.failed, hf, hc]
  unlisted := by simp [RoundResult.failed, Kind.isA_list_eq_false hf, hc]
  listed := by simp [RoundResult.failed, hc]
  void := by simp [RoundResult.failed, hf, hh]
  books := by simp [hl]

theorem of_unlisted (hc : .done ∈ answers .connect as) (hh : handed as = []) {g : Failure}
    (hl : answers (listing d) as = [.failed g]) (hf : f.kind.isA .list) :
    Accounts d as (.failed f) where
  unconnected := by simp [RoundResult.failed, Kind.isA_connect_eq_false hf, hc]
  unlisted := by simp [RoundResult.failed, hf, hc, hl]
  listed := by simp [RoundResult.failed, hl]
  void := by simp [RoundResult.failed, hf, hh]
  books := by simp [hl]

theorem of_listed (hc : .done ∈ answers .connect as)
    (hl : answers (listing d) as = [.listing uids]) (hb : Books uids (handed as) result) :
    Accounts d as result where
  unconnected := by simp [hb.error, hc]
  unlisted := by simp [hb.error, hl]
  listed := by simp [hb.error, hc, hl]
  void := by simp [hb.error]
  books := by
    intro uids' h
    rw [hl] at h
    cases h
    exact hb

end Accounts

variable {σ κ η : Type} {r : Round σ κ}

/-- **Rounds keep accounts**: every round that comes to a result does. -/
theorem Protocol.accounts {fragile : Bool} {result : RoundResult}
    (h : Protocol r fragile as (.ok result)) : Accounts r.settings as result := by
  generalize ho : (Except.ok result : Except Failure RoundResult) = o at h
  have hlisting : listing r.settings ≠ .connect := Session.Call.noConfusion
  cases h with
  | unconnected _ h =>
    cases ho
    refine .of_unconnected ?_ h.handed_eq (h.answers_eq_nil hlisting) (connectFailure_kind ..)
    simp [h.done_mem_iff]
  | @closed as bs _ a h k _ =>
    have hdone : .done ∈ answers .connect (as ++ (bs ++ [.call (.close true) a])) := by
      simp [h.done_mem_iff]
    cases k with
    | @unlisted g =>
      cases ho
      refine .of_unlisted hdone ?_ (g := g) ?_ rfl
      · rw [handed_append, h.handed_eq]
        rfl
      · rw [answers_append, h.answers_eq_nil hlisting]
        simp [answers, Act.answer?, listing]
    | @listed uids as' o' hb =>
      rcases o' with f | os <;> cases ho
      have hmute : answers (listing r.settings) as' = [] :=
        answers_eq_nil_of_within rfl (hb.within fun _ hu => hu)
      have hlisted : answers (listing r.settings) (as ++
          (.call (listing r.settings) (.listing uids) :: as' ++ [.call (.close true) a])) =
            [.listing uids] := by
        rw [answers_append, h.answers_eq_nil hlisting, List.nil_append, List.cons_append,
          answers_cons, answers_append, hmute]
        simp [answers, Act.answer?, listing]
      have hhanded : handed (as ++ (.call (listing r.settings) (.listing uids) :: as' ++
          [.call (.close true) a])) = handed as' := by
        rw [handed_append, h.handed_eq, List.nil_append, handed_append]
        exact List.append_nil _
      refine .of_listed hdone hlisted ?_
      rw [hhanded]
      exact hb.books
    | cutListing => cases ho
  | cutConnecting | cutClosing => cases ho

/-- No failure in a record is a cancellation. -/
def Calm (t : List Step) : Prop := ∀ s ∈ t, s.failure?.all (·.isFault) = true

instance : DecidablePred Calm := fun t => inferInstanceAs (Decidable (∀ s ∈ t, _))

theorem Calm.isFault {t : List Step} (h : Calm t) (htalk : talk t = as.flatMap Act.steps) {a : Act}
    (ha : a ∈ as) {f : Failure} (hf : a.failure? = some f) : f.isFault = true := by
  obtain ⟨s, hs, hsf⟩ := Act.exists_step_of_failure hf
  have hst : s ∈ talk t := by
    rw [htalk]
    exact List.mem_flatMap.mpr ⟨a, ha, hs⟩
  have hcalm := h s (List.mem_filter.mp hst).1
  rwa [hsf] at hcalm

/-- **The accounts of a round**: for every session, callback, settings and retrying, a round in
which no call, callback or wait is cancelled ends in a result, of whatever kinds the failures are
that calls and callbacks end in. The error of the result is a connect failure exactly when no
attempt to connect succeeded, a listing failure exactly when listing failed afterwards, and there is
none exactly when listing was answered; with an error every counter is zero and the callback got
nothing. Without one the counters keep the books. -/
theorem run_accounts (r : Round σ κ) (b : Bench σ κ η) :
    ∃ as t, (runFrom (r.run : Work σ κ η RoundResult) b).2.steps = b.steps ++ t ∧
      talk t = as.flatMap Act.steps ∧
      (b.fragile = false → Calm t →
        ∃ result, (runFrom (r.run : Work σ κ η RoundResult) b).1 = .ok result ∧
          Accounts r.settings as result) := by
  obtain ⟨as, t, ht, hpath, hp⟩ := r.run_path b
  refine ⟨as, t, ht, hpath.talk_eq, fun hfragile hcalm => ?_⟩
  obtain ⟨result, hr⟩ := hp.eq_ok hfragile fun a ha f hf => hcalm.isFault hpath.talk_eq ha hf
  rw [hr] at hp
  exact ⟨result, hr, hp.accounts⟩

/-- A round with an unreadable candidate, one that the callback rejects, and one that it accepts;
marking that one fails, and so does closing. The failures are of the kinds that the error of a round
can have. -/
theorem run_accounts_failing :
    let lost : Failure := .plain .connect "lost"
    let gone : Failure := .plain .list "gone"
    let s : Session Unit := ⟨"mail", pure (), fun _ => throw lost,
      fun _ _ _ => pure ["7", "8", "9"],
      fun uid => .done (if uid = "7" then .error lost else .ok 0), fun _ _ => throw gone,
      fun _ _ => pure ()⟩
    let r : Round Unit Unit := ⟨s,
      fun uid _ => .done (if uid = "8" then .error gone else .ok ()),
      ⟨"INBOX", "", "Done", "", 1, 10, 0, .sha256⟩, none, none, .usual⟩
    ∃ as, (runFrom (r.run : Work Unit Unit Unit RoundResult) (Bench.start () () ())).1 =
      .ok ⟨1, none, 3, 1, 1⟩ ∧ Accounts r.settings as ⟨1, none, 3, 1, 1⟩ := by
  intro lost gone s r
  obtain ⟨as, t, ht, -, haccounts⟩ := r.run_accounts (Bench.start () () () : Bench _ _ Unit)
  have hcalm : Calm (runFrom (r.run : Work Unit Unit Unit RoundResult)
    (Bench.start () () ())).2.steps := by decide +kernel
  have hresult : (runFrom (r.run : Work Unit Unit Unit RoundResult)
    (Bench.start () () ())).1.toOption = some ⟨1, none, 3, 1, 1⟩ := by decide +kernel
  obtain ⟨result, hr, haccounts⟩ := haccounts rfl (by rwa [ht] at hcalm)
  rw [hr] at hresult
  cases hresult
  exact ⟨as, hr, haccounts⟩

end Round

end Mailroom
