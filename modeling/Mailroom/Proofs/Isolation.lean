import Mailroom.Proofs.Siblings

/-!
# Isolation of candidates

What goes wrong with one candidate does not touch the others. Two callbacks are `Callback.Siblings`
when they differ only in how they handle one candidate. Rounds with such callbacks over stores that
differ in that candidate only make the same calls about every other candidate, with the same
answers, and hand on the same bodies, of which the callbacks see the same; and they leave stores
that differ in that candidate only (`Store.run_isolates`).

The candidate may be listed in one round and not in the other, so the rows of candidates are
`Aligned`: where it comes, one round goes ahead alone.
-/

namespace Mailroom

variable {σ₁ σ₂ κ₁ κ₂ η₁ η₂ : Type}

/-- Whether a scene is about a candidate, but another one. -/
def Scene.isElsewhere (a : String) (v : Scene) : Bool := v.uid?.any (· ≠ a)

/-! ### Rows of candidates -/

/-- Two rows of candidates are the same but for one candidate, which may occur anywhere. -/
inductive Aligned (a : String) : List String → List String → Prop where
  /-- Both are at their end. -/
  | nil : Aligned a [] []
  /-- Another candidate comes in both. -/
  | both {uid : String} {us vs : List String} (huid : uid ≠ a) (h : Aligned a us vs) :
    Aligned a (uid :: us) (uid :: vs)
  /-- The candidate comes in the first. -/
  | left {us vs : List String} (h : Aligned a us vs) : Aligned a (a :: us) vs
  /-- The candidate comes in the second. -/
  | right {us vs : List String} (h : Aligned a us vs) : Aligned a us (a :: vs)

theorem aligned_nil {a : String} {vs : List String} (h : vs.filter (· ≠ a) = []) :
    Aligned a [] vs := by
  induction vs with
  | nil => exact .nil
  | cons v vs ih =>
    by_cases hv : v = a
    · subst hv
      exact .right (ih (by simpa using h))
    · simp [hv] at h

/-- Rows are aligned when they agree on the other candidates, by induction on both. -/
theorem aligned_of_filter {a : String} {us vs : List String}
    (h : us.filter (· ≠ a) = vs.filter (· ≠ a)) : Aligned a us vs := by
  induction us generalizing vs with
  | nil => exact aligned_nil h.symm
  | cons u us ih =>
    by_cases hu : u = a
    · subst hu
      exact .left (ih (by simpa using h))
    · induction vs with
      | nil => simp [hu] at h
      | cons v vs ihv =>
        by_cases hv : v = a
        · subst hv
          exact .right (ihv (by simpa using h))
        · obtain ⟨rfl, hrest⟩ : u = v ∧ us.filter (· ≠ a) = vs.filter (· ≠ a) := by
            simpa [hu, hv] using h
          exact .both hu (ih hrest)

theorem RoundResult.error_count (result : RoundResult) (out : Outcome) :
    (result.count out).error = result.error := by
  cases out <;> rfl

namespace Comparison

variable {C : Comparison σ₁ κ₁ σ₂ κ₂} {S : σ₁ → σ₂ → Prop} {a : String}

/-- Aligned rows of candidates are processed alike, by induction on the alignment: the others in
step, the candidate by one round alone. -/
theorem concur_processAll_aligned (ht : C.Twins) (hothers : ∀ uid, uid ≠ a → C.Treats S S uid)
    (hleft : C.Spares S a) (hright : C.swap.Spares (fun y₂ y₁ => S y₁ y₂) a) {us vs : List String}
    (h : Aligned a us vs) (result₁ result₂ : RoundResult) (herror : result₁.error = result₂.error) :
    Concur C S (C.first.processAll us result₁ : Work σ₁ κ₁ η₁ RoundResult)
      (C.second.processAll vs result₂ : Work σ₂ κ₂ η₂ RoundResult)
      (fun result₁ result₂ y₁ y₂ => result₁.error = result₂.error ∧ S y₁ y₂) S := by
  induction h generalizing result₁ result₂ with
  | nil => exact .pure fun _ _ hy => ⟨herror, hy⟩
  | both huid _ ih =>
    refine .bind (concur_process ht (hothers _ huid)) fun out₁ out₂ => .assume ?_
    rintro rfl
    exact ih _ _ (by rw [RoundResult.error_count, RoundResult.error_count, herror])
  | left _ ih =>
    exact .left_bind (apart_process hleft) fun out =>
      ih _ _ (by rw [RoundResult.error_count, herror])
  | right _ ih =>
    exact .right_bind (apart_process hright) fun out =>
      ih _ _ (by rw [RoundResult.error_count, herror])

end Comparison

/-! ### Callbacks -/

/-- Two callbacks differ only in how they handle one candidate. What they keep is related: of the
other candidates they see the same and end alike, and handling that candidate, which fails in an
ordinary way at most, leaves what is kept related. -/
structure Callback.Siblings (a : String) (K : κ₁ → κ₂ → Prop) (c₁ : Callback κ₁)
    (c₂ : Callback κ₂) : Prop where
  /-- The other candidates. -/
  others : ∀ uid, uid ≠ a → Callback.Concur K c₁ c₂ uid
  /-- That candidate, for the first callback. -/
  first : ∀ {digest : Bytes} {body : Spool} {seen : List Spool.Answer} {o : Except Failure Unit}
    {k₁ k₁' : κ₁} {k₂ : κ₂}, K k₁ k₂ → (c₁ a digest k₁).Goes false body seen o k₁' →
    K k₁' k₂ ∧ Ordinary o
  /-- That candidate, for the second callback. -/
  second : ∀ {digest : Bytes} {body : Spool} {seen : List Spool.Answer} {o : Except Failure Unit}
    {k₁ : κ₁} {k₂ k₂' : κ₂}, K k₁ k₂ → (c₂ a digest k₂).Goes false body seen o k₂' →
    K k₁ k₂' ∧ Ordinary o

theorem Callback.Siblings.symm {a : String} {K : κ₁ → κ₂ → Prop} {c₁ : Callback κ₁}
    {c₂ : Callback κ₂} (h : Callback.Siblings a K c₁ c₂) :
    Callback.Siblings a (fun k₂ k₁ => K k₁ k₂) c₂ c₁ where
  others uid huid _ _ _ _ _ _ _ _ _ _ hk hgo₂ hgo₁ := by
    obtain ⟨hseen, ho, hk'⟩ := h.others uid huid hk hgo₁ hgo₂
    exact ⟨hseen.symm, ho.symm, hk'⟩
  first := h.second
  second := h.first

namespace Store

/-! ### Rounds over siblings -/

variable {a : String} {K : κ₁ → κ₂ → Prop} {c₁ : Callback κ₁} {c₂ : Callback κ₂}

/-- The rounds that are compared, as far as the other candidates go. -/
def comparison (a title : String) (K : κ₁ → κ₂ → Prop) (c₁ : Callback κ₁) (c₂ : Callback κ₂)
    (d : Settings.Delivery) (stage : Option Stage) (retry : Option Settings.Retry) (disk : Disk) :
    Comparison Store κ₁ Store κ₂ where
  first := ⟨session title, c₁, d, stage, retry, disk⟩
  second := ⟨session title, c₂, d, stage, retry, disk⟩
  picks uid? := uid?.any (· ≠ a)
  kept := K

theorem treats_comparison (hc : Callback.Siblings a K c₁ c₂) (title : String)
    (d : Settings.Delivery) (stage : Option Stage) (retry : Option Settings.Retry) (disk : Disk)
    {uid : String} (huid : uid ≠ a) :
    (comparison a title K c₁ c₂ d stage retry disk).Treats (Siblings a) (Siblings a) uid where
  read _ _ _ _ h := (mirrors_readBody huid h).fill ..
  callback := hc.others uid huid
  mark := concur_mark huid true
  move box _ := concur_move huid box
  stay _ _ h := h

theorem spares_comparison (hc : Callback.Siblings a K c₁ c₂) (title : String)
    (d : Settings.Delivery) (stage : Option Stage) (retry : Option Settings.Retry) (disk : Disk) :
    (comparison a title K c₁ c₂ d stage retry disk).Spares (Siblings a) a where
  picks := by simp [comparison]
  read _ _ _ h := (endsIn_readBody h).fill ..
  callback := hc.first
  mark _ _ h := ensures_mark_self true h
  move box _ _ h := ensures_move_self box h

theorem siblings_comm (a : String) : (fun s t => Siblings a t s) = Siblings a := by
  funext s t
  exact propext ⟨Siblings.symm, Siblings.symm⟩

theorem siblings_of_alike {o₁ o₂ : Except Failure RoundResult} {s t : Store}
    (h : Alike (fun result₁ result₂ s t => result₁.error = result₂.error ∧ Siblings a s t)
      (Siblings a) (o₁, s) (o₂, t)) : o₁.map (·.error) = o₂.map (·.error) ∧ Siblings a s t := by
  cases h with
  | ok h => exact ⟨congrArg Except.ok h.1, h.2⟩
  | error h => exact ⟨rfl, h⟩

/-- Two rounds over stores agree, but for one candidate: on the calls about the others, with their
answers; on the bodies that are handed on, with their digests, what the callbacks see of them, and
how they end; and on what is left of the others. -/
structure AgreeElsewhere (a : String) (r₁ : Round Store κ₁) (r₂ : Round Store κ₂)
    (b₁ b₁' : Bench Store κ₁ η₁) (b₂ b₂' : Bench Store κ₂ η₂) : Prop where
  /-- What is played. -/
  played : ∃ vs₁ vs₂ bodies₁ bodies₂, r₁.Plays b₁ vs₁ bodies₁ b₁' ∧ r₂.Plays b₂ vs₂ bodies₂ b₂' ∧
    vs₁.filter (·.isElsewhere a) = vs₂.filter (·.isElsewhere a) ∧
    bodies₁.filter (·.1 ≠ a) = bodies₂.filter (·.1 ≠ a)
  /-- What is left in the stores. -/
  stores : Siblings a b₁'.session b₂'.session

/-- **Isolation**: where two stores and two callbacks differ only in what concerns one candidate,
and that fails in ordinary ways only, the rounds over them agree on everything else, for all
settings, stages and retries. They also end alike, but for the counters: both with a result, with
the same error, or both in the same cancellation. -/
theorem run_isolates (hc : Callback.Siblings a K c₁ c₂) (title : String) (d : Settings.Delivery)
    (stage : Option Stage) (retry : Option Settings.Retry) (disk : Disk) {b₁ : Bench Store κ₁ η₁}
    {b₂ : Bench Store κ₂ η₂} (hf₁ : b₁.fragile = false) (hf₂ : b₂.fragile = false)
    (hs : Siblings a b₁.session b₂.session) (hk : K b₁.receiver b₂.receiver) :
    let r₁ : Round Store κ₁ := ⟨session title, c₁, d, stage, retry, disk⟩
    let r₂ : Round Store κ₂ := ⟨session title, c₂, d, stage, retry, disk⟩
    AgreeElsewhere a r₁ r₂ b₁ (runFrom r₁.run b₁).2 b₂ (runFrom r₂.run b₂).2 ∧
      (runFrom r₁.run b₁).1.map (·.error) = (runFrom r₂.run b₂).1.map (·.error) := by
  intro r₁ r₂
  have hprocess (us vs : List String) (result₁ result₂ : RoundResult)
      (herror : result₁.error = result₂.error) :
      Concur (comparison a title K c₁ c₂ d stage retry disk)
        (fun s t => us.filter (· ≠ a) = vs.filter (· ≠ a) ∧ Siblings a s t)
        (r₁.processAll us result₁ : Work Store κ₁ η₁ RoundResult)
        (r₂.processAll vs result₂ : Work Store κ₂ η₂ RoundResult)
        (fun result₁ result₂ s t => result₁.error = result₂.error ∧ Siblings a s t)
        (Siblings a) := by
    refine .assume fun hfilter => ?_
    refine Comparison.concur_processAll_aligned ⟨rfl, rfl, rfl, rfl⟩
      (fun uid huid => treats_comparison hc title d stage retry disk huid)
      (spares_comparison hc title d stage retry disk) ?_ (aligned_of_filter hfilter) _ _ herror
    rw [siblings_comm]
    exact spares_comparison hc.symm title d stage retry disk
  have hrun : Concur (comparison a title K c₁ c₂ d stage retry disk) (Siblings a) r₁.run r₂.run
      (fun result₁ result₂ s t => result₁.error = result₂.error ∧ Siblings a s t) (Siblings a) :=
    Comparison.concur_run ⟨rfl, rfl, rfl, rfl⟩ concur_connect (concur_list _ _ _)
      (fun h => by cases h) (fun us vs => hprocess us vs _ _ rfl) concur_close (fun _ _ h => h)
      fun f => rfl
  obtain ⟨-, -, hends, -, vs₁, vs₂, bodies₁, bodies₂, hplays₁, hplays₂, hscenes, hbodies⟩ :=
    hrun.meets hf₁ hf₂ hs hk
  obtain ⟨herror, hsiblings⟩ := siblings_of_alike hends
  have hsame : bodies₁.filter (·.1 ≠ a) = bodies₂.filter (·.1 ≠ a) := by
    simpa [Comparison.bodies, comparison] using hbodies
  exact ⟨⟨⟨vs₁, vs₂, bodies₁, bodies₂, hplays₁, hplays₂, hscenes, hsame⟩, hsiblings⟩, herror⟩

/-- In the first store the candidate `7` can be read and is rejected; in the second one, where its
body is another one, it breaks off after a byte. The candidate `8` is delivered in both. -/
theorem run_isolates_broken :
    let no : Failure := .plain .value "no"
    let broken : Failure := .plain .os "stream of 7 broken"
    let s : Store := ⟨[("INBOX", [⟨"7", "one".toUTF8, "", false⟩, ⟨"8", "two".toUTF8, "", false⟩])],
      [], [], none, 4, none⟩
    let t : Store := ⟨[("INBOX",
      [⟨"7", "other".toUTF8, "", false⟩, ⟨"8", "two".toUTF8, "", false⟩])],
      [(.read "7", [some ⟨⟨broken, some 1⟩, true⟩])], [], none, 4, none⟩
    let c₁ : Callback Unit := fun uid _ _ => .access (.read none) fun _ =>
      .done (if uid = "7" then .error no else .ok ()) ()
    let c₂ : Callback Unit := fun _ _ _ => .access (.read none) fun _ => .done (.ok ()) ()
    let d : Settings.Delivery := ⟨"INBOX", "", "Done", "Bad", 1, 10, 0, .sha256⟩
    let r₁ : Round Store Unit := ⟨session "mail", c₁, d, none, none, .usual⟩
    let r₂ : Round Store Unit := ⟨session "mail", c₂, d, none, none, .usual⟩
    let b₁ : Bench Store Unit Unit := .start s () ()
    let b₂ : Bench Store Unit Unit := .start t () ()
    AgreeElsewhere "7" r₁ r₂ b₁ (runFrom r₁.run b₁).2 b₂ (runFrom r₂.run b₂).2 := by
  intro no broken s t c₁ c₂ d r₁ r₂ b₁ b₂
  have hcallbacks : Callback.Siblings "7" (fun _ _ => True) c₁ c₂ := by
    refine ⟨fun uid huid => ?_, ?_, ?_⟩
    · intro digest body seen₁ seen₂ o₁ o₂ k₁ k₁' k₂ k₂' _ h₁ h₂
      have hsame : c₁ uid digest k₁ = c₂ uid digest k₂ := by simp [c₁, c₂, huid]
      rw [hsame] at h₁
      obtain ⟨hseen, ho, -⟩ := h₁.unique h₂
      exact ⟨hseen, ho, trivial⟩
    · intro digest body seen o k₁ k₁' k₂ _ h
      cases h with
      | access h =>
        cases h
        exact ⟨trivial, .error rfl⟩
    · intro digest body seen o k₁ k₂ k₂' _ h
      cases h with
      | access h =>
        cases h
        exact ⟨trivial, .ok ()⟩
  have hstores : Siblings "7" s t := by
    refine ⟨fun name => ?_, fun slot hslot => ?_, fun _ _ => rfl, rfl, rfl, rfl, ?_, ?_⟩
    · by_cases hname : name = "INBOX"
      · subst hname
        rfl
      · simp only [box, s, t, List.lookup_cons, beq_eq_false_iff_ne.mpr hname, List.lookup_nil]
    · have hne : slot ≠ .read "7" := fun he => hslot (he ▸ rfl)
      simp only [s, t, List.lookup_cons, beq_eq_false_iff_ne.mpr hne, List.lookup_nil]
    · exact ⟨fun _ hq _ => (by cases hq), fun hq _ => (by cases hq)⟩
    · refine ⟨fun {slot q d} _ hq hd => ?_, fun hq _ => (by cases hq)⟩
      by_cases hslot : slot = .read "7"
      · subst hslot
        cases hq
        cases hd with
        | head => rfl
        | tail _ hd => cases hd
      · simp only [t, List.lookup_cons, beq_eq_false_iff_ne.mpr hslot, List.lookup_nil] at hq
        cases hq
  have hfragile : b₁.fragile = false ∧ b₂.fragile = false := ⟨rfl, rfl⟩
  exact (run_isolates hcallbacks "mail" d none none .usual hfragile.1 hfragile.2 hstores trivial).1

end Store

end Mailroom
