import Mailroom.Imap.Rehearsal
import Mailroom.Proofs.Conversation
import Mailroom.Proofs.Turns

/-!
# What goes on a command line

The names of mailboxes and the pattern of a search are the texts that the settings put on the
command lines of a connection. Quoting keeps every character of a text and adds only quotes and
backslashes, so an argument fits on a line exactly where its text does (`Imap.fitsLine_quote`): the
text must be ASCII and hold no line break and no NUL. A pattern that is not ASCII goes as a literal
instead, whatever else is in it.

So the settings alone decide what fits on the lines of a round (`Imap.Client.inTurn_fits`). Nothing
is done for the other texts, which are a mailbox that is not ASCII and any text with a line break or
a NUL: they go on the line as they are, or between quotes (`Imap.Client.run_overflows`).
-/

namespace Mailroom

namespace Imap

/-! ### Texts that fit -/

/-- A text fits on a command line: it is ASCII and holds nothing that ends a line or a string. -/
def FitsLine (s : String) : Prop :=
  ∀ c ∈ s.toList, c.toNat < 128 ∧ c ∉ ['\r', '\n', '\x00']

-- Decided on the characters of the text: the other instance there is goes through all characters.
instance (s : String) : Decidable (FitsLine s) :=
  List.decidableBAll (fun c : Char => c.toNat < 128 ∧ c ∉ ['\r', '\n', '\x00']) s.toList

/-- Escaping adds backslashes only, by induction on the text. -/
theorem forall_mem_escape {p : Char → Prop} (hp : p '\\') (cs : List Char) :
    (∀ c ∈ escape cs, p c) ↔ ∀ c ∈ cs, p c := by
  induction cs with
  | nil => rfl
  | cons c cs ih =>
    rw [escape]
    split <;> simp [ih, hp]

/-- **An argument fits where its text does.** -/
theorem fitsLine_quote (s : String) : FitsLine (quote s) ↔ FitsLine s := by
  unfold FitsLine quote quoteChars
  rw [String.toList_ofList]
  split
  · rfl
  · rw [List.forall_mem_cons, List.forall_mem_append, forall_mem_escape (by decide),
      List.forall_mem_singleton]
    exact ⟨fun h => h.2.1, fun h => ⟨by decide, h, by decide⟩⟩

/-- The word for whether seen messages are searched too. -/
def scopeWord (includeSeen : Bool) : String := if includeSeen then "ALL" else "UNSEEN"

/-! There are three kinds of criteria. -/

theorem criteria_empty (includeSeen : Bool) :
    Client.criteria "" includeSeen = ([scopeWord includeSeen], none) := rfl

theorem criteria_ascii {pattern : String} (hne : pattern ≠ "") (h : Text.isAscii pattern = true)
    (includeSeen : Bool) : Client.criteria pattern includeSeen =
      ([scopeWord includeSeen, "SUBJECT", quote pattern], none) := by
  simp [Client.criteria, hne, h, scopeWord]

theorem criteria_literal {pattern : String} (h : Text.isAscii pattern = false)
    (includeSeen : Bool) : Client.criteria pattern includeSeen =
      (["CHARSET", "UTF-8", scopeWord includeSeen, "SUBJECT"],
        some (Text.encodeUtf8 pattern)) := by
  have hne : pattern ≠ "" := by
    rintro rfl
    cases h
  simp [Client.criteria, hne, h, scopeWord]

/-- Criteria fit where the pattern does, or is not ASCII and so no argument. -/
theorem fitsLine_criteria (pattern : String) (includeSeen : Bool) :
    (∀ text ∈ (Client.criteria pattern includeSeen).1, FitsLine text) ↔
      (Text.isAscii pattern = true → FitsLine pattern) := by
  have hscope : FitsLine (scopeWord includeSeen) := by cases includeSeen <;> decide
  have hwords : FitsLine "SUBJECT" ∧ FitsLine "CHARSET" ∧ FitsLine "UTF-8" := by decide
  by_cases hne : pattern = ""
  · subst hne
    have hempty : FitsLine "" := by decide
    simp [criteria_empty, hscope, hempty]
  · cases h : Text.isAscii pattern with
    | true => simp [criteria_ascii hne h, hscope, hwords, fitsLine_quote]
    | false => simp [criteria_literal h, hscope, hwords]

/-! ### What the settings put on a line -/

/-- The texts on the line of a request that come from the settings. -/
def Request.texts : Request → List String
  | select argument => [argument]
  | uid (.search criteria) _ => criteria
  | uid (.move _ destination) _ | uid (.copy _ destination) _ => [destination]
  | uid (.fetch ..) _ | uid (.store ..) _ | construct .. | login .. | shutdown | close | unselect |
    logout => []

/-- What the settings say is on the line of a request: a name of a mailbox is an argument, which
fits where the name does, and so is a pattern unless it is a literal. -/
def Request.Told (d : Settings.Delivery) : Request → Prop
  | select argument => argument = quote d.mailbox ∧ (FitsLine argument ↔ FitsLine d.mailbox)
  | uid (.search criteria) literal =>
      (criteria, literal) = Client.criteria d.pattern d.includeSeen ∧
      ((∀ text ∈ criteria, FitsLine text) ↔ (Text.isAscii d.pattern = true → FitsLine d.pattern))
  | uid (.move _ destination) _ | uid (.copy _ destination) _ =>
    ∃ box, (box = d.outbox ∨ box = d.errbox) ∧ destination = quote box ∧
      (FitsLine destination ↔ FitsLine box)
  | uid (.fetch ..) _ | uid (.store ..) _ | construct .. | login .. | shutdown | close | unselect |
    logout => True

end Imap

/-- Settings whose texts fit on command lines; a pattern that is not ASCII is a literal and need not
fit. -/
def Settings.Delivery.FitsLines (d : Settings.Delivery) : Prop :=
  Imap.FitsLine d.mailbox ∧ Imap.FitsLine d.outbox ∧ Imap.FitsLine d.errbox ∧
    (Text.isAscii d.pattern = true → Imap.FitsLine d.pattern)

instance (d : Settings.Delivery) : Decidable d.FitsLines :=
  inferInstanceAs (Decidable (_ ∧ _ ∧ _ ∧ _))

namespace Imap

/-- Of settings that fit, everything on a line fits. -/
theorem Request.Told.fits {d : Settings.Delivery} {r : Request} (h : r.Told d) (hd : d.FitsLines) :
    ∀ text ∈ r.texts, FitsLine text := by
  obtain ⟨hmailbox, hout, herr, hpattern⟩ := hd
  cases r with
  | select argument => simpa [texts] using h.2.mpr hmailbox
  | uid command literal =>
    cases command with
    | search criteria => exact h.2.mpr hpattern
    | move | copy =>
      obtain ⟨box, rfl | rfl, -, hbox⟩ := h
      · simpa [texts] using hbox.mpr hout
      · simpa [texts] using hbox.mpr herr
    | fetch | store => simp [texts]
  | construct | login | shutdown | close | unselect | logout => simp [texts]

/-! ### The requests of a call -/

namespace Client

variable {ρ : Type} {cfg : Settings.Server} {srv : Server ρ} {c c' : Client ρ} {xs : List Exchange}

/-- The conversation of a listing: selections of the mailbox, and then a search, unless it fails
before that. -/
def Searches (mailbox pattern : String) (includeSeen : Bool) (xs : List Exchange)
    (o : Except Failure (List String)) : Prop :=
  ∃ ys zs, xs = ys ++ zs ∧ (∀ y ∈ ys, y.request = .select (quote mailbox)) ∧
    ((zs = [] ∧ ∃ f, o = .error f) ∨
      ∃ answer, zs = [⟨.uid (.search (criteria pattern includeSeen).1)
        (criteria pattern includeSeen).2, answer⟩])

theorem ensures_list_searches (mailbox pattern : String) (includeSeen : Bool) :
    (list srv mailbox pattern includeSeen).Ensures c fun xs o _ =>
      Searches mailbox pattern includeSeen xs o := by
  have hselect {xs : List Exchange} {o : Except Failure Unit} {y : Client ρ}
      (h : Selecting mailbox c xs o y) : ∀ x ∈ xs, x.request = .select (quote mailbox) := by
    cases h <;> simp
  refine .bind (ensures_select mailbox) ?_ fun xs f _ h =>
    ⟨xs, [], (List.append_nil xs).symm, hselect h, .inl ⟨rfl, f, rfl⟩⟩
  rintro xs u y h
  have hsearched (answer : Except Failure Reply) (o : Except Failure (List String)) :
      Searches mailbox pattern includeSeen (xs ++ [⟨.uid (.search (criteria pattern includeSeen).1)
        (criteria pattern includeSeen).2, answer⟩]) o :=
    ⟨xs, _, rfl, hselect h, .inr ⟨answer, rfl⟩⟩
  refine .bind (ensures_command (.search (criteria pattern includeSeen).1)
    (criteria pattern includeSeen).2) ?_ ?_
  · rintro ys items z (⟨hr, server⟩ | ⟨_, _, server⟩)
    dsimp only
    split
    · exact .throw (by simpa using hsearched _ _)
    · exact .pure (by simpa using hsearched _ _)
    · exact .remark_bind (.pure (by
        simpa [List.filterMap, Remark.exchange?] using hsearched _ _))
  · rintro ys f z (⟨_, server⟩ | ⟨_, _, server⟩)
    exact hsearched _ _

end Client

end Imap

/-! ### The calls of a round -/

/-- The settings decide the texts that a call goes with. -/
def Session.Call.ToldBy (d : Settings.Delivery) : Session.Call → Prop
  | list mailbox pattern includeSeen => list mailbox pattern includeSeen = Round.listing d
  | move _ box => box = d.outbox ∨ box = d.errbox
  | connect | close _ | readBody _ | mark .. => True

/-- Each of some orderly acts is warranted by some verdict. -/
theorem Orderly.exists_warranted {d : Settings.Delivery} {last : Option Verdict} {as : List Act}
    (h : Orderly d last as) {a : Act} (ha : a ∈ as) : ∃ last, a.Warranted d last := by
  induction as generalizing last with
  | nil => cases ha
  | cons a' as ih =>
    rcases List.mem_cons.mp ha with rfl | ha
    · exact ⟨last, h.1⟩
    · exact ih h.2 ha

namespace Round

variable {σ κ : Type} {r : Round σ κ} {as : List Act} {c : Session.Call} {a : Session.Answer}

theorem mem_answers (h : .call c a ∈ as) : a ∈ answers c as :=
  List.mem_filterMap.mpr ⟨_, h, if_pos rfl⟩

/-- A visit lists what the settings say. -/
theorem Visit.listing_eq {o : Except Failure RoundResult} (h : Visit r as o)
    (hmem : .call c a ∈ as) (hc : c.uid? = none) : c = listing r.settings := by
  cases h with
  | unlisted | cutListing =>
    cases List.mem_singleton.mp hmem
    rfl
  | listed h =>
    rcases List.mem_cons.mp hmem with heq | hmem
    · cases heq
      rfl
    · obtain ⟨uid, -, huid⟩ := h.within (fun _ hu => hu) _ hmem
      rw [hc] at huid
      cases huid

/-- Every call of a round goes with the texts of the settings. -/
theorem Protocol.toldBy {fragile : Bool} {o : Except Failure RoundResult}
    (h : Protocol r fragile as o) (hmem : .call c a ∈ as) : c.ToldBy r.settings := by
  cases c with
  | connect | close | readBody | mark => trivial
  | move uid box =>
    have horderly : Orderly r.settings none as := h.orderly
    obtain ⟨_, failure, -, rfl, -⟩ := horderly.exists_warranted hmem
    cases failure with
    | none => exact .inl rfl
    | some f => exact .inr rfl
  | list mailbox pattern includeSeen =>
    have hattempts {fragile : Bool} {left : Nat} {as : List Act} {o : Except Failure Unit}
        (h : Attempts fragile left as o) : .call (.list mailbox pattern includeSeen) a ∉ as := by
      intro hmem
      have hans := mem_answers hmem
      rw [h.answers_eq_nil (by simp)] at hans
      cases hans
    cases h with
    | unconnected _ h | cutConnecting _ h => exact absurd hmem (hattempts h)
    | closed h k | cutClosing h k =>
      simp only [List.mem_append, List.mem_singleton, Act.call.injEq, reduceCtorEq, false_and,
        or_false] at hmem
      exact k.listing_eq (hmem.resolve_left (hattempts h)) rfl

end Round

/-! ### Records -/

namespace Imap.Client

variable {ρ : Type} {cfg : Settings.Server} {srv : Server ρ} {c c' : Client ρ} {xs : List Exchange}
  {d : Settings.Delivery}

/-- What a call says is what the settings say, if the call is. -/
theorem told_of_does {call : Session.Call} {a : Session.Answer} (hcall : call.ToldBy d)
    (h : (session cfg srv).Does call c a xs c') : ∀ x ∈ xs, x.request.Told d := by
  cases call with
  | connect =>
    obtain ⟨o, -, hc⟩ := (ensures_connect cfg srv).of_carries h
    cases hc <;> simp [Request.Told]
  | close expunge =>
    obtain ⟨o, -, hc⟩ := (ensures_close expunge).of_carries h
    cases expunge <;> cases hc <;> simp [Request.Told, leaving]
  | list mailbox pattern includeSeen =>
    obtain ⟨o, -, ys, zs, rfl, hys, hzs⟩ :=
      (ensures_list_searches mailbox pattern includeSeen).of_carries h
    cases hcall
    intro x hx
    rcases List.mem_append.mp hx with hx | hx
    · rw [hys x hx]
      exact ⟨rfl, fitsLine_quote _⟩
    · obtain ⟨rfl, -⟩ | ⟨answer, rfl⟩ := hzs
      · cases hx
      · cases List.mem_singleton.mp hx
        exact ⟨rfl, fitsLine_criteria _ _⟩
  | readBody uid =>
    cases (errand_of_does rfl h).1 <;> simp [Request.Told]
  | mark uid seen =>
    cases (errand_of_does rfl h).1 <;> simp [Request.Told]
  | move uid box =>
    have hbox : ∃ box', (box' = d.outbox ∨ box' = d.errbox) ∧ quote box = quote box' ∧
        (FitsLine (quote box) ↔ FitsLine box') := ⟨box, hcall, rfl, fitsLine_quote box⟩
    cases (errand_of_does rfl h).1 with
    | mute => simp
    | move | uncopied =>
      rw [List.forall_mem_singleton]
      exact hbox
    | copied =>
      rw [List.forall_mem_cons, List.forall_mem_singleton]
      exact ⟨hbox, trivial⟩

/-- What a round says is what the settings say, by induction on its path. -/
theorem told_of_path {as : List Act} {t : List Step} (h : Path (session cfg srv) c as t c')
    (has : ∀ call a, .call call a ∈ as → call.ToldBy d) : ∀ x ∈ wires t, x.request.Told d := by
  induction h with
  | stay => simp
  | @aside _ _ _ t step hstep _ ih =>
    rw [wires_cons, wires_eq_nil_of_aside (t := [step]) (by simpa using hstep)]
    exact ih has
  | @act _ _ _ a as t u hp _ ih =>
    rw [wires_append, List.forall_mem_append]
    refine ⟨?_, ih fun call a ha => has call a (List.mem_cons_of_mem _ ha)⟩
    cases a with
    | call call a => exact told_of_does (has call a List.mem_cons_self) hp.does
    | finish => simp [hp.of_finish.1]
    | deliver => simp [hp.of_deliver.1]

variable {κ η : Type} {rs : List (Round (Client ρ) κ)}

/-- **Command lines**: in any number of rounds over the client, whatever the server answers and the
callback does, what goes on a line is what the settings say, and each argument fits exactly where
its text in the settings does. So where these fit, everything does. -/
theorem inTurn_fits (hrs : ∀ r ∈ rs, r.session = session cfg srv) (b : Bench (Client ρ) κ η) :
    ∃ ts, (runFrom (Round.inTurn rs) b).2.steps = b.steps ++ ts.flatten ∧
      List.Forall₂ (fun r t => (∀ x ∈ wires t, x.request.Told r.settings) ∧
        (r.settings.FitsLines → ∀ x ∈ wires t, ∀ text ∈ x.request.texts, FitsLine text)) rs ts := by
  have hrun : ∀ r ∈ rs, ∀ b : Bench (Client ρ) κ η, True → ∃ t,
      (runFrom (r.run : Work (Client ρ) κ η RoundResult) b).2.steps = b.steps ++ t ∧
        (∀ x ∈ wires t, x.request.Told r.settings) ∧ True := by
    intro r hr b _
    obtain ⟨as, t, ht, hpath, hprotocol⟩ := r.run_path b
    rw [hrs r hr] at hpath
    exact ⟨t, ht, told_of_path hpath fun call a ha => hprotocol.toldBy ha, trivial⟩
  obtain ⟨ts, hts, htold, -⟩ := Round.inTurn_records hrun trivial
  exact ⟨ts, hts, htold.imp fun r t h => ⟨h, fun hd x hx => (h x hx).fits hd⟩⟩

/-- A round on a rehearsed server that has nothing to list, with the given settings. -/
def emptyRound (d : Settings.Delivery) : Round (Client Rehearsal) Unit :=
  ⟨session ⟨"mail", 993, true, "user", "word", none⟩ (.rehearsed []),
    fun _ _ k => .done (.ok ()) k, d, none, none, .usual⟩

/-- Two rounds with a pattern that is not ASCII, and has a line break, which need not fit. -/
theorem inTurn_fits_literal :
    let d : Settings.Delivery := ⟨"INBOX", "né\n", "My box", "", 1, 10, 0, .sha256⟩
    d.FitsLines ∧ ∃ ts : List (List Step),
      (runFrom (Round.inTurn [emptyRound d, emptyRound d]) (Bench.start (fresh []) () ())).2.steps =
        ts.flatten ∧
      ∀ t ∈ ts, ∀ x ∈ wires t, ∀ text ∈ x.request.texts, FitsLine text := by
  intro d
  have hd : d.FitsLines := by decide +kernel
  have hrs : ∀ r ∈ [emptyRound d, emptyRound d],
      r.session = session ⟨"mail", 993, true, "user", "word", none⟩ (.rehearsed []) := by
    simp [emptyRound]
  obtain ⟨ts, hts, hfits⟩ := inTurn_fits hrs (Bench.start (fresh []) () ())
  refine ⟨hd, ts, hts, ?_⟩
  cases hfits with
  | cons h hfits =>
    cases hfits with
    | cons h' hfits =>
      cases hfits
      simpa using ⟨h.2 hd, h'.2 hd⟩

/-- The record of such a round. -/
def emptyRecord (d : Settings.Delivery) : List Step :=
  (runFrom (emptyRound d).run (Bench.start (fresh []) () () : Bench _ Unit Unit)).2.steps

/-- Other texts do not fit, and no settings are refused: a line break in a pattern that is ASCII
stands on the line between quotes, and a mailbox that is not ASCII stands there as it is. -/
theorem run_overflows :
    (¬∀ x ∈ wires (emptyRecord ⟨"INBOX", "a\r\nb", "", "", 1, 10, 0, .sha256⟩),
      ∀ text ∈ x.request.texts, FitsLine text) ∧
    ¬∀ x ∈ wires (emptyRecord ⟨"Été", "", "", "", 1, 10, 0, .sha256⟩),
      ∀ text ∈ x.request.texts, FitsLine text := by
  refine ⟨fun h => ?_, fun h => ?_⟩
  · have hsearch : (wires (emptyRecord ⟨"INBOX", "a\r\nb", "", "", 1, 10, 0, .sha256⟩))[3]? =
        some ⟨.uid (.search ["UNSEEN", "SUBJECT", "\"a\r\nb\""]) none,
          .ok ⟨"OK", [.bytes ByteArray.empty]⟩⟩ := rfl
    have hfits := h _ (List.mem_of_getElem? hsearch) "\"a\r\nb\"" (by simp [Request.texts])
    exact absurd hfits (by decide)
  · have hselect : (wires (emptyRecord ⟨"Été", "", "", "", 1, 10, 0, .sha256⟩))[2]? =
        some ⟨.select "Été", .ok ⟨"OK", [.bytes ByteArray.empty]⟩⟩ := rfl
    have hfits := h _ (List.mem_of_getElem? hselect) "Été" (by simp [Request.texts])
    exact absurd hfits (by decide)

end Imap.Client

end Mailroom
