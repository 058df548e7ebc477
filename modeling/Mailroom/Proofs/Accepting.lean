import Mailroom.Loop
import Mailroom.Proofs.DigestSizes
import Mailroom.Proofs.Doubles
import Mailroom.Settings.Groups

/-!
# Settings that are accepted

A group of settings is read field by field. It is accepted when every field is given as something
that reads as a value, or is left to its default, and nothing else is given
(`Delivery.read_eq_ok_iff`). Otherwise each issue stands at its own field (`Checked.Blames`).

Accepted delivery settings are ready to be used: a mailbox is named, both sleeps are amounts of
time, and the algorithm is one that a stage takes under its name, as often as it is asked
(`Delivery.Ready`). They also read back as themselves, in any environment. A name of an algorithm is
refused for one reason only: what it is in lower case is not in the catalogue, or has no fixed size
there (`Delivery.read_settles`).
-/

namespace Mailroom

/-! ### Names of algorithms -/

namespace Algorithm

/-- An algorithm is in the catalogue under its own name only. -/
theorem lookup_catalogue_iff {name : String} {a : Algorithm} :
    catalogue.lookup name = some (.fixed a) ↔ name = a.name := by
  constructor
  · intro h
    obtain ⟨before, after, heq, -⟩ := List.lookup_eq_some_iff.mp h
    have hmem : (name, Entry.fixed a) ∈ catalogue := by simp [heq]
    rcases List.mem_append.mp hmem with hmem | hmem
    · obtain ⟨b, -, hb⟩ := List.mem_map.mp hmem
      cases hb
      rfl
    · simp at hmem
  · rintro rfl
    cases a <;> rfl

/-- The catalogue is in lower case. -/
theorem lower_name (a : Algorithm) : Text.lower a.name = a.name := by
  cases a <;> rfl

theorem ofName_name (a : Algorithm) : ofName a.name = .ok a := by
  rw [ofName, entry?, List.lookup_append, lookup_catalogue_iff.mpr rfl]
  rfl

end Algorithm

namespace Stage

/-- Begin staging a candidate with the algorithm that the name of the stage stands for. -/
def openByName (s : Stage) (disk : Disk) (uid : String) : Except Algorithm.NameError Staged :=
  (Algorithm.ofName s.algorithmName).map fun a =>
    ⟨uid, .new s.memoryLimit disk, .new a, 0, none, false⟩

/-- Looking the name up again finds what was found when the stage was made. -/
theorem openByName_eq {name : String} {limit : Int} {s : Stage} (h : ofName name limit = .ok s)
    (disk : Disk) (uid : String) : s.openByName disk uid = .ok (s.openFor disk uid) := by
  unfold ofName at h
  cases ha : Algorithm.ofName name with
  | error e =>
    rw [ha] at h
    cases h
  | ok a =>
    rw [ha] at h
    cases h
    unfold openByName
    rw [ha]
    rfl

theorem ofName_ofSettings (d : Settings.Delivery) :
    ofName d.algorithm.name d.memoryLimit = .ok (ofSettings d) := by
  rw [ofName, Algorithm.ofName_name]
  rfl

end Stage

namespace Settings

variable {α β : Type}

/-! ### Checked values -/

namespace Checked

theorem ap_eq_ok_iff {f : Checked (α → β)} {x : Checked α} {y : β} :
    f.ap x = .ok y ↔ ∃ g a, f = .ok g ∧ x = .ok a ∧ g a = y := by
  cases f <;> cases x <;> simp [ap]

theorem without_eq_ok_iff {x : Checked α} {more : List Issue} {y : α} :
    x.without more = .ok y ↔ x = .ok y ∧ more = [] := by
  cases x <;> cases more <;> simp [without]

theorem issues_ap (f : Checked (α → β)) (x : Checked α) :
    (f.ap x).issues = f.issues ++ x.issues := by
  cases f <;> cases x <;> simp [ap, issues]

theorem issues_without (x : Checked α) (more : List Issue) :
    (x.without more).issues = x.issues ++ more := by
  cases x <;> cases more <;> simp [without, issues]

/-- There is an issue with a field. -/
def Blames (x : Checked α) (field : String) : Prop := ∃ i ∈ x.issues, i.place = [field]

variable {field : String}

theorem not_blames_ok (x : α) : ¬ (ok x).Blames field := by
  rintro ⟨i, hi, -⟩
  cases hi

theorem blames_ap {f : Checked (α → β)} {x : Checked α} :
    (f.ap x).Blames field ↔ f.Blames field ∨ x.Blames field := by
  simp [Blames, issues_ap, or_and_right, exists_or]

theorem blames_without {x : Checked α} {more : List Issue} :
    (x.without more).Blames field ↔ x.Blames field ∨ ∃ i ∈ more, i.place = [field] := by
  simp [Blames, issues_without, or_and_right, exists_or]

end Checked

/-! ### Fields -/

namespace Source

variable {s : Source} {name : String} {fallback : Option α} {read : Json → Except Fault α}

/-- A field is what its value reads as, or what stands in for an absent one. -/
def Gives (s : Source) (name : String) (fallback : Option α) (read : Json → Except Fault α)
    (x : α) : Prop :=
  match s.given? name with
  | some v => read v = .ok x
  | none => fallback = some x

theorem field_eq_ok_iff {x : α} :
    s.field name fallback read = .ok x ↔ s.Gives name fallback read x := by
  unfold field Gives
  cases s.given? name with
  | some v => cases hv : read v <;> simp [hv]
  | none => cases fallback <;> simp

theorem Gives.inv {x : α} (h : s.Gives name fallback read x) :
    (∃ v, s.given? name = some v ∧ read v = .ok x) ∨ fallback = some x := by
  unfold Gives at h
  cases hv : s.given? name with
  | some v =>
    rw [hv] at h
    exact .inl ⟨v, rfl, h⟩
  | none =>
    rw [hv] at h
    exact .inr h

theorem Gives.of_given {x : α} {v : Json} (h : s.Gives name fallback read x)
    (hv : s.given? name = some v) : read v = .ok x := by
  unfold Gives at h
  rwa [hv] at h

theorem gives_of_given {x : α} {v : Json} (hv : s.given? name = some v) (h : read v = .ok x) :
    s.Gives name fallback read x := by
  unfold Gives
  rwa [hv]

/-- An issue with a field stands at that field. -/
theorem place_of_issue {i : Issue} (h : i ∈ (s.field name fallback read).issues) :
    i.place = [name] := by
  unfold field at h
  cases hv : s.given? name with
  | some v => cases hr : read v <;> simp_all [Checked.issues]
  | none => cases fallback <;> simp_all [Checked.issues]

theorem not_blames_field {other : String} (h : name ≠ other) :
    ¬ (s.field name fallback read).Blames other := by
  rintro ⟨i, hi, hplace⟩
  rw [place_of_issue hi] at hplace
  exact h (List.cons.inj hplace).1

/-- There is an issue with a field that is given exactly when its value is refused. -/
theorem blames_field_iff {v : Json} (hv : s.given? name = some v) :
    (s.field name fallback read).Blames name ↔ ∃ f, read v = .error f := by
  unfold field
  rw [hv]
  cases hr : read v with
  | ok x => simpa [hr] using Checked.not_blames_ok x
  | error f => simp [hr, Checked.Blames, Checked.issues]

/-- A stranger is no field. -/
theorem not_stranger {fields : List String} (h : name ∈ fields) :
    ¬ ∃ i ∈ s.strangers fields, i.place = [name] := by
  rintro ⟨i, hi, hplace⟩
  obtain ⟨argument, hargument, rfl⟩ := List.mem_map.mp hi
  obtain rfl : argument.1 = name := (List.cons.inj hplace).1
  simp [h] at hargument

end Source

/-! ### Single values -/

theorem bind_eq_ok_iff {x : Except Fault α} {f : α → Except Fault β} {y : β} :
    x.bind f = .ok y ↔ ∃ a, x = .ok a ∧ f a = .ok y := by
  cases x <;> simp [Except.bind]

theorem nonNegative_eq_ok_iff {x y : Float} : nonNegative x = .ok y ↔ 0 ≤ x ∧ x = y := by
  unfold nonNegative
  split <;> simp_all

theorem atLeast_eq_ok_iff {least n : Nat} {i : Int} :
    atLeast least i = .ok n ↔ (least : Int) ≤ i ∧ i = n := by
  unfold atLeast
  split
  · rw [Except.ok.injEq]
    omega
  · simp [*]

/-- An amount of time: a number, and not below zero. -/
def IsAmount (x : Float) : Prop := 0 ≤ x ∧ x.isNaN = false

theorem isAmount_of_nonneg {x : Float} (h : 0 ≤ x) : IsAmount x := by
  refine ⟨h, ?_⟩
  have hnumber : Float64.IsNumber x := (Float64.le_iff.mp h).2.1
  unfold Float64.IsNumber at hnumber
  rw [Float.isNaN, Float.Model.isNaN]
  cases hx : x.toModel.unpack with
  | notANumber => exact absurd hx hnumber
  | infinity | zero | finite => rfl

/-- A sleep that a source gives is an amount of time, as its default is. -/
theorem isAmount_of_gives {s : Source} {name : String} {x y : Float}
    (h : s.Gives name (some y) (fun v => (number v).bind nonNegative) x) (hy : 0 ≤ y) :
    IsAmount x := by
  refine isAmount_of_nonneg ?_
  rcases h.inv with ⟨v, -, hv⟩ | hdefault
  · obtain ⟨z, -, hz⟩ := bind_eq_ok_iff.mp hv
    obtain ⟨hle, rfl⟩ := nonNegative_eq_ok_iff.mp hz
    exact hle
  · rw [← Option.some.inj hdefault]
    exact hy

namespace Delivery

theorem ne_empty_of_readMailbox {v : Json} {mailbox : String} (h : readMailbox v = .ok mailbox) :
    mailbox ≠ "" := by
  unfold readMailbox at h
  cases ht : text v with
  | error f =>
    rw [ht] at h
    cases h
  | ok s =>
    rw [ht] at h
    obtain rfl : (if s = "" then defaultMailbox else s) = mailbox := Except.ok.inj h
    split
    · decide
    · assumption

/-- A text is read as the algorithm whose name it is in lower case. -/
theorem readAlgorithm_eq_ok_iff {v : Json} {a : Algorithm} :
    readAlgorithm v = .ok a ↔ ∃ name, v = .text name ∧ Text.lower name = a.name := by
  cases v with
  | text name =>
    simp only [readAlgorithm, text, Json.text.injEq, exists_eq_left']
    rw [← Algorithm.lookup_catalogue_iff]
    cases Algorithm.catalogue.lookup (Text.lower name) with
    | none => simp
    | some e => cases e <;> simp
  | null | bool | int | float | list | object => simp [readAlgorithm, text]

/-- A text is refused as an algorithm exactly when it is unknown in lower case, or extendable. -/
theorem readAlgorithm_eq_error_iff {name : String} :
    (∃ f, readAlgorithm (.text name) = .error f) ↔
      Algorithm.catalogue.lookup (Text.lower name) = none ∨
      Algorithm.catalogue.lookup (Text.lower name) = some .extendable := by
  simp only [readAlgorithm, text]
  cases Algorithm.catalogue.lookup (Text.lower name) with
  | none => simp
  | some e => cases e <;> simp

/-! ### Delivery settings -/

/-- The source of delivery settings. -/
def source (arguments : Arguments) (env : Environment) : Source := ⟨arguments, env, "delivery_"⟩

/-- The settings are what a source gives, field by field, and it gives nothing else. -/
structure DrawnFrom (d : Delivery) (s : Source) : Prop where
  /-- The polled mailbox. -/
  mailbox : s.Gives "mailbox" (some defaultMailbox) readMailbox d.mailbox
  /-- The text that subjects must have. -/
  pattern : s.Gives "pattern" (some "") text d.pattern
  /-- Where delivered messages go. -/
  outbox : s.Gives "outbox" (some "") text d.outbox
  /-- Where rejected messages go. -/
  errbox : s.Gives "errbox" (some "") text d.errbox
  /-- The short sleep. -/
  shortSleep : s.Gives "short_sleep_seconds" (some 1) (fun v => (number v).bind nonNegative)
    d.shortSleep
  /-- The long sleep. -/
  longSleep : s.Gives "long_sleep_seconds" (some 300) (fun v => (number v).bind nonNegative)
    d.longSleep
  /-- The memory limit. -/
  memoryLimit : s.Gives "spool_max_memory_bytes" (some 1048576)
    (fun v => (int v).bind (atLeast 0)) d.memoryLimit
  /-- The algorithm. -/
  algorithm : s.Gives "digest_algorithm" (some .sha1) readAlgorithm d.algorithm
  /-- There are no strangers. -/
  strangers : s.strangers fields = []

/-- **What is accepted**: settings are read exactly when the source gives them. -/
theorem read_eq_ok_iff {arguments : Arguments} {env : Environment} {d : Delivery} :
    read arguments env = .ok d ↔ d.DrawnFrom (source arguments env) := by
  unfold read
  simp only [Checked.without_eq_ok_iff, Checked.ap_eq_ok_iff, Source.field_eq_ok_iff]
  constructor
  -- The last field is the outermost argument, and the first one the innermost.
  · rintro ⟨⟨_, _, ⟨_, _, ⟨_, _, ⟨_, _, ⟨_, _, ⟨_, _, ⟨_, _, ⟨_, _, hmk, hmailbox, rfl⟩, hpattern,
      rfl⟩, houtbox, rfl⟩, herrbox, rfl⟩, hshort, rfl⟩, hlong, rfl⟩, hlimit, rfl⟩, halgorithm, rfl⟩,
      hstrangers⟩
    cases hmk
    exact ⟨hmailbox, hpattern, houtbox, herrbox, hshort, hlong, hlimit, halgorithm, hstrangers⟩
  · rintro ⟨hmailbox, hpattern, houtbox, herrbox, hshort, hlong, hlimit, halgorithm, hstrangers⟩
    exact ⟨⟨_, _, ⟨_, _, ⟨_, _, ⟨_, _, ⟨_, _, ⟨_, _, ⟨_, _, ⟨_, _, rfl, hmailbox, rfl⟩, hpattern,
      rfl⟩, houtbox, rfl⟩, herrbox, rfl⟩, hshort, rfl⟩, hlong, rfl⟩, hlimit, rfl⟩, halgorithm, rfl⟩,
      hstrangers⟩

/-- The settings as named arguments. -/
def arguments (d : Delivery) : Arguments :=
  [("mailbox", .text d.mailbox), ("pattern", .text d.pattern), ("outbox", .text d.outbox),
    ("errbox", .text d.errbox), ("short_sleep_seconds", .float d.shortSleep),
    ("long_sleep_seconds", .float d.longSleep), ("spool_max_memory_bytes", .int d.memoryLimit),
    ("digest_algorithm", .text d.algorithm.name)]

variable {arguments : Arguments} {env : Environment} {d : Delivery} {s : Source}

/-- Settings with a mailbox and sleeps that are not negative read back as themselves. -/
theorem read_arguments (hmailbox : d.mailbox ≠ "") (hshort : 0 ≤ d.shortSleep)
    (hlong : 0 ≤ d.longSleep) (env : Environment) : read d.arguments env = .ok d := by
  have hsleep {x : Float} (hx : 0 ≤ x) : (number (.float x)).bind nonNegative = .ok x :=
    nonNegative_eq_ok_iff.mpr ⟨hx, rfl⟩
  have hnamed : readMailbox (.text d.mailbox) = .ok d.mailbox :=
    congrArg Except.ok (if_neg hmailbox)
  have hlimit : (int (.int d.memoryLimit)).bind (atLeast 0) = .ok d.memoryLimit :=
    atLeast_eq_ok_iff.mpr ⟨Int.natCast_nonneg _, rfl⟩
  have halgorithm : readAlgorithm (.text d.algorithm.name) = .ok d.algorithm :=
    readAlgorithm_eq_ok_iff.mpr ⟨_, rfl, d.algorithm.lower_name⟩
  exact read_eq_ok_iff.mpr
    { mailbox := Source.gives_of_given rfl hnamed
      pattern := Source.gives_of_given rfl rfl
      outbox := Source.gives_of_given rfl rfl
      errbox := Source.gives_of_given rfl rfl
      shortSleep := Source.gives_of_given rfl (hsleep hshort)
      longSleep := Source.gives_of_given rfl (hsleep hlong)
      memoryLimit := Source.gives_of_given rfl hlimit
      algorithm := Source.gives_of_given rfl halgorithm
      strangers := rfl }

/-- There is an issue with the algorithm exactly when what is given for it is refused. -/
theorem blames_algorithm_iff {v : Json}
    (hv : (source arguments env).given? "digest_algorithm" = some v) :
    (read arguments env).Blames "digest_algorithm" ↔ ∃ f, readAlgorithm v = .error f := by
  have hfield : ((source arguments env).field "digest_algorithm" (some .sha1)
      readAlgorithm).Blames "digest_algorithm" ↔ ∃ f, readAlgorithm v = .error f :=
    Source.blames_field_iff hv
  rw [← hfield, read]
  -- Issues with the other fields, and with strangers, stand at other places.
  simp (disch := decide) only [Checked.blames_without, Checked.blames_ap, Checked.not_blames_ok,
    Source.not_blames_field, Source.not_stranger, false_or, or_false]
  rfl

theorem DrawnFrom.mailbox_ne (h : d.DrawnFrom s) : d.mailbox ≠ "" := by
  rcases h.mailbox.inv with ⟨v, -, hv⟩ | hdefault
  · exact ne_empty_of_readMailbox hv
  · rw [← Option.some.inj hdefault]
    decide

/-- A memory limit that is given is taken over as it is. -/
theorem DrawnFrom.memoryLimit_eq (h : d.DrawnFrom s) {v : Json}
    (hv : s.given? "spool_max_memory_bytes" = some v) : int v = .ok (d.memoryLimit : Int) := by
  obtain ⟨n, hn, hatLeast⟩ := bind_eq_ok_iff.mp (h.memoryLimit.of_given hv)
  rw [hn, (atLeast_eq_ok_iff.mp hatLeast).2]

/-- Settings that can be used, drawn from a source. -/
structure Ready (d : Delivery) (s : Source) : Prop where
  /-- A mailbox is named. -/
  mailbox : d.mailbox ≠ ""
  /-- The short sleep is an amount of time. -/
  shortSleep : IsAmount d.shortSleep
  /-- So is the long sleep, -/
  longSleep : IsAmount d.longSleep
  /-- and with them the sleep after any round. -/
  sleep : ∀ result : RoundResult, IsAmount (result.sleep d)
  /-- The memory limit is not negative, and it is the whole number that is given for it. -/
  memoryLimit : 0 ≤ (Stage.ofSettings d).memoryLimit ∧
    ∀ v, s.given? "spool_max_memory_bytes" = some v → int v = .ok (Stage.ofSettings d).memoryLimit
  /-- The name of the algorithm is in lower case, and it is the name that is given for it. -/
  algorithm : Text.lower d.algorithm.name = d.algorithm.name ∧
    ∀ v, s.given? "digest_algorithm" = some v →
      ∃ name, v = .text name ∧ Text.lower name = d.algorithm.name
  /-- All digests have one size. -/
  digest : 0 < d.algorithm.size ∧ ∀ b, (d.algorithm.hash b).size = d.algorithm.size
  /-- A stage can be made under the name, -/
  stage : Stage.ofName d.algorithm.name d.memoryLimit = .ok (.ofSettings d)
  /-- and every candidate can be staged there. -/
  opens : ∀ disk uid,
    (Stage.ofSettings d).openByName disk uid = .ok ((Stage.ofSettings d).openFor disk uid)

theorem DrawnFrom.ready (h : d.DrawnFrom s) : d.Ready s := by
  have hshort : IsAmount d.shortSleep := isAmount_of_gives h.shortSleep (by decide)
  have hlong : IsAmount d.longSleep := isAmount_of_gives h.longSleep (by decide)
  refine
    { mailbox := h.mailbox_ne
      shortSleep := hshort
      longSleep := hlong
      sleep := fun result => ?_
      memoryLimit := ⟨Int.natCast_nonneg _, fun v hv => h.memoryLimit_eq hv⟩
      algorithm := ⟨d.algorithm.lower_name, fun v hv =>
        readAlgorithm_eq_ok_iff.mp (h.algorithm.of_given hv)⟩
      digest := ⟨d.algorithm.size_pos, d.algorithm.size_hash⟩
      stage := Stage.ofName_ofSettings d
      opens := Stage.openByName_eq (Stage.ofName_ofSettings d) }
  unfold RoundResult.sleep
  split
  · exact hshort
  · exact hlong

/-- **Accepted settings** are ready to be used, for every combination of named arguments and
environment variables, and they read back as themselves, in any environment. A name that is given
for the algorithm is refused exactly when the catalogue does not have it in lower case, or has it
for an extendable function. -/
theorem read_settles (arguments : Arguments) (env : Environment) :
    (∀ d, read arguments env = .ok d →
      d.Ready (source arguments env) ∧ ∀ env', read d.arguments env' = .ok d) ∧
    ∀ name, (source arguments env).given? "digest_algorithm" = some (.text name) →
      ((read arguments env).Blames "digest_algorithm" ↔
        Algorithm.catalogue.lookup (Text.lower name) = none ∨
        Algorithm.catalogue.lookup (Text.lower name) = some .extendable) := by
  constructor
  · intro d hd
    have hready := (read_eq_ok_iff.mp hd).ready
    exact ⟨hready, read_arguments hready.mailbox hready.shortSleep.1 hready.longSleep.1⟩
  · intro name hname
    rw [blames_algorithm_iff hname, readAlgorithm_eq_error_iff]

/-- A name in capitals, an empty mailbox, and numbers from the environment are accepted, and an
extendable function is refused. -/
theorem read_settles_spelled :
    let arguments : Arguments := [("mailbox", .text ""), ("digest_algorithm", .text "SHA256")]
    let env : Environment := [("DELIVERY_LONG_SLEEP_SECONDS", "60"),
      ("Delivery_Mailbox", "Orders"), ("DELIVERY_SPOOL_MAX_MEMORY_BYTES", " +1_0.0 ")]
    let d : Delivery := ⟨"INBOX", "", "", "", 1, 60, 10, .sha256⟩
    read arguments env = .ok d ∧ d.Ready (source arguments env) ∧
      read d.arguments env = .ok d ∧
      (read [("digest_algorithm", .text "SHAKE_128")] env).Blames "digest_algorithm" := by
  intro arguments env d
  have hread : read arguments env = .ok d := by
    -- The reading is evaluated, which needs the values in place of their names.
    dsimp only [arguments, env, d]
    rfl
  obtain ⟨hready, hagain⟩ := (read_settles arguments env).1 d hread
  have hrefused := (read_settles [("digest_algorithm", .text "SHAKE_128")] env).2 "SHAKE_128" rfl
  exact ⟨hread, hready, hagain env, hrefused.mpr (.inr rfl)⟩

end Delivery

end Settings

end Mailroom
