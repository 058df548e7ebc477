import Mailroom.Proofs.Postbox

/-!
# A server that keeps a store

`Postbox.server` keeps a store and grants what makes sense for it; which letters a search wants is
left open. It lists numbers in decimal notation, which the client reads back (`uidsOf_numbers`), and
so it serves the store (`Postbox.serves_server`).
-/

namespace Mailroom.Imap

/-- A number in decimal notation. -/
def digits (n : Nat) : List UInt8 := (Nat.toDigits 10 n).map fun c => c.toNat.toUInt8

/-- Numbers in decimal notation, with spaces between them. -/
def numbers : List Nat → List UInt8
  | [] => []
  | [n] => digits n
  | n :: ns => digits n ++ 32 :: numbers ns

/-- A digit is a byte that is not blank and stands for its character. -/
theorem digit_spec {n : Nat} {c : Char} (h : c ∈ Nat.toDigits 10 n) :
    c.toNat.toUInt8 < 0x80 ∧ Bytes.isBlank c.toNat.toUInt8 = false ∧
      Char.ofNat c.toNat.toUInt8.toNat = c := by
  have hdigit : 48 ≤ c.toNat ∧ c.toNat ≤ 57 :=
    Char.isDigit_iff_toNat.mp (Nat.isDigit_of_mem_toDigits (by omega) (by omega) h)
  have hbyte : c.toNat.toUInt8.toNat = c.toNat := by
    simp
    omega
  refine ⟨?_, ?_, ?_⟩
  · rw [UInt8.lt_iff_toNat_lt, hbyte]
    exact Nat.lt_of_le_of_lt hdigit.2 (by decide)
  · have hspace : c.toNat.toUInt8 ≠ 32 := by
      intro he
      rw [he] at hbyte
      simp at hbyte
      omega
    have hcontrol : ¬c.toNat.toUInt8 ≤ 13 := by
      rw [UInt8.le_iff_toNat_le, hbyte]
      simp
      omega
    simp only [Bytes.isBlank, beq_eq_false_iff_ne.mpr hspace, decide_eq_false hcontrol,
      Bool.and_false, Bool.or_false]
  · rw [hbyte]
    exact Char.ofNat_toNat c

theorem wordsFrom_append {w : List UInt8} (hw : ∀ b ∈ w, Bytes.isBlank b = false)
    (acc rest : List UInt8) :
    Bytes.wordsFrom acc (w ++ rest) = Bytes.wordsFrom (w.reverse ++ acc) rest := by
  induction w generalizing acc with
  | nil => rfl
  | cons b w ih =>
    rw [List.forall_mem_cons] at hw
    simp [Bytes.wordsFrom, hw.1, ih hw.2]

theorem wordsFrom_numbers (ns : List Nat) :
    Bytes.wordsFrom [] (numbers ns) = ns.map digits := by
  have hplain (n : Nat) : ∀ b ∈ digits n, Bytes.isBlank b = false := by
    intro b hb
    obtain ⟨c, hc, rfl⟩ := List.mem_map.mp hb
    exact (digit_spec hc).2.1
  have hne (n : Nat) : digits n ≠ [] := by simp [digits]
  induction ns using numbers.induct with
  | case1 => rfl
  | case2 n =>
    rw [numbers, ← List.append_nil (digits n), wordsFrom_append (hplain n)]
    simp [Bytes.wordsFrom, hne]
  | case3 n ns hns ih =>
    rw [numbers, wordsFrom_append (hplain n)]
    · simp [Bytes.wordsFrom, hne, ih, Bytes.isBlank]
    · exact hns

/-- ASCII bytes are read one by one, by induction on them. -/
theorem decodeFrom_ascii {bs : List UInt8} (h : ∀ b ∈ bs, b < 0x80) {fuel : Nat}
    (hfuel : bs.length ≤ fuel) (start : Nat) (acc : List Char) :
    Text.decodeFrom fuel start bs acc =
      .ok (String.ofList (acc.reverse ++ bs.map fun b => Char.ofNat b.toNat)) := by
  induction bs generalizing fuel start acc with
  | nil => cases fuel <;> simp [Text.decodeFrom]
  | cons b bs ih =>
    rw [List.forall_mem_cons] at h
    cases fuel with
    | zero => simp at hfuel
    | succ fuel =>
      have hlead : Text.leadByte? b = some (1, 0, 0) := if_pos h.1
      have hrest := ih h.2 (Nat.le_of_succ_le_succ hfuel) (start + 1) (Char.ofNat b.toNat :: acc)
      simpa [Text.decodeFrom, hlead, Text.continuation, Text.codePoint] using hrest

theorem decodeUtf8_digits (n : Nat) :
    Text.decodeUtf8 (Bytes.ofList (digits n)) = .ok n.repr := by
  have hascii : ∀ b ∈ digits n, b < 0x80 := by
    intro b hb
    obtain ⟨c, hc, rfl⟩ := List.mem_map.mp hb
    exact (digit_spec hc).1
  have hchars : (digits n).map (fun b => Char.ofNat b.toNat) = Nat.toDigits 10 n := by
    calc (digits n).map (fun b => Char.ofNat b.toNat)
        = (Nat.toDigits 10 n).map fun c => Char.ofNat c.toNat.toUInt8.toNat := List.map_map
      _ = (Nat.toDigits 10 n).map id := List.map_congr_left fun c hc => (digit_spec hc).2.2
      _ = Nat.toDigits 10 n := List.map_id _
  unfold Text.decodeUtf8
  simp only [Bytes.ofList]
  rw [decodeFrom_ascii hascii (Nat.le_refl _), hchars, Nat.repr_eq_ofList_toDigits]
  rfl

/-- The client reads the numbers that are listed. -/
theorem uidsOf_numbers (ns : List Nat) :
    Client.uidsOf (Bytes.ofList (numbers ns)) = .ok (ns.map Nat.repr) := by
  have hwords : Bytes.words (Bytes.ofList (numbers ns)) = (ns.map digits).map Bytes.ofList := by
    simp [Bytes.words, Bytes.ofList, wordsFrom_numbers]
  unfold Client.uidsOf
  rw [hwords]
  clear hwords
  induction ns with
  | nil => rfl
  | cons n ns ih =>
    simp only [List.map_cons, List.mapM_cons, decodeUtf8_digits, ih]
    rfl

/-- The client reads a reply that lists numbers. -/
theorem lists_numbers (command : Command) (literal : Option Bytes) (ns : List Nat) :
    Exchange.Lists ⟨.uid command literal, .ok ⟨"OK", [.bytes (Bytes.ofList (numbers ns))]⟩⟩
      (ns.map Nat.repr) := by
  cases ns with
  | nil => exact ⟨_, none, rfl, rfl, rfl, rfl⟩
  | cons n ns =>
    have hne : (Bytes.ofList (numbers (n :: ns))).isEmpty ≠ true := by
      cases ns <;> simp [Bytes.ofList, ByteArray.isEmpty, ByteArray.size, numbers, digits]
    have hread : Client.candidatesIn [.bytes (Bytes.ofList (numbers (n :: ns)))] =
        .ok (some ((n :: ns).map Nat.repr)) := by
      simp only [Client.candidatesIn, List.head?_cons]
      rw [if_neg hne, uidsOf_numbers]
      rfl
    exact ⟨_, some ((n :: ns).map Nat.repr), rfl, rfl, hread, rfl⟩

namespace Postbox

/-- How a server searches that finds the letters that are wanted. -/
def searching (wanted : List String → Option Bytes → Letter → Bool) : Searching where
  finds criteria literal f := (f.letters.filter (wanted criteria literal)).map Letter.uid
  nodup criteria literal f := by
    have hlt := (List.pairwise_append.mp f.ascending).1
    exact (hlt.sublist (List.filter_sublist.map _)).imp fun h => Nat.ne_of_lt h

/-- The reply to a request that is granted. -/
def reply (p : Postbox) (wanted : List String → Option Bytes → Letter → Bool) : Request → Reply
  | .logout => ⟨"BYE", []⟩
  | .uid (.search criteria) literal =>
    let found := p.current.elim [] ((searching wanted).finds criteria literal)
    ⟨"OK", [.bytes (Bytes.ofList (numbers found))]⟩
  | .uid (.fetch uid _) _ => ⟨"OK", [(p.letter? uid).elim .absent fun l =>
      .group [some (Bytes.ofList (numbers [l.uid])), some l.body]]⟩
  | _ => ⟨"OK", []⟩

/-- A server that keeps a store. -/
def server (capabilities : List String) (wanted : List String → Option Bytes → Letter → Bool) :
    Server Postbox where
  capabilities := capabilities
  answer r p :=
    if p.grants capabilities r then (.ok (p.reply wanted r), p.after r) else (.ok ⟨"NO", []⟩, p)

theorem serves_server (capabilities : List String)
    (wanted : List String → Option Bytes → Letter → Bool) :
    (server capabilities wanted).Serves (searching wanted) id where
  granted r p h := by
    refine ⟨p.reply wanted r, p.after r, if_pos h, fun hr => ?_, rfl⟩
    cases r with
    | logout => exact absurd rfl hr
    | uid command literal => cases command <;> rfl
    | _ => rfl
  listed criteria literal p f reply p' hf h := by
    have hgrants : p.grants capabilities (.uid (.search criteria) literal) = true := by
      simp only [id_eq] at hf
      simp [grants, hf]
    simp only [server, if_pos hgrants, Prod.mk.injEq, Except.ok.injEq] at h
    obtain ⟨rfl, -⟩ := h
    simp only [id_eq] at hf
    simp only [Postbox.reply, hf]
    exact lists_numbers _ _ _
  fetched uid literal p reply p' hgrants h := by
    simp only [server, id_eq] at hgrants h
    simp only [if_pos hgrants, Prod.mk.injEq, Except.ok.injEq] at h
    obtain ⟨rfl, -⟩ := h
    cases hl : p.letter? uid <;> simp [Postbox.reply, hl, Client.bodyOf]

end Postbox

end Mailroom.Imap
