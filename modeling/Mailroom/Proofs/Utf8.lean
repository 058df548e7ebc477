import Mailroom.Text.Utf8

/-!
# UTF-8 reads back

What `Text.encodeUtf8` writes, `Text.decodeUtf8` reads as the same text
(`Text.decodeUtf8_encodeUtf8`). A character is a leading byte and continuation bytes of six bits
each. Where the leading byte bounds the byte after it, which keeps overlong forms, surrogates and
values beyond the last code point out, a character stays within the bounds, because it is none of
these.
-/

namespace Mailroom.Text

/-! ### Bytes -/

/-- A continuation byte, with the last six bits of a number. -/
def tailByte (n : Nat) : UInt8 := UInt8.ofNat (n % 64 + 128)

@[simp] theorem toNat_tailByte (n : Nat) : (tailByte n).toNat = n % 64 + 128 := by
  rw [tailByte, UInt8.toNat_ofNat']
  omega

theorem toNat_ofNat {k : Nat} (h : k < 256) : (UInt8.ofNat k).toNat = k := by
  rw [UInt8.toNat_ofNat']
  omega

/-- What a leading byte says, as a number. -/
theorem leadByte?_ofNat {k : Nat} (h : k < 256) : leadByte? (UInt8.ofNat k) =
    if k < 0x80 then some (1, 0, 0)
    else if k < 0xC2 then none
    else if k < 0xE0 then some (2, 0x80, 0xBF)
    else if k = 0xE0 then some (3, 0xA0, 0xBF)
    else if k = 0xED then some (3, 0x80, 0x9F)
    else if k < 0xF0 then some (3, 0x80, 0xBF)
    else if k = 0xF0 then some (4, 0x90, 0xBF)
    else if k < 0xF4 then some (4, 0x80, 0xBF)
    else if k = 0xF4 then some (4, 0x80, 0x8F)
    else none := by
  simp [leadByte?, UInt8.lt_iff_toNat_lt, ← UInt8.toNat_inj, Nat.mod_eq_of_lt h]

/-- Bytes continue a character: the first is within the bounds of the leading byte, and the others
are continuation bytes. -/
def Continue (lo hi : UInt8) : List UInt8 → Prop
  | [] => True
  | b :: bs => (lo.toNat ≤ b.toNat ∧ b.toNat ≤ hi.toNat) ∧ Continue 0x80 0xBF bs

theorem continue_cons {lo hi : UInt8} {n : Nat} {bs : List UInt8}
    (hn : lo.toNat ≤ n % 64 + 128 ∧ n % 64 + 128 ≤ hi.toNat) (h : Continue 0x80 0xBF bs) :
    Continue lo hi (tailByte n :: bs) :=
  ⟨by simpa using hn, h⟩

theorem continue_tailByte (n : Nat) {bs : List UInt8} (h : Continue 0x80 0xBF bs) :
    Continue 0x80 0xBF (tailByte n :: bs) :=
  continue_cons (show 0x80 ≤ _ ∧ _ ≤ 0xBF by omega) h

/-- Bytes that continue a character are found at the front, by induction on them. -/
theorem continuation_append {lo hi : UInt8} {bs : List UInt8} (h : Continue lo hi bs)
    (rest : List UInt8) : continuation lo hi bs.length (bs ++ rest) = bs := by
  induction bs generalizing lo hi with
  | nil => rfl
  | cons b bs ih =>
    have hb : (lo ≤ b && b ≤ hi) = true := by
      simpa [UInt8.le_iff_toNat_le] using h.1
    rw [List.length_cons, List.cons_append, continuation, if_pos hb, ih h.2]

/-! ### Characters -/

/-- A leading byte and the bytes that continue it are the character with a code point. -/
def Spells (lead : UInt8) (bs : List UInt8) (n : Nat) : Prop :=
  codePoint lead bs = n ∧
    ∃ lo hi, leadByte? lead = some (bs.length + 1, lo, hi) ∧ Continue lo hi bs

/-- A spelled character is read. -/
theorem decodeFrom_spelled {lead : UInt8} {bs : List UInt8} {n : Nat} (h : Spells lead bs n)
    (fuel start : Nat) (rest : List UInt8) (acc : List Char) :
    decodeFrom (fuel + 1) start (lead :: (bs ++ rest)) acc =
      decodeFrom fuel (start + (bs.length + 1)) rest (Char.ofNat n :: acc) := by
  obtain ⟨rfl, lo, hi, hlead, hcontinue⟩ := h
  simp [decodeFrom, hlead, continuation_append hcontinue]

theorem spells_one {n : Nat} (h : n ≤ 0x7F) : Spells (UInt8.ofNat n) [] n := by
  refine ⟨?_, 0, 0, ?_, trivial⟩
  · simp [codePoint, Nat.mod_eq_of_lt (show n < 256 by omega)]
  · rw [leadByte?_ofNat (by omega), if_pos (by omega)]
    rfl

theorem spells_two {n : Nat} (hlo : 0x7F < n) (hhi : n ≤ 0x7FF) :
    Spells (UInt8.ofNat (n / 64 % 32 + 192)) [tailByte n] n := by
  refine ⟨?_, 0x80, 0xBF, ?_, continue_tailByte n trivial⟩
  · simp only [codePoint, List.length_singleton, List.foldl_cons, List.foldl_nil, toNat_tailByte,
      toNat_ofNat (show n / 64 % 32 + 192 < 256 by omega)]
    omega
  · rw [leadByte?_ofNat (by omega), if_neg (by omega), if_neg (by omega), if_pos (by omega)]
    rfl

/-- Three bytes leave out overlong forms and surrogates. -/
theorem spells_three {n : Nat} (hlo : 0x7FF < n) (hhi : n ≤ 0xFFFF)
    (hvalid : n < 0xD800 ∨ 0xDFFF < n) :
    Spells (UInt8.ofNat (n / 4096 % 16 + 224)) [tailByte (n / 64), tailByte n] n := by
  have htail : Continue 0x80 0xBF [tailByte n] := continue_tailByte n trivial
  refine ⟨?_, ?_⟩
  · simp only [codePoint, List.length_cons, List.length_nil, List.foldl_cons, List.foldl_nil,
      toNat_tailByte, toNat_ofNat (show n / 4096 % 16 + 224 < 256 by omega)]
    omega
  · rw [leadByte?_ofNat (by omega), if_neg (by omega), if_neg (by omega), if_neg (by omega)]
    split
    · exact ⟨0xA0, 0xBF, rfl, continue_cons (show 0xA0 ≤ _ ∧ _ ≤ 0xBF by omega) htail⟩
    · split
      · exact ⟨0x80, 0x9F, rfl, continue_cons (show 0x80 ≤ _ ∧ _ ≤ 0x9F by omega) htail⟩
      · rw [if_pos (by omega)]
        exact ⟨0x80, 0xBF, rfl, continue_tailByte _ htail⟩

/-- Four bytes leave out overlong forms and values beyond the last code point. -/
theorem spells_four {n : Nat} (hlo : 0xFFFF < n) (hhi : n < 0x110000) :
    Spells (UInt8.ofNat (n / 262144 % 8 + 240))
      [tailByte (n / 4096), tailByte (n / 64), tailByte n] n := by
  have htail : Continue 0x80 0xBF [tailByte (n / 64), tailByte n] :=
    continue_tailByte _ (continue_tailByte n trivial)
  refine ⟨?_, ?_⟩
  · simp only [codePoint, List.length_cons, List.length_nil, List.foldl_cons, List.foldl_nil,
      toNat_tailByte, toNat_ofNat (show n / 262144 % 8 + 240 < 256 by omega)]
    omega
  · rw [leadByte?_ofNat (by omega), if_neg (by omega), if_neg (by omega), if_neg (by omega),
      if_neg (by omega), if_neg (by omega), if_neg (by omega)]
    split
    · exact ⟨0x90, 0xBF, rfl, continue_cons (show 0x90 ≤ _ ∧ _ ≤ 0xBF by omega) htail⟩
    · split
      · exact ⟨0x80, 0xBF, rfl, continue_tailByte _ htail⟩
      · rw [if_pos (by omega)]
        exact ⟨0x80, 0x8F, rfl, continue_cons (show 0x80 ≤ _ ∧ _ ≤ 0x8F by omega) htail⟩

/-- Every character is spelled by the bytes that encode it. -/
theorem utf8EncodeChar_spells (c : Char) :
    ∃ lead bs, String.utf8EncodeChar c = lead :: bs ∧ Spells lead bs c.toNat := by
  have hvalid : c.val.toNat < 0xD800 ∨ 0xDFFF < c.val.toNat ∧ c.val.toNat < 0x110000 := c.valid
  rw [← c.toNat_val]
  unfold String.utf8EncodeChar
  dsimp only
  split
  · next h => exact ⟨_, _, rfl, spells_one h⟩
  · split
    · next h => exact ⟨_, _, rfl, spells_two (by omega) h⟩
    · split
      · next h => exact ⟨_, _, rfl, spells_three (by omega) h (by omega)⟩
      · exact ⟨_, _, rfl, spells_four (by omega) (by omega)⟩

/-! ### Texts -/

/-- An encoded text is read character by character, by induction on the text; there is fuel for
every byte, and so for every character. -/
theorem decodeFrom_encoded (cs : List Char) {fuel : Nat}
    (hfuel : (cs.flatMap String.utf8EncodeChar).length ≤ fuel) (start : Nat) (acc : List Char) :
    decodeFrom fuel start (cs.flatMap String.utf8EncodeChar) acc =
      .ok (String.ofList (acc.reverse ++ cs)) := by
  induction cs generalizing fuel start acc with
  | nil => simp [decodeFrom]
  | cons c cs ih =>
    obtain ⟨lead, bs, hc, hspells⟩ := utf8EncodeChar_spells c
    rw [List.flatMap_cons, hc, List.cons_append] at hfuel ⊢
    simp only [List.length_cons, List.length_append] at hfuel
    obtain ⟨fuel, rfl⟩ : ∃ k, fuel = k + 1 := ⟨fuel - 1, by omega⟩
    rw [decodeFrom_spelled hspells, ih (by omega), Char.ofNat_toNat]
    simp

/-- **Encoding reads back.** -/
@[simp] theorem decodeUtf8_encodeUtf8 (s : String) : decodeUtf8 (encodeUtf8 s) = .ok s := by
  have hbytes : (encodeUtf8 s).data.toList = s.toList.flatMap String.utf8EncodeChar := by
    rw [encodeUtf8, String.toUTF8_eq_toByteArray, ← String.utf8Encode_toList, List.utf8Encode,
      List.data_toByteArray]
  rw [decodeUtf8, hbytes, decodeFrom_encoded _ (Nat.le_refl _)]
  simp

end Mailroom.Text
