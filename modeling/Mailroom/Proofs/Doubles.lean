import Mathlib
import Mailroom.Number

/-!
# Doubles in order

What is needed of doubles to follow an amount of time that doubles again and again. The doubles that
are numbers stand in a line: each has a place (`Float64.rank`), and `≤` and `<` compare places
(`Float64.le_iff`, `Float64.lt_iff`). So `larger` and `smaller` are bounds as in a linear order.

A double of full precision times a power of two is exact, unless the product is too large for a
double; then it is infinite (`Float64.Normal.unpack_mul_twoPow`). So these products grow with the
exponent, and whole numbers below `2 ^ 53` are doubles that stand in the order of the numbers.
-/

namespace Mailroom.Float64

open Float.Model (UnpackedFloat Format)
open Float.Model.UnpackedFloat

/-! ### The order -/

/-- The place of an unpacked number in the order. The sign, and whether the number is finite, count
before the exponent, and the exponent counts before the significand. -/
def place : UnpackedFloat → Int ×ₗ Int ×ₗ Int
  | .infinity .positive => toLex (2, toLex (0, 0))
  | .finite .positive m e _ => toLex (1, toLex (e, (m : Int)))
  | .zero _ | .notANumber => toLex (0, toLex (0, 0))
  | .finite .negative m e _ => toLex (-1, toLex (-e, -(m : Int)))
  | .infinity .negative => toLex (-2, toLex (0, 0))

theorem compare_neg (a b : Int) : compare (-a) (-b) = compare b a := by
  have hneg : StrictAnti fun a : Int => -a := fun _ _ => neg_lt_neg
  simpa only [cmp_eq_compare] using hneg.cmp_map_eq a b

theorem compare_natCast (m n : Nat) : compare (m : Int) n = compare m n := by
  simpa only [cmp_eq_compare] using (Nat.strictMono_cast (α := Int)).cmp_map_eq m n

/-- Numbers compare as their places do. -/
theorem compare_place {a b : UnpackedFloat} (ha : a ≠ .notANumber) (hb : b ≠ .notANumber) :
    a.compare b = some (compare (place a) (place b)) := by
  rcases a with (_ | _) | _ | (_ | _) | ⟨_ | _, m, e, _⟩ <;>
  rcases b with (_ | _) | _ | (_ | _) | ⟨_ | _, n, f, _⟩ <;>
  first
  | contradiction
  | rfl
  | -- Two finite numbers of one sign compare by exponents and then by significands.
    simp only [UnpackedFloat.compare, place, Prod.Lex.compare_def, compareLex, compareOn,
      ofLex_toLex, compare_neg, compare_natCast, Ordering.swap_then, Int.compare_swap,
      Nat.compare_swap]
    rfl

/-- The double is a number. -/
def IsNumber (x : Float) : Prop := x.toModel.unpack ≠ .notANumber

/-- The place of a double in the order. -/
def rank (x : Float) : Int ×ₗ Int ×ₗ Int := place x.toModel.unpack

variable {x y z : Float}

theorem compare_eq_none (h : ¬ (IsNumber x ∧ IsNumber y)) :
    x.toModel.unpack.compare y.toModel.unpack = none := by
  have hnone : x.toModel.unpack = .notANumber ∨ y.toModel.unpack = .notANumber := by
    unfold IsNumber at h
    tauto
  rcases hnone with h | h <;> rw [h]
  · rfl
  · cases x.toModel.unpack <;> rfl

theorem le_iff : x ≤ y ↔ IsNumber x ∧ IsNumber y ∧ rank x ≤ rank y := by
  refine decide_eq_true_iff.trans ?_
  change (x.toModel.unpack.compare y.toModel.unpack).any (·.isLE) = true ↔ _
  by_cases h : IsNumber x ∧ IsNumber y
  · rw [compare_place h.1 h.2]
    simp [h, rank, Ordering.isLE_iff_ne_gt, compare_le_iff_le]
  · rw [compare_eq_none h]
    simp only [Option.any_none, Bool.false_eq_true, false_iff]
    exact fun hle => h ⟨hle.1, hle.2.1⟩

theorem lt_iff : x < y ↔ IsNumber x ∧ IsNumber y ∧ rank x < rank y := by
  refine decide_eq_true_iff.trans ?_
  change (x.toModel.unpack.compare y.toModel.unpack == some .lt) = true ↔ _
  by_cases h : IsNumber x ∧ IsNumber y
  · rw [compare_place h.1 h.2]
    simp [h, rank, compare_lt_iff_lt]
  · rw [compare_eq_none h]
    simp only [beq_iff_eq, reduceCtorEq, false_iff]
    exact fun hlt => h ⟨hlt.1, hlt.2.1⟩

theorem le_refl (hx : IsNumber x) : x ≤ x := le_iff.mpr ⟨hx, hx, le_rfl⟩

theorem le_trans (h : x ≤ y) (k : y ≤ z) : x ≤ z := by
  rw [le_iff] at h k ⊢
  exact ⟨h.1, k.2.1, h.2.2.trans k.2.2⟩

theorem lt_of_lt_of_le (h : x < y) (k : y ≤ z) : x < z := by
  rw [le_iff] at k
  rw [lt_iff] at h ⊢
  exact ⟨h.1, k.2.1, h.2.2.trans_le k.2.2⟩

theorem le_of_lt (h : x < y) : x ≤ y := by
  rw [lt_iff] at h
  exact le_iff.mpr ⟨h.1, h.2.1, h.2.2.le⟩

theorem le_of_not_lt (hx : IsNumber x) (hy : IsNumber y) (h : ¬ x < y) : y ≤ x :=
  le_iff.mpr ⟨hy, hx, not_lt.mp fun hlt => h (lt_iff.mpr ⟨hx, hy, hlt⟩)⟩

/-! ### The larger and the smaller of two -/

theorem le_larger_left (hx : IsNumber x) : x ≤ larger x y := by
  unfold larger
  split
  · next h => exact le_of_lt h
  · exact le_refl hx

theorem le_larger_right (hx : IsNumber x) (hy : IsNumber y) : y ≤ larger x y := by
  unfold larger
  split
  · exact le_refl hy
  · next h => exact le_of_not_lt hx hy h

theorem larger_le (hx : x ≤ z) (hy : y ≤ z) : larger x y ≤ z := by
  unfold larger
  split
  · exact hy
  · exact hx

theorem smaller_le_left (hx : IsNumber x) : smaller x y ≤ x := by
  unfold smaller
  split
  · next h => exact le_of_lt h
  · exact le_refl hx

theorem smaller_le_right (hx : IsNumber x) (hy : IsNumber y) : smaller x y ≤ y := by
  unfold smaller
  split
  · exact le_refl hy
  · next h => exact le_of_not_lt hy hx h

theorem le_smaller (hx : z ≤ x) (hy : z ≤ y) : z ≤ smaller x y := by
  unfold smaller
  split
  · exact hy
  · exact hx

/-! ### Doubles of full precision -/

/-- A significand takes up all the bits that there are for it. -/
structure Full (m : Nat) : Prop where
  /-- Its first bit counts. -/
  low : 2 ^ 52 ≤ m
  /-- There is no bit before the first. -/
  high : m < 2 ^ 53

theorem Full.pos {m : Nat} (h : Full m) : 0 < m := Nat.lt_of_lt_of_le (by decide) h.low

/-- The double is `m · 2 ^ e`, with a significand that takes up all its bits. -/
structure Normal (x : Float) (m : Nat) (e : Int) : Prop where
  /-- The significand takes up all its bits. -/
  full : Full m
  /-- The exponent is one that a double can have. -/
  least : -1074 ≤ e
  /-- The double unpacks to its parts. -/
  unpack_eq : x.toModel.unpack = .finite .positive m e full.pos

theorem Normal.isNumber {m : Nat} {e : Int} (h : Normal x m e) : IsNumber x := by
  rw [IsNumber, h.unpack_eq]
  nofun

/-- A double is what it unpacks to. -/
theorem eq_of_unpack (h : x.toModel.unpack = y.toModel.unpack) : x = y :=
  Float.toBits_inj.mp (UInt64.toBitVec_inj.mp
    ((unpack_inj_of_valid x.toModel.valid y.toModel.valid).mp h))

/-- The leading bit that is not stored. -/
theorem toNat_leading (m : BitVec 52) : (1#1 ++ m).toNat = 2 ^ 52 + m.toNat := by
  rw [BitVec.toNat_append, ← Nat.shiftLeft_add_eq_or_of_lt m.isLt]
  rfl

/-- What the bits of a positive double of full precision unpack to. -/
theorem unpack_packComponents {b : Nat} (h0 : 0 < b) (h1 : b < 2047) (m : BitVec 52) :
    unpack Format.binary64 (packComponents Format.binary64 .positive (BitVec.ofNat 11 b) m) =
      .finite .positive (2 ^ 52 + m.toNat) (b - 1075) (Nat.add_pos_left (by decide) _) := by
  have hb : (BitVec.ofNat 11 b).toNat = b := by
    rw [BitVec.toNat_ofNat, Nat.mod_eq_of_lt (by omega)]
  have hlow : BitVec.ofNat 11 b ≠ 0#11 := by
    intro h
    have := congrArg BitVec.toNat h
    rw [hb, BitVec.toNat_zero] at this
    omega
  have hhigh : BitVec.ofNat 11 b ≠ -1#11 := by
    intro h
    have := congrArg BitVec.toNat h
    rw [hb, show (-1#11).toNat = 2047 from rfl] at this
    omega
  unfold Float.Model.UnpackedFloat.unpack
  simp only [unpackMantissa_packComponents, unpackExponent_packComponents,
    unpackSign_packComponents, hhigh, hlow, if_false, hb, toNat_leading]
  rfl

/-- Packing is lossless, unless the number is too large. -/
theorem unpack_pack {m : Nat} {e : Int} (hm : Full m) (he : -1074 ≤ e) :
    unpack Format.binary64 (pack Format.binary64 (.finite .positive m e hm.pos)) =
      if e ≤ 971 then .finite .positive m e hm.pos else .infinity .positive := by
  have hlow := hm.low
  have hhigh := hm.high
  have hlog : m.log2 = 52 := (Nat.log2_eq_iff hm.pos.ne').mpr ⟨hm.low, hm.high⟩
  have hbiased : (e + Format.binary64.exponentBias + (52 : Nat)).toNat = (e + 1075).toNat := by
    change (e + (1023 : Int) + 52).toNat = _
    omega
  unfold Float.Model.UnpackedFloat.pack
  dsimp only
  rw [hbiased, hlog]
  split
  · rw [if_neg (by omega)]
    rfl
  · rw [if_pos (show 52 + 1 = Format.binary64.mantissaBits from rfl), if_pos (by omega),
      unpack_packComponents (by omega) (by omega)]
    have hmantissa : 2 ^ 52 + (BitVec.ofNat 52 m).toNat = m := by
      rw [BitVec.toNat_ofNat]
      omega
    have hexponent : ((e + 1075).toNat : Int) - 1075 = e := by omega
    simp only [hmantissa, hexponent]

/-- A finite number that unpacks from bits takes up all bits of its significand, unless its exponent
is the least. -/
theorem full_of_unpack {b : BitVec 64} {s : Sign} {m : Nat} {e : Int} {h : 0 < m}
    (hb : unpack Format.binary64 b = .finite s m e h) : Full m ∨ e = -1074 := by
  revert hb
  fun_cases Float.Model.UnpackedFloat.unpack Format.binary64 b with
  | case1 | case2 | case3 => nofun
  | case4 _ _ e' _ _ _ hexponent =>
    intro hb
    simp only [finite.injEq] at hb
    right
    rw [← hb.2.2]
    simp only [e', hexponent]
    rfl
  | case5 m' =>
    intro hb
    simp only [finite.injEq] at hb
    left
    have hm : m = 2 ^ 52 + m'.toNat := hb.2.1.symm.trans (toNat_leading m')
    have hlt : m'.toNat < 2 ^ 52 := m'.isLt
    exact ⟨by omega, by omega⟩

/-- A finite double from one on has full precision. -/
theorem normal_of_one_le (h : 1 ≤ x) (hx : x.isFinite = true) : ∃ m e, Normal x m e := by
  have hfinite : x.toModel.unpack.isFinite = true := hx
  have hrank : place (.finite .positive (2 ^ 52) (-52) (by decide)) ≤ place x.toModel.unpack :=
    (le_iff.mp h).2.2
  rcases hu : x.toModel.unpack with _ | _ | _ | ⟨_ | _, m, e, _⟩ <;> rw [hu] at hrank hfinite
  · cases hfinite
  · cases hfinite
  · simp [place, Prod.Lex.toLex_le_toLex] at hrank
  · simp [place, Prod.Lex.toLex_le_toLex] at hrank
  · have he : -52 ≤ e := by
      simp only [place, Prod.Lex.toLex_le_toLex] at hrank
      omega
    rcases full_of_unpack hu with hm | rfl
    · exact ⟨m, e, hm, by omega, hu⟩
    · omega

/-! ### Powers of two -/

/-- The bits of a power of two. -/
theorem toBitVec_powerBits {k : Nat} (h : k < 1024) : ((k + 1023).toUInt64 <<< 52).toBitVec =
    packComponents Format.binary64 .positive (BitVec.ofNat 11 (k + 1023)) 0#52 := by
  apply BitVec.eq_of_toNat_eq
  have hbits : ((k + 1023).toUInt64 <<< 52).toNat = (k + 1023) * 2 ^ 52 := by
    rw [UInt64.toNat_shiftLeft, UInt64.toNat_ofNat', Nat.shiftLeft_eq,
      Nat.mod_eq_of_lt (by omega : k + 1023 < 2 ^ 64), show (52 : UInt64).toNat % 64 = 52 from rfl]
    exact Nat.mod_eq_of_lt (by omega)
  refine hbits.trans ?_
  unfold packComponents
  rw [BitVec.toNat_append, BitVec.toNat_append, BitVec.toNat_ofNat, Nat.mod_eq_of_lt (by omega)]
  simp [Sign.toBitVec, Nat.shiftLeft_eq]

theorem unpack_ofBits (b : UInt64) : (Float.ofBits b).toModel.unpack =
    unpack Format.binary64 (pack Format.binary64 (unpack Format.binary64 b.toBitVec)) := rfl

theorem twoPow_natCast {k : Nat} (h : k < 1024) :
    twoPow k = .ofBits ((k + 1023).toUInt64 <<< 52) := by
  unfold twoPow
  rw [if_neg (by omega), if_pos (by omega)]
  rfl

theorem normal_twoPow {k : Nat} (h : k < 1024) : Normal (twoPow k) (2 ^ 52) (k - 52) := by
  refine ⟨⟨by decide, by decide⟩, by omega, ?_⟩
  have hexponent : ((k + 1023 : Nat) : Int) - 1075 = k - 52 := by omega
  rw [twoPow_natCast h, unpack_ofBits, toBitVec_powerBits h,
    unpack_packComponents (by omega) (by omega)]
  simp only [BitVec.toNat_zero, Nat.add_zero, hexponent]
  rw [unpack_pack ⟨by decide, by decide⟩ (by omega), if_pos (by omega)]

/-! ### Products -/

/-- Zeros at the end are shifted out without a trace, by induction on how many. -/
theorem shiftRight_zeros (m n : Nat) :
    (⟨m * 2 ^ n, false, false⟩ : ExtendedMantissa) >>> n = ⟨m, false, false⟩ := by
  change n.repeat ExtendedMantissa.shiftRightOne _ = _
  induction n generalizing m with
  | zero => simp [Nat.repeat]
  | succ n ih =>
    rw [Nat.pow_succ', ← Nat.mul_assoc, Nat.repeat, ih]
    simp [ExtendedMantissa.shiftRightOne]

variable {m : Nat} {e : Int}

/-- A significand with zeros at its end shifts to the full significand before them. -/
theorem shiftToTargetExponent_zeros (hm : Full m) (n : Nat) (he : -1074 ≤ e + n) :
    shiftToTargetExponent Format.binary64 (m * 2 ^ n) e .exact =
      (⟨m, false, false⟩, e + n) := by
  have hlog : (m * 2 ^ n).log2 = 52 + n := by
    rw [Nat.log2_eq_iff (Nat.mul_pos hm.pos (Nat.two_pow_pos n)).ne', Nat.pow_add,
      Nat.add_right_comm, Nat.pow_add]
    exact ⟨Nat.mul_le_mul_right _ hm.low, Nat.mul_lt_mul_of_pos_right hm.high (Nat.two_pow_pos n)⟩
  have hamount : (Format.binary64.targetExponent
      (Float.Model.totalExponent (m * 2 ^ n) e) - e).toNat = n := by
    unfold Format.targetExponent Float.Model.totalExponent
    rw [hlog]
    change (max (((52 + n : Nat) : Int) + 1 + e - 53) (-1074) - e).toNat = n
    omega
  unfold shiftToTargetExponent shiftToExponent
  dsimp only
  rw [hamount]
  exact congrArg (·, e + (n : Int)) (shiftRight_zeros m n)

/-- Rounding a significand with zeros at its end is exact. -/
theorem roundWithAccuracy_zeros (hm : Full m) (n : Nat) (he : -1074 ≤ e + n) :
    roundWithAccuracy Format.binary64 .positive (m * 2 ^ n) e .exact =
      .finite .positive m (e + n) hm.pos := by
  unfold roundWithAccuracy
  rw [shiftToTargetExponent_zeros hm n he]
  have hrounded : ExtendedMantissa.roundedMantissa ⟨m, false, false⟩ = m * 2 ^ 0 :=
    (Nat.mul_one m).symm
  dsimp only
  rw [hrounded, shiftToTargetExponent_zeros hm 0 (by omega)]
  simp [hm.pos.ne']

namespace Normal

/-- The product with a power of two is exact before it is packed. -/
theorem unpack_mul_twoPow (hx : Normal x m e) {k : Nat} (hk : k < 1024) :
    (x * twoPow k).toModel.unpack =
      unpack Format.binary64 (pack Format.binary64 (.finite .positive m (e + k) hx.full.pos)) := by
  have hleast := hx.least
  have hproduct : (x * twoPow k).toModel.unpack = unpack Format.binary64 (pack Format.binary64
      (mul Format.binary64 x.toModel.unpack (twoPow k).toModel.unpack)) := rfl
  have hexponent : e + (k - 52) + ((52 : Nat) : Int) = e + k := by omega
  have hround := roundWithAccuracy_zeros (e := e + (k - 52)) hx.full 52 (by omega)
  rw [hexponent] at hround
  rw [hproduct, hx.unpack_eq, (normal_twoPow hk).unpack_eq, ← hround]
  rfl

theorem mul_twoPow_zero (hx : Normal x m e) : x * twoPow 0 = x := by
  have hproduct := hx.unpack_mul_twoPow (Nat.zero_lt_succ 1023)
  have hexponent : e + ((0 : Nat) : Int) = e := by omega
  simp only [hexponent, ← hx.unpack_eq] at hproduct
  exact eq_of_unpack (hproduct.trans
    (congrArg (UnpackedFloat.unpack Format.binary64) (pack_unpack_of_valid x.toModel.valid)))

/-- Normal doubles stand in the order of their exponents and then of their significands. -/
theorem le (hx : Normal x m e) {n : Nat} {f : Int} (hy : Normal y n f)
    (h : e < f ∨ e = f ∧ m ≤ n) : x ≤ y := by
  refine le_iff.mpr ⟨hx.isNumber, hy.isNumber, ?_⟩
  rw [rank, rank, hx.unpack_eq, hy.unpack_eq]
  simpa [place, Prod.Lex.toLex_le_toLex] using h

/-- The product with a power of two is a double of full precision, or infinite if it is too
large. -/
theorem mul_twoPow (hx : Normal x m e) {k : Nat} (hk : k < 1024) :
    e + k ≤ 971 ∧ Normal (x * twoPow k) m (e + k) ∨
      971 < e + k ∧ (x * twoPow k).toModel.unpack = .infinity .positive := by
  have hleast := hx.least
  have hproduct := hx.unpack_mul_twoPow hk
  rw [unpack_pack hx.full (by omega)] at hproduct
  split at hproduct
  · next h => exact .inl ⟨h, hx.full, by omega, hproduct⟩
  · next h => exact .inr ⟨by omega, hproduct⟩

/-- The products grow with the powers. -/
theorem mul_twoPow_mono (hx : Normal x m e) {k l : Nat} (hkl : k ≤ l) (hl : l < 1024) :
    x * twoPow k ≤ x * twoPow l := by
  rcases hx.mul_twoPow (hkl.trans_lt hl) with ⟨hk, hxk⟩ | ⟨hk, hxk⟩ <;>
  rcases hx.mul_twoPow hl with ⟨hl, hxl⟩ | ⟨hl, hxl⟩
  · exact hxk.le hxl (by omega)
  · refine le_iff.mpr ⟨hxk.isNumber, by rw [IsNumber, hxl]; nofun, ?_⟩
    rw [rank, rank, hxk.unpack_eq, hxl]
    simp [place, Prod.Lex.toLex_le_toLex]
  · omega
  · rw [eq_of_unpack (hxk.trans hxl.symm)]
    exact le_refl (by rw [IsNumber, hxl]; nofun)

end Normal

/-! ### Whole numbers -/

/-- A whole number that fits a significand is one, shifted until it takes up all bits. -/
theorem full_shifted {n : Nat} (h0 : 0 < n) (h : n < 2 ^ 53) : Full (n * 2 ^ (52 - n.log2)) := by
  have hlog : n.log2 < 53 := (Nat.log2_lt h0.ne').mpr h
  have hpow : 2 ^ n.log2 * 2 ^ (52 - n.log2) = 2 ^ 52 := by
    rw [← Nat.pow_add]
    congr 1
    omega
  constructor
  · rw [← hpow]
    exact Nat.mul_le_mul_right _ (Nat.log2_self_le h0.ne')
  · have hlt := Nat.mul_lt_mul_of_pos_right (Nat.lt_log2_self (n := n))
      (Nat.two_pow_pos (52 - n.log2))
    rwa [Nat.pow_succ, Nat.mul_right_comm, hpow] at hlt

theorem ofUInt64_eq {n : Nat} (h0 : 0 < n) (h : n < 2 ^ 53) :
    ofUInt64 Format.binary64 n.toUInt64 =
      .finite .positive (n * 2 ^ (52 - n.log2)) (n.log2 - 52) (full_shifted h0 h).pos := by
  have hlog : n.log2 < 53 := (Nat.log2_lt h0.ne').mpr h
  have hn : n.toUInt64.toNat = n := by
    rw [UInt64.toNat_ofNat', Nat.mod_eq_of_lt (by omega)]
  have hpositive : compare (n : Int) 0 = .gt := compare_gt_iff_gt.mpr (by omega)
  have htarget : Format.binary64.targetExponent (Float.Model.totalExponent n 0) = n.log2 - 52 := by
    change max ((n.log2 : Int) + 1 + 0 - 53) (-1074) = _
    omega
  have hamount : (0 - ((n.log2 : Int) - 52)).toNat = 52 - n.log2 := by omega
  have hexponent : (0 : Int) - (52 - n.log2 : Nat) = n.log2 - 52 := by omega
  have hround := roundWithAccuracy_zeros (e := n.log2 - 52) (full_shifted h0 h) 0 (by omega)
  unfold ofUInt64 UnpackedFloat.ofNat UnpackedFloat.ofInt UnpackedFloat.normalize
  rw [hn, hpositive]
  unfold UnpackedFloat.round decreaseExponent
  simp only [Int.toNat_natCast, htarget, hamount, hexponent, Nat.shiftLeft_eq]
  simpa using hround

theorem normal_natCast {n : Nat} (h0 : 0 < n) (h : n < 2 ^ 53) :
    Normal n.toUInt64.toFloat (n * 2 ^ (52 - n.log2)) (n.log2 - 52) := by
  have hlog : n.log2 < 53 := (Nat.log2_lt h0.ne').mpr h
  have hunpack : n.toUInt64.toFloat.toModel.unpack = unpack Format.binary64
      (pack Format.binary64 (ofUInt64 Format.binary64 n.toUInt64)) := rfl
  refine ⟨full_shifted h0 h, by omega, ?_⟩
  rw [hunpack, ofUInt64_eq h0 h, unpack_pack (full_shifted h0 h) (by omega), if_pos (by omega)]

/-- The notation of a whole number that is not too long reads as the number. -/
theorem toFloat_natCast {n : Nat} (h0 : 0 < n) (h : n < 2 ^ 53) :
    Decimal.toFloat false n 0 = n.toUInt64.toFloat := by
  have hlength : (Nat.toDigits 10 n).length ≤ 16 :=
    Nat.toDigits_length 10 n 16 (by decide) (h.trans_le (by decide))
  unfold Decimal.toFloat
  simp only [Bool.false_eq_true, if_false]
  rw [if_neg (by omega), if_neg (by omega), if_neg (by omega), if_neg (by omega),
    Float.ofScientific, dif_pos ⟨h, by decide⟩]
  -- The power of ten that the number is multiplied with is one.
  exact (normal_natCast h0 h).mul_twoPow_zero

/-- Notations of whole numbers read in the order of the numbers. -/
theorem toFloat_mono {n k : Nat} (hnk : n ≤ k) (hk : k < 2 ^ 53) :
    Decimal.toFloat false n 0 ≤ Decimal.toFloat false k 0 := by
  rcases Nat.eq_zero_or_pos n with rfl | hn
  · rcases Nat.eq_zero_or_pos k with rfl | hk0
    · exact le_refl nofun
    · have hnormal := normal_natCast hk0 hk
      rw [toFloat_natCast hk0 hk]
      refine le_iff.mpr ⟨nofun, hnormal.isNumber, ?_⟩
      rw [rank, rank, hnormal.unpack_eq]
      change place (.zero .positive) ≤ _
      simp [place, Prod.Lex.toLex_le_toLex]
  · have hk0 := hn.trans_le hnk
    rw [toFloat_natCast hn (hnk.trans_lt hk), toFloat_natCast hk0 hk]
    refine (normal_natCast hn (hnk.trans_lt hk)).le (normal_natCast hk0 hk) ?_
    have hlog : n.log2 ≤ k.log2 :=
      (Nat.le_log2 hk0.ne').mpr ((Nat.log2_self_le hn.ne').trans hnk)
    rcases hlog.lt_or_eq with hlt | heq
    · exact .inl (by omega)
    · rw [heq]
      exact .inr ⟨rfl, Nat.mul_le_mul_right _ hnk⟩

end Mailroom.Float64
