import Mathlib.Algebra.Field.Rat
import Mathlib.Algebra.Order.Field.Power
import Mathlib.Algebra.Order.Ring.Rat
import Mathlib.Tactic.Ring
import TechCatalog.Decimal.Binary

/-!
# When adding two floating-point numbers is exact

The sum of two finite floating-point numbers is rounded to 53 binary digits. Where the exact sum is
a whole multiple of a power of two within the range of the exponents, and fewer than `2 ^ 53` times
this power, it has no digits to lose. The numbers are unpacked into a signed significand and an
exponent, added, brought to the exponent that the format wants, and packed again; each step keeps
the value.
-/

namespace TechCatalog.Decimal

open Float.Model (Format totalExponent UnpackedFloat)
open Float.Model.UnpackedFloat (Sign ExtendedMantissa shiftToExponent shiftToTargetExponent
  decreaseExponent roundWithAccuracy packComponents unpackMantissa unpackExponent unpackSign)

/-- The number that a finite floating-point number stands for; what is not finite counts as zero. -/
def value (x : Float) : ℚ :=
  match shape x with
  | .finite negative m q => (if negative then -1 else 1) * m * 2 ^ q
  | _ => 0

theorem value_zero : value (Float.ofBits 0) = 0 := by
  have hshape : shape (Float.ofBits 0) = .finite false 0 (-1074) := by decide
  rw [value, hshape]
  simp

/-! ### Powers of two -/

theorem two_zpow_sub {i j : Int} (h : i ≤ j) : (2 : ℚ) ^ j = 2 ^ (j - i).toNat * 2 ^ i := by
  rw [← zpow_natCast, ← zpow_add₀ two_ne_zero, Int.toNat_of_nonneg (by omega), Int.sub_add_cancel]

/-- Of two ways to write one number, the one with the smaller exponent has the larger factor. -/
theorem eq_mul_two_pow {m n : Nat} {e q : Int} (h : (m : ℚ) * 2 ^ e = n * 2 ^ q) (hle : e ≤ q) :
    m = n * 2 ^ (q - e).toNat := by
  rw [two_zpow_sub hle, ← mul_assoc] at h
  have hcast := mul_right_cancel₀ (zpow_ne_zero e two_ne_zero) h
  exact_mod_cast hcast

theorem log2_mul_two_pow {n : Nat} (hn : 0 < n) (k : Nat) : (n * 2 ^ k).log2 = n.log2 + k := by
  induction k with
  | zero => rw [Nat.pow_zero, Nat.mul_one, Nat.add_zero]
  | succ k ih =>
    have hpos : 0 < n * 2 ^ k := Nat.mul_pos hn (Nat.two_pow_pos k)
    rw [Nat.pow_succ, ← Nat.mul_assoc, Nat.mul_comm, Nat.log2_two_mul (by omega), ih,
      Nat.add_assoc]

/-- The highest binary digit of a number does not depend on how it is written. -/
theorem log2_add_eq {m n : Nat} (hm : 0 < m) (hn : 0 < n) {e q : Int}
    (h : (m : ℚ) * 2 ^ e = n * 2 ^ q) : (m.log2 : Int) + e = n.log2 + q := by
  rcases Int.le_total e q with hle | hle
  · rw [eq_mul_two_pow h hle, log2_mul_two_pow hn]
    omega
  · rw [eq_mul_two_pow h.symm hle, log2_mul_two_pow hm]
    omega

/-! ### Rounding -/

/-- The value of an unpacked number; what is not finite counts as zero. -/
def exactValue : UnpackedFloat → ℚ
  | .finite s m e _ => s.apply m * 2 ^ e
  | _ => 0

@[simp]
theorem exactValue_zero (s : Sign) : exactValue (.zero s) = 0 := rfl

@[simp]
theorem exactValue_finite (s : Sign) {m : Nat} (e : Int) (hm : 0 < m) :
    exactValue (.finite s m e hm) = s.apply m * 2 ^ e := rfl

/-- An unpacked number that is finite and written as the format wants it. -/
def Canonical : UnpackedFloat → Prop
  | .zero _ => True
  | .finite _ m e _ => m < 2 ^ 53 ∧ -1074 ≤ e ∧ e ≤ 971 ∧ (2 ^ 52 ≤ m ∨ e = -1074)
  | _ => False

theorem targetExponent_eq (t : Int) :
    Format.binary64.targetExponent t = max (t - 53) (-1074) := rfl

/-- Shifting out zeros loses nothing. -/
theorem shiftRight_mul_two_pow (m k : Nat) :
    ExtendedMantissa.ofMantissaAndAccuracy (m * 2 ^ k) .exact >>> k =
      ExtendedMantissa.ofMantissaAndAccuracy m .exact := by
  show k.repeat ExtendedMantissa.shiftRightOne _ = _
  induction k generalizing m with
  | zero => rw [Nat.pow_zero, Nat.mul_one, Nat.repeat]
  | succ k ih =>
    have hstep : m * 2 ^ (k + 1) = m * 2 * 2 ^ k := by rw [Nat.pow_succ]; ring
    rw [Nat.repeat, hstep, ih]
    simp [ExtendedMantissa.shiftRightOne, ExtendedMantissa.ofMantissaAndAccuracy]

/-- A number that can be written with the exponent the format wants is brought to it unchanged. -/
theorem roundWithAccuracy_eq {s : Sign} {m n : Nat} {e t : Int} (hn : 0 < n) (hle : e ≤ t)
    (hm : m = n * 2 ^ (t - e).toNat)
    (ht : Format.binary64.targetExponent (totalExponent n t) = t) :
    roundWithAccuracy Format.binary64 s m e .exact = .finite s n t hn := by
  have htotal : totalExponent m e = totalExponent n t := by
    rw [totalExponent, totalExponent, hm, log2_mul_two_pow hn]
    omega
  have hfirst : shiftToTargetExponent Format.binary64 m e .exact =
      (ExtendedMantissa.ofMantissaAndAccuracy n .exact, t) := by
    rw [shiftToTargetExponent, htotal, ht, shiftToExponent, hm, shiftRight_mul_two_pow]
    exact Prod.ext rfl (by simp only; omega)
  have hsecond : shiftToTargetExponent Format.binary64 n t .exact =
      (ExtendedMantissa.ofMantissaAndAccuracy n .exact, t) := by
    have hnone := shiftRight_mul_two_pow n 0
    rw [Nat.pow_zero, Nat.mul_one] at hnone
    rw [shiftToTargetExponent, ht, shiftToExponent, Int.sub_self, Int.toNat_zero, hnone]
    exact Prod.ext rfl (by simp)
  have hrounded : (ExtendedMantissa.ofMantissaAndAccuracy n .exact).roundedMantissa = n := rfl
  rw [roundWithAccuracy, hfirst]
  dsimp only
  rw [hrounded, hsecond]
  exact dif_neg (Nat.pos_iff_ne_zero.mp hn)

/-- Lowering the exponent keeps the value. -/
theorem decreaseExponent_mul_two_pow (m : Nat) (e t : Int) :
    ((decreaseExponent m e t).1 : ℚ) * 2 ^ (decreaseExponent m e t).2 = m * 2 ^ e := by
  have hle : e - (e - t).toNat ≤ e := by omega
  rw [decreaseExponent, Nat.shiftLeft_eq, two_zpow_sub hle, Int.sub_sub_self, Int.toNat_natCast]
  push_cast
  ring

theorem decreaseExponent_le (m : Nat) (e t : Int) : (decreaseExponent m e t).2 ≤ t := by
  rw [decreaseExponent]
  omega

theorem decreaseExponent_snd (m : Nat) {e t : Int} (h : t ≤ e) :
    (decreaseExponent m e t).2 = t := by
  rw [decreaseExponent]
  omega

/-- Two ways to write a number are two ways to write it with a sign. -/
theorem apply_mul_congr (s : Sign) {m n : Nat} {a b : ℚ} (h : (m : ℚ) * a = n * b) :
    (s.apply m : ℚ) * a = s.apply n * b := by
  cases s with
  | positive => simpa only [Sign.apply, Int.cast_natCast] using h
  | negative => simp only [Sign.apply, Int.cast_neg, Int.cast_natCast, neg_mul, h]

/-- A number with few enough digits is rounded to itself. -/
theorem round_exact (s : Sign) {m n : Nat} {e q : Int} (hm : 0 < m) (hn : 0 < n)
    (hsize : n < 2 ^ 53) (hlow : -1074 ≤ q) (hhigh : q ≤ 971)
    (h : (m : ℚ) * 2 ^ e = n * 2 ^ q) :
    Canonical (UnpackedFloat.round Format.binary64 s m e) ∧
      exactValue (UnpackedFloat.round Format.binary64 s m e) = s.apply m * 2 ^ e := by
  have hlog := log2_add_eq hm hn h
  have hdigits : n.log2 < 53 := (Nat.log2_lt (by omega)).mpr hsize
  -- The exponent that the format wants is at most that of the unit.
  obtain ⟨t, ht⟩ : ∃ t, t = Format.binary64.targetExponent (totalExponent m e) := ⟨_, rfl⟩
  have hmax : t = max ((m.log2 : Int) + 1 + e - 53) (-1074) := ht
  have htq : t ≤ q := by omega
  obtain ⟨k, hk⟩ : ∃ k, k = n * 2 ^ (q - t).toNat := ⟨_, rfl⟩
  have hpos : 0 < k := hk ▸ Nat.mul_pos hn (Nat.two_pow_pos _)
  have hvalue : (m : ℚ) * 2 ^ e = k * 2 ^ t := by
    rw [h, two_zpow_sub htq, hk]
    push_cast
    ring
  have hklog := log2_add_eq hm hpos hvalue
  have htarget : Format.binary64.targetExponent (totalExponent k t) = t := by
    rw [targetExponent_eq, totalExponent]
    omega
  have hround : UnpackedFloat.round Format.binary64 s m e = .finite s k t hpos := by
    rw [UnpackedFloat.round, ← ht]
    have hle := decreaseExponent_le m e t
    exact roundWithAccuracy_eq hpos hle
      (eq_mul_two_pow ((decreaseExponent_mul_two_pow m e t).trans hvalue) hle) htarget
  rw [hround]
  constructor
  · refine ⟨(Nat.log2_lt (by omega)).mp (by omega), by omega, by omega, ?_⟩
    by_cases hlowest : t = -1074
    · exact .inr hlowest
    · exact .inl ((Nat.le_log2 (by omega)).mp (by omega))
  · exact apply_mul_congr s hvalue.symm

/-- The sign of an integer. -/
def signOf (m : Int) : Sign :=
  if m < 0 then .negative else .positive

theorem signOf_apply (m : Int) : (signOf m).apply m.natAbs = m := by
  unfold signOf
  split
  · simp only [Sign.apply]
    omega
  · simp only [Sign.apply]
    omega

theorem normalize_eq_round {m : Int} (hm : m ≠ 0) (e : Int) (zeroSign : Sign) :
    UnpackedFloat.normalize Format.binary64 m e zeroSign =
      UnpackedFloat.round Format.binary64 (signOf m) m.natAbs e := by
  rcases Int.lt_or_gt_of_ne hm with hneg | hpos
  · have habs : (-m).toNat = m.natAbs := by omega
    rw [UnpackedFloat.normalize, Int.compare_eq_lt.mpr hneg, signOf, if_pos hneg, ← habs]
  · have habs : m.toNat = m.natAbs := by omega
    rw [UnpackedFloat.normalize, Int.compare_eq_gt.mpr hpos, signOf, if_neg (by omega), ← habs]

/-- A number with a sign and few enough digits is rounded to itself. -/
theorem normalize_exact (zeroSign : Sign) {m n e q : Int} (hsize : n.natAbs < 2 ^ 53)
    (hlow : -1074 ≤ q) (hhigh : q ≤ 971) (h : (m : ℚ) * 2 ^ e = n * 2 ^ q) :
    Canonical (UnpackedFloat.normalize Format.binary64 m e zeroSign) ∧
      exactValue (UnpackedFloat.normalize Format.binary64 m e zeroSign) = m * 2 ^ e := by
  by_cases hm : m = 0
  · subst hm
    have hzero : UnpackedFloat.normalize Format.binary64 0 e zeroSign = .zero zeroSign := rfl
    rw [hzero]
    exact ⟨trivial, by simp⟩
  have hpow (i : Int) : (0 : ℚ) < 2 ^ i := zpow_pos two_pos i
  have habs : (m.natAbs : ℚ) * 2 ^ e = n.natAbs * 2 ^ q := by
    have hboth := congrArg abs h
    rw [abs_mul, abs_mul, abs_of_pos (hpow e), abs_of_pos (hpow q)] at hboth
    rwa [Nat.cast_natAbs, Nat.cast_natAbs, Int.cast_abs, Int.cast_abs]
  have hn : n ≠ 0 := by
    rintro rfl
    rw [Int.cast_zero, zero_mul, mul_eq_zero, Int.cast_eq_zero] at h
    exact h.elim hm (hpow e).ne'
  rw [normalize_eq_round hm]
  have hround := round_exact (signOf m) (Int.natAbs_pos.mpr hm) (Int.natAbs_pos.mpr hn) hsize hlow
    hhigh habs
  rwa [signOf_apply] at hround

/-- Two unpacked numbers are added without rounding when their sum has few enough digits. -/
theorem add_exactValue {x y : UnpackedFloat} (hx : Canonical x) (hy : Canonical y) {n q : Int}
    (hsize : n.natAbs < 2 ^ 53) (hlow : -1074 ≤ q) (hhigh : q ≤ 971)
    (h : exactValue x + exactValue y = n * 2 ^ q) :
    Canonical (x.add Format.binary64 y) ∧
      exactValue (x.add Format.binary64 y) = exactValue x + exactValue y := by
  match x, y with
  | .notANumber, _ => exact hx.elim
  | .infinity _, _ => exact hx.elim
  | .zero _, .notANumber => exact hy.elim
  | .zero _, .infinity _ => exact hy.elim
  | .finite .., .notANumber => exact hy.elim
  | .finite .., .infinity _ => exact hy.elim
  | .zero s, .zero s' =>
    cases s <;> cases s' <;> exact ⟨trivial, (add_zero 0).symm⟩
  | .zero _, .finite s m e hm =>
    exact ⟨hy, (zero_add _).symm⟩
  | .finite s m e hm, .zero _ =>
    exact ⟨hx, (add_zero _).symm⟩
  | .finite s m e hm, .finite s' m' e' hm' =>
    -- Both are written with the smaller exponent, and the significands added.
    let low := min e e'
    have hsame (s : Sign) (m : Nat) (e : Int) (hle : low ≤ e) :
        (s.apply ((decreaseExponent m e low).1 : Nat) : ℚ) * 2 ^ low = s.apply m * 2 ^ e := by
      have hvalue := decreaseExponent_mul_two_pow m e low
      rw [decreaseExponent_snd m hle] at hvalue
      exact apply_mul_congr s hvalue
    have hsum : ((s.apply ((decreaseExponent m e low).1 : Nat) +
        s'.apply ((decreaseExponent m' e' low).1 : Nat) : Int) : ℚ) * 2 ^ low =
        s.apply m * 2 ^ e + s'.apply m' * 2 ^ e' := by
      rw [Int.cast_add, add_mul, hsame s m e (Int.min_le_left _ _),
        hsame s' m' e' (Int.min_le_right _ _)]
    have hnormal := normalize_exact .positive hsize hlow hhigh (hsum.trans h)
    rw [hsum] at hnormal
    exact hnormal

/-! ### The bits -/

/-- The three fields of the bits of a number. -/
structure Fields (x : Float) (negative : Bool) (exponent fraction : Nat) : Prop where
  bits : x.toBits.toNat = (if negative then 2 ^ 63 else 0) + exponent * 2 ^ 52 + fraction
  exponent_lt : exponent < 2 ^ 11
  fraction_lt : fraction < 2 ^ 52

theorem exists_fields (x : Float) : ∃ negative exponent fraction,
    Fields x negative exponent fraction := by
  have hbits : x.toBits.toNat < 2 ^ 64 := x.toBits.toNat_lt
  by_cases hsign : 2 ^ 63 ≤ x.toBits.toNat
  · exact ⟨true, (x.toBits.toNat - 2 ^ 63) / 2 ^ 52, x.toBits.toNat % 2 ^ 52,
      by simp only [if_true]; omega, by omega, by omega⟩
  · exact ⟨false, x.toBits.toNat / 2 ^ 52, x.toBits.toNat % 2 ^ 52,
      by simp only [Bool.false_eq_true, if_false]; omega, by omega, by omega⟩

namespace Fields

variable {x : Float} {negative : Bool} {exponent fraction : Nat}

theorem magnitudeBits_eq (h : Fields x negative exponent fraction) :
    magnitudeBits x = exponent * 2 ^ 52 + fraction := by
  obtain ⟨hbits, hexponent, hfraction⟩ := h
  have htop : twoPow 63 = 2 ^ 63 := rfl
  rw [magnitudeBits, htop, hbits]
  split <;> omega

theorem signBit_eq (h : Fields x negative exponent fraction) : signBit x = negative := by
  obtain ⟨hbits, hexponent, hfraction⟩ := h
  have htop : twoPow 63 = 2 ^ 63 := rfl
  rw [signBit, htop, hbits]
  cases negative with
  | true => exact decide_eq_true (by simp only [if_true]; omega)
  | false => exact decide_eq_false (by simp only [Bool.false_eq_true, if_false]; omega)

theorem isFinite_iff (h : Fields x negative exponent fraction) :
    isFinite x = true ↔ exponent < 2047 := by
  have hwidth : twoPow 52 = 2 ^ 52 := rfl
  have hfraction := h.fraction_lt
  rw [isFinite, h.magnitudeBits_eq, hwidth, decide_eq_true_iff]
  omega

theorem shape_eq (h : Fields x negative exponent fraction) (hfinite : exponent < 2047) :
    shape x = if exponent = 0 then .finite negative fraction (-1074)
      else .finite negative (fraction + 2 ^ 52) (exponent - 1075) := by
  have hwidth : twoPow 52 = 2 ^ 52 := rfl
  have hfraction := h.fraction_lt
  have hexponent : magnitudeBits x / twoPow 52 = exponent := by
    rw [h.magnitudeBits_eq, hwidth]
    omega
  have hrest : magnitudeBits x % twoPow 52 = fraction := by
    rw [h.magnitudeBits_eq, hwidth]
    omega
  simp only [shape, hexponent, hrest, h.signBit_eq]
  rw [if_neg (by omega), hwidth]

end Fields

section

variable (b : BitVec 64)

theorem toNat_unpackMantissa : (@unpackMantissa Format.binary64 b).toNat = b.toNat % 2 ^ 52 := by
  show (b.extractLsb 51 0).toNat = _
  rw [BitVec.extractLsb_toNat, Nat.shiftRight_zero]

theorem toNat_unpackExponent :
    (@unpackExponent Format.binary64 b).toNat = b.toNat / 2 ^ 52 % 2 ^ 11 := by
  show (b.extractLsb 62 52).toNat = _
  rw [BitVec.extractLsb_toNat, Nat.shiftRight_eq_div_pow]

theorem toNat_unpackSign : (@unpackSign Format.binary64 b).toNat = b.toNat / 2 ^ 63 % 2 := by
  show (b.extractLsb 63 63).toNat = _
  rw [BitVec.extractLsb_toNat, Nat.shiftRight_eq_div_pow]

variable {b}

theorem unpack_zero (he : @unpackExponent Format.binary64 b = 0#11)
    (hm : @unpackMantissa Format.binary64 b = 0#52) :
    UnpackedFloat.unpack Format.binary64 b =
      .zero (Sign.ofBitVec (@unpackSign Format.binary64 b)) := by
  have hlast : @unpackExponent Format.binary64 b ≠ -1#11 := he ▸ by decide
  exact (if_neg hlast).trans ((if_pos he).trans (dif_pos hm))

theorem unpack_subnormal (he : @unpackExponent Format.binary64 b = 0#11)
    (hm : @unpackMantissa Format.binary64 b ≠ 0#52) :
    ∃ hpos, UnpackedFloat.unpack Format.binary64 b =
      .finite (Sign.ofBitVec (@unpackSign Format.binary64 b))
        (@unpackMantissa Format.binary64 b).toNat (-1074) hpos := by
  have hlast : @unpackExponent Format.binary64 b ≠ -1#11 := he ▸ by decide
  have hpos : 0 < (@unpackMantissa Format.binary64 b).toNat :=
    Nat.pos_of_ne_zero (mt (BitVec.eq_of_toNat_eq (y := 0#52)) hm)
  refine ⟨hpos, (if_neg hlast).trans ((if_pos he).trans ((dif_neg hm).trans ?_))⟩
  rw [he]
  rfl

theorem unpack_normal (hlast : @unpackExponent Format.binary64 b ≠ -1#11)
    (he : @unpackExponent Format.binary64 b ≠ 0#11) :
    ∃ hpos, UnpackedFloat.unpack Format.binary64 b =
      .finite (Sign.ofBitVec (@unpackSign Format.binary64 b))
        (1#1 ++ @unpackMantissa Format.binary64 b).toNat
        ((@unpackExponent Format.binary64 b).toNat - 1075) hpos :=
  ⟨_, (if_neg hlast).trans (if_neg he)⟩

end

/-- The sign of a number whose sign bit is given. -/
def signOfBit (negative : Bool) : Sign :=
  if negative then .negative else .positive

theorem signOfBit_apply (negative : Bool) (m : Nat) :
    ((signOfBit negative).apply m : ℚ) = (if negative then -1 else 1) * m := by
  cases negative <;> simp [signOfBit, Sign.apply]

theorem toNat_one_append (f : BitVec 52) : (1#1 ++ f).toNat = f.toNat + 2 ^ 52 := by
  rw [BitVec.toNat_append, ← Nat.shiftLeft_add_eq_or_of_lt f.isLt, Nat.add_comm]
  rfl

/-- Unpacking reads the fields. -/
theorem Fields.unpacked {x : Float} {negative : Bool} {exponent fraction : Nat}
    (h : Fields x negative exponent fraction) :
    (@unpackMantissa Format.binary64 x.toModel.toBits.toBitVec).toNat = fraction ∧
    (@unpackExponent Format.binary64 x.toModel.toBits.toBitVec).toNat = exponent ∧
    Sign.ofBitVec (@unpackSign Format.binary64 x.toModel.toBits.toBitVec) =
      signOfBit negative := by
  obtain ⟨hbits, hexponent, hfraction⟩ := h
  have hnat : x.toModel.toBits.toBitVec.toNat =
      (if negative then 2 ^ 63 else 0) + exponent * 2 ^ 52 + fraction := hbits
  rw [toNat_unpackMantissa, toNat_unpackExponent, hnat]
  refine ⟨by split <;> omega, by split <;> omega, ?_⟩
  have hbit : (@unpackSign Format.binary64 x.toModel.toBits.toBitVec).toNat =
      if negative then 1 else 0 := by
    rw [toNat_unpackSign, hnat]
    split <;> omega
  cases negative with
  | true => exact congrArg Sign.ofBitVec (BitVec.eq_of_toNat_eq (y := 1#1) hbit)
  | false => exact congrArg Sign.ofBitVec (BitVec.eq_of_toNat_eq (y := 0#1) hbit)

/-- Unpacking a finite number keeps its value and gives it in the form that the format wants. -/
theorem unpack_of_isFinite {x : Float} (hfinite : isFinite x = true) :
    Canonical x.toModel.unpack ∧ exactValue x.toModel.unpack = value x := by
  obtain ⟨negative, exponent, fraction, h⟩ := exists_fields x
  have hlt := h.isFinite_iff.mp hfinite
  have hfraction := h.fraction_lt
  obtain ⟨hm, he, hs⟩ := h.unpacked
  have hlast : @unpackExponent Format.binary64 x.toModel.toBits.toBitVec ≠ -1#11 := by
    intro hmax
    have htop : exponent = 2047 := he.symm.trans (congrArg BitVec.toNat hmax)
    omega
  have hfirst : @unpackExponent Format.binary64 x.toModel.toBits.toBitVec = 0#11 ↔
      exponent = 0 := by
    rw [← BitVec.toNat_inj, he]
    rfl
  have hnone : @unpackMantissa Format.binary64 x.toModel.toBits.toBitVec = 0#52 ↔
      fraction = 0 := by
    rw [← BitVec.toNat_inj, hm]
    rfl
  rw [value, h.shape_eq hlt, Float.Model.unpack]
  by_cases hE : exponent = 0
  · rw [if_pos hE]
    by_cases hM : fraction = 0
    · rw [unpack_zero (hfirst.mpr hE) (hnone.mpr hM)]
      exact ⟨trivial, by simp [hM]⟩
    · obtain ⟨hpos, hunpack⟩ := unpack_subnormal (hfirst.mpr hE) (mt hnone.mp hM)
      rw [hunpack, hs]
      refine ⟨⟨by omega, by omega, by omega, .inr rfl⟩, ?_⟩
      rw [exactValue_finite, signOfBit_apply, hm]
  · rw [if_neg hE]
    obtain ⟨hpos, hunpack⟩ := unpack_normal hlast (mt hfirst.mp hE)
    have hone := toNat_one_append (@unpackMantissa Format.binary64 x.toModel.toBits.toBitVec)
    rw [hm] at hone
    rw [hunpack, hs]
    refine ⟨⟨by omega, by omega, by omega, .inl (by omega)⟩, ?_⟩
    rw [exactValue_finite, signOfBit_apply, hone, he]

theorem toNat_packComponents (s : Sign) (e : BitVec 11) (m : BitVec 52) :
    (packComponents Format.binary64 s e m).toNat =
      s.toBitVec.toNat * 2 ^ 63 + e.toNat * 2 ^ 52 + m.toNat := by
  have he : e.toNat < 2 ^ 11 := e.isLt
  have hm : m.toNat < 2 ^ 52 := m.isLt
  show ((s.toBitVec ++ e) ++ m).toNat = _
  rw [BitVec.toNat_append, BitVec.toNat_append, ← Nat.shiftLeft_add_eq_or_of_lt hm,
    ← Nat.shiftLeft_add_eq_or_of_lt he, Nat.shiftLeft_eq, Nat.shiftLeft_eq]
  omega

theorem exists_signOfBit (s : Sign) : ∃ negative, s = signOfBit negative := by
  cases s with
  | negative => exact ⟨true, rfl⟩
  | positive => exact ⟨false, rfl⟩

/-- Packed components are the fields of the number. -/
theorem fields_of_components {u : UnpackedFloat} {negative : Bool} {e : BitVec 11} {m : BitVec 52}
    (h : u.pack Format.binary64 = packComponents Format.binary64 (signOfBit negative) e m) :
    Fields (.ofModel (.pack u)) negative e.toNat m.toNat where
  bits := by
    have hbits := congrArg BitVec.toNat h
    rw [toNat_packComponents] at hbits
    refine hbits.trans ?_
    cases negative <;> rfl
  exponent_lt := e.isLt
  fraction_lt := m.isLt

theorem pack_finite (s : Sign) {m : Nat} (e : Int) (hm : 0 < m) :
    UnpackedFloat.pack Format.binary64 (.finite s m e hm) =
      if 2 ^ 11 ≤ (e + 1023 + 52).toNat + 1 then UnpackedFloat.packedInfinity Format.binary64 s
      else if m.log2 + 1 = 53 then
        packComponents Format.binary64 s (BitVec.ofNat 11 (e + 1023 + 52).toNat) (BitVec.ofNat 52 m)
      else packComponents Format.binary64 s 0#11 (BitVec.ofNat 52 m) := rfl

/-- A significand with all its digits leaves out the first of them. -/
theorem fields_of_normal {negative : Bool} {m : Nat} {e : Int} (hm : 0 < m)
    (hnormal : 2 ^ 52 ≤ m) (hsize : m < 2 ^ 53) (hlow : -1074 ≤ e) (hhigh : e ≤ 971) :
    Fields (.ofModel (.pack (.finite (signOfBit negative) m e hm))) negative
      (e + 1075).toNat (m - 2 ^ 52) := by
  have hroom : ¬ 2 ^ 11 ≤ (e + 1023 + 52).toNat + 1 := by omega
  have hlog : m.log2 + 1 = 53 := by
    have htop := (Nat.le_log2 (by omega)).mpr hnormal
    have hdigits := (Nat.log2_lt (by omega)).mpr hsize
    omega
  have hpack : UnpackedFloat.pack Format.binary64 (.finite (signOfBit negative) m e hm) =
      packComponents Format.binary64 (signOfBit negative) (BitVec.ofNat 11 (e + 1023 + 52).toNat)
        (BitVec.ofNat 52 m) := by
    rw [pack_finite, if_neg hroom, if_pos hlog]
  have hfields := fields_of_components hpack
  have hexponent : (e + 1023 + 52).toNat % 2 ^ 11 = (e + 1075).toNat := by omega
  have hfraction : m % 2 ^ 52 = m - 2 ^ 52 := by omega
  rwa [BitVec.toNat_ofNat, BitVec.toNat_ofNat, hexponent, hfraction] at hfields

/-- A significand with fewer digits stands under the exponent field zero. -/
theorem fields_of_subnormal {negative : Bool} {m : Nat} (hm : 0 < m) (hsize : m < 2 ^ 52) :
    Fields (.ofModel (.pack (.finite (signOfBit negative) m (-1074) hm))) negative 0 m := by
  have hroom : ¬ 2 ^ 11 ≤ (-1074 + 1023 + 52 : Int).toNat + 1 := by decide
  have hlog : ¬ m.log2 + 1 = 53 := by
    have hdigits := (Nat.log2_lt (by omega)).mpr hsize
    omega
  have hpack : UnpackedFloat.pack Format.binary64 (.finite (signOfBit negative) m (-1074) hm) =
      packComponents Format.binary64 (signOfBit negative) 0#11 (BitVec.ofNat 52 m) := by
    rw [pack_finite, if_neg hroom, if_neg hlog]
  have hfields := fields_of_components hpack
  rwa [BitVec.toNat_zero, BitVec.toNat_ofNat, Nat.mod_eq_of_lt hsize] at hfields

/-- Packing a number in the form that the format wants keeps its value. -/
theorem pack_of_canonical {u : UnpackedFloat} (h : Canonical u) :
    isFinite (.ofModel (.pack u)) = true ∧ value (.ofModel (.pack u)) = exactValue u := by
  match u with
  | .notANumber => exact h.elim
  | .infinity _ => exact h.elim
  | .zero s =>
    obtain ⟨negative, rfl⟩ := exists_signOfBit s
    have hfields : Fields (.ofModel (.pack (.zero (signOfBit negative)))) negative 0 0 :=
      fields_of_components (e := 0#11) (m := 0#52) rfl
    refine ⟨hfields.isFinite_iff.mpr (by omega), ?_⟩
    rw [value, hfields.shape_eq (by omega)]
    simp
  | .finite s m e hm =>
    obtain ⟨negative, rfl⟩ := exists_signOfBit s
    obtain ⟨hsize, hlow, hhigh, hform⟩ := h
    by_cases hnormal : 2 ^ 52 ≤ m
    · have hfields : Fields _ negative _ _ := fields_of_normal hm hnormal hsize hlow hhigh
      have hsignificand : m - 2 ^ 52 + 2 ^ 52 = m := by omega
      have hexponent : ((e + 1075).toNat : Int) - 1075 = e := by omega
      refine ⟨hfields.isFinite_iff.mpr (by omega), ?_⟩
      rw [value, hfields.shape_eq (by omega), if_neg (by omega)]
      rw [hsignificand, hexponent, exactValue_finite, signOfBit_apply]
    · obtain rfl : e = -1074 := hform.resolve_left hnormal
      have hfields : Fields _ negative _ _ :=
        fields_of_subnormal hm (Nat.not_le.mp hnormal)
      refine ⟨hfields.isFinite_iff.mpr (by omega), ?_⟩
      rw [value, hfields.shape_eq (by omega), if_pos rfl, exactValue_finite, signOfBit_apply]

/-- Two finite numbers are added without rounding when their sum is a whole multiple of a power of
two, fewer than `2 ^ 53` times. -/
theorem add_exact {x y : Float} (hx : isFinite x = true) (hy : isFinite y = true) {n q : Int}
    (hsize : n.natAbs < 2 ^ 53) (hlow : -1074 ≤ q) (hhigh : q ≤ 971)
    (h : value x + value y = n * 2 ^ q) :
    isFinite (x + y) = true ∧ value (x + y) = value x + value y := by
  obtain ⟨hx, hxvalue⟩ := unpack_of_isFinite hx
  obtain ⟨hy, hyvalue⟩ := unpack_of_isFinite hy
  rw [← hxvalue, ← hyvalue] at h ⊢
  obtain ⟨hsum, hvalue⟩ := add_exactValue hx hy hsize hlow hhigh h
  rw [← hvalue]
  exact pack_of_canonical hsum

end TechCatalog.Decimal
