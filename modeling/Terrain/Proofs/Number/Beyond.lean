import Mathlib.Algebra.Group.Nat.Defs
import Terrain.Number.Dyadic

/-!
# Whole numbers beyond all doubles

A whole number is rounded to the nearest double, and if that would be at or beyond `2 ^ 1024` there
is none. Doubles have a model here: a sign, a mantissa and an exponent that are rounded and packed
into bits. The bits of an infinity are told by their exponent, so exponents are all that is
followed.

* `Overflown`: a number whose exponent does not fit; packing gives it the exponent of an infinity.
* `overflown_round`: rounding overflows by the size of the number, or by a carry.
* `ofInt?_eq_none_iff`: exactly the whole numbers from `beyondDoubles` on are near no double.
-/

namespace Terrain.Number

open Float.Model Float.Model.UnpackedFloat

/-! ## 1. The exponent in the bits -/

/-- The exponent of a double in its bits. -/
def exponentField (x : Float) : Nat := x.toBits.toNat / twoTo 52 % twoTo 11

theorem reading_finite_iff {x : Float} :
    (∃ d, reading x = .finite d) ↔ exponentField x ≠ 2047 := by
  have hfield : x.toBits.toNat / twoTo 52 % twoTo 11 = exponentField x := rfl
  unfold reading
  dsimp only
  rw [hfield]
  by_cases h : exponentField x = 2047
  · rw [if_pos h]
    split <;> simp [h]
  · rw [if_neg h]
    split <;> simp [h]

theorem ofInt?_eq_none_iff_exponentField {n : Int} :
    ofInt? n = none ↔ exponentField (Float.ofInt n) = 2047 := by
  have hiff := reading_finite_iff (x := Float.ofInt n)
  unfold ofInt?
  rcases hr : reading (Float.ofInt n) with _ | b | d <;> rw [hr] at hiff <;> simp [hr]
  · simpa using hiff
  · simpa using hiff
  · exact hiff.1 ⟨d, rfl⟩

theorem exponentField_eq_iff (x : Float) : exponentField x = 2047 ↔
    @unpackExponent Format.binary64 x.toModel.toBits.toBitVec = -1#11 := by
  have hfield : exponentField x =
      (@unpackExponent Format.binary64 x.toModel.toBits.toBitVec).toNat := by
    have hbits : x.toBits = x.toModel.toBits := rfl
    unfold exponentField unpackExponent
    simp [Nat.shiftRight_eq_div_pow, twoTo, hbits]
  rw [hfield, ← BitVec.toNat_inj]
  rfl

/-! ## 2. Packing -/

/-- The exponent does not fit, so that packing gives an infinity or no number. -/
def Overflown : UnpackedFloat → Prop
  | .notANumber | .infinity _ => True
  | .zero _ => False
  | .finite _ _ e _ => 972 ≤ e

theorem overflown_finite {s : Sign} {m : Nat} {e : Int} {h : 0 < m} :
    Overflown (.finite s m e h) ↔ 972 ≤ e := Iff.rfl

theorem unpackExponent_pack (f : UnpackedFloat) :
    unpackExponent (UnpackedFloat.pack Format.binary64 f) = -1#11 ↔ Overflown f := by
  fun_cases UnpackedFloat.pack Format.binary64 f with
  | case1 => exact iff_of_true rfl trivial
  | case2 s => exact iff_of_true (by simp [packedInfinity]) trivial
  | case3 s => exact iff_of_false (by simp [packedZero]) id
  | case4 s m e hm biased h =>
    simp [biased, Format.exponentBias] at h
    rw [overflown_finite]
    simp [packedInfinity]
    omega
  | case5 s m e hm bits biased h₁ h₂ | case6 s m e hm bits biased h₁ h₂ =>
    rw [unpackExponent_packComponents, overflown_finite, ← BitVec.toNat_inj]
    simp [biased, Format.exponentBias] at h₁ ⊢
    omega

/-- A double that is packed has the exponent of an infinity if it overflowed. -/
theorem exponentField_pack (f : UnpackedFloat) :
    exponentField (Float.ofModel (Float.Model.pack f)) = 2047 ↔ Overflown f := by
  rw [exponentField_eq_iff, ← unpackExponent_pack]
  rfl

theorem overflown_neg (f : UnpackedFloat) : Overflown f.neg ↔ Overflown f := by
  cases f <;> exact Iff.rfl

theorem overflown_unpack (b : BitVec Format.binary64.numBits) :
    Overflown (UnpackedFloat.unpack Format.binary64 b) ↔ unpackExponent b = -1#11 := by
  have hlt : (unpackExponent b).toNat < 2048 := (unpackExponent b).isLt
  unfold UnpackedFloat.unpack
  dsimp only
  by_cases h : unpackExponent b = -1#11
  · rw [if_pos h]
    by_cases hmantissa : unpackMantissa b = 0#52
    · rw [if_pos hmantissa]
      exact iff_of_true trivial h
    · rw [if_neg hmantissa]
      exact iff_of_true trivial h
  · have hne : (unpackExponent b).toNat ≠ 2047 := fun he => h (BitVec.eq_of_toNat_eq he)
    refine iff_of_false ?_ h
    rw [if_neg h]
    by_cases hzero : unpackExponent b = 0#11
    · rw [if_pos hzero, hzero]
      by_cases hmantissa : unpackMantissa b = 0#52
      · rw [dif_pos hmantissa]
        exact id
      · rw [dif_neg hmantissa, overflown_finite]
        decide
    · rw [if_neg hzero, overflown_finite]
      simp only [Format.exponentBias]
      omega

/-- The sign has no part in the exponent. -/
theorem exponentField_neg (x : Float) : exponentField x.neg = 2047 ↔ exponentField x = 2047 := by
  rw [exponentField_eq_iff x, ← overflown_unpack, ← overflown_neg]
  exact exponentField_pack _

/-- A mantissa of 53 bits is packed without its first bit. -/
theorem pack_eq {m : Nat} {e : Int} (s : Sign) (h : 0 < m) (hlog : m.log2 = 52)
    (hhigh : e < 972) : UnpackedFloat.pack Format.binary64 (.finite s m e h) =
      packComponents Format.binary64 s (BitVec.ofNat 11 (e + 1075).toNat) (BitVec.ofNat 52 m) := by
  have hbiased : (e + Format.binary64.exponentBias + (52 : Nat)).toNat = (e + 1075).toNat := by
    simp only [Format.exponentBias]
    omega
  unfold UnpackedFloat.pack
  dsimp only
  rw [hbiased, if_neg, if_pos]
  · rw [hlog]
    rfl
  · show ¬ 2 ^ 11 ≤ _
    omega

/-- Components that are no zero and no infinity are read back as they were packed. -/
theorem unpack_packComponents {spec : Format} (s : Sign) {x : BitVec spec.exponentBits}
    {y : BitVec spec.mantissaBitsWithoutImplicit} (hone : x ≠ -1#_) (hzero : x ≠ 0#_) :
    ∃ s' h, UnpackedFloat.unpack spec (packComponents spec s x y) = .finite s' (1#1 ++ y).toNat
      ((x.toNat : Int) - (spec.exponentBias + spec.mantissaBitsWithoutImplicit)) h := by
  have hpos : 0 < (1#1 ++ y).toNat := by simp
  unfold UnpackedFloat.unpack
  dsimp only
  rw [unpackExponent_packComponents, if_neg hone, if_neg hzero]
  refine ⟨Sign.ofBitVec (unpackSign (packComponents spec s x y)), hpos, ?_⟩
  rw [UnpackedFloat.finite.injEq, unpackMantissa_packComponents]
  exact ⟨rfl, rfl, rfl⟩

/-- **A mantissa of 53 bits is read back as it was packed.** -/
theorem unpack_pack {m : Nat} {e : Int} (s : Sign) (h : 0 < m) (hlog : m.log2 = 52)
    (hlow : -1074 ≤ e) (hhigh : e < 972) : ∃ s', UnpackedFloat.unpack Format.binary64
      (UnpackedFloat.pack Format.binary64 (.finite s m e h)) = .finite s' m e h := by
  obtain ⟨hle, hlt⟩ := (Nat.log2_eq_iff (Nat.ne_of_gt h)).1 hlog
  have hexponent : (BitVec.ofNat 11 (e + 1075).toNat).toNat = (e + 1075).toNat := by
    rw [BitVec.toNat_ofNat, Nat.mod_eq_of_lt (by omega)]
  have hmantissa : (1#1 ++ BitVec.ofNat 52 m).toNat = m := by
    rw [BitVec.toNat_append]
    show 1 <<< 52 ||| m % 2 ^ 52 = m
    rw [← Nat.shiftLeft_add_eq_or_of_lt (Nat.mod_lt _ (Nat.two_pow_pos 52)), Nat.shiftLeft_eq]
    omega
  have hone : BitVec.ofNat 11 (e + 1075).toNat ≠ -1#11 := by
    rw [Ne, ← BitVec.toNat_inj, hexponent]
    show ¬ (e + 1075).toNat = 2047
    omega
  have hzero : BitVec.ofNat 11 (e + 1075).toNat ≠ 0#11 := by
    rw [Ne, ← BitVec.toNat_inj, hexponent]
    show ¬ (e + 1075).toNat = 0
    omega
  obtain ⟨s', h', hunpack⟩ := @unpack_packComponents Format.binary64 s _
    (BitVec.ofNat 52 m) hone hzero
  refine ⟨s', ?_⟩
  rw [pack_eq s h hlog hhigh, hunpack, UnpackedFloat.finite.injEq]
  refine ⟨rfl, hmantissa, ?_⟩
  rw [hexponent]
  simp only [Format.exponentBias]
  omega

/-! ## 3. Rounding -/

theorem mantissaBits_binary64 : Format.binary64.mantissaBits = 53 := rfl

theorem log2_mul_two_pow {m : Nat} (hm : m ≠ 0) (k : Nat) : (m * 2 ^ k).log2 = m.log2 + k := by
  have hpos : 0 < 2 ^ k := Nat.two_pow_pos k
  refine (Nat.log2_eq_iff (Nat.mul_ne_zero hm (Nat.ne_of_gt hpos))).2 ⟨?_, ?_⟩
  · rw [Nat.pow_add]
    exact Nat.mul_le_mul_right _ (Nat.log2_self_le hm)
  · rw [Nat.add_right_comm, Nat.pow_add]
    exact Nat.mul_lt_mul_of_pos_right Nat.lt_log2_self hpos

/-- What is left of a mantissa that is shifted: the last bit that went, and whether any bit before
    it was set. -/
theorem shift_succ (m : Nat) : ∀ k : Nat, ExtendedMantissa.mk m false false >>> (k + 1) =
    ExtendedMantissa.mk (m / 2 ^ (k + 1)) (m / 2 ^ k % 2 != 0) (m % 2 ^ k != 0)
  | 0 => by
    have h : ExtendedMantissa.mk m false false >>> 1 =
      ExtendedMantissa.mk (m / 2) (m % 2 != 0) (false || false) := rfl
    simp [h, Nat.mod_one]
  | k + 1 => by
    have h : ExtendedMantissa.mk m false false >>> (k + 1 + 1) =
      ExtendedMantissa.shiftRightOne (ExtendedMantissa.mk m false false >>> (k + 1)) := rfl
    rw [h, shift_succ m k]
    unfold ExtendedMantissa.shiftRightOne
    dsimp only
    congr 1
    · rw [Nat.div_div_eq_div_mul, ← Nat.pow_succ]
    · rw [Bool.eq_iff_iff]
      simp only [Bool.or_eq_true, bne_iff_ne]
      have hmod : m % 2 ^ (k + 1) = m % 2 ^ k + 2 ^ k * (m / 2 ^ k % 2) := Nat.mod_pow_succ
      have hpos : 0 < 2 ^ k := Nat.two_pow_pos k
      rcases Nat.mod_two_eq_zero_or_one (m / 2 ^ k) with hbit | hbit <;> rw [hbit] at hmod ⊢ <;>
        omega

/-- A mantissa without its last `k + 1` bits, rounded to nearest, ties to even. -/
def rounded (m k : Nat) : Nat := (ExtendedMantissa.mk m false false >>> (k + 1)).roundedMantissa

theorem rounded_bounds (m k : Nat) :
    m / 2 ^ (k + 1) ≤ rounded m k ∧ rounded m k ≤ m / 2 ^ (k + 1) + 1 := by
  unfold rounded
  rw [shift_succ]
  rcases hb : (m / 2 ^ k % 2 != 0) <;> rcases hs : (m % 2 ^ k != 0) <;>
    simp [ExtendedMantissa.roundedMantissa, ExtendedMantissa.accuracy, Accuracy.roundToNearestEven]
  omega

/-- An odd mantissa is rounded up by the last bit that went, even if that was a tie. -/
theorem rounded_of_odd {m k : Nat} (h : m / 2 ^ (k + 1) % 2 = 1) :
    rounded m k = m / 2 ^ (k + 1) + m / 2 ^ k % 2 := by
  unfold rounded
  rw [shift_succ]
  rcases hb : (m / 2 ^ k % 2 != 0) <;> rcases hs : (m % 2 ^ k != 0) <;>
    simp [ExtendedMantissa.roundedMantissa, ExtendedMantissa.accuracy, Accuracy.roundToNearestEven]
  all_goals
    simp at hb
    omega

/-- A mantissa of `j` bits too many is shifted by them. -/
theorem shiftToTargetExponent_eq {m j : Nat} {e : Int} (hlog : m.log2 = j + 52)
    (he : -1074 ≤ e + j) : shiftToTargetExponent Format.binary64 m e .exact =
      (ExtendedMantissa.mk m false false >>> j, e + j) := by
  have htarget :
      (Format.binary64.targetExponent (((j + 52 : Nat) : Int) + 1 + e) - e).toNat = j := by
    simp [Format.targetExponent, mantissaBits_binary64, Format.minExponent]
    omega
  unfold shiftToTargetExponent shiftToExponent totalExponent
  dsimp only
  rw [hlog, htarget]
  rfl

/-- A mantissa of 53 bits is not rounded. -/
theorem roundWithAccuracy_eq {m : Nat} {e : Int} (s : Sign) (h : 0 < m) (hlog : m.log2 = 52)
    (he : -1074 ≤ e) : roundWithAccuracy Format.binary64 s m e .exact = .finite s m e h := by
  have hshift : shiftToTargetExponent Format.binary64 m e .exact =
      (ExtendedMantissa.mk m false false, e) := by
    have hshift := shiftToTargetExponent_eq (m := m) (j := 0) (e := e) (by omega) (by omega)
    rw [Int.natCast_zero, Int.add_zero] at hshift
    exact hshift
  have hrounded : (ExtendedMantissa.mk m false false).roundedMantissa = m := rfl
  unfold roundWithAccuracy
  rw [hshift]
  dsimp only
  rw [hrounded, hshift]
  dsimp only
  rw [dif_neg (Nat.ne_of_gt h)]

/-- **Rounding overflows by the bits that go, and by one more if the mantissa is carried** to the
    next power of two. -/
theorem overflown_round {m k : Nat} {e : Int} (s : Sign) (hlog : m.log2 = k + 53)
    (he : -1075 ≤ e + k) : Overflown (roundWithAccuracy Format.binary64 s m e .exact) ↔
      972 ≤ e + (k + 1) + if rounded m k = 2 ^ 53 then 1 else 0 := by
  have hm : m ≠ 0 := by
    intro h
    rw [h, Nat.log2_zero] at hlog
    omega
  have hlow : 2 ^ 52 ≤ m / 2 ^ (k + 1) := by
    rw [Nat.le_div_iff_mul_le (Nat.two_pow_pos _), ← Nat.pow_add, ← Nat.le_log2 hm]
    omega
  have hhigh : m / 2 ^ (k + 1) < 2 ^ 53 := by
    rw [Nat.div_lt_iff_lt_mul (Nat.two_pow_pos _), ← Nat.pow_add, ← Nat.log2_lt hm]
    omega
  have hbounds := rounded_bounds m k
  have hne : rounded m k ≠ 0 := by omega
  have hfirst := shiftToTargetExponent_eq (m := m) (j := k + 1) (e := e) (by omega) (by omega)
  have hrounded : (ExtendedMantissa.mk m false false >>> (k + 1)).roundedMantissa = rounded m k :=
    rfl
  unfold roundWithAccuracy
  rw [hfirst]
  dsimp only
  rw [hrounded]
  by_cases hcarry : rounded m k = 2 ^ 53
  · have hsecond := shiftToTargetExponent_eq (m := rounded m k) (j := 1) (e := e + (k + 1 : Nat))
      (by rw [hcarry, Nat.log2_two_pow]) (by omega)
    have hmantissa : (ExtendedMantissa.mk (rounded m k) false false >>> 1).mantissa ≠ 0 := by
      rw [hcarry]
      decide
    rw [hsecond, if_pos hcarry]
    dsimp only
    rw [dif_neg hmantissa]
    rw [overflown_finite]
    omega
  · have hsecond := shiftToTargetExponent_eq (m := rounded m k) (j := 0) (e := e + (k + 1 : Nat))
      ((Nat.log2_eq_iff hne).2 (by omega)) (by omega)
    have hmantissa : (ExtendedMantissa.mk (rounded m k) false false >>> 0).mantissa ≠ 0 := hne
    rw [hsecond, if_neg hcarry]
    dsimp only
    rw [dif_neg hmantissa]
    rw [overflown_finite]
    omega

/-- Which mantissas are carried to `2 ^ 53`, of those that lose `k + 54` bits. -/
theorem rounded_eq_iff {m k : Nat} (hlog : m.log2 = k + 53) :
    rounded (m * 2 ^ 53) (k + 53) = 2 ^ 53 ↔ (2 ^ 54 - 1) * 2 ^ k ≤ m := by
  have hkept : m * 2 ^ 53 / 2 ^ (k + 53 + 1) = m / 2 ^ k / 2 := by
    rw [Nat.add_right_comm, Nat.pow_add, Nat.mul_div_mul_right _ _ (Nat.two_pow_pos _),
      Nat.div_div_eq_div_mul, ← Nat.pow_succ]
  have hbit : m * 2 ^ 53 / 2 ^ (k + 53) = m / 2 ^ k := by
    rw [Nat.pow_add, Nat.mul_div_mul_right _ _ (Nat.two_pow_pos _)]
  have hbounds := rounded_bounds (m * 2 ^ 53) (k + 53)
  have hodd := rounded_of_odd (m := m * 2 ^ 53) (k := k + 53)
  rw [hkept, hbit] at hodd
  rw [hkept] at hbounds
  have hm : m ≠ 0 := by
    intro h
    rw [h, Nat.log2_zero] at hlog
    omega
  have hhigh : m / 2 ^ k < 2 ^ 54 := by
    rw [Nat.div_lt_iff_lt_mul (Nat.two_pow_pos _), ← Nat.pow_add, ← Nat.log2_lt hm, hlog]
    omega
  rw [← Nat.le_div_iff_mul_le (Nat.two_pow_pos _)]
  generalize m / 2 ^ k = h at *
  generalize rounded (m * 2 ^ 53) (k + 53) = r at *
  omega

/-- Which whole numbers have more than `k + 54` bits once they are rounded to 53. -/
theorem bits_after_round_iff {m : Nat} (hm : m ≠ 0) (k : Nat) :
    k + 54 ≤ m.log2 + (if rounded (m * 2 ^ 53) m.log2 = 2 ^ 53 then 1 else 0) ↔
      (2 ^ 54 - 1) * 2 ^ k ≤ m := by
  rcases Nat.lt_trichotomy m.log2 (k + 53) with hl | hl | hl
  · -- too small, even if it is carried
    refine iff_of_false (by split <;> omega) (Nat.not_le.2 ?_)
    rw [Nat.add_comm, Nat.log2_lt hm, Nat.pow_add] at hl
    exact Nat.lt_of_lt_of_le hl (Nat.mul_le_mul_right _ (by decide))
  · rw [← rounded_eq_iff hl, hl]
    split <;> simp_all
  · refine iff_of_true (by split <;> omega) ?_
    have hbits : 2 ^ (54 + k) ≤ m := (Nat.le_log2 hm).1 (by omega)
    rw [Nat.pow_add] at hbits
    exact Nat.le_trans (Nat.mul_le_mul_right _ (by decide)) hbits

/-! ## 4. Whole numbers -/

theorem mul_finite (spec : Format) (s₁ s₂ : Sign) (m₁ m₂ : Nat) (e₁ e₂ : Int) (h₁ : 0 < m₁)
    (h₂ : 0 < m₂) : UnpackedFloat.mul spec (.finite s₁ m₁ e₁ h₁) (.finite s₂ m₂ e₂ h₂) =
      roundWithAccuracy spec (s₁ * s₂) (m₁ * m₂) (e₁ + e₂) .exact := rfl

/-- The double `1`. -/
theorem unpack_one : UnpackedFloat.unpack Format.binary64 0x3FF0000000000000#64 =
    .finite .positive (2 ^ 52) (-52) (Nat.two_pow_pos 52) := rfl

/-- The least whole number that no double is near: halfway between the greatest double, which is
    `(2 ^ 53 - 1) * 2 ^ 971`, and the next power of two. -/
def beyondDoubles : Nat := (2 ^ 54 - 1) * 2 ^ 970

/-- A whole number of more than 53 bits is rounded. -/
theorem exponentField_large {m : Nat} (hm : 2 ^ 53 ≤ m) :
    exponentField (Float.ofNat m) = 2047 ↔ beyondDoubles ≤ m := by
  have hne : m ≠ 0 := by omega
  have hofNat : Float.ofNat m = Float.ofModel (Float.Model.ofScientific m 0) := by
    show Float.ofScientific m false 0 = _
    unfold Float.ofScientific
    rw [dif_neg (by omega)]
    rfl
  have hround : UnpackedFloat.ofScientific Format.binary64 m 0 =
      roundWithAccuracy Format.binary64 .positive (m * 2 ^ 53) (-53) .exact := by
    have hlow : ¬ (0 : Int) > 2 ^ Format.binary64.exponentBits := by decide
    have hhigh : ¬ (0 : Int) < -((2 ^ Format.binary64.exponentBits : Int) + m.log2) := by
      have hpos : (0 : Int) < 2 ^ Format.binary64.exponentBits := by decide
      omega
    have hmantissa : m <<< Format.binary64.mantissaBits * 10 ^ (0 : Int).toNat = m * 2 ^ 53 := by
      rw [Nat.shiftLeft_eq, Int.toNat_zero, Nat.pow_zero, Nat.mul_one]
      rfl
    unfold UnpackedFloat.ofScientific
    rw [dif_neg hne, if_neg hlow, if_neg hhigh, if_pos (Int.le_refl 0), mul_finite, hmantissa]
    rfl
  rw [hofNat]
  refine (exponentField_pack _).trans ?_
  rw [hround, overflown_round .positive (log2_mul_two_pow hne 53) (by omega)]
  unfold beyondDoubles
  refine Iff.trans ?_ (bits_after_round_iff hne 970)
  split <;> omega

/-- A whole number of 53 bits at most is a double as it is. -/
theorem normalize_small {m : Nat} (hm : m < 2 ^ 53) (hpos : 0 < m) :
    ∃ (k mantissa : Nat) (h : 0 < mantissa), mantissa.log2 = 52 ∧ k ≤ 52 ∧
      UnpackedFloat.normalize Format.binary64 m 0 .positive =
        .finite .positive mantissa (-(k : Int)) h := by
  have hlt := (Nat.log2_lt (Nat.ne_of_gt hpos)).2 hm
  obtain ⟨k, hk⟩ := Nat.exists_eq_add_of_le (Nat.le_of_lt_succ hlt)
  have hlog : (m <<< k).log2 = 52 := by
    rw [Nat.shiftLeft_eq, log2_mul_two_pow (Nat.ne_of_gt hpos), hk]
  have hround : UnpackedFloat.normalize Format.binary64 m 0 .positive =
      roundWithAccuracy Format.binary64 .positive (m <<< k) (-(k : Int)) .exact := by
    have hcompare : compare (m : Int) 0 = .gt := by
      rw [Int.compare_eq_gt]
      omega
    have hshift : (0 - Format.binary64.targetExponent (totalExponent m 0)).toNat = k := by
      simp [totalExponent, Format.targetExponent, mantissaBits_binary64, Format.minExponent]
      omega
    unfold UnpackedFloat.normalize
    rw [hcompare]
    dsimp only
    unfold UnpackedFloat.round decreaseExponent
    rw [Int.toNat_natCast]
    dsimp only
    rw [hshift, Int.zero_sub]
  refine ⟨k, m <<< k, ?_, hlog, by omega, ?_⟩
  · rw [Nat.shiftLeft_eq]
    exact Nat.mul_pos hpos (Nat.two_pow_pos k)
  · rw [hround]
    exact roundWithAccuracy_eq _ _ hlog (by omega)

/-- A whole number of 53 bits at most is a product with one, which does not overflow. -/
theorem exponentField_small {m : Nat} (hm : m < 2 ^ 53) :
    exponentField (Float.ofNat m) ≠ 2047 := by
  have hofNat : Float.ofNat m = m.toUInt64.toFloat * Float.ofBits 0x3FF0000000000000 := by
    show Float.ofScientific m false 0 = _
    unfold Float.ofScientific
    rw [dif_pos ⟨hm, by decide⟩]
    rfl
  have hmul : m.toUInt64.toFloat * Float.ofBits 0x3FF0000000000000 =
      Float.ofModel (Float.Model.pack (UnpackedFloat.mul Format.binary64
        (UnpackedFloat.unpack Format.binary64 (UnpackedFloat.pack Format.binary64
          (UnpackedFloat.normalize Format.binary64 m.toUInt64.toNat 0 .positive)))
        (UnpackedFloat.unpack Format.binary64 0x3FF0000000000000#64))) := rfl
  have hnat : m.toUInt64.toNat = m := UInt64.toNat_ofNat_of_lt (Nat.lt_trans hm (by decide))
  rw [hofNat, hmul, Ne, exponentField_pack, unpack_one, hnat]
  rcases Nat.eq_zero_or_pos m with rfl | hpos
  · exact id
  · obtain ⟨k, mantissa, hmantissa, hlog, hk, hnorm⟩ := normalize_small hm hpos
    obtain ⟨s, hunpack⟩ := unpack_pack (e := -(k : Int)) .positive hmantissa hlog (by omega)
      (by omega)
    have hproduct : (mantissa * 2 ^ 52).log2 = 51 + 53 := by
      rw [log2_mul_two_pow (Nat.ne_of_gt hmantissa), hlog]
    rw [hnorm, hunpack, mul_finite, overflown_round _ hproduct (by omega)]
    split <;> omega

/-- **No double is near a whole number exactly if it is `beyondDoubles` or more**, up to its
    sign. -/
theorem ofInt?_eq_none_iff {n : Int} : ofInt? n = none ↔ beyondDoubles ≤ n.natAbs := by
  have hofNat (m : Nat) : exponentField (Float.ofNat m) = 2047 ↔ beyondDoubles ≤ m := by
    by_cases hm : 2 ^ 53 ≤ m
    · exact exponentField_large hm
    · have hsmall : m < 2 ^ 53 := Nat.lt_of_not_le hm
      have hbits (k : Nat) : 2 ^ 53 ≤ (2 ^ 54 - 1) * 2 ^ k :=
        Nat.le_trans (by decide) (Nat.le_mul_of_pos_right _ (Nat.two_pow_pos k))
      have hbeyond : 2 ^ 53 ≤ beyondDoubles := by
        unfold beyondDoubles
        exact hbits 970
      exact iff_of_false (exponentField_small hsmall) (by omega)
  rw [ofInt?_eq_none_iff_exponentField]
  cases n with
  | ofNat m => exact hofNat m
  | negSucc m => exact (exponentField_neg _).trans (hofNat (m + 1))

theorem exists_ofInt?_iff {n : Int} : (∃ x, ofInt? n = some x) ↔ n.natAbs < beyondDoubles := by
  rw [← Option.ne_none_iff_exists', Ne, ofInt?_eq_none_iff, Nat.not_le]

end Terrain.Number
