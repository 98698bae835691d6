import Chip8.Numeric.Double
import Mathlib.Algebra.Order.Field.Power
import Mathlib.Tactic.FieldSimp
import Mathlib.Tactic.Linarith
import Mathlib.Tactic.Positivity
import Mathlib.Tactic.Ring

/-!
# The quotient of two whole numbers as a double

A whole number below `2 ^ 53` is a double, and the quotient of two of them is
rounded correctly (`rounds_div`). `Rounds` is all that is used of this later
on: the relative error is at most `2⁻⁵³`, and a quotient that is a whole number
is that number.

Division and multiplication cut a mantissa down to 53 digits and keep two more
bits of what was cut off. `IsCutFrom` says what these tell of the number; it is
kept by each digit that is cut off, and enough for rounding to the nearest.
`rounds_roundWithAccuracy` is the rounding for all operations, and `Shows` goes
from one operation to the next.
-/

namespace Chip8.Numeric

open Float.Model Float.Model.UnpackedFloat

def Double.value (d : Double) : ℚ :=
  (if d.negative then -1 else 1) * (d.significand * 2 ^ d.exponent)

/-- `y` is the positive number `x` correctly rounded to a double. -/
structure Rounds (x y : ℚ) : Prop where
  error : |y - x| ≤ x / 2 ^ 53
  kept (n : ℕ) : x = n → y = n

/-! ## Cutting digits off -/

/-- A number was cut down to a mantissa. Of what was cut off, the first bit is
kept, and whether anything came after it. -/
inductive IsCutFrom : ExtendedMantissa → ℚ → Prop
  | exact (m : ℕ) : IsCutFrom ⟨m, false, false⟩ m
  | low {m : ℕ} {x : ℚ} : m < x → x < m + 1 / 2 → IsCutFrom ⟨m, false, true⟩ x
  | half (m : ℕ) : IsCutFrom ⟨m, true, false⟩ (m + 1 / 2)
  | high {m : ℕ} {x : ℚ} : m + 1 / 2 < x → x < m + 1 →
    IsCutFrom ⟨m, true, true⟩ x

namespace IsCutFrom

variable {em : ExtendedMantissa} {x : ℚ}

theorem bounds (h : IsCutFrom em x) :
    em.mantissa ≤ x ∧ x < em.mantissa + 1 := by
  cases h <;> constructor <;> linarith

theorem shiftRightOne_even (m : ℕ) (r s : Bool) :
    ExtendedMantissa.shiftRightOne ⟨2 * m, r, s⟩ = ⟨m, false, r || s⟩ := by
  simp [ExtendedMantissa.shiftRightOne]

theorem shiftRightOne_odd (m : ℕ) (r s : Bool) :
    ExtendedMantissa.shiftRightOne ⟨2 * m + 1, r, s⟩ = ⟨m, true, r || s⟩ := by
  have hhalf : (2 * m + 1) / 2 = m := by omega
  simp [ExtendedMantissa.shiftRightOne, hhalf]

theorem shiftRightOne (h : IsCutFrom em x) :
    IsCutFrom em.shiftRightOne (x / 2) := by
  obtain ⟨m, r, s⟩ := em
  obtain ⟨a, rfl | rfl⟩ := m.even_or_odd'
  · rw [shiftRightOne_even]
    generalize hm : 2 * a = m at h
    have hcast : (m : ℚ) = 2 * a := by exact_mod_cast hm.symm
    cases h with
    | exact =>
        rw [hcast, mul_div_cancel_left₀ _ two_ne_zero]
        exact .exact a
    | low h h' => exact .low (by linarith) (by linarith)
    | half => exact .low (by linarith) (by linarith)
    | high h h' => exact .low (by linarith) (by linarith)
  · rw [shiftRightOne_odd]
    generalize hm : 2 * a + 1 = m at h
    have hcast : (m : ℚ) = 2 * a + 1 := by exact_mod_cast hm.symm
    cases h with
    | exact =>
        rw [hcast, add_div, mul_div_cancel_left₀ _ two_ne_zero]
        exact .half a
    | low h h' => exact .high (by linarith) (by linarith)
    | half => exact .high (by linarith) (by linarith)
    | high h h' => exact .high (by linarith) (by linarith)

theorem shiftRight (h : IsCutFrom em x) (n : ℕ) :
    IsCutFrom (em >>> n) (x / 2 ^ n) := by
  induction n with
  | zero => rwa [pow_zero, div_one]
  | succ n ih =>
      rw [pow_succ, ← div_div]
      exact ih.shiftRightOne

theorem abs_roundedMantissa_sub_le (h : IsCutFrom em x) :
    |(em.roundedMantissa : ℚ) - x| ≤ 1 / 2 := by
  rw [abs_le]
  cases h with
  | exact m =>
      simp [ExtendedMantissa.roundedMantissa, ExtendedMantissa.accuracy,
        Accuracy.roundToNearestEven]
  | low h h' =>
      simp only [ExtendedMantissa.roundedMantissa, ExtendedMantissa.accuracy,
        Accuracy.roundToNearestEven]
      constructor <;> linarith
  | half m =>
      have hparity : ((m % 2 : ℕ) : ℚ) ≤ 1 := by
        exact_mod_cast Nat.lt_succ_iff.mp (Nat.mod_lt m two_pos)
      have hpos : 0 ≤ ((m % 2 : ℕ) : ℚ) := Nat.cast_nonneg _
      simp only [ExtendedMantissa.roundedMantissa, ExtendedMantissa.accuracy,
        Accuracy.roundToNearestEven, Nat.cast_add]
      constructor <;> linarith
  | high h h' =>
      simp only [ExtendedMantissa.roundedMantissa, ExtendedMantissa.accuracy,
        Accuracy.roundToNearestEven, Nat.cast_add_one]
      constructor <;> linarith

theorem le_roundedMantissa (em : ExtendedMantissa) :
    em.mantissa ≤ em.roundedMantissa ∧
      em.roundedMantissa ≤ em.mantissa + 1 := by
  obtain ⟨m, r, s⟩ := em
  cases r <;> cases s <;>
    simp only [ExtendedMantissa.roundedMantissa, ExtendedMantissa.accuracy,
      Accuracy.roundToNearestEven] <;> omega

theorem ofExact (m : ℕ) : IsCutFrom (.ofMantissaAndAccuracy m .exact) m :=
  .exact m

/-- The accuracy of a fraction says what its whole part was cut from. -/
theorem ofFraction (num : ℕ) {den : ℕ} (hden : 0 < den) :
    IsCutFrom
      (.ofMantissaAndAccuracy (num / den) (accuracyOfFraction (num % den) den))
      (num / den : ℚ) := by
  have hd : (0 : ℚ) < den := by exact_mod_cast hden
  have hsplit : (num : ℚ) / den = (num / den : ℕ) + (num % den : ℕ) / den := by
    rw [div_eq_iff hd.ne', add_mul, div_mul_cancel₀ _ hd.ne']
    exact_mod_cast (Nat.div_add_mod' num den).symm
  have hlt : ((num % den : ℕ) : ℚ) / den < 1 := by
    rw [div_lt_one hd]
    exact_mod_cast Nat.mod_lt num hden
  rw [hsplit]
  rcases Nat.eq_zero_or_pos (num % den) with hzero | hpos
  · rw [accuracyOfFraction, if_pos hzero, hzero, Nat.cast_zero, zero_div,
      add_zero]
    exact .exact _
  · have hposq : (0 : ℚ) < (num % den : ℕ) / den := by positivity
    rw [accuracyOfFraction, if_neg hpos.ne']
    rcases lt_trichotomy (2 * (num % den)) den with h | h | h
    · have hhalf : ((num % den : ℕ) : ℚ) / den < 1 / 2 := by
        rw [div_lt_div_iff₀ hd two_pos]
        exact_mod_cast (by omega : num % den * 2 < 1 * den)
      rw [Nat.compare_eq_lt.mpr h]
      exact .low (by linarith) (by linarith)
    · have hhalf : ((num % den : ℕ) : ℚ) / den = 1 / 2 := by
        rw [div_eq_div_iff hd.ne' two_ne_zero]
        exact_mod_cast (by omega : num % den * 2 = 1 * den)
      rw [Nat.compare_eq_eq.mpr h, hhalf]
      exact .half _
    · have hhalf : 1 / 2 < ((num % den : ℕ) : ℚ) / den := by
        rw [div_lt_div_iff₀ two_pos hd]
        exact_mod_cast (by omega : 1 * den < num % den * 2)
      rw [Nat.compare_eq_gt.mpr h]
      exact .high (by linarith) (by linarith)

end IsCutFrom

theorem mantissa_shiftRight (em : ExtendedMantissa) (n : ℕ) :
    (em >>> n).mantissa = em.mantissa / 2 ^ n := by
  induction n with
  | zero => exact (Nat.div_one _).symm
  | succ n ih =>
      rw [pow_succ, ← Nat.div_div_eq_div_mul, ← ih]
      rfl

@[simp] theorem mantissa_ofMantissaAndAccuracy (m : ℕ) (a : Accuracy) :
    (ExtendedMantissa.ofMantissaAndAccuracy m a).mantissa = m := by
  rcases a with _ | (_ | _ | _) <;> rfl

theorem targetExponent_binary64 (t : ℤ) :
    Format.binary64.targetExponent t = max (t - 53) (-1074) :=
  rfl

/-- A mantissa of `53 + k` digits is cut down by `k` of them. -/
theorem shiftToTargetExponent_eq {m k : ℕ} {e : ℤ} (a : Accuracy)
    (hlow : 2 ^ (52 + k) ≤ m) (hhigh : m < 2 ^ (53 + k)) (he : -1074 ≤ e + k) :
    shiftToTargetExponent Format.binary64 m e a =
      (ExtendedMantissa.ofMantissaAndAccuracy m a >>> k, e + k) := by
  have hpos : m ≠ 0 := by
    have := Nat.two_pow_pos (52 + k)
    omega
  have hlog : m.log2 = 52 + k :=
    (Nat.log2_eq_iff hpos).mpr ⟨hlow, by convert hhigh using 2; omega⟩
  have htarget : Format.binary64.targetExponent (totalExponent m e) =
      e + k := by
    simp only [targetExponent_binary64, totalExponent, hlog]
    omega
  have hshift : (e + k - e).toNat = k := by omega
  simp only [shiftToTargetExponent, shiftToExponent, htarget, hshift]

theorem roundWithAccuracy_of_shifts {S : Format} {s : Sign} {m : ℕ}
    {e e₁ e₂ : ℤ} {a : Accuracy} {em₁ em₂ : ExtendedMantissa}
    (h₁ : shiftToTargetExponent S m e a = (em₁, e₁))
    (h₂ : shiftToTargetExponent S em₁.roundedMantissa e₁ .exact = (em₂, e₂))
    (hpos : 0 < em₂.mantissa) :
    roundWithAccuracy S s m e a = .finite s em₂.mantissa e₂ hpos := by
  rw [roundWithAccuracy, h₁]
  dsimp only
  rw [h₂]
  exact dif_neg hpos.ne'

/-! ## Rounding to 53 digits -/

theorem eq_of_abs_mul_sub_mul_le {a b : ℕ} {u : ℚ} (hu : 0 < u)
    (h : |a * u - b * u| ≤ u / 2) : a = b := by
  have hnear : |(a : ℚ) - b| < 1 := by
    rw [← sub_mul, abs_mul, abs_of_pos hu] at h
    by_contra hfar
    have := mul_le_mul_of_nonneg_right (not_lt.mp hfar) hu.le
    linarith
  have hcast : |(a : ℤ) - b| < 1 := by exact_mod_cast hnear
  have := Int.abs_lt_one_iff.mp hcast
  omega

theorem scaled_bounds {m k : ℕ} {e : ℤ} {x : ℚ} (hlow : 2 ^ (52 + k) ≤ m)
    (hhigh : m < 2 ^ (53 + k)) (hx : m ≤ x ∧ x < m + 1) :
    (2 : ℚ) ^ (52 + (e + k)) ≤ x * 2 ^ e ∧
      x * 2 ^ e < (2 : ℚ) ^ (53 + (e + k)) := by
  have hpow : (0 : ℚ) < 2 ^ e := by positivity
  have hscale (i : ℕ) :
      (2 : ℚ) ^ (i + k) * 2 ^ e = 2 ^ ((i : ℤ) + (e + k)) := by
    rw [← zpow_natCast, ← zpow_add₀ two_ne_zero]
    congr 1
    push_cast
    ring
  have hlow' : (2 : ℚ) ^ (52 + k) ≤ m := by exact_mod_cast hlow
  have hhigh' : (m : ℚ) + 1 ≤ 2 ^ (53 + k) := by exact_mod_cast hhigh
  constructor
  · exact (hscale 52).symm.trans_le
      (mul_le_mul_of_nonneg_right (hlow'.trans hx.1) hpow.le)
  · exact (mul_lt_mul_of_pos_right (hx.2.trans_le hhigh') hpow).trans_eq
      (hscale 53)

/-- A number of which a mantissa of `53 + k` digits is known is rounded to the
nearest of those with 53 digits. -/
theorem roundWithAccuracy_spec {m k : ℕ} {e : ℤ} {a : Accuracy} {x : ℚ}
    (hcut : IsCutFrom (.ofMantissaAndAccuracy m a) x) (hlow : 2 ^ (52 + k) ≤ m)
    (hhigh : m < 2 ^ (53 + k)) (he : -1074 ≤ e + k) :
    ∃ M j : ℕ, ∃ hM : 0 < M,
      roundWithAccuracy Format.binary64 .positive m e a =
        .finite .positive M (e + k + j) hM ∧ j ≤ 1 ∧ 2 ^ 52 ≤ M ∧ M < 2 ^ 53 ∧
        |((M * 2 ^ j : ℕ) : ℚ) * 2 ^ (e + k) - x * 2 ^ e| ≤
          2 ^ (e + k) / 2 := by
  have hfirst := shiftToTargetExponent_eq a hlow hhigh he
  generalize hem : ExtendedMantissa.ofMantissaAndAccuracy m a >>> k = em
    at hfirst
  have hmantissa : em.mantissa = m / 2 ^ k := by
    rw [← hem, mantissa_shiftRight, mantissa_ofMantissaAndAccuracy]
  have hlow' : 2 ^ 52 ≤ em.mantissa := by
    rw [hmantissa, Nat.le_div_iff_mul_le (Nat.two_pow_pos k), ← pow_add]
    exact hlow
  have hhigh' : em.mantissa < 2 ^ 53 := by
    rw [hmantissa, Nat.div_lt_iff_lt_mul (Nat.two_pow_pos k), ← pow_add]
    exact hhigh
  obtain ⟨hround, hround'⟩ := IsCutFrom.le_roundedMantissa em
  -- a mantissa that was rounded up to `2 ^ 53` has a digit too many
  obtain ⟨M, j, hM, hj, hMlow, hMhigh⟩ : ∃ M j,
      em.roundedMantissa = M * 2 ^ j ∧ j ≤ 1 ∧ 2 ^ 52 ≤ M ∧ M < 2 ^ 53 := by
    rcases Nat.lt_or_ge em.roundedMantissa (2 ^ 53) with hlt | hge
    · exact ⟨em.roundedMantissa, 0, (mul_one _).symm, Nat.zero_le 1, by omega,
        hlt⟩
    · exact ⟨2 ^ 52, 1, by omega, le_rfl, le_rfl, by norm_num⟩
  have hsecond := shiftToTargetExponent_eq (k := j) (m := em.roundedMantissa)
    (e := e + k) .exact
    (by rw [hM, pow_add]; exact Nat.mul_le_mul_right _ hMlow)
    (by
      rw [hM, pow_add]
      exact Nat.mul_lt_mul_of_pos_right hMhigh (Nat.two_pow_pos j))
    (by omega)
  generalize hem₂ : ExtendedMantissa.ofMantissaAndAccuracy
    em.roundedMantissa .exact >>> j = em₂ at hsecond
  obtain rfl : em₂.mantissa = M := by
    rw [← hem₂, mantissa_shiftRight, mantissa_ofMantissaAndAccuracy, hM,
      Nat.mul_div_cancel _ (Nat.two_pow_pos j)]
  refine ⟨em₂.mantissa, j, by omega,
    roundWithAccuracy_of_shifts hfirst hsecond _, hj, hMlow, hMhigh, ?_⟩
  have hnear := (hem ▸ hcut.shiftRight k).abs_roundedMantissa_sub_le
  have hscale : x * 2 ^ e = x / 2 ^ k * 2 ^ (e + k) := by
    rw [zpow_add₀ two_ne_zero, zpow_natCast]
    field_simp
  have hpos : (0 : ℚ) < 2 ^ (e + k) := by positivity
  rw [← hM, hscale, ← sub_mul, abs_mul, abs_of_pos hpos]
  linarith [mul_le_mul_of_nonneg_right hnear hpos.le]

/-! ## Doubles and their values -/

theorem toNat_packComponents (E : BitVec 11) (m : BitVec 52) :
    (packComponents Format.binary64 .positive E m).toNat =
      2 ^ 52 * E.toNat + m.toNat := by
  have hsign : (Sign.positive.toBitVec ++ E).toNat = E.toNat := by
    rw [BitVec.toNat_append, Sign.toBitVec, BitVec.toNat_zero,
      Nat.zero_shiftLeft, Nat.zero_or]
  rw [packComponents, BitVec.toNat_append,
    ← Nat.shiftLeft_add_eq_or_of_lt m.isLt, hsign, Nat.shiftLeft_eq, mul_comm]

theorem toNat_hiddenBit_append (m : BitVec 52) :
    (1#1 ++ m).toNat = 2 ^ 52 + m.toNat := by
  rw [BitVec.toNat_append, ← Nat.shiftLeft_add_eq_or_of_lt m.isLt]
  rfl

section Pack

variable {m : ℕ} {e : ℤ} {hm : 0 < m}

theorem pack_eq_packComponents (hlow : 2 ^ 52 ≤ m) (hhigh : m < 2 ^ 53)
    (he : -1074 ≤ e) (he' : e ≤ 971) :
    UnpackedFloat.pack Format.binary64 (.finite .positive m e hm) =
      packComponents Format.binary64 .positive (.ofNat 11 (e + 1075).toNat)
        (.ofNat 52 m) := by
  have hlog : m.log2 = 52 := (Nat.log2_eq_iff hm.ne').mpr ⟨hlow, hhigh⟩
  have hbias : (e + 1023 + 52).toNat = (e + 1075).toNat := by omega
  have hfinite : ¬ 2 ^ 11 ≤ (e + 1075).toNat + 1 := by omega
  have hpack : UnpackedFloat.pack Format.binary64 (.finite .positive m e hm) =
      if 2 ^ 11 ≤ (e + 1023 + 52).toNat + 1 then
        packedInfinity Format.binary64 .positive
      else if m.log2 + 1 = 53 then
        packComponents Format.binary64 .positive
          (.ofNat 11 (e + 1023 + 52).toNat) (.ofNat 52 m)
      else packComponents Format.binary64 .positive 0#11 (.ofNat 52 m) :=
    rfl
  rw [hpack, hbias, if_neg hfinite, hlog, if_pos rfl]

theorem sign_packComponents (e : BitVec 11) (m : BitVec 52) :
    Sign.ofBitVec (unpackSign (packComponents Format.binary64 .positive e m)) =
      .positive := by
  have htop : ((0#1 : BitVec 1) ++ e ++ m).getLsbD 63 = false := by
    rw [BitVec.getLsbD_append, BitVec.getLsbD_append]
    rfl
  have hbit : unpackSign (packComponents Format.binary64 .positive e m) =
      0#1 := by
    refine BitVec.eq_of_getLsbD_eq fun i hi => ?_
    obtain rfl : i = 0 := by omega
    change (((0#1 : BitVec 1) ++ e ++ m).extractLsb 63 63).getLsbD 0 = false
    rw [BitVec.extractLsb, BitVec.getLsbD_extractLsb']
    exact htop
  rw [hbit]
  rfl

theorem finite_congr {s s' : Sign} {m m' : ℕ} {e e' : ℤ} {hm : 0 < m}
    {hm' : 0 < m'} (hs : s = s') (h : m = m') (he : e = e') :
    finite s m e hm = finite s' m' e' hm' := by
  subst hs h he
  rfl

/-- A mantissa is unpacked with its hidden bit. -/
theorem unpack_packComponents {E : BitVec 11} {m : BitVec 52}
    (hmax : E ≠ -1#11) (hzero : E ≠ 0#11) :
    ∃ h, UnpackedFloat.unpack Format.binary64
        (packComponents Format.binary64 .positive E m) =
      .finite .positive (1#1 ++ m).toNat (E.toNat - 1075) h := by
  have hexponent : unpackExponent
      (packComponents Format.binary64 .positive E m) = E :=
    unpackExponent_packComponents
  have hmantissa : unpackMantissa
      (packComponents Format.binary64 .positive E m) = m :=
    unpackMantissa_packComponents
  rw [← hexponent] at hmax hzero
  have hpos : 0 < (1#1 ++ m).toNat := by
    rw [toNat_hiddenBit_append]
    omega
  refine ⟨hpos, ((if_neg hmax).trans (if_neg hzero)).trans ?_⟩
  exact finite_congr (sign_packComponents E m) (by rw [hmantissa])
    (by rw [hexponent]; rfl)

theorem unpack_pack (hlow : 2 ^ 52 ≤ m) (hhigh : m < 2 ^ 53) (he : -1074 ≤ e)
    (he' : e ≤ 971) :
    (Float.Model.pack (.finite .positive m e hm)).unpack =
      .finite .positive m e hm := by
  have hbias : ((BitVec.ofNat 11 (e + 1075).toNat).toNat : ℤ) = e + 1075 := by
    rw [BitVec.toNat_ofNat, Nat.mod_eq_of_lt (by omega)]
    omega
  have hnotMax : BitVec.ofNat 11 (e + 1075).toNat ≠ -1#11 := by
    intro h
    rw [h] at hbias
    have : ((-1#11 : BitVec 11).toNat : ℤ) = 2047 := by decide
    omega
  have hnotZero : BitVec.ofNat 11 (e + 1075).toNat ≠ 0#11 := by
    intro h
    rw [h] at hbias
    have : ((0#11 : BitVec 11).toNat : ℤ) = 0 := by decide
    omega
  have hmantissa : (1#1 ++ BitVec.ofNat 52 m).toNat = m := by
    rw [toNat_hiddenBit_append, BitVec.toNat_ofNat]
    omega
  obtain ⟨hpos, hunpack⟩ :=
    unpack_packComponents (m := .ofNat 52 m) hnotMax hnotZero
  have hmodel : (Float.Model.pack (.finite .positive m e hm)).unpack =
      UnpackedFloat.unpack Format.binary64
        (UnpackedFloat.pack Format.binary64 (.finite .positive m e hm)) :=
    rfl
  rw [hmodel, pack_eq_packComponents hlow hhigh he he', hunpack]
  exact finite_congr rfl hmantissa (by omega)

theorem ofFloat_pack (hlow : 2 ^ 52 ≤ m) (hhigh : m < 2 ^ 53) (he : -1074 ≤ e)
    (he' : e ≤ 971) :
    Double.ofFloat (.ofModel (.pack (.finite .positive m e hm))) =
      ⟨false, m, e⟩ := by
  have hbits :
      (Float.ofModel (.pack (.finite .positive m e hm))).toBits.toNat =
      2 ^ 52 * (e + 1075).toNat + (m - 2 ^ 52) := by
    have hexp : (e + 1075).toNat < 2 ^ 11 := by omega
    have hmod : m % 2 ^ 52 = m - 2 ^ 52 := by omega
    have hpack :
        (Float.ofModel (.pack (.finite .positive m e hm))).toBits.toNat =
          (UnpackedFloat.pack Format.binary64
            (.finite .positive m e hm)).toNat :=
      rfl
    rw [hpack, pack_eq_packComponents hlow hhigh he he', toNat_packComponents,
      BitVec.toNat_ofNat, BitVec.toNat_ofNat, hmod, Nat.mod_eq_of_lt hexp]
  generalize Float.ofModel (.pack (.finite .positive m e hm)) = x at hbits ⊢
  have hexponent :
      (2 ^ 52 * (e + 1075).toNat + (m - 2 ^ 52)) / Double.hiddenBit =
      (e + 1075).toNat := by
    simp only [Double.hiddenBit]
    omega
  have hfraction :
      (2 ^ 52 * (e + 1075).toNat + (m - 2 ^ 52)) % Double.hiddenBit =
      m - Double.hiddenBit := by
    simp only [Double.hiddenBit]
    omega
  have hmod : (e + 1075).toNat % 2048 = (e + 1075).toNat :=
    Nat.mod_eq_of_lt (by omega)
  have hsign : (e + 1075).toNat / 2048 = 0 := Nat.div_eq_of_lt (by omega)
  have hne : (e + 1075).toNat ≠ 0 := by omega
  simp only [Double.ofFloat, hbits, hexponent, hfraction, hmod, hsign, hne,
    if_false]
  simp [Double.hiddenBit]
  omega

end Pack

/-- A double has 53 digits and stands for the number `q`. -/
def Shows (f : Float.Model) (q : ℚ) : Prop :=
  ∃ m e, ∃ hm : 0 < m, f = .pack (.finite .positive m e hm) ∧ 2 ^ 52 ≤ m ∧
    m < 2 ^ 53 ∧ -1074 ≤ e ∧ e ≤ 971 ∧ q = m * 2 ^ e

theorem Shows.value_eq {f : Float.Model} {q : ℚ} (h : Shows f q) :
    (Double.ofFloat (.ofModel f)).value = q := by
  obtain ⟨m, e, hm, rfl, hlow, hhigh, he, he', rfl⟩ := h
  rw [ofFloat_pack hlow hhigh he he']
  simp [Double.value]

theorem Shows.unpack_eq {f : Float.Model} {q : ℚ} (h : Shows f q) :
    ∃ m e, ∃ hm : 0 < m, f.unpack = .finite .positive m e hm ∧ 2 ^ 52 ≤ m ∧
      m < 2 ^ 53 ∧ q = m * 2 ^ e := by
  obtain ⟨m, e, hm, rfl, hlow, hhigh, he, he', hq⟩ := h
  exact ⟨m, e, hm, unpack_pack hlow hhigh he he', hlow, hhigh, hq⟩

/-- A number that is not too large or too small, of which a mantissa with
enough digits is known, is rounded correctly. -/
theorem rounds_roundWithAccuracy {m : ℕ} {e : ℤ} {a : Accuracy} {x : ℚ}
    (hcut : IsCutFrom (.ofMantissaAndAccuracy m a) x) (hm : 2 ^ 52 ≤ m)
    (hlow : 2 ^ (-53 : ℤ) ≤ x * 2 ^ e) (hhigh : x * 2 ^ e < 2 ^ 53) :
    ∃ y, Rounds (x * 2 ^ e) y ∧
      Shows (.pack (roundWithAccuracy Format.binary64 .positive m e a)) y := by
  obtain ⟨k, hk, hk'⟩ : ∃ k, 2 ^ (52 + k) ≤ m ∧ m < 2 ^ (53 + k) := by
    have hpos : m ≠ 0 := by omega
    obtain ⟨k, hk⟩ := Nat.exists_eq_add_of_le ((Nat.le_log2 hpos).mpr hm)
    refine ⟨k, hk ▸ Nat.log2_self_le hpos, ?_⟩
    have := Nat.lt_log2_self (n := m)
    rwa [hk, add_right_comm] at this
  obtain ⟨hx, hx'⟩ := scaled_bounds (e := e) hk hk'
    (mantissa_ofMantissaAndAccuracy m a ▸ hcut.bounds)
  have hek : 52 + (e + k) < 53 :=
    (zpow_lt_zpow_iff_right₀ one_lt_two).mp
      (hx.trans_lt (by exact_mod_cast hhigh))
  have hek' : -53 < 53 + (e + k) :=
    (zpow_lt_zpow_iff_right₀ one_lt_two).mp (hlow.trans_lt hx')
  obtain ⟨M, j, hM, hround, hj, hMlow, hMhigh, herror⟩ :=
    roundWithAccuracy_spec (e := e) hcut hk hk' (by omega)
  have hunit : (0 : ℚ) < 2 ^ (e + k) := by positivity
  have hy :
      (M : ℚ) * 2 ^ (e + k + j) = ((M * 2 ^ j : ℕ) : ℚ) * 2 ^ (e + k) := by
    rw [zpow_add₀ two_ne_zero, zpow_natCast]
    push_cast
    ring
  refine ⟨(M : ℚ) * 2 ^ (e + k + j), ⟨?_, ?_⟩, M, e + k + j, hM,
    by rw [hround], hMlow, hMhigh, by omega, by omega, rfl⟩
  · refine (hy ▸ herror).trans ?_
    rw [zpow_add₀ two_ne_zero] at hx
    rw [div_le_div_iff₀ two_pos (by norm_num)]
    norm_num at hx ⊢
    linarith
  · intro n hn
    -- a whole number is a multiple of the last digit, since that is not above
    -- one
    obtain ⟨i, hi⟩ := Int.eq_ofNat_of_zero_le (by omega : 0 ≤ -(e + k))
    have hn' : (n : ℚ) = ((n * 2 ^ i : ℕ) : ℚ) * 2 ^ (e + k) := by
      have hone : (2 : ℚ) ^ i * 2 ^ (e + k) = 1 := by
        rw [← zpow_natCast, ← hi, ← zpow_add₀ two_ne_zero, neg_add_cancel,
          zpow_zero]
      push_cast
      rw [mul_assoc, hone, mul_one]
    rw [hn, hn'] at herror
    rw [hy, eq_of_abs_mul_sub_mul_le hunit herror, ← hn']

/-! ## The operations -/

theorem two_zpow_neg_le_natCast {n : ℕ} (hn : 0 < n) :
    (2 : ℚ) ^ (-53 : ℤ) ≤ n := by
  have : (1 : ℚ) ≤ n := by exact_mod_cast hn
  exact le_trans (by norm_num) this

theorem shows_roundWithAccuracy {m n : ℕ} {e : ℤ}
    (hvalue : (m : ℚ) * 2 ^ e = n) (hm : 2 ^ 52 ≤ m) (hpos : 0 < n)
    (hhigh : n < 2 ^ 53) :
    Shows (.pack (roundWithAccuracy Format.binary64 .positive m e .exact))
      n := by
  have hlow := two_zpow_neg_le_natCast hpos
  have hhigh' : (n : ℚ) < 2 ^ 53 := by exact_mod_cast hhigh
  rw [← hvalue] at hlow hhigh'
  obtain ⟨y, hy, hshows⟩ :=
    rounds_roundWithAccuracy (.ofExact m) hm hlow hhigh'
  rwa [hy.kept n hvalue] at hshows

theorem shows_ofNat {n : ℕ} (hn : 0 < n) (hn' : n < 2 ^ 53) :
    Shows (Float.Model.ofNat n) n := by
  have hlog : n.log2 ≤ 52 := Nat.lt_succ_iff.mp ((Nat.log2_lt hn.ne').mpr hn')
  have hlow : 2 ^ 52 ≤ n <<< (52 - n.log2) := by
    rw [Nat.shiftLeft_eq]
    calc 2 ^ 52 = 2 ^ n.log2 * 2 ^ (52 - n.log2) := by
          rw [← pow_add, Nat.add_sub_cancel' hlog]
      _ ≤ n * 2 ^ (52 - n.log2) :=
        Nat.mul_le_mul_right _ (Nat.log2_self_le hn.ne')
  have hvalue :
      ((n <<< (52 - n.log2) : ℕ) : ℚ) * 2 ^ (0 - ((52 - n.log2 : ℕ) : ℤ)) =
        n := by
    rw [Nat.shiftLeft_eq, zero_sub, zpow_neg, zpow_natCast]
    push_cast
    field_simp
  have htarget :
      (0 - Format.binary64.targetExponent (totalExponent n 0)).toNat =
        52 - n.log2 := by
    simp only [targetExponent_binary64, totalExponent]
    omega
  have hround : UnpackedFloat.ofNat Format.binary64 n =
      roundWithAccuracy Format.binary64 .positive (n <<< (52 - n.log2))
        (0 - ((52 - n.log2 : ℕ) : ℤ)) .exact := by
    have hcompare : compare (n : ℤ) 0 = .gt := Int.compare_eq_gt.mpr (by omega)
    simp only [UnpackedFloat.ofNat, UnpackedFloat.ofInt,
      UnpackedFloat.normalize, hcompare, UnpackedFloat.round, decreaseExponent,
      Int.toNat_natCast, htarget]
  rw [Float.Model.ofNat, hround]
  exact shows_roundWithAccuracy hvalue hlow hn hn'

theorem Shows.mul {f g : Float.Model} {p q : ℚ} {n : ℕ} (hf : Shows f p)
    (hg : Shows g q) (hn : p * q = n) (hpos : 0 < n) (hhigh : n < 2 ^ 53) :
    Shows (f * g) n := by
  obtain ⟨m₁, e₁, hm₁, hf', hlow₁, -, rfl⟩ := hf.unpack_eq
  obtain ⟨m₂, e₂, hm₂, hg', -, -, rfl⟩ := hg.unpack_eq
  have hvalue : ((m₁ * m₂ : ℕ) : ℚ) * 2 ^ (e₁ + e₂) = n := by
    rw [← hn, zpow_add₀ two_ne_zero]
    push_cast
    ring
  have hmul :
      f * g = .pack (UnpackedFloat.mul Format.binary64 f.unpack g.unpack) :=
        rfl
  rw [hmul, hf', hg']
  exact shows_roundWithAccuracy hvalue
    (hlow₁.trans (Nat.le_mul_of_pos_right _ hm₂)) hpos hhigh

/-- With 53 digits on both sides the division finds at least 53 digits of the
quotient. -/
theorem divCore_eq {m₁ m₂ : ℕ} (e₁ e₂ : ℤ) (h₁ : m₁.log2 = 52)
    (h₂ : m₂.log2 = 52) (he : -54 < e₁ - e₂) :
    divCore Format.binary64 m₁ e₁ m₂ e₂ =
      ((m₁ <<< 53) / m₂, e₁ - e₂ - 53,
        accuracyOfFraction ((m₁ <<< 53) % m₂) m₂) := by
  have htarget : min (e₁ - e₂)
      (Format.binary64.targetExponent
        (totalExponent m₁ e₁ - totalExponent m₂ e₂)) = e₁ - e₂ - 53 := by
    simp only [targetExponent_binary64, totalExponent, h₁, h₂]
    omega
  have hshift : (e₁ - e₂ - (e₁ - e₂ - 53)).toNat = 53 := by omega
  simp only [divCore, htarget, hshift]

theorem div_finite {m₁ m₂ : ℕ} (e₁ e₂ : ℤ) (h₁ : 0 < m₁) (h₂ : 0 < m₂) :
    UnpackedFloat.div Format.binary64 (.finite .positive m₁ e₁ h₁)
        (.finite .positive m₂ e₂ h₂) =
      let (m, e, a) := divCore Format.binary64 m₁ e₁ m₂ e₂
      roundWithAccuracy Format.binary64 .positive m e a :=
  rfl

theorem Shows.div {f g : Float.Model} {p q : ℚ} (hf : Shows f p)
    (hg : Shows g q) (hlow : 2 ^ (-53 : ℤ) ≤ p / q) (hhigh : p / q < 2 ^ 53) :
    ∃ y, Rounds (p / q) y ∧ Shows (f / g) y := by
  obtain ⟨m₁, e₁, hm₁, hf', hlow₁, hhigh₁, rfl⟩ := hf.unpack_eq
  obtain ⟨m₂, e₂, hm₂, hg', hlow₂, hhigh₂, rfl⟩ := hg.unpack_eq
  have hlog₁ : m₁.log2 = 52 := (Nat.log2_eq_iff hm₁.ne').mpr ⟨hlow₁, hhigh₁⟩
  have hlog₂ : m₂.log2 = 52 := (Nat.log2_eq_iff hm₂.ne').mpr ⟨hlow₂, hhigh₂⟩
  have hm₂' : (0 : ℚ) < m₂ := by exact_mod_cast hm₂
  have hsplit :
      (m₁ : ℚ) * 2 ^ e₁ / (m₂ * 2 ^ e₂) = m₁ / m₂ * 2 ^ (e₁ - e₂) := by
    rw [zpow_sub₀ two_ne_zero]
    field_simp
  have hexp : -54 < e₁ - e₂ := by
    have hratio : (m₁ : ℚ) / m₂ < 2 := by
      rw [div_lt_iff₀ hm₂']
      exact_mod_cast (by omega : m₁ < 2 * m₂)
    have hlt : (2 : ℚ) ^ (-53 : ℤ) < 2 ^ (e₁ - e₂ + 1) := by
      rw [hsplit] at hlow
      rw [zpow_add_one₀ two_ne_zero, mul_comm]
      exact hlow.trans_lt (mul_lt_mul_of_pos_right hratio (by positivity))
    have := (zpow_lt_zpow_iff_right₀ one_lt_two).mp hlt
    omega
  have hvalue : ((m₁ <<< 53 : ℕ) : ℚ) / m₂ * 2 ^ (e₁ - e₂ - 53) =
      m₁ * 2 ^ e₁ / (m₂ * 2 ^ e₂) := by
    rw [hsplit, zpow_sub₀ two_ne_zero, Nat.shiftLeft_eq]
    push_cast
    field_simp
  have hquotient : 2 ^ 52 ≤ (m₁ <<< 53) / m₂ := by
    rw [Nat.le_div_iff_mul_le hm₂, Nat.shiftLeft_eq]
    omega
  have hcut := IsCutFrom.ofFraction (m₁ <<< 53) hm₂
  rw [← hvalue] at hlow hhigh ⊢
  obtain ⟨y, hy, hshows⟩ := rounds_roundWithAccuracy hcut hquotient hlow hhigh
  refine ⟨y, hy, ?_⟩
  have hdiv :
      f / g = .pack (UnpackedFloat.div Format.binary64 f.unpack g.unpack) :=
        rfl
  rw [hdiv, hf', hg', div_finite, divCore_eq e₁ e₂ hlog₁ hlog₂ hexp]
  exact hshows

/-! ## Whole numbers and their quotients -/

theorem shows_one : Shows (Float.Model.ofBits 0x3FF0000000000000) 1 :=
  ⟨2 ^ 52, -52, by norm_num, by decide +kernel, le_rfl, by norm_num,
    by norm_num, by norm_num, by norm_num⟩

theorem toFloat_toUInt64 {n : ℕ} (h : n < 2 ^ 53) :
    n.toUInt64.toFloat = .ofModel (.ofNat n) := by
  have hnat : n.toUInt64.toNat = n := Nat.mod_eq_of_lt (by omega)
  have hmodel : Float.Model.ofUInt64 n.toUInt64 = .ofNat n := by
    simp only [Float.Model.ofUInt64, UnpackedFloat.ofUInt64, hnat,
      Float.Model.ofNat]
  rw [UInt64.toFloat, hmodel]

/-- A whole number becomes a double by a multiplication with the first power of
ten. -/
theorem shows_floatOfInt {n : ℕ} (hpos : 0 < n) (hhigh : n < 2 ^ 53) :
    Shows (floatOfInt n).toModel n := by
  have hone : Float.exactlyRepresentablePowersOfTen[0] =
      .ofModel (.ofBits 0x3FF0000000000000) :=
    rfl
  have hscientific : floatOfInt n =
      n.toUInt64.toFloat * Float.exactlyRepresentablePowersOfTen[0] := by
    simp only [floatOfInt, Float.ofScientific]
    exact dif_pos ⟨hhigh, by norm_num⟩
  have hfloat :
      (floatOfInt n).toModel = .ofNat n * .ofBits 0x3FF0000000000000 := by
    rw [hscientific, toFloat_toUInt64 hhigh, hone]
    rfl
  rw [hfloat]
  exact (shows_ofNat hpos hhigh).mul shows_one (mul_one _) hpos hhigh

/-- The quotient of two whole numbers that are not too large is rounded
correctly. -/
theorem rounds_div {n d : ℕ} (hn : 0 < n) (hn' : n < 2 ^ 53) (hd : 0 < d)
    (hd' : d < 2 ^ 53) :
    Rounds (n / d) (Double.ofFloat (floatOfInt n / floatOfInt d)).value := by
  have hn₁ : (1 : ℚ) ≤ n := by exact_mod_cast hn
  have hd₁ : (1 : ℚ) ≤ d := by exact_mod_cast hd
  have hlow : (2 : ℚ) ^ (-53 : ℤ) ≤ n / d := by
    have hcast : (d : ℚ) ≤ 2 ^ 53 := by exact_mod_cast hd'.le
    rw [le_div_iff₀ (by linarith), zpow_neg, inv_mul_le_iff₀ (by norm_num),
      zpow_ofNat]
    exact hcast.trans (le_mul_of_one_le_right (by norm_num) hn₁)
  have hhigh : (n : ℚ) / d < 2 ^ 53 :=
    (div_le_self (by linarith) hd₁).trans_lt (by exact_mod_cast hn')
  obtain ⟨y, hy, hshows⟩ :=
    (shows_floatOfInt hn hn').div (shows_floatOfInt hd hd') hlow hhigh
  have hvalue : (Double.ofFloat (floatOfInt n / floatOfInt d)).value = y :=
    hshows.value_eq
  rwa [hvalue]

end Chip8.Numeric
