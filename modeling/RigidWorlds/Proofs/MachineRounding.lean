import Mathlib.Algebra.Order.Field.Basic
import Mathlib.Algebra.Order.Field.Power
import Mathlib.Algebra.Order.Field.Rat
import Mathlib.Tactic.FieldSimp
import Mathlib.Tactic.Linarith
import Mathlib.Tactic.NormNum
import Mathlib.Tactic.Ring
import RigidWorlds.Proofs.MachineFloat

/-!
How machine arithmetic rounds.  A significand that is shifted to its place keeps a bit for one half
and a bit for whatever is lost below it, and from these it is rounded to the nearest one.
-/

namespace RigidWorlds.Binary

open Float.Model Float.Model.UnpackedFloat

/-- The number that a shifted significand stands for. -/
def Stands (em : ExtendedMantissa) (x : ℚ) : Prop :=
  if em.stickyBit then
    2 * em.mantissa + em.roundBit.toNat < 2 * x ∧ 2 * x < 2 * em.mantissa + em.roundBit.toNat + 1
  else 2 * x = 2 * em.mantissa + em.roundBit.toNat

theorem stands_exact (m : Nat) : Stands (.ofMantissaAndAccuracy m .exact) m := by
  simp [Stands, ExtendedMantissa.ofMantissaAndAccuracy]

theorem stands_fraction (m : Nat) {num den : Nat} (h : num < den) :
    Stands (.ofMantissaAndAccuracy m (accuracyOfFraction num den)) (m + num / den) := by
  have hden : (0 : ℚ) < den := by exact_mod_cast Nat.zero_lt_of_lt h
  have hlt : (num : ℚ) < den := by exact_mod_cast h
  unfold accuracyOfFraction
  split
  · rename_i hzero
    simp [Stands, ExtendedMantissa.ofMantissaAndAccuracy, hzero]
  · rename_i hne
    have hpos : (0 : ℚ) < num := by exact_mod_cast Nat.pos_of_ne_zero hne
    rcases hcompare : compare (2 * num) den with _ | _ | _
    · have hless : ((2 * num : ℕ) : ℚ) < den := by exact_mod_cast Nat.compare_eq_lt.mp hcompare
      push_cast at hless
      have hhalf : (num : ℚ) / den < 1 / 2 := by
        rw [div_lt_div_iff₀ hden (by norm_num)]
        linarith
      have hpositive : 0 < (num : ℚ) / den := div_pos hpos hden
      simp only [Stands, ExtendedMantissa.ofMantissaAndAccuracy, if_true, Bool.toNat_false,
        Nat.cast_zero]
      constructor <;> linarith
    · have heq : ((2 * num : ℕ) : ℚ) = den := by exact_mod_cast Nat.compare_eq_eq.mp hcompare
      push_cast at heq
      have hhalf : (num : ℚ) / den = 1 / 2 := by
        rw [div_eq_div_iff hden.ne' (by norm_num)]
        linarith
      simp only [Stands, ExtendedMantissa.ofMantissaAndAccuracy, Bool.toNat_true, hhalf,
        Bool.false_eq_true, if_false, Nat.cast_one]
      linarith
    · have hmore : (den : ℚ) < ((2 * num : ℕ) : ℚ) := by
        exact_mod_cast Nat.compare_eq_gt.mp hcompare
      push_cast at hmore
      have hhalf : 1 / 2 < (num : ℚ) / den := by
        rw [div_lt_div_iff₀ (by norm_num) hden]
        linarith
      have hwhole : (num : ℚ) / den < 1 := (div_lt_one hden).mpr hlt
      simp only [Stands, ExtendedMantissa.ofMantissaAndAccuracy, if_true, Bool.toNat_true,
        Nat.cast_one]
      constructor <;> linarith

theorem Stands.shiftRightOne {em : ExtendedMantissa} {x : ℚ} (h : Stands em x) :
    Stands em.shiftRightOne (x / 2) := by
  obtain ⟨m, r, s⟩ := em
  have hsplit : (((m % 2 : ℕ) : ℚ)) + 2 * ((m / 2 : ℕ) : ℚ) = m := by
    exact_mod_cast Nat.mod_add_div m 2
  rcases Nat.mod_two_eq_zero_or_one m with hm | hm <;> rw [hm] at hsplit <;>
    cases r <;> cases s <;>
      simp [Stands, ExtendedMantissa.shiftRightOne, hm] at h hsplit ⊢ <;>
        first | linarith | constructor <;> linarith

theorem Stands.shiftRight {em : ExtendedMantissa} {x : ℚ} (h : Stands em x) (n : Nat) :
    Stands (em >>> n) (x / 2 ^ n) := by
  show Stands (Nat.repeat ExtendedMantissa.shiftRightOne n em) _
  induction n with
  | zero => simpa [Nat.repeat] using h
  | succ n ih =>
      have hnext := ih.shiftRightOne
      rwa [div_div, ← pow_succ] at hnext

theorem Stands.rounded {em : ExtendedMantissa} {x : ℚ} (h : Stands em x) :
    |(em.roundedMantissa : ℚ) - x| ≤ 1 / 2 := by
  obtain ⟨m, r, s⟩ := em
  rw [abs_le]
  cases r <;> cases s <;>
    simp [Stands, ExtendedMantissa.roundedMantissa, ExtendedMantissa.accuracy,
      Accuracy.roundToNearestEven] at h ⊢
  · constructor <;> linarith
  · constructor <;> linarith
  · have hbit : ((m % 2 : ℕ) : ℚ) ≤ 1 := by
      exact_mod_cast Nat.le_of_lt_succ (Nat.mod_lt m (by decide))
    have hsign : (0 : ℚ) ≤ ((m % 2 : ℕ) : ℚ) := Nat.cast_nonneg _
    constructor <;> linarith
  · constructor <;> linarith

variable {spec : Float.Model.Format}

/-- The number with a rounded significand, which may just have grown too long. -/
def rounded (spec : Float.Model.Format) (s : Sign) (n : Nat) (e : Int) : UnpackedFloat :=
  if h : n = 0 then .zero s
  else if n < 2 ^ spec.mantissaBits then .finite s n e (Nat.pos_of_ne_zero h)
  else .finite s (2 ^ spec.mantissaBitsWithoutImplicit) (e + 1) (Nat.two_pow_pos _)

theorem shiftToExponent_of_le {m : Nat} {e t : Int} (h : t ≤ e) :
    shiftToExponent m e .exact t = (⟨m, false, false⟩, e) := by
  have hzero : (t - e).toNat = 0 := by omega
  unfold shiftToExponent
  rw [hzero]
  show (_, e + ((0 : Nat) : Int)) = _
  rw [Int.natCast_zero, Int.add_zero]
  rfl

theorem targetExponent_le {n : Nat} (hn : n < 2 ^ spec.mantissaBits) {e : Int}
    (he : spec.minExponent ≤ e) : spec.targetExponent (totalExponent n e) ≤ e := by
  have hlog : n.log2 < spec.mantissaBits := by
    by_cases hzero : n = 0
    · rw [hzero]
      show 0 < 1 + spec.mantissaBitsWithoutImplicit
      omega
    · exact (Nat.log2_lt hzero).mpr hn
  unfold Float.Model.Format.targetExponent totalExponent
  omega

theorem shift_rounded (s : Sign) {n : Nat} (hn : n ≤ 2 ^ spec.mantissaBits) {e : Int}
    (he : spec.minExponent ≤ e) {em : ExtendedMantissa} {e' : Int}
    (h : shiftToTargetExponent spec n e .exact = (em, e')) :
    (if hzero : em.mantissa = 0 then UnpackedFloat.zero s
      else .finite s em.mantissa e' (Nat.pos_of_ne_zero hzero)) = rounded spec s n e := by
  unfold shiftToTargetExponent at h
  rcases Nat.lt_or_eq_of_le hn with hlt | rfl
  · rw [shiftToExponent_of_le (targetExponent_le hlt he)] at h
    obtain ⟨rfl, rfl⟩ := Prod.mk.inj h
    unfold rounded
    simp only [if_pos hlt]
  · have htarget : spec.targetExponent (totalExponent (2 ^ spec.mantissaBits) e) = e + 1 := by
      unfold Float.Model.Format.targetExponent totalExponent
      rw [Nat.log2_two_pow]
      omega
    have hone : (e + 1 - e).toNat = 1 := by omega
    have hhalf : 2 ^ spec.mantissaBits / 2 = 2 ^ spec.mantissaBitsWithoutImplicit := by
      unfold Float.Model.Format.mantissaBits
      rw [Nat.pow_add, Nat.pow_one, Nat.mul_div_cancel_left _ (by decide)]
    unfold shiftToExponent at h
    simp only [htarget, hone] at h
    obtain ⟨rfl, rfl⟩ := Prod.mk.inj h
    have hmantissa : (ExtendedMantissa.ofMantissaAndAccuracy (2 ^ spec.mantissaBits) .exact >>>
        1).mantissa = 2 ^ spec.mantissaBitsWithoutImplicit := hhalf
    have hne : ¬ 2 ^ spec.mantissaBits = 0 := (Nat.two_pow_pos _).ne'
    have hne' : ¬ 2 ^ spec.mantissaBitsWithoutImplicit = 0 := (Nat.two_pow_pos _).ne'
    unfold rounded
    simp only [hmantissa, dif_neg hne, dif_neg hne', if_neg (Nat.lt_irrefl _), Int.natCast_one]

theorem Stands.lt {em : ExtendedMantissa} {x : ℚ} (h : Stands em x) : x < em.mantissa + 1 := by
  obtain ⟨m, r, s⟩ := em
  cases r <;> cases s <;> simp [Stands] at h ⊢ <;> linarith

theorem two_zpow_sub_eq {e t : Int} (h : e ≤ t) : (2 : ℚ) ^ (e - t) = 1 / 2 ^ (t - e).toNat := by
  have hexponent : e - t = -((t - e).toNat : Int) := by omega
  rw [hexponent, zpow_neg, zpow_natCast, one_div]

theorem lt_of_target (spec : Float.Model.Format) (m : Nat) (e : Int) :
    ((m : ℚ) + 1) * 2 ^ (e - spec.targetExponent (totalExponent m e)) ≤
      2 ^ spec.mantissaBits := by
  have hm : ((m : ℚ) + 1) ≤ 2 ^ ((m.log2 + 1 : ℕ) : Int) := by
    rw [zpow_natCast]
    exact_mod_cast Nat.lt_log2_self (n := m)
  have htarget : (m.log2 + 1 : ℕ) + (e - spec.targetExponent (totalExponent m e)) ≤
      (spec.mantissaBits : Int) := by
    unfold Float.Model.Format.targetExponent totalExponent
    omega
  calc ((m : ℚ) + 1) * 2 ^ (e - spec.targetExponent (totalExponent m e))
      ≤ 2 ^ ((m.log2 + 1 : ℕ) : Int) * 2 ^ (e - spec.targetExponent (totalExponent m e)) :=
        mul_le_mul_of_nonneg_right hm (by positivity)
    _ = 2 ^ ((m.log2 + 1 : ℕ) + (e - spec.targetExponent (totalExponent m e))) := by
        rw [← zpow_add₀ (by norm_num)]
    _ ≤ 2 ^ (spec.mantissaBits : Int) := zpow_le_zpow_right₀ (by norm_num) htarget
    _ = 2 ^ spec.mantissaBits := zpow_natCast ..

theorem ofMantissaAndAccuracy_mantissa (m : Nat) (accuracy : Accuracy) :
    (ExtendedMantissa.ofMantissaAndAccuracy m accuracy).mantissa = m := by
  rcases accuracy with _ | _ | _ | _ <;> rfl

theorem exists_rounded (s : Sign) {m : Nat} {e : Int} {accuracy : Accuracy} {x : ℚ}
    (h : Stands (.ofMantissaAndAccuracy m accuracy) x)
    (hplace : e ≤ spec.targetExponent (totalExponent m e)) :
    ∃ n : Nat, n ≤ 2 ^ spec.mantissaBits ∧
      |(n : ℚ) - x * 2 ^ (e - spec.targetExponent (totalExponent m e))| ≤ 1 / 2 ∧
        roundWithAccuracy spec s m e accuracy =
          rounded spec s n (spec.targetExponent (totalExponent m e)) := by
  have hx : x < m + 1 := by
    have hlt := h.lt
    rwa [ofMantissaAndAccuracy_mantissa] at hlt
  have hscaled : x * 2 ^ (e - spec.targetExponent (totalExponent m e)) <
      2 ^ spec.mantissaBits :=
    lt_of_lt_of_le (mul_lt_mul_of_pos_right hx (by positivity)) (lt_of_target spec m e)
  have hmin : spec.minExponent ≤ spec.targetExponent (totalExponent m e) := le_max_right _ _
  set t := spec.targetExponent (totalExponent m e) with ht
  set em := ExtendedMantissa.ofMantissaAndAccuracy m accuracy >>> (t - e).toNat with hem
  have hnearest : |(em.roundedMantissa : ℚ) - x * 2 ^ (e - t)| ≤ 1 / 2 := by
    rw [two_zpow_sub_eq hplace, mul_one_div]
    exact (h.shiftRight _).rounded
  have hn : em.roundedMantissa ≤ 2 ^ spec.mantissaBits := by
    have hbound := (abs_le.mp hnearest).2
    have hlt : ((em.roundedMantissa : ℕ) : ℚ) < ((2 ^ spec.mantissaBits + 1 : ℕ) : ℚ) := by
      push_cast
      linarith
    exact Nat.lt_succ_iff.mp (by exact_mod_cast hlt)
  refine ⟨em.roundedMantissa, hn, hnearest, ?_⟩
  have hplaced : e + ((t - e).toNat : Int) = t := by omega
  have hshift : shiftToTargetExponent spec m e accuracy = (em, t) := by
    show (em, e + ((t - e).toNat : Int)) = _
    rw [hplaced]
  unfold roundWithAccuracy
  rw [hshift]
  exact shift_rounded s hn hmin rfl

theorem roundWithAccuracy_exact (s : Sign) {m : Nat} {e t : Int} {n : Nat}
    (ht : t = spec.targetExponent (totalExponent m e)) (hplace : e ≤ t)
    (hvalue : (m : ℚ) * 2 ^ e = n * 2 ^ t) :
    roundWithAccuracy spec s m e .exact = rounded spec s n t := by
  subst ht
  obtain ⟨k, -, hk, hround⟩ := exists_rounded s (stands_exact m) hplace
  rw [hround]
  have hscaled : (m : ℚ) * 2 ^ (e - spec.targetExponent (totalExponent m e)) = n := by
    rw [zpow_sub₀ (by norm_num), ← mul_div_assoc, hvalue, mul_div_assoc,
      div_self (by positivity), mul_one]
  rw [hscaled] at hk
  have hkn : k = n := by
    have hlt : |((k : Int) - n : ℚ)| < 1 := lt_of_le_of_lt (by exact_mod_cast hk) (by norm_num)
    have hint : |(k : Int) - n| < 1 := by exact_mod_cast hlt
    have := Int.abs_lt_one_iff.mp hint
    omega
  rw [hkn]

/-- A significand and an exponent as a format keeps them. -/
structure Fits (spec : Float.Model.Format) (m : Nat) (e : Int) : Prop where
  short : m < 2 ^ spec.mantissaBits
  low : spec.minExponent ≤ e
  normal : 2 ^ spec.mantissaBitsWithoutImplicit ≤ m ∨ e = spec.minExponent
  high : e + spec.exponentBias + spec.mantissaBitsWithoutImplicit + 1 < 2 ^ spec.exponentBits

theorem minExponent_eq (spec : Float.Model.Format) :
    spec.minExponent = 1 - (spec.exponentBias + spec.mantissaBitsWithoutImplicit : Int) := by
  have hbias : (spec.exponentBias : Int) = 2 ^ (spec.exponentBits - 1) - 1 := by
    unfold Float.Model.Format.exponentBias
    rw [Int.natCast_sub Nat.one_le_two_pow]
    push_cast
    rfl
  unfold Float.Model.Format.minExponent Float.Model.Format.mantissaBits
  rw [hbias]
  push_cast
  omega

theorem two_pow_mantissaBits (spec : Float.Model.Format) :
    2 ^ spec.mantissaBits = 2 * 2 ^ spec.mantissaBitsWithoutImplicit := by
  unfold Float.Model.Format.mantissaBits
  rw [Nat.pow_add, Nat.pow_one]

theorem fits_of_unpack (hspec : 2 ≤ spec.exponentBits) {b : BitVec spec.numBits} {s : Sign}
    {m : Nat} {e : Int} {hm : 0 < m} (h : unpack spec b = .finite s m e hm) : Fits spec m e := by
  have hmin := minExponent_eq spec
  have hlength := two_pow_mantissaBits spec
  have hmantissa := (unpackMantissa b).isLt
  have hfour : 2 ^ 2 ≤ 2 ^ spec.exponentBits := Nat.pow_le_pow_right (by decide) hspec
  have hcapacity : (4 : Int) ≤ 2 ^ spec.exponentBits := by exact_mod_cast hfour
  unfold UnpackedFloat.unpack at h
  dsimp only at h
  split at h
  · split at h <;> cases h
  · rename_i hfinite
    have hroom : ((unpackExponent b).toNat : Int) + 1 < 2 ^ spec.exponentBits := by
      exact_mod_cast ne_ones_iff.mp hfinite
    split at h
    · rename_i hexponent
      have hzero : (unpackExponent b).toNat = 0 := congrArg BitVec.toNat hexponent
      split at h
      · cases h
      · obtain ⟨-, rfl, rfl⟩ := UnpackedFloat.finite.inj h
        rw [hzero]
        exact ⟨by omega, by omega, .inr (by omega), by omega⟩
    · rename_i hexponent
      have hpos : (unpackExponent b).toNat ≠ 0 := ne_zeros_iff.mp hexponent
      obtain ⟨-, rfl, rfl⟩ := UnpackedFloat.finite.inj h
      rw [toNat_one_append]
      exact ⟨by omega, by omega, .inl (by omega), by omega⟩

theorem unpack_pack (hspec : 2 ≤ spec.exponentBits) {s : Sign} {m : Nat} {e : Int} {hm : 0 < m}
    (h : Fits spec m e) :
    unpack spec (pack spec (.finite s m e hm)) = .finite s m e hm := by
  obtain ⟨hshort, hlow, hnormal, hhigh⟩ := h
  have hmin := minExponent_eq spec
  have hlength := two_pow_mantissaBits spec
  obtain ⟨biased, hbiased⟩ : ∃ biased : Nat,
      e + spec.exponentBias + spec.mantissaBitsWithoutImplicit = biased :=
    ⟨(e + spec.exponentBias + spec.mantissaBitsWithoutImplicit).toNat, by omega⟩
  have hroom : biased + 1 < 2 ^ spec.exponentBits := by
    rw [hbiased] at hhigh
    exact_mod_cast hhigh
  have hnonzero : 2 ^ 2 ≤ 2 ^ spec.exponentBits := Nat.pow_le_pow_right (by decide) hspec
  rw [pack_finite s biased hm hbiased hroom]
  have hmodulus : (BitVec.ofNat spec.exponentBits biased).toNat = biased := by
    rw [BitVec.toNat_ofNat, Nat.mod_eq_of_lt (by omega)]
  have hones : BitVec.ofNat spec.exponentBits biased ≠ -1#_ := by
    rwa [ne_ones_iff, hmodulus]
  have hzeros : (0#_ : BitVec spec.exponentBits) ≠ -1#_ := by
    rw [ne_ones_iff, BitVec.toNat_ofNat, Nat.zero_mod]
    omega
  by_cases hlog : m.log2 = spec.mantissaBitsWithoutImplicit
  · have hleading : 2 ^ spec.mantissaBitsWithoutImplicit ≤ m := by
      rw [← hlog]
      exact Nat.log2_self_le hm.ne'
    have hpositive : BitVec.ofNat spec.exponentBits biased ≠ 0#_ := by
      rw [ne_zeros_iff, hmodulus]
      omega
    have hsignificand : (1#1 ++ BitVec.ofNat spec.mantissaBitsWithoutImplicit m).toNat = m := by
      rw [toNat_one_append, BitVec.toNat_ofNat]
      have hmod : m % 2 ^ spec.mantissaBitsWithoutImplicit =
          m - 2 ^ spec.mantissaBitsWithoutImplicit := by
        rw [Nat.mod_eq_sub_mod hleading, Nat.mod_eq_of_lt (by omega)]
      omega
    have hexponent : ((BitVec.ofNat spec.exponentBits biased).toNat : Int) -
        (spec.exponentBias + spec.mantissaBitsWithoutImplicit) = e := by
      rw [hmodulus]
      omega
    unfold UnpackedFloat.unpack
    simp only [if_pos hlog, unpackExponent_packComponents, unpackMantissa_packComponents,
      unpackSign_packComponents, Sign.ofBitVec_toBitVec, if_neg hones, if_neg hpositive,
      hsignificand, hexponent]
  · have hsmall : m < 2 ^ spec.mantissaBitsWithoutImplicit := by
      by_contra hlarge
      apply hlog
      rw [Nat.log2_eq_iff hm.ne', Nat.pow_succ]
      omega
    have hleast : e = spec.minExponent := by
      rcases hnormal with hnormal | hleast
      · omega
      · exact hleast
    have hsignificand : (BitVec.ofNat spec.mantissaBitsWithoutImplicit m).toNat = m := by
      rw [BitVec.toNat_ofNat, Nat.mod_eq_of_lt hsmall]
    have hpositive : BitVec.ofNat spec.mantissaBitsWithoutImplicit m ≠ 0#_ := by
      rwa [ne_zeros_iff, hsignificand, ← Nat.pos_iff_ne_zero]
    have hexponent : ((0#_ : BitVec spec.exponentBits).toNat : Int) -
        (spec.exponentBias + spec.mantissaBitsWithoutImplicit) + 1 = e := by
      rw [BitVec.toNat_ofNat, Nat.zero_mod]
      omega
    unfold UnpackedFloat.unpack
    simp only [if_neg hlog, unpackExponent_packComponents, unpackMantissa_packComponents,
      unpackSign_packComponents, Sign.ofBitVec_toBitVec, if_neg hzeros, if_true,
      dif_neg hpositive, hsignificand, hexponent]

theorem Fits.targetExponent {m : Nat} {e : Int} (h : Fits spec m e) (hm : 0 < m) :
    spec.targetExponent (totalExponent m e) = e := by
  have hlog : m.log2 < spec.mantissaBits := (Nat.log2_lt hm.ne').mpr h.short
  have hlow := h.low
  have hbits : spec.mantissaBits = 1 + spec.mantissaBitsWithoutImplicit := rfl
  unfold Float.Model.Format.targetExponent totalExponent
  rcases h.normal with hnormal | hleast
  · have hleading : spec.mantissaBitsWithoutImplicit ≤ m.log2 := (Nat.le_log2 hm.ne').mpr hnormal
    omega
  · omega

end RigidWorlds.Binary
