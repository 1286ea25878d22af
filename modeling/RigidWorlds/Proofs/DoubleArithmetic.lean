import RigidWorlds.Proofs.FormatRounding
import RigidWorlds.Proofs.MachineRounding

/-!
Products and quotients of positive doubles, and integers as doubles.  In the middle of the range
each of them misses the exact number by no more than half a last place.
-/

namespace RigidWorlds.Binary

open Float.Model Float.Model.UnpackedFloat

def doubleParts (x : Float) : UnpackedFloat := x.toModel.unpack

def signOf (negative : Bool) : Sign := if negative then .negative else .positive

theorem toNat_unpackMantissa (b : BitVec 64) :
    (@unpackMantissa .binary64 b).toNat = b.toNat % 2 ^ 52 := by
  simp [unpackMantissa, BitVec.extractLsb_toNat]

theorem ofBitVec_unpackSign (b : BitVec 64) :
    Sign.ofBitVec (@unpackSign .binary64 b) = signOf (2 ^ 63 ≤ b.toNat) := by
  have hlt := b.isLt
  have hsign : (@unpackSign .binary64 b).toNat = b.toNat / 2 ^ 63 % 2 := by
    simp [unpackSign, BitVec.extractLsb_toNat, Nat.shiftRight_eq_div_pow]
  unfold signOf Sign.ofBitVec
  by_cases hnegative : 2 ^ 63 ≤ b.toNat
  · have hone : @unpackSign .binary64 b ≠ 0#1 := by
      intro hzero
      rw [hzero] at hsign
      change 0 = _ at hsign
      omega
    rw [if_neg hone, if_pos (by simpa using hnegative)]
  · have hzero : @unpackSign .binary64 b = 0#1 := by
      apply BitVec.eq_of_toNat_eq
      rw [hsign]
      change _ = 0
      omega
    rw [if_pos hzero, if_neg (by simpa using hnegative)]

theorem finite_congr {s t : Sign} {m n : Nat} {d e : Int} {hm : 0 < m} {hn : 0 < n} (hs : s = t)
    (hmn : m = n) (hde : d = e) : UnpackedFloat.finite s m d hm = .finite t n e hn := by
  subst hs hmn hde
  rfl

theorem doubleParts_eq {x : Float} (hfinite : doubleBits x < double.infinity) :
    doubleParts x =
      if hs : 0 < double.significand (doubleBits x) then
        .finite (signOf (doubleNegative x)) (double.significand (doubleBits x))
          (double.place (doubleBits x)) hs
      else .zero (signOf (doubleNegative x)) := by
  have hexponent := unpackExponent_double_iff.mpr hfinite
  have hbits : doubleBits x = x.toBits.toBitVec.toNat % 2 ^ 63 := rfl
  have hsign : Sign.ofBitVec (@unpackSign .binary64 x.toBits.toBitVec) =
      signOf (doubleNegative x) := ofBitVec_unpackSign _
  have hvalue : (@unpackExponent .binary64 x.toBits.toBitVec).toNat = doubleBits x / 2 ^ 52 := by
    have hexponent : (@unpackExponent .binary64 x.toBits.toBitVec).toNat =
        x.toBits.toBitVec.toNat / 2 ^ 52 % 2 ^ 11 := toNat_unpackExponent _
    omega
  have hmantissa : (@unpackMantissa .binary64 x.toBits.toBitVec).toNat =
      doubleBits x % 2 ^ 52 := by
    rw [toNat_unpackMantissa]
    omega
  have hsignificand : double.significand (doubleBits x) =
      if doubleBits x < 2 ^ 52 then doubleBits x else 2 ^ 52 + doubleBits x % 2 ^ 52 :=
    Format.significand_eq ..
  have hplace : double.place (doubleBits x) = -1074 + ((doubleBits x / 2 ^ 52 - 1 : Nat) : Int) :=
    Format.place_eq ..
  show UnpackedFloat.unpack .binary64 x.toBits.toBitVec = _
  unfold UnpackedFloat.unpack
  rw [if_neg hexponent]
  dsimp only
  split
  · rename_i hzero
    have hsmall : doubleBits x < 2 ^ 52 := by
      rw [hzero] at hvalue
      change 0 = _ at hvalue
      omega
    rw [if_pos hsmall] at hsignificand
    split
    · rename_i hempty
      rw [hempty] at hmantissa
      change 0 = _ at hmantissa
      rw [dif_neg (by omega), hsign]
    · rename_i hsome
      have hpos : 0 < double.significand (doubleBits x) := by
        have hnonzero := ne_zeros_iff.mp hsome
        omega
      rw [dif_pos hpos]
      refine finite_congr hsign ?_ ?_
      · rw [hmantissa, hsignificand]
        omega
      · rw [hplace, hvalue]
        change ((doubleBits x / 2 ^ 52 : Nat) : Int) - (1023 + 52) + 1 = _
        omega
  · rename_i hzero
    have hlarge : ¬ doubleBits x < 2 ^ 52 := by
      have hnonzero := ne_zeros_iff.mp hzero
      omega
    rw [if_neg hlarge] at hsignificand
    rw [dif_pos (by omega)]
    refine finite_congr hsign ?_ ?_
    · rw [toNat_one_append, hmantissa, hsignificand]
    · rw [hplace, hvalue]
      change ((doubleBits x / 2 ^ 52 : Nat) : Int) - (1023 + 52) = _
      omega

/-- The double is positive, has its leading one and stands for the number. -/
def Holds (x : Float) (v : ℚ) : Prop :=
  ∃ m e hm, doubleParts x = .finite .positive m e hm ∧ Fits .binary64 m e ∧ 2 ^ 52 ≤ m ∧
    v = m * 2 ^ e

/-- The error of one rounding, relative to the exact number. -/
def roundoff : ℚ := 1 / (2 * 2 ^ 52)

theorem Stands.le {em : ExtendedMantissa} {x : ℚ} (h : Stands em x) : (em.mantissa : ℚ) ≤ x := by
  obtain ⟨m, r, s⟩ := em
  cases r <;> cases s <;> simp [Stands] at h ⊢ <;> linarith

theorem leading_of_target {m : Nat} {e : Int} {accuracy : Accuracy} {x : ℚ}
    (h : Stands (.ofMantissaAndAccuracy m accuracy) x)
    (hplace : e ≤ Float.Model.Format.binary64.targetExponent (totalExponent m e))
    (hlow : (2 : ℚ) ^ (-1022 : Int) ≤ x * 2 ^ e) :
    (2 : ℚ) ^ 52 * 2 ^ Float.Model.Format.binary64.targetExponent (totalExponent m e) ≤
      x * 2 ^ e := by
  have hle : (m : ℚ) ≤ x := by
    have hle := h.le
    rwa [ofMantissaAndAccuracy_mantissa] at hle
  have htarget : Float.Model.Format.binary64.targetExponent (totalExponent m e) =
      max (totalExponent m e - 53) (-1074) := rfl
  have htotal : totalExponent m e = m.log2 + 1 + e := rfl
  rcases le_total (-1074) (totalExponent m e - 53) with hlarge | hsmall
  · rw [htarget, max_eq_left hlarge] at hplace ⊢
    have hm : 0 < m := by
      rcases Nat.eq_zero_or_pos m with rfl | hm
      · rw [htotal, Nat.log2_zero] at hplace
        omega
      · exact hm
    have hexponent : (2 : ℚ) ^ 52 * 2 ^ (totalExponent m e - 53) = 2 ^ (m.log2 : Int) * 2 ^ e := by
      rw [← zpow_natCast, ← zpow_add₀ (by norm_num), ← zpow_add₀ (by norm_num), htotal]
      congr 1
      push_cast
      ring
    rw [hexponent]
    have hleading := (log2_bounds hm).1.trans hle
    gcongr
  · rw [htarget, max_eq_right hsmall]
    exact (Format.two_zpow_add (-1074) 52).symm.le.trans hlow

theorem exists_rounded_near {m : Nat} {e : Int} {accuracy : Accuracy} {x : ℚ}
    (h : Stands (.ofMantissaAndAccuracy m accuracy) x)
    (hplace : e ≤ Float.Model.Format.binary64.targetExponent (totalExponent m e))
    (hlow : (2 : ℚ) ^ (-1022 : Int) ≤ x * 2 ^ e) (hhigh : x * 2 ^ e < 2 ^ (1023 : Int)) :
    ∃ m' e' hm', roundWithAccuracy .binary64 .positive m e accuracy =
        .finite .positive m' e' hm' ∧ Fits .binary64 m' e' ∧ 2 ^ 52 ≤ m' ∧
          Near roundoff (m' * 2 ^ e') (x * 2 ^ e) := by
  have hlead := leading_of_target h hplace hlow
  obtain ⟨n, hn, hnearest, hround⟩ := exists_rounded .positive h hplace
  have hmin : -1074 ≤ Float.Model.Format.binary64.targetExponent (totalExponent m e) :=
    le_max_right _ _
  generalize Float.Model.Format.binary64.targetExponent (totalExponent m e) = t at *
  have hunit : (0 : ℚ) < 2 ^ t := by positivity
  have hscaled : x * 2 ^ (e - t) = x * 2 ^ e / 2 ^ t := by
    rw [zpow_sub₀ (by norm_num), mul_div_assoc]
  rw [hscaled] at hnearest
  have hnear : Near roundoff (n * 2 ^ t) (x * 2 ^ e) :=
    near_of_steps hunit (by positivity) hnearest hlead
  have hlong : 2 ^ 52 ≤ n := by
    have hbound := (le_div_iff₀ hunit).mpr hlead
    have hlt : ((2 ^ 52 : Nat) : ℚ) < ((n + 1 : Nat) : ℚ) := by
      push_cast
      linarith [(abs_le.mp hnearest).1]
    exact Nat.lt_succ_iff.mp (by exact_mod_cast hlt)
  have hcases : n < 2 ^ 53 ∨ n = 2 ^ 53 := Nat.lt_or_eq_of_le hn
  have hexponent : t + 52 < 1023 := by
    have hpower : (2 : ℚ) ^ (t + (52 : Nat)) < 2 ^ (1023 : Int) := by
      rw [Format.two_zpow_add]
      exact hlead.trans_lt hhigh
    have := (zpow_lt_zpow_iff_right₀ (by norm_num : (1 : ℚ) < 2)).mp hpower
    exact_mod_cast this
  rw [hround]
  unfold rounded
  have hzero : n ≠ 0 := by omega
  have hbits : Float.Model.Format.binary64.mantissaBits = 53 := rfl
  rw [dif_neg hzero, hbits]
  rcases hcases with hshort | rfl
  · rw [if_pos hshort]
    exact ⟨n, t, _, rfl, ⟨hshort, hmin, .inl hlong, by change t + 1023 + 52 + 1 < 2048; omega⟩,
      hlong, hnear⟩
  · rw [if_neg (Nat.lt_irrefl _)]
    refine ⟨2 ^ 52, t + 1, _, rfl,
      ⟨by decide, by change -1074 ≤ _; omega, .inl (Nat.le_refl _), ?_⟩, Nat.le_refl _, ?_⟩
    · change t + 1 + 1023 + 52 + 1 < 2048
      omega
    · have hvalue : ((2 ^ 52 : Nat) : ℚ) * 2 ^ (t + 1) = ((2 ^ 53 : Nat) : ℚ) * 2 ^ t := by
        rw [zpow_add₀ (by norm_num)]
        push_cast
        ring
      rw [hvalue]
      exact hnear

theorem holds_of_model {x : Float} {m : Nat} {e : Int} {hm : 0 < m} (hfits : Fits .binary64 m e)
    (hlong : 2 ^ 52 ≤ m) (h : x.toModel = Float.Model.pack (.finite .positive m e hm)) :
    Holds x (m * 2 ^ e) := by
  refine ⟨m, e, hm, ?_, hfits, hlong, rfl⟩
  show x.toModel.unpack = _
  rw [h]
  exact unpack_pack (by decide) hfits

theorem le_target_of_leading {m : Nat} {e : Int} (hlead : 2 ^ 52 ≤ m) :
    e ≤ Float.Model.Format.binary64.targetExponent (totalExponent m e) := by
  have hlog : 52 ≤ m.log2 := (Nat.le_log2 (by omega)).mpr hlead
  have htarget : Float.Model.Format.binary64.targetExponent (totalExponent m e) =
      max (m.log2 + 1 + e - 53) (-1074) := rfl
  omega

theorem Holds.mul {x y : Float} {v w : ℚ} (hx : Holds x v) (hy : Holds y w)
    (hlow : (2 : ℚ) ^ (-1022 : Int) ≤ v * w) (hhigh : v * w < 2 ^ (1023 : Int)) :
    ∃ u, Holds (x * y) u ∧ Near roundoff u (v * w) := by
  obtain ⟨m, d, hm, hparts, -, hlong, rfl⟩ := hx
  obtain ⟨n, e, hn, hparts', -, hlong', rfl⟩ := hy
  have hvalue : (m : ℚ) * 2 ^ d * (n * 2 ^ e) = ((m * n : Nat) : ℚ) * 2 ^ (d + e) := by
    rw [zpow_add₀ (by norm_num)]
    push_cast
    ring
  rw [hvalue] at hlow hhigh ⊢
  have hplace := le_target_of_leading (e := d + e) (hlong.trans (Nat.le_mul_of_pos_right m hn))
  obtain ⟨k, t, hk, hround, hfits, hlead, hnear⟩ :=
    exists_rounded_near (stands_exact (m * n)) hplace hlow hhigh
  have hmodel : (x * y).toModel =
      Float.Model.pack (UnpackedFloat.mul .binary64 (doubleParts x) (doubleParts y)) := rfl
  rw [hparts, hparts'] at hmodel
  have hmul : UnpackedFloat.mul .binary64 (.finite .positive m d hm) (.finite .positive n e hn) =
      .finite .positive k t hk := hround
  rw [hmul] at hmodel
  exact ⟨_, holds_of_model hfits hlead hmodel, hnear⟩

theorem log2_div_ge {m n : Nat} (hm : 0 < m) (hn : 0 < n) :
    (m.log2 : Int) - n.log2 - 1 ≤ (m / n).log2 := by
  rcases Nat.lt_or_ge m.log2 (n.log2 + 1) with hless | hmore
  · omega
  · have hle : 2 ^ (m.log2 - n.log2 - 1) ≤ m / n := by
      rw [Nat.le_div_iff_mul_le hn]
      calc 2 ^ (m.log2 - n.log2 - 1) * n ≤ 2 ^ (m.log2 - n.log2 - 1) * 2 ^ (n.log2 + 1) :=
            Nat.mul_le_mul_left _ Nat.lt_log2_self.le
        _ = 2 ^ m.log2 := by
            rw [← Nat.pow_add]
            congr 1
            omega
        _ ≤ m := Nat.log2_self_le hm.ne'
    have hne : m / n ≠ 0 := (Nat.lt_of_lt_of_le (Nat.two_pow_pos _) hle).ne'
    have hlog := (Nat.le_log2 hne).mpr hle
    omega

theorem Holds.div {x y : Float} {v w : ℚ} (hx : Holds x v) (hy : Holds y w)
    (hlow : (2 : ℚ) ^ (-1022 : Int) ≤ v / w) (hhigh : v / w < 2 ^ (1023 : Int)) :
    ∃ u, Holds (x / y) u ∧ Near roundoff u (v / w) := by
  obtain ⟨m, d, hm, hparts, -, -, rfl⟩ := hx
  obtain ⟨n, e, hn, hparts', -, -, rfl⟩ := hy
  have hn' : (0 : ℚ) < n := by exact_mod_cast hn
  obtain ⟨target, htarget⟩ : ∃ target, target = min (d - e)
      (Float.Model.Format.binary64.targetExponent (totalExponent m d - totalExponent n e)) :=
    ⟨_, rfl⟩
  obtain ⟨shift, hshift⟩ : ∃ shift : Nat, (shift : Int) = d - e - target :=
    ⟨(d - e - target).toNat, by omega⟩
  have hcore : divCore .binary64 m d n e =
      (m <<< shift / n, target, accuracyOfFraction (m <<< shift % n) n) := by
    have hamount : (d - e - target).toNat = shift := by omega
    unfold divCore
    simp only [← htarget, hamount]
  have hfraction := stands_fraction (m <<< shift / n) (Nat.mod_lt (m <<< shift) hn)
  have hquotient : ((m <<< shift / n : Nat) : ℚ) + ((m <<< shift % n : Nat) : ℚ) / n =
      ((m <<< shift : Nat) : ℚ) / n := by
    have hdivision : (n : ℚ) * ((m <<< shift / n : Nat) : ℚ) + ((m <<< shift % n : Nat) : ℚ) =
        ((m <<< shift : Nat) : ℚ) := by
      exact_mod_cast Nat.div_add_mod (m <<< shift) n
    rw [← hdivision]
    field_simp
  have hvalue : (m : ℚ) * 2 ^ d / (n * 2 ^ e) = ((m <<< shift : Nat) : ℚ) / n * 2 ^ target := by
    have hexponent : d = (shift : Int) + target + e := by omega
    rw [shiftLeft_cast, hexponent, zpow_add₀ (by norm_num), zpow_add₀ (by norm_num), zpow_natCast]
    field_simp
  have hplace : target ≤ Float.Model.Format.binary64.targetExponent
      (totalExponent (m <<< shift / n) target) := by
    have hpos : 0 < m <<< shift := by
      rw [Nat.shiftLeft_eq]
      exact Nat.mul_pos hm (Nat.two_pow_pos _)
    have hlog := log2_div_ge hpos hn
    rw [log2_shiftLeft hm.ne'] at hlog
    have hexponents : ∀ t, Float.Model.Format.binary64.targetExponent t = max (t - 53) (-1074) :=
      fun _ => rfl
    have htotal : ∀ k t, totalExponent k t = k.log2 + 1 + t := fun _ _ => rfl
    rw [hexponents, htotal, htotal] at htarget
    rw [hexponents, htotal]
    push_cast at hlog
    omega
  rw [hquotient] at hfraction
  rw [hvalue] at hlow hhigh ⊢
  obtain ⟨k, t, hk, hround, hfits, hlead, hnear⟩ :=
    exists_rounded_near hfraction hplace hlow hhigh
  have hmodel : (x / y).toModel =
      Float.Model.pack (UnpackedFloat.div .binary64 (doubleParts x) (doubleParts y)) := rfl
  rw [hparts, hparts'] at hmodel
  have hdiv : UnpackedFloat.div .binary64 (.finite .positive m d hm) (.finite .positive n e hn) =
      .finite .positive k t hk := by
    show (match divCore .binary64 m d n e with
      | (m, e, accuracy) =>
          roundWithAccuracy .binary64 (Sign.positive / Sign.positive) m e accuracy) = _
    rw [hcore]
    exact hround
  rw [hdiv] at hmodel
  exact ⟨_, holds_of_model hfits hlead hmodel, hnear⟩

theorem holds_of_bits {x : Float} (hbits : x.toBits.toNat < double.infinity)
    (hlarge : (1 : ℚ) / 2 ≤ double.value x.toBits.toNat) :
    Holds x (double.value x.toBits.toNat) := by
  have hmagnitude : doubleBits x = x.toBits.toNat :=
    Nat.mod_eq_of_lt (hbits.trans (by decide))
  have hpositive : doubleNegative x = false := by
    have hsign : x.toBits.toNat < double.signBit := hbits.trans (by decide)
    simpa [doubleNegative] using hsign
  have hs : 0 < double.significand (doubleBits x) := by
    rw [hmagnitude]
    apply Format.significand_pos
    by_contra hzero
    rw [Nat.eq_zero_of_not_pos hzero] at hlarge
    have hvalue : double.value 0 = 0 := by
      rw [Format.value, Format.significand_eq]
      norm_num
    linarith
  have hparts := doubleParts_eq (x := x) (by rwa [hmagnitude])
  rw [dif_pos hs, hpositive] at hparts
  simp only [hmagnitude] at hparts
  refine ⟨_, _, _, hparts, fits_of_unpack (by decide) hparts, ?_, rfl⟩
  rcases double.place_eq_or_le x.toBits.toNat with hleast | hlead
  · -- In the least place all numbers are far below one half.
    exfalso
    have hshort : (double.significand x.toBits.toNat : ℚ) ≤ 2 ^ 53 := by
      exact_mod_cast (double.significand_lt x.toBits.toNat).le
    have hsmall : (2 : ℚ) ^ 53 * 2 ^ (-1074 : Int) < 1 / 2 := by
      rw [← Format.two_zpow_add]
      exact (zpow_lt_zpow_right₀ (by norm_num) (show (-1074 : Int) + (53 : Nat) < -1 by
        norm_num)).trans_eq (by norm_num)
    have hbound := mul_le_mul_of_nonneg_right hshort
      (show (0 : ℚ) ≤ 2 ^ (-1074 : Int) by positivity)
    rw [Format.value, hleast] at hlarge
    change 1 / 2 ≤ _ * 2 ^ (-1074 : Int) at hlarge
    linarith
  · exact hlead

theorem holds_doubleOfInt {n : Nat} (hn : 0 < n) (hhigh : (n : ℚ) < 2 ^ (1023 : Int)) :
    ∃ u, Holds (doubleOfInt n) u ∧ Near roundoff u n := by
  have hone : (1 : ℚ) ≤ n := by exact_mod_cast hn
  have hlow : (2 : ℚ) ^ double.fractionBits * 2 ^ double.leastPlace ≤ n / (1 : Nat) := by
    have hsmall : (2 : ℚ) ^ 52 * 2 ^ (-1074 : Int) ≤ 1 := by
      rw [← Format.two_zpow_add]
      exact zpow_le_one_of_nonpos₀ (by norm_num) (by norm_num)
    rw [Nat.cast_one, div_one]
    exact hsmall.trans hone
  have hhigh' : (n : ℚ) / (1 : Nat) <
      2 ^ double.fractionBits * 2 ^ (double.leastPlace + (2045 : Nat)) := by
    rw [Nat.cast_one, div_one]
    exact hhigh.trans_eq (Format.two_zpow_add 971 52)
  obtain ⟨hfinite, hnear⟩ := Format.near_round (by decide) hlow hhigh' (by decide)
  rw [Nat.cast_one, div_one] at hnear
  have hbits : (doubleOfInt n).toBits.toNat = double.round n 1 := by
    have hinteger : double.ofInt n = double.round n 1 := by
      have hsign : ¬ (n : Int) < 0 := by omega
      rw [Format.ofInt, if_neg hsign, Nat.zero_add, Int.natAbs_natCast]
    have hinfinity : double.infinity = 9218868437227405312 := by decide
    have hsignBit : double.signBit = 9223372036854775808 := by decide
    have hword : (UInt64.ofNat (double.round n 1)).toNat = double.round n 1 :=
      UInt64.toNat_ofNat_of_lt' (show double.round n 1 < 2 ^ 64 by omega)
    rw [doubleOfInt, hinteger, toBits_ofBits_double, hword]
    rw [hword, Nat.mod_eq_of_lt (by omega)]
    exact hfinite
  have hlarge : (1 : ℚ) / 2 ≤ double.value (double.round n 1) := by
    have hge := hnear.ge
    have hfactor : (1 : ℚ) / 2 ≤ 1 - 1 / (2 * 2 ^ double.fractionBits) := by
      change (1 : ℚ) / 2 ≤ 1 - 1 / (2 * 2 ^ 52)
      norm_num
    have hproduct := mul_le_mul hfactor hone (by norm_num) (by linarith)
    linarith
  rw [← hbits] at hfinite hlarge hnear
  exact ⟨_, holds_of_bits hfinite hlarge, hnear⟩

theorem bits_of_doubleParts {z : Float} {s : Sign} {m : Nat} {e : Int} {hm : 0 < m}
    (h : doubleParts z = .finite s m e hm) :
    doubleBits z < double.infinity ∧ 0 < double.significand (doubleBits z) ∧
      double.value (doubleBits z) = m * 2 ^ e ∧ signOf (doubleNegative z) = s := by
  have hfinite : z.isFinite = true := by
    show (doubleParts z).isFinite = true
    rw [h]
    rfl
  have hbits := isFinite_double_iff.mp hfinite
  have hparts := doubleParts_eq hbits
  rw [h] at hparts
  split at hparts
  · rename_i hs
    obtain ⟨rfl, rfl, rfl⟩ := UnpackedFloat.finite.inj hparts
    exact ⟨hbits, hs, rfl, rfl⟩
  · cases hparts

theorem signOf_injective {a b : Bool} (h : signOf a = signOf b) : a = b := by
  revert h
  cases a <;> cases b <;> simp [signOf]

theorem narrow_of_near {x : Float32} (hx : x.isFinite = true) {z : Float} {m : Nat} {e : Int}
    {hm : 0 < m} (hz : doubleParts z = .finite (signOf (singleNegative x)) m e hm)
    (hnear : Near (1 / 2 ^ 27) (m * 2 ^ e) (single.value (singleBits x))) : narrow z = x := by
  obtain ⟨hfinite, hs, hvalue, hsign⟩ := bits_of_doubleParts hz
  have hsingle : singleBits x < single.infinity := isFinite_single_iff.mp hx
  have hconvert : double.convert single (doubleBits z) = singleBits x := by
    refine Format.convert_of_near hfinite hs hsingle ?_
    have hshort : (single.significand (singleBits x) : ℚ) < 2 ^ 24 := by
      exact_mod_cast single.significand_lt (singleBits x)
    rw [hvalue]
    refine lt_of_le_of_lt hnear ?_
    rw [Format.value, ← mul_assoc]
    gcongr
    linarith
  have hnegative := signOf_injective hsign
  have hpattern : double.convertSigned single z.toBits.toNat = x.toBits.toNat := by
    have hdouble : double.signBit = 2 ^ 63 := rfl
    have hhalf : single.signBit = 2 ^ 31 := rfl
    have hz := z.toBits.toNat_lt
    have hx := x.toBits.toNat_lt
    have hiff : 2 ^ 63 ≤ z.toBits.toNat ↔ 2 ^ 31 ≤ x.toBits.toNat := by
      simpa [doubleNegative, singleNegative, hdouble, hhalf] using hnegative
    unfold Format.convertSigned
    change z.toBits.toNat / 2 ^ 63 * 2 ^ 31 + double.convert single (doubleBits z) = _
    rw [hconvert]
    change z.toBits.toNat / 2 ^ 63 * 2 ^ 31 + x.toBits.toNat % 2 ^ 31 = _
    omega
  rw [narrow, hpattern, UInt32.ofNat_toNat]
  exact Float32.toBits_inj.mp (toBits_ofBits_single hsingle)

theorem doubleParts_neg {x : Float} {m : Nat} {e : Int} {hm : 0 < m}
    (h : doubleParts x = .finite .positive m e hm) (hfits : Fits .binary64 m e) :
    doubleParts (-x) = .finite .negative m e hm := by
  have hmodel : (-x).toModel = Float.Model.pack (doubleParts x).neg := rfl
  rw [h] at hmodel
  show (-x).toModel.unpack = _
  rw [hmodel]
  exact unpack_pack (by decide) hfits

theorem Holds.isInf {x : Float} {v : ℚ} (h : Holds x v) : x.isInf = false := by
  obtain ⟨m, e, hm, hparts, -⟩ := h
  show (doubleParts x).isInf = false
  rw [hparts]
  rfl

theorem Holds.narrow_eq {y : Float} {v : ℚ} (h : Holds y v) {x : Float32}
    (hx : x.isFinite = true)
    (hnear : Near (1 / 2 ^ 27) v (single.value (singleBits x))) :
    narrow (if singleNegative x then -y else y) = x := by
  obtain ⟨m, e, hm, hparts, hfits, -, rfl⟩ := h
  have hsigned : doubleParts (if singleNegative x then -y else y) =
      .finite (signOf (singleNegative x)) m e hm := by
    cases singleNegative x with
    | false => exact hparts
    | true => exact doubleParts_neg hparts hfits
  exact narrow_of_near hx hsigned hnear

theorem doubleBits_widen {x : Float32} (hx : x.isFinite = true) :
    doubleBits (widen x) = single.convert double (singleBits x) := by
  have hlt : single.convert double (singleBits x) < double.signBit :=
    Nat.lt_trans (Format.convert_single (isFinite_single_iff.mp hx)).1 (by decide)
  rw [doubleBits, toNat_toBits_widen hx, Format.convertSigned, Nat.mul_comm, Nat.mul_add_mod]
  exact Nat.mod_eq_of_lt hlt

theorem doubleNegative_widen {x : Float32} (hx : x.isFinite = true) :
    doubleNegative (widen x) = singleNegative x := by
  have hsign := (Format.convertSigned_single (isFinite_single_iff.mp hx)).2.1
  have hsingle : single.signBit = 2 ^ 31 := rfl
  have hdouble : double.signBit = 2 ^ 63 := rfl
  have hpattern : x.toBits.toNat < 2 ^ 32 := x.toBits.toNat_lt
  rw [hsingle, hdouble] at hsign
  rw [doubleNegative, singleNegative, toNat_toBits_widen hx, hsingle, hdouble, decide_eq_decide]
  omega

end RigidWorlds.Binary
