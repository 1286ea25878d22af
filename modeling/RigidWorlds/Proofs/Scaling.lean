import RigidWorlds.Json.Numeral
import RigidWorlds.Proofs.DoubleArithmetic

/-!
A significand scaled by a power of ten.  Reading a numeral rounds three times, the significand, the
power and their product or quotient, so what is read stays near the number that is written.
-/

namespace RigidWorlds.Json

open Binary

theorem roundoff_pos : 0 < roundoff := by
  unfold roundoff
  positivity

theorem roundoff_le : roundoff ≤ 1 / 8 := by
  unfold roundoff
  norm_num

theorem roundoff_mul_le : roundoff * roundoff ≤ roundoff / 8 := by
  have h := mul_le_mul_of_nonneg_left roundoff_le roundoff_pos.le
  linarith

theorem near_range {v q b : ℚ} (h : Near roundoff v q) (hlow : 1 ≤ q) (hhigh : q ≤ b) :
    1 / 2 ≤ v ∧ v ≤ 2 * b := by
  have hle := h.le
  have hge := h.ge
  have hbound := mul_le_mul_of_nonneg_right roundoff_le (zero_le_one.trans hlow)
  constructor <;> linarith

/-- The powers of ten and the significands stay below this. -/
def scalingBound : ℚ := 16 ^ 100

theorem scalingBound_eq : scalingBound = 2 ^ 400 := by
  rw [scalingBound, show (16 : ℚ) = 2 ^ 4 by norm_num, ← pow_mul]

theorem one_le_scalingBound : 1 ≤ scalingBound := one_le_pow₀ (by norm_num)

theorem scalingBound_le_mul : scalingBound ≤ scalingBound * scalingBound :=
  le_mul_of_one_le_left (zero_le_one.trans one_le_scalingBound) one_le_scalingBound

theorem lt_of_le_scalingBound {v : ℚ} (h : v ≤ 4 * (scalingBound * scalingBound)) :
    v < 2 ^ (1023 : Int) := by
  have heq : 4 * (scalingBound * scalingBound) = 2 ^ ((802 : Nat) : Int) := by
    rw [zpow_natCast, scalingBound_eq, ← pow_add, show (4 : ℚ) = 2 ^ 2 by norm_num, ← pow_add]
  refine h.trans_lt ?_
  rw [heq]
  exact zpow_lt_zpow_right₀ (by norm_num) (by norm_num)

theorem le_of_scalingBound_le {v : ℚ} (h : 1 ≤ v * (4 * scalingBound)) :
    (2 : ℚ) ^ (-1022 : Int) ≤ v := by
  have heq : (2 : ℚ) ^ (-1022 : Int) * (4 * scalingBound) =
      2 ^ (-1022 + ((402 : Nat) : Int)) := by
    rw [Format.two_zpow_add, scalingBound_eq, show (4 : ℚ) = 2 ^ 2 by norm_num, ← pow_add, mul_comm]
  have hone : (2 : ℚ) ^ (-1022 : Int) * (4 * scalingBound) ≤ 1 := by
    rw [heq]
    exact zpow_le_one_of_nonpos₀ (by norm_num) (by norm_num)
  have hpos := one_le_scalingBound
  exact le_of_mul_le_mul_right (hone.trans h) (by linarith)

theorem powerOfTen_le {n : Nat} (hn : n ≤ 100) : ((10 ^ n : Nat) : ℚ) ≤ scalingBound := by
  rw [Nat.cast_pow]
  calc ((10 : Nat) : ℚ) ^ n ≤ 16 ^ n := pow_le_pow_left₀ (by norm_num) (by norm_num) n
    _ ≤ 16 ^ 100 := pow_le_pow_right₀ (by norm_num) hn

theorem significand_le {s : Nat} (hs : s ≤ significandLimit) : (s : ℚ) ≤ scalingBound := by
  have hcast : (s : ℚ) ≤ (significandLimit : Nat) := by exact_mod_cast hs
  calc (s : ℚ) ≤ (significandLimit : Nat) := hcast
    _ ≤ 16 ^ 16 := by norm_num [significandLimit]
    _ ≤ 16 ^ 100 := pow_le_pow_right₀ (by norm_num) (by norm_num)

theorem exists_double {n : Nat} (hn : 0 < n) (hbound : (n : ℚ) ≤ scalingBound) :
    ∃ u, Holds (doubleOfInt n) u ∧ Near roundoff u n ∧ 1 / 2 ≤ u ∧ u ≤ 2 * scalingBound := by
  have hone : (1 : ℚ) ≤ n := by exact_mod_cast hn
  have hhigh : (n : ℚ) < 2 ^ (1023 : Int) := by
    have hsquare := scalingBound_le_mul
    exact lt_of_le_scalingBound (by linarith)
  obtain ⟨u, hu, hnear⟩ := holds_doubleOfInt hn hhigh
  obtain ⟨hlow, hle⟩ := near_range hnear hone hbound
  exact ⟨u, hu, hnear, hlow, hle⟩

/-- The error of three roundings. -/
def scalingError : ℚ := 8 * roundoff

theorem exists_product {s n : Nat} (hs : 0 < s) (hlimit : s ≤ significandLimit) (hn : n ≤ 100) :
    ∃ v, Holds (doubleOfInt s * powerOfTen n) v ∧ Near scalingError v (s * 10 ^ n) := by
  have hpower : 0 < 10 ^ n := Nat.pow_pos (by decide)
  obtain ⟨u, hu, hunear, hulow, huhigh⟩ := exists_double hs (significand_le hlimit)
  obtain ⟨w, hw, hwnear, hwlow, hwhigh⟩ := exists_double hpower (powerOfTen_le hn)
  have hr := roundoff_pos
  have hrr := roundoff_mul_le
  have hupos : 0 < u := by linarith
  have hwpos : 0 < w := by linarith
  have hlow : (2 : ℚ) ^ (-1022 : Int) ≤ u * w := by
    have hprod := mul_le_mul hulow hwlow (by norm_num) (by linarith)
    have hscale := mul_le_mul_of_nonneg_left one_le_scalingBound (mul_nonneg hupos.le hwpos.le)
    exact le_of_scalingBound_le (by linarith)
  have hhigh : u * w < 2 ^ (1023 : Int) := by
    have hprod := mul_le_mul huhigh hwhigh hwpos.le (by linarith)
    exact lt_of_le_scalingBound (by linarith)
  obtain ⟨v, hv, hround⟩ := hu.mul hw hlow hhigh
  have hexact := hunear.mul hwnear hr.le (Nat.cast_nonneg s) (Nat.cast_nonneg _)
  have htotal := hexact.trans hround hr.le
  refine ⟨v, hv, ?_⟩
  have hcast : ((10 ^ n : Nat) : ℚ) = 10 ^ n := by push_cast; rfl
  rw [hcast] at htotal
  refine htotal.mono (by positivity) ?_
  have hcube := mul_le_mul_of_nonneg_right hrr hr.le
  unfold scalingError
  linarith

theorem exists_quotient {s n : Nat} (hs : 0 < s) (hlimit : s ≤ significandLimit) (hn : n ≤ 100) :
    ∃ v, Holds (doubleOfInt s / powerOfTen n) v ∧ Near scalingError v (s / 10 ^ n) := by
  have hpower : 0 < 10 ^ n := Nat.pow_pos (by decide)
  have hpower' : (0 : ℚ) < ((10 ^ n : Nat) : ℚ) := by exact_mod_cast hpower
  obtain ⟨u, hu, hunear, hulow, huhigh⟩ := exists_double hs (significand_le hlimit)
  obtain ⟨w, hw, hwnear, hwlow, hwhigh⟩ := exists_double hpower (powerOfTen_le hn)
  have hr := roundoff_pos
  have hrr := roundoff_mul_le
  have hr8 := roundoff_le
  have hwpos : 0 < w := by linarith
  have hone := one_le_scalingBound
  have hlow : (2 : ℚ) ^ (-1022 : Int) ≤ u / w := by
    apply le_of_scalingBound_le
    rw [div_mul_eq_mul_div, le_div_iff₀ hwpos]
    have hscale := mul_le_mul_of_nonneg_right hulow (show (0 : ℚ) ≤ 4 * scalingBound by linarith)
    linarith
  have hhigh : u / w < 2 ^ (1023 : Int) := by
    apply lt_of_le_scalingBound
    rw [div_le_iff₀ hwpos]
    have hsquare := scalingBound_le_mul
    have hscale := mul_le_mul_of_nonneg_left hwlow
      (show (0 : ℚ) ≤ 4 * (scalingBound * scalingBound) by linarith)
    linarith
  obtain ⟨v, hv, hround⟩ := hu.div hw hlow hhigh
  have hexact := hunear.div hwnear (by linarith) (Nat.cast_nonneg s) hpower'
  have hratio : (roundoff + roundoff) / (1 - roundoff) ≤ 4 * roundoff := by
    rw [div_le_iff₀ (by linarith)]
    linarith
  have htotal := (hexact.mono (by positivity) hratio).trans hround hr.le
  refine ⟨v, hv, ?_⟩
  have hcast : ((10 ^ n : Nat) : ℚ) = 10 ^ n := by push_cast; rfl
  rw [hcast] at htotal
  refine htotal.mono (by positivity) ?_
  unfold scalingError
  linarith

theorem exists_scale {s : Nat} (hs : 0 < s) (hlimit : s ≤ significandLimit) {e : Int}
    (he : e.natAbs ≤ 100) (fuel : Nat) :
    ∃ y v, scale (doubleOfInt s) e (fuel + 1) = some y ∧ Holds y v ∧
      Near scalingError v (s * 10 ^ e) := by
  have hpower : e.natAbs ≤ powerLimit := Nat.le_trans he (by decide)
  rcases Int.le_total 0 e with hup | hdown
  · obtain ⟨v, hv, hnear⟩ := exists_product hs hlimit he
    refine ⟨_, v, ?_, hv, ?_⟩
    · rw [scale, if_pos hpower, if_pos hup]
      simp only [hv.isInf, Bool.false_eq_true, if_false]
    · have hexponent : e = (e.natAbs : Int) := (Int.natAbs_of_nonneg hup).symm
      rw [hexponent, zpow_natCast]
      exact hnear
  · rcases Int.lt_or_eq_of_le hdown with hneg | rfl
    · obtain ⟨v, hv, hnear⟩ := exists_quotient hs hlimit he
      refine ⟨_, v, ?_, hv, ?_⟩
      · rw [scale, if_pos hpower, if_neg (by omega)]
      · have hexponent : e = -(e.natAbs : Int) := by omega
        rw [hexponent, zpow_neg, zpow_natCast, ← div_eq_mul_inv]
        exact hnear
    · obtain ⟨v, hv, hnear⟩ := exists_product hs hlimit he
      refine ⟨_, v, ?_, hv, ?_⟩
      · rw [scale, if_pos hpower, if_pos (Int.le_refl 0)]
        simp only [hv.isInf, Bool.false_eq_true, if_false]
      · simpa using hnear

end RigidWorlds.Json
