import RigidWorlds.Decimal.Shortest
import RigidWorlds.Proofs.FormatRounding

/-!
Shortest decimals are near the numbers they are made for: seventeen digits are always enough for a
decimal in the interval that rounds to the number, and shorter ones are in that interval too.
-/

namespace RigidWorlds.Decimal

open Binary

def value (d : Decimal) : ℚ := d.significand * 10 ^ d.exponent

theorem digitCount_pos (n : Nat) : 0 < digitCount n := Nat.length_toDigits_pos

theorem lt_pow_digitCount (n : Nat) : n < 10 ^ digitCount n :=
  (Nat.length_toDigits_le_iff (by decide) (digitCount_pos n)).mp (Nat.le_refl _)

theorem pow_digitCount_le {n : Nat} (hn : 0 < n) : 10 ^ (digitCount n - 1) ≤ n := by
  rcases Nat.eq_zero_or_pos (digitCount n - 1) with hzero | hpos
  · rw [hzero]
    exact hn
  · by_contra hlt
    have hle := (Nat.length_toDigits_le_iff (by decide) hpos).mpr (Nat.not_le.mp hlt)
    change digitCount n ≤ digitCount n - 1 at hle
    omega

theorem trim_spec (fuel : Nat) {d : Decimal} (hd : 0 < d.significand) :
    (d.trim fuel).value = d.value ∧ 0 < (d.trim fuel).significand ∧
      (d.trim fuel).significand ≤ d.significand := by
  induction fuel generalizing d with
  | zero => exact ⟨rfl, hd, Nat.le_refl _⟩
  | succ fuel ih =>
      rw [trim]
      split
      · rename_i hzero
        have hten : d.significand = d.significand / 10 * 10 := by omega
        obtain ⟨hvalue, hpos, hle⟩ := ih (d := ⟨d.significand / 10, d.exponent + 1⟩)
          (show 0 < d.significand / 10 by omega)
        refine ⟨hvalue.trans ?_, hpos, Nat.le_trans hle (Nat.div_le_self ..)⟩
        have hcast : (d.significand : ℚ) = ((d.significand / 10 : Nat) : ℚ) * 10 := by
          exact_mod_cast hten
        show ((d.significand / 10 : Nat) : ℚ) * 10 ^ (d.exponent + 1) = _
        rw [value, hcast, zpow_add_one₀ (by norm_num)]
        ring
      · exact ⟨rfl, hd, Nat.le_refl _⟩

namespace Interval

/-- The interval has room on either side of its value. -/
structure Wide (i : Interval) (v : ℚ) : Prop where
  unit : 0 < i.unit
  low : 0 < i.low
  value : (i.value : ℚ) / i.unit = v
  /-- Relative to the value, both ends are farther away than this. -/
  below : v / 2 ^ 54 ≤ v - i.low / i.unit
  above : v / 2 ^ 54 ≤ i.high / i.unit - v

theorem contains_iff {i : Interval} {n den : Nat} (hunit : 0 < i.unit) (hden : 0 < den) :
    i.contains n den = true ↔
      if i.closed then (i.low : ℚ) / i.unit ≤ n / den ∧ (n : ℚ) / den ≤ i.high / i.unit
      else (i.low : ℚ) / i.unit < n / den ∧ (n : ℚ) / den < i.high / i.unit := by
  have hu : (0 : ℚ) < i.unit := by exact_mod_cast hunit
  have hd : (0 : ℚ) < den := by exact_mod_cast hden
  unfold contains
  cases i.closed with
  | true =>
      simp only [if_true, Bool.decide_and, Bool.and_eq_true, decide_eq_true_eq]
      rw [div_le_div_iff₀ hu hd, div_le_div_iff₀ hd hu]
      exact_mod_cast Iff.rfl
  | false =>
      simp only [Bool.false_eq_true, if_false, Bool.decide_and, Bool.and_eq_true,
        decide_eq_true_eq]
      rw [div_lt_div_iff₀ hu hd, div_lt_div_iff₀ hd hu]
      exact_mod_cast Iff.rfl

theorem contains_of_lt {i : Interval} {v : ℚ} (hi : i.Wide v) {n den : Nat} (hden : 0 < den)
    (hnear : |(n : ℚ) / den - v| < v / 2 ^ 54) : i.contains n den = true := by
  obtain ⟨hlow, hhigh⟩ := abs_lt.mp hnear
  have hbelow := hi.below
  have habove := hi.above
  rw [contains_iff hi.unit hden]
  split <;> constructor <;> linarith

theorem le_of_contains {i : Interval} {v : ℚ} (hi : i.Wide v) {n den : Nat} (hden : 0 < den)
    (h : i.contains n den = true) :
    (i.low : ℚ) / i.unit ≤ n / den ∧ (n : ℚ) / den ≤ i.high / i.unit := by
  rw [contains_iff hi.unit hden] at h
  split at h
  · exact h
  · exact ⟨h.1.le, h.2.le⟩

theorem scale_div_unit (p : Int) (n : Nat) :
    ((n * 1 <<< p.toNat : Nat) : ℚ) / (1 <<< (-p).toNat : Nat) = n * 2 ^ p := by
  rw [zpow_eq_div two_ne_zero, Nat.cast_mul, shiftLeft_cast, shiftLeft_cast]
  push_cast
  ring

theorem ends_ofBits (bits : Nat) (hs : 0 < double.significand bits) :
    ∃ below : ℚ, (below = 1 ∧ double.significand bits = 2 ^ 52 ∨ below = 2) ∧
      ((ofBits double bits).low : ℚ) / (ofBits double bits).unit =
        (4 * double.significand bits - below) * 2 ^ (double.place bits - 2) ∧
      ((ofBits double bits).high : ℚ) / (ofBits double bits).unit =
        (4 * double.significand bits + 2) * 2 ^ (double.place bits - 2) ∧
      0 < (ofBits double bits).low := by
  have hhigh : ((ofBits double bits).high : ℚ) / (ofBits double bits).unit =
      (4 * double.significand bits + 2) * 2 ^ (double.place bits - 2) := by
    refine (scale_div_unit (double.place bits - 2) _).trans ?_
    push_cast
    rfl
  have hlow : ∀ below : Nat, below ≤ 2 →
      (ofBits double bits).low = (4 * double.significand bits - below) *
        1 <<< (double.place bits - 2).toNat →
      ((ofBits double bits).low : ℚ) / (ofBits double bits).unit =
        (4 * double.significand bits - below) * 2 ^ (double.place bits - 2) ∧
      0 < (ofBits double bits).low := by
    intro below hbelow heq
    rw [heq]
    constructor
    · refine (scale_div_unit (double.place bits - 2) _).trans ?_
      rw [Nat.cast_sub (by omega)]
      push_cast
      rfl
    · exact Nat.mul_pos (by omega) (by rw [Nat.shiftLeft_eq, Nat.one_mul]; exact Nat.two_pow_pos _)
  by_cases hfirst : double.significand bits = 1 <<< double.fractionBits ∧
      double.leastPlace < double.place bits
  · obtain ⟨h, hpos⟩ := hlow 1 (by decide) (by simp only [ofBits, if_pos hfirst])
    exact ⟨1, .inl ⟨rfl, hfirst.1⟩, by exact_mod_cast h, hhigh, hpos⟩
  · obtain ⟨h, hpos⟩ := hlow 2 (by decide) (by simp only [ofBits, if_neg hfirst])
    exact ⟨2, .inr rfl, by exact_mod_cast h, hhigh, hpos⟩

theorem value_quarters (bits : Nat) :
    double.value bits = 4 * double.significand bits * 2 ^ (double.place bits - 2) := by
  have hplace : (2 : ℚ) ^ double.place bits = 2 ^ 2 * 2 ^ (double.place bits - 2) := by
    rw [← Format.two_zpow_add]
    congr 1
    ring
  rw [Format.value, hplace]
  ring

theorem wide_ofBits {bits : Nat} (hs : 0 < double.significand bits) :
    (ofBits double bits).Wide (double.value bits) := by
  obtain ⟨below, hbelow, hlow, hhigh, hpos⟩ := ends_ofBits bits hs
  have hunit : (0 : ℚ) < 2 ^ (double.place bits - 2) := by positivity
  have hshort : (double.significand bits : ℚ) ≤ 2 ^ 53 := by
    exact_mod_cast (double.significand_lt bits).le
  have hvalue := value_quarters bits
  have hle := mul_le_mul_of_nonneg_right hshort hunit.le
  refine ⟨?_, hpos, ?_, ?_, ?_⟩
  · show 0 < 1 <<< _
    rw [Nat.shiftLeft_eq, Nat.one_mul]
    exact Nat.two_pow_pos _
  · rw [hvalue]
    refine (scale_div_unit (double.place bits - 2) _).trans ?_
    push_cast
    rfl
  · rw [hlow, hvalue, div_le_iff₀ (by norm_num)]
    rcases hbelow with ⟨rfl, heq⟩ | rfl
    · have hcast : (double.significand bits : ℚ) = 2 ^ 52 := by exact_mod_cast heq
      rw [hcast]
      linarith
    · linarith
  · rw [hhigh, hvalue, div_le_iff₀ (by norm_num)]
    linarith

end Interval

theorem Tie.divNearest_cases (tie : Tie) (num : Nat) {den : Nat} (hden : 0 < den) :
    tie.divNearest num den = num / den ∨ tie.divNearest num den = num / den + 1 := by
  have hdivision := Nat.div_add_mod num den
  have hrest := Nat.mod_lt num hden
  cases tie with
  | even =>
      have hparity := Nat.mod_two_eq_zero_or_one (num / den)
      show divNearestEven num den = _ ∨ divNearestEven num den = _
      unfold divNearestEven
      dsimp only
      split
      · exact .inl rfl
      · split
        · exact .inr rfl
        · omega
  | up =>
      have hlow : num / den ≤ (2 * num + den) / (2 * den) := by
        rw [Nat.le_div_iff_mul_le (by omega)]
        calc num / den * (2 * den) = 2 * (den * (num / den)) := by ring
          _ ≤ 2 * num + den := by omega
      have hhigh : (2 * num + den) / (2 * den) < num / den + 2 := by
        rw [Nat.div_lt_iff_lt_mul (by omega)]
        calc 2 * num + den < 2 * (den * (num / den)) + 4 * den := by omega
          _ = (num / den + 2) * (2 * den) := by ring
      show (2 * num + den) / (2 * den) = _ ∨ (2 * num + den) / (2 * den) = _
      omega

namespace Interval

variable {i : Interval} {v : ℚ}

theorem Wide.pos (hi : i.Wide v) : 0 < v := by
  have hunit : (0 : ℚ) < i.unit := by exact_mod_cast hi.unit
  have hlow : (0 : ℚ) < i.low := by exact_mod_cast hi.low
  have hends := div_pos hlow hunit
  have hbelow := hi.below
  linarith

theorem Wide.value_pos (hi : i.Wide v) : 0 < i.value := by
  by_contra hzero
  have hvalue := hi.value
  have hpos := hi.pos
  rw [Nat.eq_zero_of_not_pos hzero, Nat.cast_zero, zero_div] at hvalue
  linarith

theorem Wide.point_bounds (hi : i.Wide v) :
    (10 : ℚ) ^ (i.point - 1) ≤ v ∧ v < 10 ^ i.point := by
  have hunit : (0 : ℚ) < i.unit := by exact_mod_cast hi.unit
  have hvalue : (0 : ℚ) < i.value := by exact_mod_cast hi.value_pos
  rw [← hi.value]
  unfold point
  split
  · rename_i hlarge
    have hwhole : 0 < i.value / i.unit := Nat.div_pos hlarge hi.unit
    have hlow := pow_digitCount_le hwhole
    have hhigh := lt_pow_digitCount (i.value / i.unit)
    have hcount := digitCount_pos (i.value / i.unit)
    constructor
    · have hexponent : (digitCount (i.value / i.unit) : Int) - 1 =
          ((digitCount (i.value / i.unit) - 1 : Nat) : Int) := by omega
      rw [hexponent, zpow_natCast, le_div_iff₀ hunit]
      have hle := (Nat.le_div_iff_mul_le hi.unit).mp hlow
      exact_mod_cast hle
    · rw [zpow_natCast, div_lt_iff₀ hunit]
      have hlt := (Nat.div_lt_iff_lt_mul hi.unit).mp hhigh
      exact_mod_cast hlt
  · rename_i hsmall
    -- The reciprocal of the value, rounded up; its last digit but one decides.
    obtain ⟨q, hq⟩ : ∃ q, q = (i.unit + i.value - 1) / i.value := ⟨_, rfl⟩
    have hvaluepos := hi.value_pos
    have hceil : i.unit ≤ q * i.value := by
      have hlt := (Nat.div_lt_iff_lt_mul hvaluepos).mp
        (show (i.unit + i.value - 1) / i.value < q + 1 by omega)
      rw [Nat.add_mul] at hlt
      omega
    have hfloor : (q - 1) * i.value < i.unit := by
      have hle := (Nat.le_div_iff_mul_le hvaluepos).mp (show q ≤ (i.unit + i.value - 1) / i.value by
        omega)
      rw [Nat.sub_mul]
      omega
    have hone : 0 < q - 1 := by
      by_contra hzero
      have hle : q ≤ 1 := by omega
      have := Nat.mul_le_mul_right i.value hle
      omega
    have hlow := pow_digitCount_le hone
    have hhigh := lt_pow_digitCount (q - 1)
    have hcount := digitCount_pos (q - 1)
    rw [← hq]
    constructor
    · have hexponent : 1 - (digitCount (q - 1) : Int) - 1 = -(digitCount (q - 1) : Int) := by omega
      rw [hexponent, zpow_neg, zpow_natCast, ← one_div, div_le_div_iff₀ (by positivity) hunit,
        one_mul]
      have hle := hceil.trans (Nat.mul_le_mul_right i.value (show q ≤ 10 ^ digitCount (q - 1) by
        omega))
      rw [mul_comm]
      exact_mod_cast hle
    · have hexponent : 1 - (digitCount (q - 1) : Int) =
          -((digitCount (q - 1) - 1 : Nat) : Int) := by omega
      rw [hexponent, zpow_neg, zpow_natCast, ← one_div, div_lt_div_iff₀ hunit (by positivity),
        one_mul]
      have hlt := (Nat.mul_le_mul_right i.value hlow).trans_lt hfloor
      rw [mul_comm]
      exact_mod_cast hlt

/-- A multiple of a power of ten lies in the interval. -/
def Inside (i : Interval) (exponent : Int) (n : Nat) : Prop :=
  i.contains (n * Nat.pow 10 exponent.toNat) (Nat.pow 10 (-exponent).toNat) = true

theorem multiple_eq (exponent : Int) (n : Nat) :
    ((n * Nat.pow 10 exponent.toNat : Nat) : ℚ) / (Nat.pow 10 (-exponent).toNat : Nat) =
      n * 10 ^ exponent := by
  rw [zpow_eq_div (OfNat.ofNat_ne_zero 10), Nat.pow_eq, Nat.pow_eq, Nat.cast_mul, Nat.cast_pow,
    Nat.cast_pow, Nat.cast_ofNat, mul_div_assoc]

theorem inside_of_near (hi : i.Wide v) {exponent : Int} {n : Nat}
    (hnear : |(n : ℚ) * 10 ^ exponent - v| < v / 2 ^ 54) : i.Inside exponent n := by
  refine contains_of_lt hi (Nat.pow_pos (by decide)) ?_
  rw [multiple_eq]
  exact hnear

theorem Inside.bounds (hi : i.Wide v) {exponent : Int} {n : Nat} (h : i.Inside exponent n) :
    (i.low : ℚ) / i.unit ≤ n * 10 ^ exponent ∧ (n : ℚ) * 10 ^ exponent ≤ i.high / i.unit := by
  have hden : 0 < Nat.pow 10 (-exponent).toNat := Nat.pow_pos (by decide)
  obtain ⟨hlow, hhigh⟩ := le_of_contains hi hden h
  exact ⟨hlow.trans_eq (multiple_eq exponent n), (multiple_eq exponent n).symm.trans_le hhigh⟩

/-- How often a power of ten goes into the value. -/
def down (i : Interval) (exponent : Int) : Nat :=
  i.value * Nat.pow 10 (-exponent).toNat / (i.unit * Nat.pow 10 exponent.toNat)

theorem down_bounds (hi : i.Wide v) (exponent : Int) :
    (i.down exponent : ℚ) * 10 ^ exponent ≤ v ∧
      v < ((i.down exponent : ℚ) + 1) * 10 ^ exponent := by
  have hunit : (0 : ℚ) < i.unit := by exact_mod_cast hi.unit
  have hden : 0 < i.unit * Nat.pow 10 exponent.toNat :=
    Nat.mul_pos hi.unit (Nat.pow_pos (by decide))
  have hden' : (0 : ℚ) < ((i.unit * Nat.pow 10 exponent.toNat : Nat) : ℚ) := by
    exact_mod_cast hden
  have hpower : (0 : ℚ) < 10 ^ exponent := by positivity
  have hquotient : ((i.value * Nat.pow 10 (-exponent).toNat : Nat) : ℚ) /
      (i.unit * Nat.pow 10 exponent.toNat : Nat) = v / 10 ^ exponent := by
    rw [← hi.value, zpow_eq_div (OfNat.ofNat_ne_zero 10), Nat.pow_eq, Nat.pow_eq, Nat.cast_mul,
      Nat.cast_mul, Nat.cast_pow, Nat.cast_pow, Nat.cast_ofNat]
    field_simp
  have hlow := Nat.div_mul_le_self (i.value * Nat.pow 10 (-exponent).toNat)
    (i.unit * Nat.pow 10 exponent.toNat)
  have hhigh := Nat.lt_div_mul_add (a := i.value * Nat.pow 10 (-exponent).toNat) hden
  constructor
  · rw [← le_div_iff₀ hpower, ← hquotient, le_div_iff₀ hden']
    exact_mod_cast hlow
  · rw [← div_lt_iff₀ hpower, ← hquotient, div_lt_iff₀ hden', add_mul, one_mul]
    exact_mod_cast hhigh

theorem candidate_eq_some (hi : i.Wide v) {tie : Tie} {count : Nat} {d : Decimal}
    (h : i.candidate tie count = some d) :
    d.exponent = i.point - count ∧ d.significand ≤ 10 ^ count ∧
      i.Inside d.exponent d.significand := by
  have hden : 0 < i.unit * Nat.pow 10 (i.point - count).toNat :=
    Nat.mul_pos hi.unit (Nat.pow_pos (by decide))
  have hshort : i.down (i.point - count) + 1 ≤ 10 ^ count := by
    have hpower : (0 : ℚ) < 10 ^ (i.point - (count : Int)) := by positivity
    have hlt := (down_bounds hi (i.point - count)).1.trans_lt hi.point_bounds.2
    have hsplit : (10 : ℚ) ^ i.point = 10 ^ count * 10 ^ (i.point - (count : Int)) := by
      rw [← zpow_natCast, ← zpow_add₀ (by norm_num)]
      congr 1
      ring
    rw [hsplit] at hlt
    have hfactor := lt_of_mul_lt_mul_right hlt hpower.le
    exact_mod_cast hfactor
  have hcases := Tie.divNearest_cases tie (i.value * Nat.pow 10 (-(i.point - count)).toNat) hden
  change _ = i.down (i.point - count) ∨ _ = i.down (i.point - count) + 1 at hcases
  have hfound : ∀ n, n ≤ i.down (i.point - count) + 1 → i.Inside (i.point - count) n →
      some ⟨n, i.point - count⟩ = some d →
      d.exponent = i.point - count ∧ d.significand ≤ 10 ^ count ∧
        i.Inside d.exponent d.significand := by
    intro n hn hinside hd
    obtain rfl := Option.some.inj hd
    exact ⟨rfl, hn.trans hshort, hinside⟩
  unfold candidate at h
  dsimp only at h
  split at h
  · rename_i hdown hup
    rcases hcases with hcase | hcase
    · rw [hcase] at h
      exact hfound _ (Nat.le_succ _) hdown h
    · rw [hcase] at h
      exact hfound _ (Nat.le_refl _) hup h
  · rename_i hdown _
    exact hfound _ (Nat.le_succ _) hdown h
  · rename_i _ hup
    exact hfound _ (Nat.le_refl _) hup h
  · cases h

theorem exists_candidate (hi : i.Wide v) (tie : Tie) :
    ∃ d, i.candidate tie digitLimit = some d := by
  obtain ⟨hlow, hhigh⟩ := down_bounds hi (i.point - (digitLimit : Nat))
  have hunit : (10 : ℚ) ^ (i.point - ((digitLimit : Nat) : Int)) ≤ v / 10 ^ 16 := by
    have hsplit : i.point - ((digitLimit : Nat) : Int) = i.point - 1 - (16 : Nat) := by
      show i.point - (17 : Int) = i.point - 1 - 16
      ring
    rw [hsplit, zpow_sub₀ (by norm_num), zpow_natCast]
    exact div_le_div_of_nonneg_right hi.point_bounds.1 (by norm_num)
  have hpos := hi.pos
  have hsome : i.Inside (i.point - (digitLimit : Nat)) (i.down (i.point - (digitLimit : Nat))) ∨
      i.Inside (i.point - (digitLimit : Nat)) (i.down (i.point - (digitLimit : Nat)) + 1) := by
    generalize i.point - ((digitLimit : Nat) : Int) = exponent at *
    rcases le_total (v - (i.down exponent : ℚ) * 10 ^ exponent) (10 ^ exponent / 2) with
      hnear | hfar
    · left
      apply inside_of_near hi
      rw [abs_lt]
      constructor <;> linarith
    · right
      apply inside_of_near hi
      push_cast
      rw [abs_lt]
      constructor <;> linarith
  unfold candidate
  dsimp only
  split
  · exact ⟨_, rfl⟩
  · exact ⟨_, rfl⟩
  · exact ⟨_, rfl⟩
  · rename_i hdown hup
    rcases hsome with hinside | hinside
    · exact absurd (hinside.symm.trans hdown) (by decide)
    · exact absurd (hinside.symm.trans hup) (by decide)

theorem exists_found (hi : i.Wide v) (tie : Tie) :
    ∃ d : Decimal, (List.range digitLimit).findSome? (fun n => i.candidate tie (n + 1)) = some d ∧
      d.significand ≤ 10 ^ 17 ∧ i.Inside d.exponent d.significand := by
  obtain ⟨last, hlast⟩ := exists_candidate hi tie
  have hsome :
      ((List.range digitLimit).findSome? fun n => i.candidate tie (n + 1)).isSome = true := by
    rw [List.findSome?_isSome_iff]
    exact ⟨16, List.mem_range.mpr (by decide), Option.isSome_iff_exists.mpr ⟨last, hlast⟩⟩
  obtain ⟨d, hd⟩ := Option.isSome_iff_exists.mp hsome
  obtain ⟨n, hn, hcandidate⟩ := List.exists_of_findSome?_eq_some hd
  obtain ⟨-, hle, hinside⟩ := candidate_eq_some hi hcandidate
  have hcount : n + 1 ≤ 17 := Nat.succ_le_of_lt (List.mem_range.mp hn)
  exact ⟨d, hd, hle.trans (Nat.pow_le_pow_right (by decide) hcount), hinside⟩

theorem Inside.near {bits : Nat} (hs : 2 ^ 52 ≤ double.significand bits) {exponent : Int} {n : Nat}
    (h : (ofBits double bits).Inside exponent n) :
    0 < n ∧ Near (1 / 2 ^ 53) (n * 10 ^ exponent) (double.value bits) := by
  have hpos : 0 < double.significand bits := Nat.lt_of_lt_of_le (by decide) hs
  have hwide := wide_ofBits hpos
  obtain ⟨hlow, hhigh⟩ := h.bounds hwide
  obtain ⟨below, hbelow, hlowend, hhighend, hlowpos⟩ := ends_ofBits bits hpos
  have hunit : (0 : ℚ) < 2 ^ (double.place bits - 2) := by positivity
  have hle : below ≤ 2 := by
    rcases hbelow with ⟨rfl, -⟩ | rfl <;> norm_num
  have hlead : (2 : ℚ) ^ 52 ≤ double.significand bits := by exact_mod_cast hs
  have hvalue := value_quarters bits
  have hbelowscaled := mul_le_mul_of_nonneg_right hle hunit.le
  have hleadscaled := mul_le_mul_of_nonneg_right hlead hunit.le
  constructor
  · have hend : (0 : ℚ) < (ofBits double bits).low / (ofBits double bits).unit :=
      div_pos (by exact_mod_cast hlowpos) (by exact_mod_cast hwide.unit)
    have hproduct := hend.trans_le hlow
    by_contra hzero
    rw [Nat.eq_zero_of_not_pos hzero, Nat.cast_zero, zero_mul] at hproduct
    exact lt_irrefl _ hproduct
  · rw [hlowend] at hlow
    rw [hhighend] at hhigh
    unfold Near
    rw [hvalue, abs_le]
    constructor <;> linarith

end Interval

/-- The shortest decimal of a double that is not subnormal is near the double, and it has at most
seventeen digits or is a power of ten. -/
theorem shortest_spec (tie : Tie) {bits : Nat} (hs : 2 ^ 52 ≤ double.significand bits) :
    0 < (shortest double tie bits).significand ∧
      (shortest double tie bits).significand ≤ 10 ^ 17 ∧
      Near (1 / 2 ^ 53) (shortest double tie bits).value (double.value bits) := by
  have hwide := Interval.wide_ofBits (Nat.lt_of_lt_of_le (by decide) hs)
  obtain ⟨d, hfound, hshort, hinside⟩ := Interval.exists_found hwide tie
  obtain ⟨hpos, hnear⟩ := hinside.near hs
  obtain ⟨hvalue, htrimmed, hle⟩ := trim_spec digitLimit hpos
  have hshortest : shortest double tie bits = d.trim digitLimit := by
    unfold shortest
    dsimp only
    rw [hfound, Option.getD_some]
  rw [hshortest, hvalue]
  exact ⟨htrimmed, hle.trans hshort, hnear⟩

end RigidWorlds.Decimal
