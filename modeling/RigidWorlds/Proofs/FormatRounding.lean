import Mathlib.Algebra.Order.Field.Basic
import Mathlib.Algebra.Order.Field.Power
import Mathlib.Algebra.Order.Field.Rat
import Mathlib.Tactic.FieldSimp
import Mathlib.Tactic.Linarith
import Mathlib.Tactic.NormNum
import Mathlib.Tactic.Ring
import RigidWorlds.Proofs.Conversion

/-!
Rounding to a format, over the rationals.  The bits that a quotient is rounded to stand for a number
near the quotient, and a quotient near a number of the format is rounded to the bits of that number.
-/

namespace RigidWorlds.Binary

/-- The number is that near to a positive one, relative to it. -/
def Near (ε x q : ℚ) : Prop := |x - q| ≤ ε * q

namespace Near

variable {ε δ x y p q : ℚ}

theorem le (h : Near ε x q) : x ≤ (1 + ε) * q := by
  have := (abs_le.mp h).2
  linarith

theorem ge (h : Near ε x q) : (1 - ε) * q ≤ x := by
  have := (abs_le.mp h).1
  linarith

theorem pos (h : Near ε x q) (hε : ε < 1) (hq : 0 < q) : 0 < x :=
  lt_of_lt_of_le (mul_pos (by linarith) hq) h.ge

theorem mono (h : Near ε x q) (hq : 0 ≤ q) (hle : ε ≤ δ) : Near δ x q :=
  le_trans h (mul_le_mul_of_nonneg_right hle hq)

theorem trans (h : Near ε x q) (h' : Near δ y x) (hδ : 0 ≤ δ) :
    Near (ε + δ + ε * δ) y q := by
  have hsum : |y - q| ≤ |y - x| + |x - q| := abs_sub_le y x q
  have hx : δ * x ≤ δ * ((1 + ε) * q) := mul_le_mul_of_nonneg_left h.le hδ
  unfold Near at h h' ⊢
  linarith

theorem mul (h : Near ε x q) (h' : Near δ y p) (hε : 0 ≤ ε) (hq : 0 ≤ q) (hp : 0 ≤ p) :
    Near (ε + δ + ε * δ) (x * y) (q * p) := by
  have hx : |x| ≤ (1 + ε) * q := by
    have htri := abs_add_le (x - q) q
    rw [sub_add_cancel, abs_of_nonneg hq] at htri
    unfold Near at h
    linarith
  have hδ : 0 ≤ δ * p := le_trans (abs_nonneg _) h'
  have hsplit : x * y - q * p = x * (y - p) + (x - q) * p := by ring
  unfold Near at h h' ⊢
  calc |x * y - q * p| ≤ |x| * |y - p| + |x - q| * p := by
        rw [hsplit]
        refine (abs_add_le _ _).trans ?_
        rw [abs_mul, abs_mul, abs_of_nonneg hp]
    _ ≤ (1 + ε) * q * (δ * p) + ε * q * p := by
        gcongr
    _ = (ε + δ + ε * δ) * (q * p) := by ring

theorem div (h : Near ε x q) (h' : Near δ y p) (hδ : δ < 1) (hq : 0 ≤ q) (hp : 0 < p) :
    Near ((ε + δ) / (1 - δ)) (x / y) (q / p) := by
  have hy : 0 < y := h'.pos hδ hp
  have hge := h'.ge
  have hsplit : x / y - q / p = ((x - q) * p + q * (p - y)) / (y * p) := by
    field_simp
    ring
  have hnum : |(x - q) * p + q * (p - y)| ≤ (ε + δ) * q * p := by
    have h1 : |x - q| * p ≤ ε * q * p := mul_le_mul_of_nonneg_right h hp.le
    have h2 : q * |p - y| ≤ q * (δ * p) := by
      rw [abs_sub_comm]
      exact mul_le_mul_of_nonneg_left h' hq
    have htri := abs_add_le ((x - q) * p) (q * (p - y))
    rw [abs_mul, abs_mul, abs_of_pos hp, abs_of_nonneg hq] at htri
    linarith
  have hnonneg : 0 ≤ (ε + δ) * q * p := le_trans (abs_nonneg _) hnum
  have hbound : (1 - δ) * p * p ≤ y * p := mul_le_mul_of_nonneg_right hge hp.le
  unfold Near
  calc |x / y - q / p| = |(x - q) * p + q * (p - y)| / (y * p) := by
        rw [hsplit, abs_div, abs_of_pos (mul_pos hy hp)]
    _ ≤ (ε + δ) * q * p / ((1 - δ) * p * p) := by
        have hpos : 0 < (1 - δ) * p * p := mul_pos (mul_pos (by linarith) hp) hp
        gcongr
    _ = (ε + δ) / (1 - δ) * (q / p) := by
        have hne : 1 - δ ≠ 0 := by linarith
        field_simp

end Near

theorem zpow_eq_div {b : ℚ} (hb : b ≠ 0) (n : Int) : b ^ n = b ^ n.toNat / b ^ (-n).toNat := by
  rw [← zpow_natCast, ← zpow_natCast, ← zpow_sub₀ hb]
  congr 1
  omega

theorem shiftLeft_cast (m n : Nat) : ((m <<< n : Nat) : ℚ) = m * 2 ^ n := by
  rw [Nat.shiftLeft_eq]
  push_cast
  rfl

theorem shiftLeft_div_shiftLeft (num den : Nat) (n : Int) :
    ((num <<< (-n).toNat : Nat) : ℚ) / (den <<< n.toNat : Nat) = num / den / 2 ^ n := by
  rw [shiftLeft_cast, shiftLeft_cast, zpow_eq_div two_ne_zero]
  field_simp

theorem log2_bounds {n : Nat} (hn : 0 < n) :
    (2 : ℚ) ^ (n.log2 : Int) ≤ n ∧ (n : ℚ) < 2 ^ ((n.log2 : Int) + 1) := by
  constructor
  · rw [zpow_natCast]
    exact_mod_cast Nat.log2_self_le hn.ne'
  · have hcast : ((n.log2 : Int) + 1) = ((n.log2 + 1 : Nat) : Int) := by omega
    rw [hcast, zpow_natCast]
    exact_mod_cast Nat.lt_log2_self (n := n)

theorem quotientLog_bounds {num den : Nat} (hnum : 0 < num) (hden : 0 < den) :
    (2 : ℚ) ^ quotientLog num den ≤ num / den ∧
      (num : ℚ) / den < 2 ^ (quotientLog num den + 1) := by
  obtain ⟨hnlow, hnhigh⟩ := log2_bounds hnum
  obtain ⟨hdlow, hdhigh⟩ := log2_bounds hden
  have hd : (0 : ℚ) < den := by exact_mod_cast hden
  have hsub : ((num.log2 : Int) + 1) - den.log2 = (num.log2 : Int) - den.log2 + 1 := by omega
  have hsub' : (num.log2 : Int) - (den.log2 + 1) = (num.log2 : Int) - den.log2 - 1 := by omega
  have hupper : (num : ℚ) / den < 2 ^ ((num.log2 : Int) - den.log2 + 1) := by
    rw [← hsub, zpow_sub₀ (by norm_num)]
    exact div_lt_div₀ hnhigh hdlow (by positivity) (by positivity)
  have hlower : (2 : ℚ) ^ ((num.log2 : Int) - den.log2 - 1) ≤ num / den := by
    rw [← hsub', zpow_sub₀ (by norm_num)]
    exact div_le_div₀ (by positivity) hnlow hd hdhigh.le
  have hguess : (den <<< ((num.log2 : Int) - den.log2).toNat ≤
      num <<< (-((num.log2 : Int) - den.log2)).toNat) ↔
        (2 : ℚ) ^ ((num.log2 : Int) - den.log2) ≤ num / den := by
    rw [← Nat.cast_le (α := ℚ), shiftLeft_cast, shiftLeft_cast, zpow_eq_div two_ne_zero,
      div_le_div_iff₀ (by positivity) hd]
    constructor <;> intro h <;> linarith
  unfold quotientLog
  dsimp only
  split
  · rename_i h
    exact ⟨hguess.mp h, hupper⟩
  · rename_i h
    have hlt := lt_of_not_ge (mt hguess.mpr h)
    rw [Int.sub_add_cancel]
    exact ⟨hlower, hlt⟩

theorem divNearestEven_error (num : Nat) {den : Nat} (hden : 0 < den) :
    |(divNearestEven num den : ℚ) - num / den| ≤ 1 / 2 := by
  have hd : (0 : ℚ) < den := by exact_mod_cast hden
  have hdivision : (den : ℚ) * ((num / den : Nat) : ℚ) + ((num % den : Nat) : ℚ) = num := by
    exact_mod_cast Nat.div_add_mod num den
  have hquotient : (num : ℚ) / den = ((num / den : Nat) : ℚ) + ((num % den : Nat) : ℚ) / den := by
    rw [← hdivision]
    field_simp
  have hrest : (0 : ℚ) ≤ ((num % den : Nat) : ℚ) / den := by positivity
  have hparity : ((num / den % 2 : Nat) : ℚ) = 0 ∨ ((num / den % 2 : Nat) : ℚ) = 1 := by
    rcases Nat.mod_two_eq_zero_or_one (num / den) with h | h <;> rw [h] <;> simp
  have hlt : ((num % den : Nat) : ℚ) / den < 1 := by
    rw [div_lt_one hd]
    exact_mod_cast Nat.mod_lt num hden
  rw [hquotient, abs_le]
  unfold divNearestEven
  dsimp only
  split
  · rename_i h
    have hhalf : ((num % den : Nat) : ℚ) / den < 1 / 2 := by
      rw [div_lt_div_iff₀ hd (by norm_num)]
      have hcast : ((2 * (num % den) : Nat) : ℚ) < den := by exact_mod_cast h
      push_cast at hcast
      linarith
    constructor <;> linarith
  · split
    · rename_i h
      have hhalf : 1 / 2 < ((num % den : Nat) : ℚ) / den := by
        rw [div_lt_div_iff₀ (by norm_num) hd]
        have hcast : (den : ℚ) < ((2 * (num % den) : Nat) : ℚ) := by exact_mod_cast h
        push_cast at hcast
        linarith
      push_cast
      constructor <;> linarith
    · rename_i hless hmore
      have hhalf : ((num % den : Nat) : ℚ) / den = 1 / 2 := by
        have heq : 2 * (num % den) = den := by omega
        rw [div_eq_div_iff hd.ne' (by norm_num)]
        have hcast : ((2 * (num % den) : Nat) : ℚ) = den := by exact_mod_cast heq
        push_cast at hcast
        linarith
      push_cast
      rcases hparity with hp | hp <;> rw [hp, hhalf] <;> constructor <;> norm_num

theorem eq_of_abs_sub_lt_one {m n : Nat} (h : |(m : ℚ) - n| < 1) : m = n := by
  have hint : |(m : Int) - n| < 1 := by exact_mod_cast h
  have := Int.abs_lt_one_iff.mp hint
  omega

theorem near_of_steps {unit lead q : ℚ} {steps : Nat} (hunit : 0 < unit) (hlead : 0 < lead)
    (hsteps : |(steps : ℚ) - q / unit| ≤ 1 / 2) (hq : lead * unit ≤ q) :
    Near (1 / (2 * lead)) (steps * unit) q := by
  have hscaled : (steps : ℚ) * unit - q = (steps - q / unit) * unit := by field_simp
  unfold Near
  calc |(steps : ℚ) * unit - q| = |(steps : ℚ) - q / unit| * unit := by
        rw [hscaled, abs_mul, abs_of_pos hunit]
    _ ≤ 1 / 2 * unit := by gcongr
    _ = 1 / (2 * lead) * (lead * unit) := by field_simp
    _ ≤ 1 / (2 * lead) * q := by gcongr

namespace Format

variable {f : Format}

/-- The number that magnitude bits stand for. -/
def value (f : Format) (bits : Nat) : ℚ := f.significand bits * 2 ^ f.place bits

theorem significand_pos {bits : Nat} (h : 0 < bits) : 0 < f.significand bits := by
  have hpower := Nat.two_pow_pos f.fractionBits
  rw [significand_eq]
  split <;> omega

theorem two_zpow_add (p : Int) (n : Nat) : (2 : ℚ) ^ (p + n) = 2 ^ n * 2 ^ p := by
  rw [zpow_add₀ (by norm_num), zpow_natCast, mul_comm]

theorem exists_round {num den : Nat} (hnum : 0 < num) (hden : 0 < den) :
    ∃ k steps : Nat, f.round num den = min f.infinity (k <<< f.fractionBits + steps) ∧
      |(steps : ℚ) - num / den / 2 ^ (f.leastPlace + k)| ≤ 1 / 2 ∧
      (k = 0 ∨ (2 : ℚ) ^ f.fractionBits * 2 ^ (f.leastPlace + k) ≤ num / den) ∧
      (num : ℚ) / den < 2 ^ (f.fractionBits + 1) * 2 ^ (f.leastPlace + k) := by
  obtain ⟨hlow, hhigh⟩ := quotientLog_bounds hnum hden
  obtain ⟨k, hk⟩ : ∃ k : Nat, max f.leastPlace (quotientLog num den - f.fractionBits) =
      f.leastPlace + k :=
    ⟨(max f.leastPlace (quotientLog num den - f.fractionBits) - f.leastPlace).toNat, by omega⟩
  refine ⟨k, divNearestEven (num <<< (-(f.leastPlace + k)).toNat)
    (den <<< (f.leastPlace + k).toNat), ?_, ?_, ?_, ?_⟩
  · have hindex : (f.leastPlace + k - f.leastPlace).toNat = k := by omega
    simp only [round, if_neg hnum.ne', hk, hindex]
  · have hpos : 0 < den <<< (f.leastPlace + k).toNat := by
      rw [Nat.shiftLeft_eq]
      exact Nat.mul_pos hden (Nat.two_pow_pos _)
    rw [← shiftLeft_div_shiftLeft]
    exact divNearestEven_error _ hpos
  · rcases Nat.eq_zero_or_pos k with hzero | hpos
    · exact .inl hzero
    · have hplace : f.leastPlace + k + f.fractionBits = quotientLog num den := by omega
      rw [← two_zpow_add, hplace]
      exact .inr hlow
  · rw [← two_zpow_add]
    exact hhigh.trans_le (zpow_le_zpow_right₀ (by norm_num) (by push_cast; omega))

theorem value_add {k steps : Nat} (hsteps : steps ≤ 2 ^ (f.fractionBits + 1))
    (hk : k = 0 ∨ 2 ^ f.fractionBits ≤ steps) :
    f.value (k <<< f.fractionBits + steps) = steps * 2 ^ (f.leastPlace + k) := by
  rcases Nat.lt_or_ge steps (2 ^ f.fractionBits) with hshort | hlead
  · obtain rfl : k = 0 := by omega
    rw [Nat.zero_shiftLeft, Nat.zero_add, value, place_eq, significand_eq, if_pos hshort,
      Nat.div_eq_of_lt hshort, Nat.zero_sub]
  · rcases Nat.lt_or_eq_of_le hsteps with hlt | rfl
    · obtain ⟨hplace, hsignificand⟩ := decompose (f := f) (k := k) hlead hlt
      rw [value, hplace, hsignificand]
    · have hnext : k <<< f.fractionBits + 2 ^ (f.fractionBits + 1) =
          (k + 1) <<< f.fractionBits + 2 ^ f.fractionBits := by
        rw [Nat.shiftLeft_eq, Nat.shiftLeft_eq]
        ring
      obtain ⟨hplace, hsignificand⟩ := decompose (f := f) (k := k + 1) (Nat.le_refl _)
        (Nat.pow_lt_pow_right (by decide) (Nat.lt_succ_self _))
      rw [hnext, value, hplace, hsignificand]
      have hexponent : f.leastPlace + ((k + 1 : Nat) : Int) = f.leastPlace + k + (1 : Nat) := by
        push_cast
        ring
      rw [hexponent, two_zpow_add]
      push_cast
      ring

theorem steps_bounds {k steps : Nat} {q : ℚ}
    (hsteps : |(steps : ℚ) - q / 2 ^ (f.leastPlace + k)| ≤ 1 / 2)
    (hhigh : q < 2 ^ (f.fractionBits + 1) * 2 ^ (f.leastPlace + k)) :
    steps ≤ 2 ^ (f.fractionBits + 1) ∧
      ((2 : ℚ) ^ f.fractionBits * 2 ^ (f.leastPlace + k) ≤ q → 2 ^ f.fractionBits ≤ steps) := by
  obtain ⟨hlow, hup⟩ := abs_le.mp hsteps
  have hplace : (0 : ℚ) < 2 ^ (f.leastPlace + (k : Int)) := by positivity
  constructor
  · rw [← div_lt_iff₀ hplace] at hhigh
    have hlt : (steps : ℚ) < ((2 ^ (f.fractionBits + 1) + 1 : Nat) : ℚ) := by
      push_cast
      linarith
    exact Nat.lt_succ_iff.mp (by exact_mod_cast hlt)
  · intro hq
    rw [← le_div_iff₀ hplace] at hq
    have hlt : ((2 ^ f.fractionBits : Nat) : ℚ) < ((steps + 1 : Nat) : ℚ) := by
      push_cast
      linarith
    exact Nat.lt_succ_iff.mp (by exact_mod_cast hlt)

theorem near_round {num den n : Nat} (hden : 0 < den)
    (hlow : (2 : ℚ) ^ f.fractionBits * 2 ^ f.leastPlace ≤ num / den)
    (hhigh : (num : ℚ) / den < 2 ^ f.fractionBits * 2 ^ (f.leastPlace + n))
    (hn : n + 2 < 2 ^ f.exponentBits) :
    f.round num den < f.infinity ∧
      Near (1 / (2 * 2 ^ f.fractionBits)) (f.value (f.round num den)) (num / den) := by
  have hnum : 0 < num := by
    rcases Nat.eq_zero_or_pos num with rfl | h
    · have hpos : (0 : ℚ) < 2 ^ f.fractionBits * 2 ^ f.leastPlace := by positivity
      rw [Nat.cast_zero, zero_div] at hlow
      linarith
    · exact h
  obtain ⟨k, steps, hround, hsteps, hk, hbound⟩ := exists_round (f := f) hnum hden
  have hq : (2 : ℚ) ^ f.fractionBits * 2 ^ (f.leastPlace + (k : Int)) ≤ num / den := by
    rcases hk with rfl | hk
    · simpa using hlow
    · exact hk
  obtain ⟨hshort, hlead⟩ := steps_bounds hsteps hbound
  have hlead := hlead hq
  have hkn : k < n := by
    have hpower : (2 : ℚ) ^ (f.leastPlace + (k : Int)) < 2 ^ (f.leastPlace + (n : Int)) :=
      lt_of_mul_lt_mul_left (hq.trans_lt hhigh) (by positivity)
    have := (zpow_lt_zpow_iff_right₀ (by norm_num : (1 : ℚ) < 2)).mp hpower
    omega
  have hfinite : k <<< f.fractionBits + steps < f.infinity := by
    have hinfinity : f.infinity = (2 ^ f.exponentBits - 1) * 2 ^ f.fractionBits := by
      rw [infinity, Nat.shiftLeft_eq, Nat.shiftLeft_eq, Nat.one_mul]
    have hle : k + 2 < 2 ^ f.exponentBits - 1 := by omega
    rw [hinfinity, Nat.shiftLeft_eq]
    calc k * 2 ^ f.fractionBits + steps
        ≤ k * 2 ^ f.fractionBits + 2 ^ (f.fractionBits + 1) := Nat.add_le_add_left hshort _
      _ = (k + 2) * 2 ^ f.fractionBits := by ring
      _ < (2 ^ f.exponentBits - 1) * 2 ^ f.fractionBits :=
        Nat.mul_lt_mul_of_pos_right hle (Nat.two_pow_pos _)
  rw [hround, min_eq_right hfinite.le, value_add hshort (.inr hlead)]
  exact ⟨hfinite, near_of_steps (by positivity) (by positivity) hsteps hq⟩

end Format

theorem two_mul_zpow_le (p : Int) {j k : Nat} (h : j < k) :
    2 * (2 : ℚ) ^ (p + j) ≤ 2 ^ (p + k) := by
  rw [← zpow_one_add₀ (by norm_num)]
  exact zpow_le_zpow_right₀ (by norm_num) (by omega)

theorem steps_eq_of_near {q unit : ℚ} (hunit : 0 < unit) {steps s : Nat}
    (hsteps : |(steps : ℚ) - q / unit| ≤ 1 / 2) (hnear : |q - s * unit| < 1 / 4 * unit) :
    steps = s := by
  have hscaled : |q / unit - s| < 1 / 4 := by
    have heq : q / unit - s = (q - s * unit) / unit := by field_simp
    rw [heq, abs_div, abs_of_pos hunit, div_lt_iff₀ hunit]
    exact hnear
  apply eq_of_abs_sub_lt_one
  have htri := abs_sub_le (steps : ℚ) (q / unit) s
  linarith

theorem steps_eq_of_near_below {q unit : ℚ} (hunit : 0 < unit) {steps s lead : Nat}
    (hsteps : |(steps : ℚ) - q / unit| ≤ 1 / 2) (hbound : q < 2 * lead * unit) (hlead : lead ≤ s)
    (hnear : |q - s * (2 * unit)| < 1 / 4 * (2 * unit)) : s = lead ∧ steps = 2 * lead := by
  have hle : (lead : ℚ) ≤ s := by exact_mod_cast hlead
  obtain ⟨hlow, hhigh⟩ := abs_lt.mp hnear
  obtain ⟨hdown, hup⟩ := abs_le.mp hsteps
  have hbelow : q / unit < 2 * lead := (div_lt_iff₀ hunit).mpr hbound
  have habove : 2 * (s : ℚ) - 1 / 2 < q / unit := by
    rw [lt_div_iff₀ hunit]
    linarith
  constructor
  · apply eq_of_abs_sub_lt_one
    rw [abs_lt]
    constructor <;> linarith
  · apply eq_of_abs_sub_lt_one
    push_cast
    rw [abs_lt]
    constructor <;> linarith

namespace Format

variable {f : Format}

theorem exists_place (f : Format) (bits : Nat) :
    ∃ j : Nat, f.place bits = f.leastPlace + j ∧
      j <<< f.fractionBits + f.significand bits = bits ∧
        (j = 0 ∨ 2 ^ f.fractionBits ≤ f.significand bits) := by
  have hle := f.le_place bits
  have hcompose := f.compose bits
  have hlead := f.place_eq_or_le bits
  obtain ⟨j, hj⟩ : ∃ j : Nat, f.place bits = f.leastPlace + j :=
    ⟨(f.place bits - f.leastPlace).toNat, by omega⟩
  have hindex : (f.place bits - f.leastPlace).toNat = j := by omega
  rw [hindex] at hcompose
  exact ⟨j, hj, hcompose, hlead.imp_left fun h => by omega⟩

/-- A quotient that is nearer to a number of the format than a quarter of its last place is rounded
to that number. -/
theorem round_of_near {num den bits : Nat} (hnum : 0 < num) (hden : 0 < den)
    (hfinite : bits < f.infinity)
    (hnear : |(num : ℚ) / den - f.value bits| < 1 / 4 * 2 ^ f.place bits) :
    f.round num den = bits := by
  obtain ⟨k, steps, hround, hsteps, hk, hbound⟩ := exists_round (f := f) hnum hden
  obtain ⟨j, hj, hcompose, hlead⟩ := f.exists_place bits
  have hshort : (f.significand bits : ℚ) + 1 ≤ 2 * 2 ^ f.fractionBits := by
    rw [← pow_succ']
    exact_mod_cast f.significand_lt bits
  have hunit : ∀ k : Nat, (0 : ℚ) < 2 ^ (f.leastPlace + (k : Int)) := fun k => by positivity
  have hone : (1 : ℚ) ≤ 2 ^ f.fractionBits := one_le_pow₀ (by norm_num)
  rw [value, hj] at hnear
  suffices k <<< f.fractionBits + steps = bits by
    rw [hround, this]
    exact min_eq_right hfinite.le
  rcases Nat.lt_trichotomy k j with hless | rfl | hmore
  · -- The quotient lies just below the first number of a place, in the place before it.
    have hleading : 2 ^ f.fractionBits ≤ f.significand bits := hlead.resolve_left (by omega)
    have hnext : j = k + 1 := by
      by_contra hne
      have hle : (2 : ℚ) ^ f.fractionBits ≤ f.significand bits := by exact_mod_cast hleading
      have hone' := two_mul_zpow_le f.leastPlace (show k < k + 1 by omega)
      have htwo := two_mul_zpow_le f.leastPlace (show k + 1 < j by omega)
      have hlarge := mul_le_mul_of_nonneg_right hle (hunit j).le
      have hsmall := mul_le_mul_of_nonneg_left (show 4 * (2 : ℚ) ^ (f.leastPlace + (k : Int)) ≤
        2 ^ (f.leastPlace + (j : Int)) by linarith) (show (0 : ℚ) ≤ 2 ^ f.fractionBits by linarith)
      have hplaces := mul_le_mul_of_nonneg_right hone (hunit j).le
      have hlow := (abs_lt.mp hnear).1
      have hpos := hunit j
      rw [pow_succ] at hbound
      linarith
    subst hnext
    have hdouble : (2 : ℚ) ^ (f.leastPlace + ((k + 1 : Nat) : Int)) =
        2 * 2 ^ (f.leastPlace + (k : Int)) := by
      rw [← zpow_one_add₀ (by norm_num)]
      congr 1
      push_cast
      ring
    rw [hdouble] at hnear
    have hbound' : (num : ℚ) / den <
        2 * ((2 ^ f.fractionBits : Nat) : ℚ) * 2 ^ (f.leastPlace + (k : Int)) := by
      rw [pow_succ'] at hbound
      exact_mod_cast hbound
    obtain ⟨hs, hsteps⟩ := steps_eq_of_near_below (hunit k) hsteps hbound' hleading hnear
    rw [← hcompose, hs, hsteps, Nat.shiftLeft_eq, Nat.shiftLeft_eq]
    ring
  · rw [steps_eq_of_near (hunit k) hsteps hnear, hcompose]
  · have hplaces := two_mul_zpow_le f.leastPlace hmore
    have hlarge := hk.resolve_left (by omega)
    have hfar := mul_le_mul_of_nonneg_left hplaces (show (0 : ℚ) ≤ 2 ^ f.fractionBits by linarith)
    have hnot := mul_le_mul_of_nonneg_right hshort (hunit j).le
    have hhigh := (abs_lt.mp hnear).2
    have := hunit j
    linarith

theorem value_eq_quotient (f : Format) (bits : Nat) :
    ((f.significand bits <<< (f.place bits).toNat : Nat) : ℚ) /
      (1 <<< (-f.place bits).toNat : Nat) = f.value bits := by
  rw [shiftLeft_cast, shiftLeft_cast, value, zpow_eq_div two_ne_zero]
  push_cast
  field_simp

theorem convert_of_near {f g : Format} {bits target : Nat} (hfinite : bits < f.infinity)
    (hpos : 0 < f.significand bits) (htarget : target < g.infinity)
    (hnear : |f.value bits - g.value target| < 1 / 4 * 2 ^ g.place target) :
    f.convert g bits = target := by
  rw [convert_of_lt hfinite]
  refine round_of_near ?_ ?_ htarget ?_
  · rw [Nat.shiftLeft_eq]
    exact Nat.mul_pos hpos (Nat.two_pow_pos _)
  · rw [Nat.shiftLeft_eq, Nat.one_mul]
    exact Nat.two_pow_pos _
  · rwa [value_eq_quotient]

theorem value_convert_single {bits : Nat} (h : bits < single.infinity)
    (hs : 0 < single.significand bits) :
    double.value (single.convert double bits) = single.value bits ∧
      2 ^ 52 ≤ double.significand (single.convert double bits) := by
  obtain ⟨up, k, hk, hlead, hbound, -, hwide⟩ := exists_wide h hs.ne'
  have hplace : single.place bits = double.leastPlace + k + up := by omega
  constructor
  · rw [hwide, value_add hbound.le (.inr hlead), value, hplace, shiftLeft_cast,
      two_zpow_add (double.leastPlace + k) up]
    ring
  · rw [hwide, (decompose hlead hbound).2]
    exact hlead

theorem value_single_bounds {bits : Nat} (h : bits < single.infinity)
    (hs : 0 < single.significand bits) :
    (2 : ℚ) ^ (-149 : Int) ≤ single.value bits ∧ single.value bits < 2 ^ (128 : Int) := by
  have hone : (1 : ℚ) ≤ single.significand bits := by exact_mod_cast hs
  have hshort : (single.significand bits : ℚ) < 2 ^ 24 := by
    exact_mod_cast single.significand_lt bits
  have hlow : (2 : ℚ) ^ (-149 : Int) ≤ 2 ^ single.place bits :=
    zpow_le_zpow_right₀ (by norm_num) (single.le_place bits)
  have hhigh : (2 : ℚ) ^ single.place bits ≤ 2 ^ (104 : Int) :=
    zpow_le_zpow_right₀ (by norm_num) (place_single_le h)
  have hplace : (0 : ℚ) < 2 ^ single.place bits := by positivity
  constructor
  · exact hlow.trans (le_mul_of_one_le_left hplace.le hone)
  · calc single.value bits < 2 ^ 24 * 2 ^ single.place bits :=
        mul_lt_mul_of_pos_right hshort hplace
      _ ≤ 2 ^ 24 * 2 ^ (104 : Int) := by gcongr
      _ = 2 ^ (128 : Int) := (two_zpow_add 104 24).symm

end Format

end RigidWorlds.Binary
