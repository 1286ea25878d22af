import RigidWorlds.Proofs.DoubleArithmetic

/-!
Integers that are rounded twice.  An integer that is rounded to a double first and to a single then
is rounded like one that is rounded once, unless it lies so close to the middle between two singles
that the double is this middle.
-/

namespace RigidWorlds.Binary

theorem divNearestEven_mul_right (num den : Nat) {c : Nat} (hc : 0 < c) :
    divNearestEven (num * c) (den * c) = divNearestEven num den := by
  have hscale : ∀ a b : Nat, a * c < b * c ↔ a < b := fun a b => Nat.mul_lt_mul_right hc
  unfold divNearestEven
  simp only [Nat.mul_div_mul_right num den hc, Nat.mul_mod_mul_right, ← Nat.mul_assoc, hscale]

theorem divNearestEven_congr {num den num' den' : Nat} (hden : 0 < den) (hden' : 0 < den')
    (h : num * den' = num' * den) : divNearestEven num den = divNearestEven num' den' := by
  rw [← divNearestEven_mul_right num den hden', h, Nat.mul_comm den den',
    divNearestEven_mul_right num' den' hden]

theorem divNearestEven_bounds (num den : Nat) :
    num / den ≤ divNearestEven num den ∧ divNearestEven num den ≤ num / den + 1 := by
  have hparity := Nat.mod_lt (num / den) (show 0 < 2 by decide)
  unfold divNearestEven
  dsimp only
  split
  · omega
  · split <;> omega

theorem quotientLog_congr {num den num' den' : Nat} (hnum : 0 < num) (hden : 0 < den)
    (hden' : 0 < den') (h : num * den' = num' * den) :
    quotientLog num den = quotientLog num' den' := by
  have hnum' : 0 < num' := Nat.pos_of_mul_pos_right (h ▸ Nat.mul_pos hnum hden')
  obtain ⟨hlow, hhigh⟩ := quotientLog_bounds hnum hden
  obtain ⟨hlow', hhigh'⟩ := quotientLog_bounds hnum' hden'
  have hquotient : (num : ℚ) / den = num' / den' := by
    rw [div_eq_div_iff (by positivity) (by positivity)]
    exact_mod_cast h
  rw [hquotient] at hlow hhigh
  have hless := (zpow_lt_zpow_iff_right₀ (by norm_num : (1 : ℚ) < 2)).mp (hlow.trans_lt hhigh')
  have hless' := (zpow_lt_zpow_iff_right₀ (by norm_num : (1 : ℚ) < 2)).mp (hlow'.trans_lt hhigh)
  omega

namespace Format

variable {f g : Format}

theorem round_congr {num den num' den' : Nat} (hden : 0 < den) (hden' : 0 < den')
    (h : num * den' = num' * den) : f.round num den = f.round num' den' := by
  rcases Nat.eq_zero_or_pos num with rfl | hnum
  · obtain rfl : num' = 0 := by
      rw [Nat.zero_mul] at h
      exact (Nat.mul_eq_zero.mp h.symm).resolve_right hden.ne'
    rfl
  · have hnum' : 0 < num' := Nat.pos_of_mul_pos_right (h ▸ Nat.mul_pos hnum hden')
    have hpower : ∀ (n p : Nat), 0 < n → 0 < n <<< p := by
      intro n p hn
      rw [Nat.shiftLeft_eq]
      exact Nat.mul_pos hn (Nat.two_pow_pos p)
    simp only [round, if_neg hnum.ne', if_neg hnum'.ne', quotientLog_congr hnum hden hden' h]
    congr 2
    apply divNearestEven_congr (hpower _ _ hden) (hpower _ _ hden')
    rw [Nat.shiftLeft_eq, Nat.shiftLeft_eq, Nat.shiftLeft_eq, Nat.shiftLeft_eq,
      Nat.mul_mul_mul_comm, h, Nat.mul_mul_mul_comm]

theorem convert_of_value {bits n : Nat} (hfinite : bits < f.infinity) (hvalue : f.value bits = n) :
    f.convert g bits = g.round n 1 := by
  rw [convert_of_lt hfinite]
  have hden : 0 < 1 <<< (-f.place bits).toNat := by
    rw [Nat.shiftLeft_eq, Nat.one_mul]
    exact Nat.two_pow_pos _
  refine round_congr hden Nat.one_pos ?_
  have hquotient := (value_eq_quotient f bits).trans hvalue
  rw [div_eq_iff (by positivity)] at hquotient
  rw [Nat.mul_one]
  exact_mod_cast hquotient

theorem round_le_infinity (f : Format) (num den : Nat) : f.round num den ≤ f.infinity := by
  unfold round
  split
  · exact Nat.zero_le _
  · exact min_le_left _ _

theorem round_integer {n j k : Nat} (hj : f.leastPlace + j = k)
    (hlow : 2 ^ (f.fractionBits + k) ≤ n) (hhigh : n ≤ 2 ^ (f.fractionBits + k + 1)) :
    f.round n 1 = min f.infinity (j <<< f.fractionBits + divNearestEven n (2 ^ k)) := by
  have hn : 0 < n := Nat.lt_of_lt_of_le (Nat.two_pow_pos _) hlow
  -- Rounding in the place of the number itself.
  have hround : ∀ {j k : Nat}, f.leastPlace + j = k → n.log2 = f.fractionBits + k →
      f.round n 1 = min f.infinity (j <<< f.fractionBits + divNearestEven n (2 ^ k)) := by
    intro j k hj hlog
    have hquotient : quotientLog n 1 = n.log2 :=
      (quotientLog_scaled hn.ne' 0).trans (Int.add_zero _)
    have hplace : max f.leastPlace (quotientLog n 1 - f.fractionBits) = k := by omega
    have hindex : ((k : Int) - f.leastPlace).toNat = j := by omega
    have hdown : (-(k : Int)).toNat = 0 := by omega
    simp only [round, if_neg hn.ne', hplace, hindex, hdown, Int.toNat_natCast, Nat.shiftLeft_zero,
      Nat.shiftLeft_eq 1, Nat.one_mul]
  rcases Nat.lt_or_eq_of_le hhigh with hlt | rfl
  · exact hround hj ((Nat.log2_eq_iff hn.ne').mpr ⟨hlow, hlt⟩)
  · have hnext : f.leastPlace + ((j + 1 : Nat) : Int) = ((k + 1 : Nat) : Int) := by omega
    have hsteps : ∀ a b : Nat, divNearestEven (2 ^ (a + b)) (2 ^ b) = 2 ^ a := by
      intro a b
      rw [Nat.pow_add]
      exact divNearestEven_mul _ (Nat.two_pow_pos b)
    have hsplit : f.fractionBits + k + 1 = f.fractionBits + 1 + k := by omega
    rw [hround hnext Nat.log2_two_pow, Nat.add_assoc, hsteps, ← Nat.add_assoc, hsplit, hsteps,
      Nat.shiftLeft_eq, Nat.shiftLeft_eq]
    congr 1
    ring

end Format

/-- The number lies so close to the middle between two neighbors in the coarse grid that the nearest
one in the fine grid is this middle, and it lies on the side of the neighbor that is odd. -/
def Straddles (coarse fine n : Nat) : Prop :=
  coarse ≤ 2 * (n % coarse) + fine ∧ 2 * (n % coarse) ≤ coarse + fine ∧
    if n / coarse % 2 = 0 then coarse < 2 * (n % coarse) else 2 * (n % coarse) < coarse

instance (coarse fine n : Nat) : Decidable (Straddles coarse fine n) :=
  inferInstanceAs (Decidable (_ ∧ _ ∧ _))

theorem divNearestEven_mul_add {den rest : Nat} (q : Nat) (hden : 0 < den) (hrest : rest ≤ den) :
    divNearestEven (den * q + rest) den =
      if 2 * rest < den then q else if den < 2 * rest then q + 1 else q + q % 2 := by
  rcases Nat.lt_or_eq_of_le hrest with hlt | rfl
  · unfold divNearestEven
    rw [Nat.mul_add_div hden, Nat.div_eq_of_lt hlt, Nat.mul_add_mod, Nat.mod_eq_of_lt hlt,
      Nat.add_zero]
  · have hnext : rest * q + rest = (q + 1) * rest := by ring
    have hless : ¬ 2 * rest < rest := by omega
    have hmore : rest < 2 * rest := by omega
    rw [hnext, divNearestEven_mul _ hden, if_neg hless, if_pos hmore]

theorem exists_divNearestEven_add {base a b den : Nat} (hbase : base % 2 = 0) (hb : b < den) :
    ∃ s, divNearestEven (den * (base + a) + b) den = base + s ∧
      ((s = a ∧ (2 * b < den ∨ 2 * b = den ∧ a % 2 = 0)) ∨
        (s = a + 1 ∧ (den < 2 * b ∨ 2 * b = den ∧ a % 2 = 1))) := by
  rw [divNearestEven_mul_add _ (by omega) hb.le]
  split
  · exact ⟨a, rfl, .inl ⟨rfl, by omega⟩⟩
  · split
    · exact ⟨a + 1, rfl, .inr ⟨rfl, by omega⟩⟩
    · rcases Nat.mod_two_eq_zero_or_one a with hzero | hone
      · exact ⟨a, by omega, .inl ⟨rfl, by omega⟩⟩
      · exact ⟨a + 1, by omega, .inr ⟨rfl, by omega⟩⟩

/-- Rounding to the fine grid first makes a difference only for numbers that straddle.  The middle
between two neighbors in the coarse grid is an even number in the fine one. -/
theorem divNearestEven_twice (n : Nat) {half fine : Nat} (hfine : 0 < fine) (heven : half % 2 = 0)
    (hhalf : 0 < half) :
    divNearestEven (divNearestEven n fine * fine) (2 * half * fine) =
        divNearestEven n (2 * half * fine) ↔
      ¬ Straddles (2 * half * fine) fine n := by
  have hcoarse : 0 < 2 * half * fine := Nat.mul_pos (by omega) hfine
  have hdivision := Nat.div_add_mod n (2 * half * fine)
  have hrest := Nat.mod_lt n hcoarse
  unfold Straddles
  generalize n / (2 * half * fine) = q at hdivision ⊢
  generalize n % (2 * half * fine) = r at hdivision hrest ⊢
  -- The place in the fine grid.
  have hdivision' := Nat.div_add_mod r fine
  have hb := Nat.mod_lt r hfine
  have ha : r / fine < 2 * half := (Nat.div_lt_iff_lt_mul hfine).mpr hrest
  generalize r / fine = a at hdivision' ha
  generalize r % fine = b at hdivision' hb
  have hn : n = fine * (2 * half * q + a) + b := by
    rw [← hdivision, ← hdivision']
    ring
  have hbase : 2 * half * q % 2 = 0 := by
    rw [Nat.mul_assoc, Nat.mul_mod_right]
  obtain ⟨s, hs, hcases⟩ := exists_divNearestEven_add (a := a) hbase hb
  rw [← hn] at hs
  have hsteps : s ≤ 2 * half := by omega
  rw [hs, divNearestEven_mul_right _ _ hfine, divNearestEven_mul_add q (by omega) hsteps,
    ← hdivision, divNearestEven_mul_add q hcoarse hrest.le]
  have hsplit : 2 * half * fine = 2 * (fine * half) := by ring
  rw [hsplit]
  -- The middle is at `half` in the fine grid, and only its neighbors are rounded to it.
  have hplaces : a + 2 ≤ half ∨ a + 1 = half ∨ a = half ∨ half + 1 ≤ a := by omega
  rcases hplaces with hfar | hbelow | hat | habove
  · have hproduct : fine * (a + 2) ≤ fine * half := Nat.mul_le_mul_left fine hfar
    rw [Nat.mul_add] at hproduct
    split_ifs <;> omega
  · have hproduct : fine * (a + 1) = fine * half := by rw [hbelow]
    rw [Nat.mul_add] at hproduct
    split_ifs <;> omega
  · have hproduct : fine * a = fine * half := by rw [hat]
    split_ifs <;> omega
  · have hproduct : fine * (half + 1) ≤ fine * a := Nat.mul_le_mul_left fine habove
    rw [Nat.mul_add] at hproduct
    split_ifs <;> omega

/-- What the last digit of a significand is worth in integers with as many digits as this one. -/
def unitOf (f : Format) (n : Nat) : Nat := 2 ^ (n.log2 - f.fractionBits)

theorem unitOf_double_of_short {n : Nat} (h : n.log2 ≤ 52) : unitOf double n = 1 := by
  show 2 ^ (n.log2 - 52) = 1
  rw [Nat.sub_eq_zero_of_le h, Nat.pow_zero]

theorem divNearestEven_one (n : Nat) : divNearestEven n 1 = n := by
  have hwhole := divNearestEven_mul n Nat.one_pos
  rwa [Nat.mul_one] at hwhole

theorem steps_of_bounds {n a k : Nat} (hlow : 2 ^ (a + k) ≤ n) (hhigh : n ≤ 2 ^ (a + k + 1)) :
    2 ^ a ≤ divNearestEven n (2 ^ k) ∧ divNearestEven n (2 ^ k) ≤ 2 ^ (a + 1) := by
  have hunit := Nat.two_pow_pos k
  rw [Nat.add_right_comm] at hhigh
  rcases Nat.lt_or_eq_of_le hhigh with hlt | rfl
  · obtain ⟨hfloor, hceil⟩ := divNearestEven_bounds n (2 ^ k)
    have hquotient : 2 ^ a ≤ n / 2 ^ k := by
      rwa [Nat.le_div_iff_mul_le hunit, ← Nat.pow_add]
    have hquotient' : n / 2 ^ k < 2 ^ (a + 1) := by
      rwa [Nat.div_lt_iff_lt_mul hunit, ← Nat.pow_add]
    exact ⟨by omega, by omega⟩
  · rw [Nat.pow_add, divNearestEven_mul _ hunit]
    exact ⟨Nat.pow_le_pow_right (by decide) (Nat.le_succ a), Nat.le_refl _⟩

theorem value_double_round {n : Nat} (hn : 0 < n) (hlog : n.log2 < 1023) :
    double.round n 1 < double.infinity ∧ double.value (double.round n 1) =
      (divNearestEven n (unitOf double n) * unitOf double n : Nat) := by
  have hinfinity : double.infinity = 2047 * 2 ^ 52 := rfl
  have hleast : double.leastPlace = -1074 := rfl
  rcases Nat.le_total n.log2 52 with hshort | hlong
  · obtain ⟨up, hup⟩ : ∃ up, n.log2 + up = double.fractionBits :=
      ⟨52 - n.log2, Nat.add_sub_of_le hshort⟩
    have hle : up ≤ 52 := Nat.le_of_add_left_le hup.le
    obtain ⟨k, hk⟩ : ∃ k : Nat, double.leastPlace + k = (0 : Int) - up := ⟨1074 - up, by omega⟩
    obtain ⟨hlead, hbound⟩ := Format.shiftLeft_bounds hn.ne' hup
    have hround : double.round n 1 =
        min double.infinity (k <<< double.fractionBits + n <<< up) :=
      Format.round_up hn.ne' hup hk
    have hindex : k <<< double.fractionBits = k * 2 ^ 52 := Nat.shiftLeft_eq ..
    have hfinite : k <<< double.fractionBits + n <<< up < double.infinity := by
      have hroom : n <<< up < 2 ^ 53 := hbound
      omega
    rw [hround, min_eq_right hfinite.le, Format.value_add hbound.le (.inr hlead), hk,
      unitOf_double_of_short hshort, divNearestEven_one, Nat.mul_one, shiftLeft_cast, zero_sub,
      zpow_neg, zpow_natCast]
    exact ⟨hfinite, mul_inv_cancel_right₀ (by positivity) _⟩
  · obtain ⟨k, hk⟩ : ∃ k, n.log2 = double.fractionBits + k := Nat.exists_eq_add_of_le hlong
    have hbits : n.log2 = 52 + k := hk
    obtain ⟨hlow, hhigh⟩ := (Nat.log2_eq_iff hn.ne').mp hk
    obtain ⟨hlead, hsteps⟩ := steps_of_bounds hlow hhigh.le
    have hj : double.leastPlace + ((k + 1074 : Nat) : Int) = k := by omega
    have hindex : (k + 1074) <<< double.fractionBits = (k + 1074) * 2 ^ 52 := Nat.shiftLeft_eq ..
    have hfinite : (k + 1074) <<< double.fractionBits + divNearestEven n (2 ^ k) <
        double.infinity := by
      have hroom : divNearestEven n (2 ^ k) ≤ 2 ^ 53 := hsteps
      omega
    have hunit : unitOf double n = 2 ^ k := by
      rw [unitOf, hk, Nat.add_sub_cancel_left]
    rw [Format.round_integer hj hlow hhigh.le, min_eq_right hfinite.le,
      Format.value_add hsteps (.inr hlead), hj, hunit, zpow_natCast]
    exact ⟨hfinite, by push_cast; rfl⟩

theorem round_single {n k : Nat} (hlow : 2 ^ (23 + k) ≤ n) (hhigh : n ≤ 2 ^ (23 + k + 1)) :
    single.round n 1 =
      min single.infinity ((k + 149) * 2 ^ 23 + divNearestEven n (2 ^ k)) := by
  have hj : single.leastPlace + ((k + 149 : Nat) : Int) = k := by
    show (-149 : Int) + _ = _
    omega
  have hindex : (k + 149) <<< single.fractionBits = (k + 149) * 2 ^ 23 := Nat.shiftLeft_eq ..
  rw [Format.round_integer hj hlow hhigh, hindex]

theorem round_single_of_large {n : Nat} (h : 128 ≤ n.log2) :
    single.round n 1 = single.infinity := by
  have hn : n ≠ 0 := by
    rintro rfl
    cases h
  obtain ⟨k, hk⟩ : ∃ k, n.log2 = 23 + k := Nat.exists_eq_add_of_le (by omega)
  obtain ⟨hlow, hhigh⟩ := (Nat.log2_eq_iff hn).mp hk
  have hlead := (steps_of_bounds hlow hhigh.le).1
  have hinfinity : single.infinity = 255 * 2 ^ 23 := rfl
  rw [round_single hlow hhigh.le]
  exact min_eq_left (by omega)

theorem convert_of_large {bits : Nat} (h : 1151 * 2 ^ 52 ≤ bits) (hbits : bits ≤ double.infinity) :
    double.convert single bits = single.infinity := by
  rcases Nat.lt_or_eq_of_le hbits with hlt | rfl
  · have hplace : double.place bits = -1074 + ((bits / 2 ^ 52 - 1 : Nat) : Int) :=
      Format.place_eq ..
    have hlead : 2 ^ 52 ≤ double.significand bits := by
      have hnormal : ¬ bits < 2 ^ double.fractionBits := by
        show ¬ bits < 2 ^ 52
        omega
      rw [Format.significand_eq, if_neg hnormal]
      exact Nat.le_add_right _ _
    obtain ⟨up, hup⟩ : ∃ up : Nat, double.place bits = ((76 + up : Nat) : Int) :=
      ⟨(double.place bits).toNat - 76, by omega⟩
    have hdown : (-((76 + up : Nat) : Int)).toNat = 0 := by omega
    rw [Format.convert_of_lt hlt, hup, Int.toNat_natCast, hdown]
    refine round_single_of_large ?_
    have hne : double.significand bits ≠ 0 := by omega
    have hlog := (Nat.le_log2 hne).mpr hlead
    rw [log2_shiftLeft hne]
    omega
  · rw [Format.convert, if_neg (Nat.lt_irrefl _), if_pos rfl]

theorem convert_double_of_large {n : Nat} (h : 128 ≤ n.log2) :
    double.convert single (double.round n 1) = single.infinity := by
  have hn : n ≠ 0 := by
    rintro rfl
    cases h
  obtain ⟨k, hk⟩ : ∃ k, n.log2 = 52 + k := Nat.exists_eq_add_of_le (by omega)
  obtain ⟨hlow, hhigh⟩ := (Nat.log2_eq_iff hn).mp hk
  have hlead := (steps_of_bounds hlow hhigh.le).1
  have hinfinity : double.infinity = 2047 * 2 ^ 52 := rfl
  have hj : double.leastPlace + ((k + 1074 : Nat) : Int) = k := by
    show (-1074 : Int) + _ = _
    omega
  have hindex : (k + 1074) <<< double.fractionBits = (k + 1074) * 2 ^ 52 := Nat.shiftLeft_eq ..
  rw [Format.round_integer hj hlow hhigh.le, hindex]
  exact convert_of_large (by omega) (min_le_left _ _)

/-- The integer has more digits than a double has room for, is in the range of the singles, and is
near the middle between two of them. -/
def RoundsTwice (n : Nat) : Prop :=
  53 ≤ n.log2 ∧ n.log2 < 128 ∧ Straddles (unitOf single n) (unitOf double n) n

instance : DecidablePred RoundsTwice := fun _ => inferInstanceAs (Decidable (_ ∧ _ ∧ _))

/-- Rounding to a double first makes a difference for these integers only. -/
theorem convert_double_round (n : Nat) :
    double.convert single (double.round n 1) = single.round n 1 ↔ ¬ RoundsTwice n := by
  unfold RoundsTwice
  rcases Nat.eq_zero_or_pos n with rfl | hn
  · decide
  rcases Nat.lt_or_ge n.log2 128 with hsmall | hlarge
  · obtain ⟨hfinite, hvalue⟩ := value_double_round hn (by omega)
    rw [Format.convert_of_value hfinite hvalue]
    rcases Nat.lt_or_ge n.log2 53 with hshort | hlong
    · rw [unitOf_double_of_short (by omega), Nat.mul_one, divNearestEven_one]
      exact iff_of_true rfl fun h => by omega
    · -- The double lies between the same powers of two, in the grid of the singles there.
      obtain ⟨k, hk⟩ : ∃ k, n.log2 = 52 + k := Nat.exists_eq_add_of_le (by omega)
      have hfine : unitOf double n = 2 ^ k := by
        show 2 ^ (n.log2 - 52) = 2 ^ k
        rw [hk, Nat.add_sub_cancel_left]
      have hcoarse : unitOf single n = 2 ^ (k + 29) := by
        show 2 ^ (n.log2 - 23) = 2 ^ (k + 29)
        congr 1
        omega
      have hgrid : 2 ^ (k + 29) = 2 * 2 ^ 28 * 2 ^ k := by ring
      obtain ⟨hlow, hhigh⟩ := (Nat.log2_eq_iff hn.ne').mp hk
      obtain ⟨hlead, hsteps⟩ := steps_of_bounds hlow hhigh.le
      have hlow' : 2 ^ (23 + (k + 29)) ≤ divNearestEven n (2 ^ k) * 2 ^ k := by
        calc 2 ^ (23 + (k + 29)) = 2 ^ 52 * 2 ^ k := by ring
          _ ≤ divNearestEven n (2 ^ k) * 2 ^ k := Nat.mul_le_mul_right _ hlead
      have hhigh' : divNearestEven n (2 ^ k) * 2 ^ k ≤ 2 ^ (23 + (k + 29) + 1) := by
        calc divNearestEven n (2 ^ k) * 2 ^ k ≤ 2 ^ (52 + 1) * 2 ^ k :=
              Nat.mul_le_mul_right _ hsteps
          _ = 2 ^ (23 + (k + 29) + 1) := by ring
      have hsplit : 52 + k = 23 + (k + 29) := by omega
      rw [hsplit] at hlow hhigh
      have hinfinity : single.infinity = 255 * 2 ^ 23 := rfl
      have hroom := (steps_of_bounds hlow hhigh.le).2
      have hroom' := (steps_of_bounds hlow' hhigh').2
      have htwice := divNearestEven_twice n (Nat.two_pow_pos k)
        (show 2 ^ 28 % 2 = 0 by decide) (Nat.two_pow_pos 28)
      rw [hfine, round_single hlow' hhigh', round_single hlow hhigh.le,
        min_eq_right (by omega), min_eq_right (by omega), Nat.add_left_cancel_iff, hcoarse, hgrid,
        htwice]
      have hrange : 53 ≤ n.log2 ∧ n.log2 < 128 := ⟨hlong, hsmall⟩
      simp only [hrange, true_and]
  · rw [convert_double_of_large hlarge, round_single_of_large hlarge]
    exact iff_of_true rfl fun h => by omega

theorem toNat_toBits_double {pattern : Nat} (hpattern : pattern < 2 ^ 64)
    (h : pattern % double.signBit ≤ double.infinity) :
    (Float.ofBits (.ofNat pattern)).toBits.toNat = pattern := by
  have hword : (UInt64.ofNat pattern).toNat = pattern := UInt64.toNat_ofNat_of_lt' hpattern
  rcases Nat.lt_or_eq_of_le h with hlt | heq
  · rw [toBits_ofBits_double (by rwa [hword]), hword]
  · have hsignBit : double.signBit = 9223372036854775808 := rfl
    have hinfinity : double.infinity = 9218868437227405312 := rfl
    rw [hsignBit, hinfinity] at heq
    have hcases : pattern = 9218868437227405312 ∨ pattern = 18442240474082181120 := by omega
    rcases hcases with rfl | rfl <;> decide +kernel

theorem toNat_toBits_single {pattern : Nat} (hpattern : pattern < 2 ^ 32)
    (h : pattern % single.signBit ≤ single.infinity) :
    (Float32.ofBits (.ofNat pattern)).toBits.toNat = pattern := by
  have hword : (UInt32.ofNat pattern).toNat = pattern := UInt32.toNat_ofNat_of_lt' hpattern
  rcases Nat.lt_or_eq_of_le h with hlt | heq
  · rw [toBits_ofBits_single (by rwa [hword]), hword]
  · have hsignBit : single.signBit = 2147483648 := rfl
    have hinfinity : single.infinity = 2139095040 := rfl
    rw [hsignBit, hinfinity] at heq
    have hcases : pattern = 2139095040 ∨ pattern = 4286578688 := by omega
    rcases hcases with rfl | rfl <;> decide +kernel

theorem ofInt_parts (f : Format) (hf : f.infinity < f.signBit) (n : Int) :
    f.ofInt n / f.signBit = (if n < 0 then 1 else 0) ∧
      f.ofInt n % f.signBit = f.round n.natAbs 1 := by
  have hround := (f.round_le_infinity n.natAbs 1).trans_lt hf
  unfold Format.ofInt
  split
  · rw [Nat.add_div_left _ (by omega), Nat.div_eq_of_lt hround, Nat.add_mod_left,
      Nat.mod_eq_of_lt hround]
    exact ⟨rfl, rfl⟩
  · rw [Nat.zero_add, Nat.div_eq_of_lt hround, Nat.mod_eq_of_lt hround]
    exact ⟨rfl, rfl⟩

theorem convert_double_le {bits : Nat} (h : bits ≤ double.infinity) :
    double.convert single bits ≤ single.infinity := by
  unfold Format.convert
  rcases Nat.lt_or_eq_of_le h with hlt | heq
  · rw [if_pos hlt]
    exact single.round_le_infinity _ _
  · rw [if_neg (by omega), if_pos heq]

theorem toNat_toBits_doubleOfInt (n : Int) : (doubleOfInt n).toBits.toNat = double.ofInt n := by
  have hsignBit : double.signBit = 2 ^ 63 := rfl
  have hinfinity : double.infinity < double.signBit := by decide
  obtain ⟨hsign, hmagnitude⟩ := ofInt_parts double hinfinity n
  refine toNat_toBits_double ?_ (hmagnitude.trans_le (double.round_le_infinity n.natAbs 1))
  have hround := double.round_le_infinity n.natAbs 1
  rw [hsignBit] at hsign
  split at hsign <;> omega

theorem narrow_doubleOfInt_iff (n : Int) :
    narrow (doubleOfInt n) = singleOfInt n ↔ ¬ RoundsTwice n.natAbs := by
  have hsingleBit : single.signBit = 2 ^ 31 := rfl
  have hsingleInfinity : single.infinity < 2 ^ 31 := by decide
  have hdoubleInfinity : double.infinity < 2 ^ 63 := by decide
  have hround := double.round_le_infinity n.natAbs 1
  have hround' := single.round_le_infinity n.natAbs 1
  have hconvert := convert_double_le hround
  obtain ⟨hsign, hmagnitude⟩ := ofInt_parts double hdoubleInfinity n
  obtain ⟨hsign', hmagnitude'⟩ := ofInt_parts single hsingleInfinity n
  have hpattern : double.convertSigned single (doubleOfInt n).toBits.toNat =
      (if n < 0 then 1 else 0) * 2 ^ 31 + double.convert single (double.round n.natAbs 1) := by
    rw [toNat_toBits_doubleOfInt, Format.convertSigned, hsign, hmagnitude]
    rfl
  have hpattern' : single.ofInt n =
      (if n < 0 then 1 else 0) * 2 ^ 31 + single.round n.natAbs 1 := by
    rw [← Nat.div_add_mod (single.ofInt n) single.signBit, hsign', hmagnitude', Nat.mul_comm]
    rfl
  have hbits : ∀ {magnitude : Nat}, magnitude ≤ single.infinity →
      (Float32.ofBits (.ofNat ((if n < 0 then 1 else 0) * 2 ^ 31 + magnitude))).toBits.toNat =
        (if n < 0 then 1 else 0) * 2 ^ 31 + magnitude := by
    intro magnitude hle
    apply toNat_toBits_single
    · split <;> omega
    · rw [hsingleBit, Nat.mul_add_mod_self_right, Nat.mod_eq_of_lt (by omega)]
      exact hle
  rw [← convert_double_round, narrow, singleOfInt, hpattern, hpattern']
  constructor
  · intro h
    have heq := congrArg (fun x : Float32 => x.toBits.toNat) h
    rw [hbits hconvert, hbits hround'] at heq
    exact Nat.add_left_cancel heq
  · intro h
    rw [h]

end RigidWorlds.Binary
