import Mathlib.Tactic.Ring
import RigidWorlds.Binary.Convert

/-!
Conversions between formats.  Every finite single is a double, so its magnitude bits come back
unchanged from the wider format.
-/

namespace RigidWorlds.Binary

theorem log2_shiftLeft {s : Nat} (hs : s ≠ 0) (k : Nat) : (s <<< k).log2 = s.log2 + k := by
  have hpositive : s <<< k ≠ 0 := mt Nat.shiftLeft_eq_zero_iff.mp hs
  have hlow := Nat.log2_self_le hs
  have hhigh : s < 2 ^ (s.log2 + 1) := Nat.lt_log2_self
  rw [Nat.log2_eq_iff hpositive, Nat.shiftLeft_eq]
  constructor
  · rw [Nat.pow_add]
    exact Nat.mul_le_mul_right _ hlow
  · rw [Nat.add_right_comm, Nat.pow_add]
    exact Nat.mul_lt_mul_of_pos_right hhigh (Nat.two_pow_pos k)

theorem quotientLog_scaled {s : Nat} (hs : s ≠ 0) (p : Int) :
    quotientLog (s <<< p.toNat) (1 <<< (-p).toNat) = s.log2 + p := by
  have hguess : ((s.log2 + p.toNat : Nat) : Int) - ((1 : Nat).log2 + (-p).toNat : Nat) =
      s.log2 + p := by
    have hone : (1 : Nat).log2 = 0 := by decide
    omega
  unfold quotientLog
  rw [log2_shiftLeft hs, log2_shiftLeft Nat.one_ne_zero, hguess]
  apply if_pos
  have hexponents : (-p).toNat + ((s.log2 : Int) + p).toNat =
      s.log2 + (p.toNat + (-((s.log2 : Int) + p)).toNat) := by
    omega
  rw [← Nat.shiftLeft_add, ← Nat.shiftLeft_add, Nat.shiftLeft_eq, Nat.shiftLeft_eq, Nat.one_mul,
    hexponents, Nat.pow_add]
  exact Nat.mul_le_mul_right _ (Nat.log2_self_le hs)

theorem divNearestEven_mul (q : Nat) {den : Nat} (hden : 0 < den) :
    divNearestEven (q * den) den = q := by
  simp only [divNearestEven, Nat.mul_mod_left, Nat.mul_zero, Nat.mul_div_cancel q hden]
  exact if_pos hden

theorem scale_eq {s q : Nat} {p place : Int}
    (h : s <<< (p - place).toNat = q <<< (place - p).toNat) :
    (s <<< p.toNat) <<< (-place).toNat = q * ((1 <<< (-p).toNat) <<< place.toNat) := by
  obtain ⟨t, hnum, hden⟩ : ∃ t, p.toNat + (-place).toNat = (p - place).toNat + t ∧
      (-p).toNat + place.toNat = (place - p).toNat + t :=
    ⟨p.toNat + (-place).toNat - (p - place).toNat, by omega, by omega⟩
  calc (s <<< p.toNat) <<< (-place).toNat
      = (s <<< (p - place).toNat) <<< t := by
        rw [← Nat.shiftLeft_add, hnum, Nat.shiftLeft_add]
    _ = (q <<< (place - p).toNat) <<< t := by rw [h]
    _ = q * ((1 <<< (-p).toNat) <<< place.toNat) := by
        rw [← Nat.shiftLeft_add, ← Nat.shiftLeft_add, hden, Nat.shiftLeft_eq, Nat.shiftLeft_eq,
          Nat.one_mul]

namespace Format

variable {f : Format}

theorem round_exact {s q : Nat} {p place : Int} (hs : s ≠ 0)
    (hplace : max f.leastPlace (s.log2 + p - f.fractionBits) = place)
    (hq : s <<< (p - place).toNat = q <<< (place - p).toNat) :
    f.round (s <<< p.toNat) (1 <<< (-p).toNat) =
      min f.infinity ((place - f.leastPlace).toNat <<< f.fractionBits + q) := by
  have hpositive : s <<< p.toNat ≠ 0 := mt Nat.shiftLeft_eq_zero_iff.mp hs
  have hden : 0 < (1 <<< (-p).toNat) <<< place.toNat := by
    rw [← Nat.shiftLeft_add, Nat.shiftLeft_eq, Nat.one_mul]
    exact Nat.two_pow_pos _
  simp only [round, if_neg hpositive, quotientLog_scaled hs, hplace, scale_eq hq,
    divNearestEven_mul q hden]

theorem place_eq (f : Format) (bits : Nat) :
    f.place bits = f.leastPlace + ((bits / 2 ^ f.fractionBits - 1 : Nat) : Int) := by
  rw [place, Nat.shiftRight_eq_div_pow]

theorem significand_eq (f : Format) (bits : Nat) :
    f.significand bits =
      if bits < 2 ^ f.fractionBits then bits
      else 2 ^ f.fractionBits + bits % 2 ^ f.fractionBits := by
  simp only [significand, Nat.shiftLeft_eq, Nat.one_mul]
  split
  · rename_i hlt
    exact Nat.mod_eq_of_lt hlt
  · rfl

theorem le_place (f : Format) (bits : Nat) : f.leastPlace ≤ f.place bits := by
  rw [place_eq]
  omega

theorem compose (f : Format) (bits : Nat) :
    (f.place bits - f.leastPlace).toNat <<< f.fractionBits + f.significand bits = bits := by
  have hplace : (f.place bits - f.leastPlace).toNat = bits / 2 ^ f.fractionBits - 1 := by
    rw [place_eq]
    omega
  rw [hplace, Nat.shiftLeft_eq, significand_eq]
  split
  · rename_i hlt
    rw [Nat.div_eq_of_lt hlt, Nat.zero_sub, Nat.zero_mul, Nat.zero_add]
  · rename_i hge
    have hquotient : 1 ≤ bits / 2 ^ f.fractionBits :=
      (Nat.one_le_div_iff (Nat.two_pow_pos _)).mpr (Nat.not_lt.mp hge)
    obtain ⟨k, hk⟩ := Nat.exists_eq_add_of_le hquotient
    have hdivision := Nat.div_add_mod bits (2 ^ f.fractionBits)
    rw [hk, Nat.mul_add, Nat.mul_one] at hdivision
    rw [hk, Nat.add_sub_cancel_left, Nat.mul_comm]
    omega

theorem significand_lt (f : Format) (bits : Nat) :
    f.significand bits < 2 ^ (f.fractionBits + 1) := by
  have hfraction := Nat.mod_lt bits (Nat.two_pow_pos f.fractionBits)
  rw [significand_eq, Nat.pow_succ]
  split <;> omega

theorem place_eq_or_le (f : Format) (bits : Nat) :
    f.place bits = f.leastPlace ∨ 2 ^ f.fractionBits ≤ f.significand bits := by
  rw [place_eq, significand_eq]
  split
  · rename_i hlt
    rw [Nat.div_eq_of_lt hlt]
    exact .inl (Int.add_zero _)
  · exact .inr (Nat.le_add_right _ _)

theorem canonical_place {bits : Nat} (hs : f.significand bits ≠ 0) :
    max f.leastPlace ((f.significand bits).log2 + f.place bits - f.fractionBits) =
      f.place bits := by
  have hle := f.le_place bits
  have hlog : (f.significand bits).log2 < f.fractionBits + 1 :=
    (Nat.log2_lt hs).mpr (f.significand_lt bits)
  rcases f.place_eq_or_le bits with hplace | hlead
  · omega
  · have hlog' : f.fractionBits ≤ (f.significand bits).log2 := (Nat.le_log2 hs).mpr hlead
    omega

theorem decompose {k q : Nat} (hlow : 2 ^ f.fractionBits ≤ q)
    (hhigh : q < 2 ^ (f.fractionBits + 1)) :
    f.place (k <<< f.fractionBits + q) = f.leastPlace + k ∧
      f.significand (k <<< f.fractionBits + q) = q := by
  obtain ⟨r, rfl⟩ := Nat.exists_eq_add_of_le hlow
  have hr : r < 2 ^ f.fractionBits := by
    rw [Nat.pow_succ] at hhigh
    omega
  have hbits : k <<< f.fractionBits + (2 ^ f.fractionBits + r) =
      2 ^ f.fractionBits * (k + 1) + r := by
    rw [Nat.shiftLeft_eq]
    ring
  have hnormal : ¬ 2 ^ f.fractionBits * (k + 1) + r < 2 ^ f.fractionBits := by
    rw [Nat.mul_add, Nat.mul_one]
    omega
  rw [place_eq, significand_eq, hbits, if_neg hnormal, Nat.mul_add_div (Nat.two_pow_pos _),
    Nat.div_eq_of_lt hr, Nat.mul_add_mod, Nat.mod_eq_of_lt hr]
  exact ⟨by omega, rfl⟩

theorem shiftLeft_bounds {s up n : Nat} (hs : s ≠ 0) (hup : s.log2 + up = n) :
    2 ^ n ≤ s <<< up ∧ s <<< up < 2 ^ (n + 1) := by
  have hpositive : s <<< up ≠ 0 := mt Nat.shiftLeft_eq_zero_iff.mp hs
  have hlog : (s <<< up).log2 = n := (log2_shiftLeft hs up).trans hup
  exact (Nat.log2_eq_iff hpositive).mp hlog

theorem round_up {s up k : Nat} {p : Int} (hs : s ≠ 0) (hup : s.log2 + up = f.fractionBits)
    (hk : f.leastPlace + k = p - up) :
    f.round (s <<< p.toNat) (1 <<< (-p).toNat) =
      min f.infinity (k <<< f.fractionBits + s <<< up) := by
  have hplace : max f.leastPlace (s.log2 + p - f.fractionBits) = f.leastPlace + k := by omega
  have hq : s <<< (p - (f.leastPlace + k)).toNat =
      (s <<< up) <<< (f.leastPlace + k - p).toNat := by
    have hleft : (p - (f.leastPlace + k)).toNat = up := by omega
    have hright : (f.leastPlace + k - p).toNat = 0 := by omega
    rw [hleft, hright, Nat.shiftLeft_zero]
  have hindex : (f.leastPlace + k - f.leastPlace).toNat = k := by omega
  rw [round_exact hs hplace hq, hindex]

theorem round_back {bits : Nat} (h : bits < f.infinity) (hs : f.significand bits ≠ 0) {up : Nat}
    {p : Int} (hp : p = f.place bits - up) :
    f.round ((f.significand bits <<< up) <<< p.toNat) (1 <<< (-p).toNat) = bits := by
  have hpositive : f.significand bits <<< up ≠ 0 := mt Nat.shiftLeft_eq_zero_iff.mp hs
  have hplace : max f.leastPlace ((f.significand bits <<< up).log2 + p - f.fractionBits) =
      f.place bits := by
    have hcanonical := f.canonical_place hs
    rw [log2_shiftLeft hs]
    omega
  have hq : (f.significand bits <<< up) <<< (p - f.place bits).toNat =
      f.significand bits <<< (f.place bits - p).toNat := by
    have hleft : (p - f.place bits).toNat = 0 := by omega
    have hright : (f.place bits - p).toNat = up := by omega
    rw [hleft, hright, Nat.shiftLeft_zero]
  rw [round_exact hpositive hplace hq, f.compose]
  exact min_eq_right (Nat.le_of_lt h)

theorem convert_of_lt {f g : Format} {bits : Nat} (h : bits < f.infinity) :
    f.convert g bits =
      g.round (f.significand bits <<< (f.place bits).toNat) (1 <<< (-f.place bits).toNat) := by
  rw [convert, if_pos h]

theorem place_single_le {bits : Nat} (h : bits < single.infinity) : single.place bits ≤ 104 := by
  have hbits : bits < 255 * 2 ^ 23 := h
  have hplace : single.place bits = -149 + ((bits / 2 ^ 23 - 1 : Nat) : Int) := place_eq ..
  omega

theorem exists_wide {bits : Nat} (h : bits < single.infinity) (hs : single.significand bits ≠ 0) :
    ∃ up k : Nat, double.leastPlace + k = single.place bits - up ∧
      2 ^ double.fractionBits ≤ single.significand bits <<< up ∧
      single.significand bits <<< up < 2 ^ (double.fractionBits + 1) ∧
      k <<< double.fractionBits + single.significand bits <<< up < double.infinity ∧
      single.convert double bits = k <<< double.fractionBits + single.significand bits <<< up := by
  have hinfinity : double.infinity = 2047 * 2 ^ 52 := rfl
  have hleast : double.leastPlace = -1074 := rfl
  have hlow : -149 ≤ single.place bits := single.le_place bits
  have hhigh := place_single_le h
  have hlog : (single.significand bits).log2 < 24 := (Nat.log2_lt hs).mpr (significand_lt ..)
  obtain ⟨up, hup⟩ : ∃ up : Nat, (single.significand bits).log2 + up = 52 :=
    ⟨52 - (single.significand bits).log2, by omega⟩
  obtain ⟨k, hk⟩ : ∃ k : Nat, double.leastPlace + k = single.place bits - up :=
    ⟨(single.place bits - up - double.leastPlace).toNat, by omega⟩
  obtain ⟨hlead, hbound⟩ := shiftLeft_bounds hs hup
  have hfinite : k <<< double.fractionBits + single.significand bits <<< up <
      double.infinity := by
    have hindex : k <<< double.fractionBits = k * 2 ^ 52 := Nat.shiftLeft_eq ..
    omega
  refine ⟨up, k, hk, hlead, hbound, hfinite, ?_⟩
  rw [convert_of_lt h, round_up hs hup hk]
  exact min_eq_right (Nat.le_of_lt hfinite)

theorem convert_single {bits : Nat} (h : bits < single.infinity) :
    single.convert double bits < double.infinity ∧
      double.convert single (single.convert double bits) = bits := by
  by_cases hs : single.significand bits = 0
  · have hzero : bits = 0 := by
      rw [significand_eq] at hs
      have hpower := Nat.two_pow_pos single.fractionBits
      split at hs <;> omega
    subst hzero
    decide
  · obtain ⟨up, k, hk, hlead, hbound, hfinite, hwide⟩ := exists_wide h hs
    obtain ⟨hplace, hsignificand⟩ := decompose (f := double) (k := k) hlead hbound
    rw [hwide]
    refine ⟨hfinite, ?_⟩
    rw [convert_of_lt hfinite, hplace, hsignificand]
    exact round_back h hs hk

theorem convertSigned_single {pattern : Nat} (h : pattern % single.signBit < single.infinity) :
    single.convertSigned double pattern % double.signBit < double.infinity ∧
      single.convertSigned double pattern / double.signBit = pattern / single.signBit ∧
        double.convertSigned single (single.convertSigned double pattern) = pattern := by
  obtain ⟨hfinite, hback⟩ := convert_single h
  have hlt : single.convert double (pattern % single.signBit) < double.signBit :=
    Nat.lt_trans hfinite (by decide)
  have hsum : single.convertSigned double pattern =
      double.signBit * (pattern / single.signBit) +
        single.convert double (pattern % single.signBit) := by
    rw [convertSigned, Nat.mul_comm]
  have hrest : single.convertSigned double pattern % double.signBit =
      single.convert double (pattern % single.signBit) := by
    rw [hsum, Nat.mul_add_mod, Nat.mod_eq_of_lt hlt]
  have hsign : single.convertSigned double pattern / double.signBit = pattern / single.signBit := by
    rw [hsum, Nat.mul_add_div (by decide), Nat.div_eq_of_lt hlt]
    rfl
  refine ⟨hrest ▸ hfinite, hsign, ?_⟩
  have hdivision := Nat.div_add_mod pattern single.signBit
  rw [convertSigned, hsign, hrest, hback, Nat.mul_comm]
  exact hdivision

end Format

end RigidWorlds.Binary
