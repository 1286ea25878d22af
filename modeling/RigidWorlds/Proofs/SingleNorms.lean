import RigidWorlds.Geometry.Vector
import RigidWorlds.Proofs.SingleArithmetic

/-!
Norms of plane vectors of singles.  A sum of two squares is never below zero, so its root is a
number if the sum is one.  The exponent of a square is twice that of the number, so the squares of
numbers below the root of the range of the singles can be added and are in range.
-/

namespace RigidWorlds.Binary

open Float.Model Float.Model.UnpackedFloat

/-- What is no number, or a number that is not below zero. -/
def Upward : UnpackedFloat → Prop
  | .infinity s | .finite s .. => s = .positive
  | .notANumber | .zero _ => True

theorem upward_unpack {b : BitVec 32}
    (h : Sign.ofBitVec (@unpackSign .binary32 b) = .positive) :
    Upward (UnpackedFloat.unpack .binary32 b) := by
  unfold UnpackedFloat.unpack
  dsimp only
  split
  · split
    · exact h
    · trivial
  · split
    · split
      · trivial
      · exact h
    · exact h

theorem upward_unpack_pack {u : UnpackedFloat} (h : Upward u) :
    Upward (UnpackedFloat.unpack .binary32 (UnpackedFloat.pack .binary32 u)) := by
  have hcomponents (exponent : BitVec 8) (mantissa : BitVec 23) :
      Upward (UnpackedFloat.unpack .binary32
        (packComponents .binary32 .positive exponent mantissa)) := by
    apply upward_unpack
    rw [unpackSign_packComponents, Sign.ofBitVec_toBitVec]
  rcases u with s | _ | s | ⟨s, m, e, hm⟩
  · obtain rfl : s = .positive := h
    exact hcomponents ..
  · exact hcomponents ..
  · have hzero : UnpackedFloat.unpack .binary32 (UnpackedFloat.pack .binary32 (.zero s)) =
        .zero s := unpack_packedZero
    rw [hzero]
    trivial
  · obtain rfl : s = .positive := h
    unfold UnpackedFloat.pack
    dsimp only
    split
    · exact hcomponents ..
    · split <;> exact hcomponents ..

theorem upward_roundWithAccuracy (m : Nat) (e : Int) (accuracy : Accuracy) :
    Upward (roundWithAccuracy .binary32 .positive m e accuracy) := by
  unfold roundWithAccuracy
  dsimp only
  split <;> trivial

theorem sign_mul_self (s : Sign) : s * s = .positive := by cases s <;> rfl

theorem upward_mul_self (u : UnpackedFloat) :
    Upward (UnpackedFloat.mul .binary32 u u) := by
  rcases u with s | _ | s | ⟨s, m, e, hm⟩
  · exact sign_mul_self s
  · trivial
  · trivial
  · show Upward (roundWithAccuracy .binary32 (s * s) (m * m) (e + e) .exact)
    rw [sign_mul_self]
    exact upward_roundWithAccuracy ..

theorem upward_normalize {mantissa : Int} (h : 0 ≤ mantissa) (e : Int) :
    Upward (UnpackedFloat.normalize .binary32 mantissa e .positive) := by
  unfold UnpackedFloat.normalize
  rcases Int.lt_or_eq_of_le h with hpos | rfl
  · rw [Int.compare_eq_gt.mpr hpos]
    exact upward_roundWithAccuracy ..
  · trivial

theorem upward_add {u v : UnpackedFloat} (hu : Upward u) (hv : Upward v) :
    Upward (UnpackedFloat.add .binary32 u v) := by
  rcases u with s | _ | s | ⟨s, m, e, hm⟩ <;> rcases v with t | _ | t | ⟨t, n, d, hn⟩
  case infinity.infinity =>
    obtain rfl : s = .positive := hu
    obtain rfl : t = .positive := hv
    rfl
  case zero.zero =>
    show Upward (if s == t then .zero s else .zero .positive)
    split <;> trivial
  case finite.finite =>
    obtain rfl : s = .positive := hu
    obtain rfl : t = .positive := hv
    exact upward_normalize (Int.add_nonneg (Int.natCast_nonneg _) (Int.natCast_nonneg _)) _
  all_goals first | exact hu | exact hv

variable {x y : Float32} {place : Int}

theorem le_iff : x ≤ y ↔ (parts x).le (parts y) = true := decide_eq_true_iff

theorem lt_iff : x < y ↔ (parts x).lt (parts y) = true := decide_eq_true_iff

theorem beq_eq (x y : Float32) : (x == y) = (parts x).beq (parts y) := rfl

theorem parts_zero : parts 0 = .zero .positive := rfl

theorem pos_of_parts {m : Nat} {e : Int} {hm : 0 < m} (h : parts x = .finite .positive m e hm) :
    0 < x := by
  rw [lt_iff, h]
  rfl

theorem IsZero.not_pos (h : IsZero x) : ¬ 0 < x := by
  obtain ⟨s, hs⟩ := h
  rw [lt_iff, hs]
  cases s <;> exact Bool.false_ne_true

theorem IsZero.beq (hx : IsZero x) (hy : IsZero y) : (x == y) = true := by
  obtain ⟨s, hs⟩ := hx
  obtain ⟨t, ht⟩ := hy
  rw [beq_eq, hs, ht]
  rfl

theorem isZero_of_beq (h : (x == 0) = true) : IsZero x := by
  rw [beq_eq, parts_zero] at h
  rcases hparts : parts x with s | _ | s | ⟨s, m, e, hm⟩
  · rw [hparts] at h
    cases s <;> cases h
  · rw [hparts] at h
    cases h
  · exact ⟨s, hparts⟩
  · rw [hparts] at h
    cases s <;> cases h

theorem IsZero.nonneg (h : IsZero x) : 0 ≤ x := by
  obtain ⟨s, hs⟩ := h
  rw [le_iff, hs]
  cases s <;> rfl

theorem nonneg_of_pos (h : 0 < x) : 0 ≤ x := by
  rw [lt_iff, parts_zero] at h
  rw [le_iff, parts_zero]
  rcases hparts : parts x with s | _ | s | ⟨s, m, e, hm⟩ <;> rw [hparts] at h
  · cases s
    · cases h
    · rfl
  · cases h
  · cases h
  · cases s
    · cases h
    · rfl

theorem not_nonneg_of_neg (h : x < 0) : ¬ 0 ≤ x := by
  rw [lt_iff, parts_zero] at h
  rw [le_iff, parts_zero]
  rcases hparts : parts x with s | _ | s | ⟨s, m, e, hm⟩ <;> rw [hparts] at h
  · cases s
    · exact Bool.false_ne_true
    · cases h
  · cases h
  · cases h
  · cases s
    · exact Bool.false_ne_true
    · cases h

theorem isZero_of_not_pos (hx : x.isFinite = true) (hle : 0 ≤ x) (hpos : ¬ 0 < x) : IsZero x := by
  rcases finite_cases hx with hzero | ⟨s, m, e, hm, hparts, -⟩
  · exact hzero
  · cases s with
    | positive => exact absurd (pos_of_parts hparts) hpos
    | negative =>
        rw [le_iff, hparts] at hle
        cases hle

/-- A number that is not below zero, with at most the exponent for its last place. -/
def Within (place : Int) (x : Float32) : Prop :=
  IsZero x ∨ ∃ m e hm, parts x = .finite .positive m e hm ∧ Fits .binary32 m e ∧ e ≤ place

theorem Within.isFinite (h : Within place x) : x.isFinite = true := by
  rcases h with hzero | ⟨m, e, hm, hparts, -⟩
  · exact hzero.isFinite
  · show (parts x).isFinite = true
    rw [hparts]
    rfl

theorem Within.nonneg (h : Within place x) : 0 ≤ x := by
  rw [le_iff]
  have hzero : parts 0 = .zero .positive := rfl
  rw [hzero]
  rcases h with ⟨s, hs⟩ | ⟨m, e, hm, hparts, -⟩
  · rw [hs]
    rfl
  · rw [hparts]
    rfl

theorem within_of_upward (hx : x.isFinite = true) (h : Upward (parts x)) : Within 104 x := by
  rcases finite_cases hx with hzero | ⟨s, m, e, hm, hparts, hfits⟩
  · exact .inl hzero
  · rw [hparts] at h
    obtain rfl : s = .positive := h
    have hhigh : e + 127 + 23 + 1 < 256 := hfits.high
    exact .inr ⟨m, e, hm, hparts, hfits, by omega⟩

theorem unpack_packComponents_le {biased : Nat} {e : Int} (hbiased : (biased : Int) = e + 150)
    (hlow : -149 ≤ e) (hhigh : e ≤ 104) {exponent : BitVec 8} (mantissa : BitVec 23)
    (hle : exponent.toNat ≤ biased) {u : UnpackedFloat}
    (hu : u = UnpackedFloat.unpack .binary32
      (packComponents .binary32 .positive exponent mantissa)) :
    u = .zero .positive ∨ ∃ n d hn, u = .finite .positive n d hn ∧ d ≤ e := by
  have hfinite : exponent ≠ -1#_ := by
    rintro rfl
    have hones : (-1#8).toNat = 255 := rfl
    omega
  subst hu
  unfold UnpackedFloat.unpack
  simp only [unpackExponent_packComponents, unpackMantissa_packComponents,
    unpackSign_packComponents, Sign.ofBitVec_toBitVec]
  rw [if_neg hfinite]
  split
  · rename_i hzero
    split
    · exact .inl rfl
    · rename_i hmantissa
      have hpos : 0 < mantissa.toNat := Nat.pos_of_ne_zero (ne_zeros_iff.mp hmantissa)
      refine .inr ⟨mantissa.toNat, _, hpos, rfl, ?_⟩
      rw [hzero]
      exact hlow
  · have hpos : 0 < (1#1 ++ mantissa).toNat := by
      rw [toNat_one_append]
      exact Nat.lt_of_lt_of_le (Nat.two_pow_pos 23) (Nat.le_add_right ..)
    refine .inr ⟨(1#1 ++ mantissa).toNat, exponent.toNat - (127 + 23), hpos, rfl, ?_⟩
    omega

theorem unpack_pack_le {m : Nat} {e : Int} (hm : 0 < m) (hlow : -149 ≤ e) (hhigh : e ≤ 104)
    {u : UnpackedFloat} (hu : u = UnpackedFloat.unpack .binary32
      (UnpackedFloat.pack .binary32 (.finite .positive m e hm))) :
    u = .zero .positive ∨ ∃ n d hn, u = .finite .positive n d hn ∧ d ≤ e := by
  obtain ⟨biased, hbiased⟩ : ∃ biased : Nat, (biased : Int) = e + 150 :=
    ⟨(e + 150).toNat, by omega⟩
  have hbias : e + (Float.Model.Format.binary32.exponentBias : Int) +
      Float.Model.Format.binary32.mantissaBitsWithoutImplicit = biased := by
    have hsum : (127 : Int) + 23 = 150 := rfl
    rw [hbiased, ← hsum, ← Int.add_assoc]
    rfl
  have hroom : biased + 1 < 2 ^ 8 := by omega
  rw [@pack_finite .binary32 .positive biased m e hm hbias hroom] at hu
  refine unpack_packComponents_le hbiased hlow hhigh _ ?_ hu
  split
  · exact (BitVec.toNat_ofNat ..).trans_le (Nat.mod_le ..)
  · exact Nat.zero_le _

theorem within_of_round {m : Nat} {e t : Int} {accuracy : Accuracy} {v : ℚ}
    (hstands : Stands (.ofMantissaAndAccuracy m accuracy) v)
    (ht : Float.Model.Format.binary32.targetExponent (totalExponent m e) = t) (hle : e ≤ t)
    (hplace : t < place) (hhigh : place ≤ 104)
    (h : x.toModel = Float32.Model.pack (roundWithAccuracy .binary32 .positive m e accuracy)) :
    Within place x := by
  have hle' : e ≤ Float.Model.Format.binary32.targetExponent (totalExponent m e) := ht ▸ hle
  obtain ⟨n, hn, -, hround⟩ := exists_rounded .positive hstands hle'
  have hlow : -149 ≤ t := by
    rw [← ht]
    exact le_max_right _ _
  rw [hround, ht] at h
  have hparts : ∀ {k : Nat} {d : Int} {hk : 0 < k}, -149 ≤ d → d ≤ place →
      x.toModel = Float32.Model.pack (.finite .positive k d hk) → Within place x := by
    intro k d hk hd hdp hmodel
    have hx : parts x = UnpackedFloat.unpack .binary32
        (UnpackedFloat.pack .binary32 (.finite .positive k d hk)) := by
      show x.toModel.unpack = _
      rw [hmodel]
      rfl
    rcases unpack_pack_le hk hd (by omega) hx with hzero | ⟨n', d', hn', hfinite, hd'⟩
    · exact .inl ⟨.positive, hzero⟩
    · exact .inr ⟨n', d', hn', hfinite, fits_of_unpack (by decide) hfinite, by omega⟩
  unfold rounded at h
  split at h
  · exact .inl (isZero_of_model h)
  · split at h
    · exact hparts hlow (by omega) h
    · exact hparts (by omega) (by omega) h

theorem log2_lt_of_fits {m : Nat} {e : Int} (hm : 0 < m) (h : Fits .binary32 m e) : m.log2 < 24 :=
  (Nat.log2_lt hm.ne').mpr h.short

theorem le_log2_of_fits {m : Nat} {e : Int} (hm : 0 < m) (h : Fits .binary32 m e) :
    23 ≤ m.log2 ∨ e = -149 :=
  h.normal.imp_left (Nat.le_log2 hm.ne').mpr

theorem targetExponent_single (m : Nat) (e : Int) :
    Float.Model.Format.binary32.targetExponent (totalExponent m e) =
      max (e + m.log2 - 23) (-149) := by
  unfold Float.Model.Format.targetExponent totalExponent
  have hbits : Float.Model.Format.binary32.mantissaBits = 24 := rfl
  have hmin : Float.Model.Format.binary32.minExponent = -149 := rfl
  rw [hbits, hmin]
  omega

theorem log2_mul_bounds {m n : Nat} (hm : 0 < m) (hn : 0 < n) :
    m.log2 + n.log2 ≤ (m * n).log2 ∧ (m * n).log2 ≤ m.log2 + n.log2 + 1 := by
  have hpos : m * n ≠ 0 := (Nat.mul_pos hm hn).ne'
  constructor
  · rw [Nat.le_log2 hpos, Nat.pow_add]
    exact Nat.mul_le_mul (Nat.log2_self_le hm.ne') (Nat.log2_self_le hn.ne')
  · rw [← Nat.lt_succ_iff, Nat.log2_lt hpos]
    have hexponent : 2 ^ (m.log2 + n.log2 + 1 + 1) = 2 ^ (m.log2 + 1) * 2 ^ (n.log2 + 1) := by
      rw [← Nat.pow_add]
      congr 1
      omega
    show m * n < 2 ^ (m.log2 + n.log2 + 1 + 1)
    rw [hexponent]
    exact Nat.mul_lt_mul'' Nat.lt_log2_self Nat.lt_log2_self

theorem within_mul_self (hx : x.isFinite = true) {p : Int}
    (hp : ∀ s m e hm, parts x = .finite s m e hm → e ≤ p) (hhigh : 2 * p + 25 ≤ 104)
    (hlow : -149 < 2 * p + 25) : Within (2 * p + 25) (x * x) := by
  have hmodel : (x * x).toModel =
      Float32.Model.pack (UnpackedFloat.mul .binary32 (parts x) (parts x)) := rfl
  rcases finite_cases hx with hzero | ⟨s, m, e, hm, hparts, hfits⟩
  · exact .inl (isZero_mul_zero hx hzero)
  · have hplace := hp s m e hm hparts
    obtain ⟨hless, hmore⟩ := log2_mul_bounds hm hm
    have hshort := log2_lt_of_fits hm hfits
    have hlead := le_log2_of_fits hm hfits
    have hround : (x * x).toModel = Float32.Model.pack
        (roundWithAccuracy .binary32 (s * s) (m * m) (e + e) .exact) := by
      rw [hmodel, hparts]
      rfl
    rw [sign_mul_self] at hround
    exact within_of_round (stands_exact _) (targetExponent_single ..) (by omega) (by omega) hhigh
      hround

theorem within_round {m : Nat} (hm : 0 < m) {e : Int} (hm' : e + m.log2 - 23 < place)
    (hlow : -149 < place) (hhigh : place ≤ 104)
    (h : x.toModel = Float32.Model.pack (UnpackedFloat.round .binary32 .positive m e)) :
    Within place x := by
  obtain ⟨t, ht⟩ : ∃ t, Float.Model.Format.binary32.targetExponent (totalExponent m e) = t :=
    ⟨_, rfl⟩
  have htarget := (targetExponent_single m e).symm.trans ht
  have hshifted : totalExponent (m <<< (e - t).toNat) (e - (e - t).toNat) = totalExponent m e := by
    unfold totalExponent
    rw [log2_shiftLeft hm.ne']
    omega
  have hround : x.toModel = Float32.Model.pack (roundWithAccuracy .binary32 .positive
      (m <<< (e - t).toNat) (e - (e - t).toNat) .exact) := by
    rw [h, ← ht]
    rfl
  exact within_of_round (stands_exact _) ((congrArg _ hshifted).trans ht) (by omega) (by omega)
    hhigh hround

theorem Within.mono {place' : Int} (h : Within place x) (hle : place ≤ place') :
    Within place' x := by
  rcases h with hzero | ⟨m, e, hm, hparts, hfits, hplace⟩
  · exact .inl hzero
  · exact .inr ⟨m, e, hm, hparts, hfits, hplace.trans hle⟩

theorem log2_shifted_add_lt {m n a b k : Nat} (hm : m < 2 ^ 24) (hn : n < 2 ^ 24) (ha : a ≤ k)
    (hb : b ≤ k) (hpos : 0 < m) : (m <<< a + n <<< b).log2 < 25 + k := by
  have hshift : ∀ {l c}, l < 2 ^ 24 → c ≤ k → l <<< c < 2 ^ (24 + k) := by
    intro l c hl hc
    rw [Nat.shiftLeft_eq, Nat.pow_add]
    exact Nat.mul_lt_mul_of_lt_of_le hl (Nat.pow_le_pow_right (by decide) hc) (Nat.two_pow_pos _)
  have hsum : 2 ^ (25 + k) = 2 ^ (24 + k) + 2 ^ (24 + k) := by
    rw [Nat.add_right_comm 24 1 k, Nat.pow_succ, Nat.mul_two]
  have hne : m <<< a + n <<< b ≠ 0 := (Nat.add_pos_left (Nat.shiftLeft_pos_iff.mpr hpos) _).ne'
  rw [Nat.log2_lt hne, hsum]
  exact Nat.add_lt_add (hshift hm ha) (hshift hn hb)

theorem within_add (hx : Within place x) (hy : Within place y) (hlow : -151 < place)
    (hhigh : place + 2 ≤ 104) : Within (place + 2) (x + y) := by
  rcases hy with hzero | ⟨n, d, hn, hy', hfitsY, hd⟩
  · rcases add_zero_cases hzero x with heq | ⟨-, hsum⟩
    · rw [heq]
      exact hx.mono (by omega)
    · exact .inl hsum
  · have hWithinY : Within place y := .inr ⟨n, d, hn, hy', hfitsY, hd⟩
    rcases hx with hzero | ⟨m, e, hm, hx', hfitsX, he⟩
    · rcases zero_add_cases hzero hWithinY.isFinite with heq | ⟨-, hsum⟩
      · rw [heq]
        exact hWithinY.mono (by omega)
      · exact .inl hsum
    · obtain ⟨c, hc⟩ : ∃ c, min e d = c := ⟨_, rfl⟩
      obtain ⟨sum, hsum⟩ : ∃ sum, m <<< (e - c).toNat + n <<< (d - c).toNat = sum := ⟨_, rfl⟩
      have hlog := log2_shifted_add_lt hfitsX.short hfitsY.short
        (show (e - c).toNat ≤ (place - c).toNat by omega)
        (show (d - c).toNat ≤ (place - c).toNat by omega) hm
      have hpos : 0 < sum := hsum ▸ Nat.add_pos_left (Nat.shiftLeft_pos_iff.mpr hm) _
      rw [hsum] at hlog
      have hmodel : (x + y).toModel =
          Float32.Model.pack (UnpackedFloat.round .binary32 .positive sum c) := by
        have hadd : (x + y).toModel =
            Float32.Model.pack (UnpackedFloat.add .binary32 (parts x) (parts y)) := rfl
        have hnormal : UnpackedFloat.add .binary32 (.finite .positive m e hm)
            (.finite .positive n d hn) = UnpackedFloat.normalize .binary32
              (((m <<< (e - min e d).toNat : Nat) : Int) +
                ((n <<< (d - min e d).toNat : Nat) : Int)) (min e d) .positive := rfl
        rw [hadd, hx', hy', hnormal, hc, ← Int.natCast_add, hsum]
        unfold UnpackedFloat.normalize
        rw [Int.compare_eq_gt.mpr (Int.natCast_pos.mpr hpos)]
        rfl
      exact within_round hpos (by omega) (by omega) hhigh hmodel

theorem exists_stands (m : Nat) (accuracy : Accuracy) :
    ∃ v, Stands (.ofMantissaAndAccuracy m accuracy) v := by
  rcases accuracy with _ | _ | _ | _
  · exact ⟨m, stands_exact m⟩
  · refine ⟨m + 1 / 4, ?_⟩
    simp only [Stands, ExtendedMantissa.ofMantissaAndAccuracy, if_true, Bool.toNat_false,
      Nat.cast_zero]
    constructor <;> linarith
  · refine ⟨m + 1 / 2, ?_⟩
    simp only [Stands, ExtendedMantissa.ofMantissaAndAccuracy, Bool.false_eq_true, if_false,
      Bool.toNat_true, Nat.cast_one]
    linarith
  · refine ⟨m + 3 / 4, ?_⟩
    simp only [Stands, ExtendedMantissa.ofMantissaAndAccuracy, if_true, Bool.toNat_true,
      Nat.cast_one]
    constructor <;> linarith

theorem log2_sqrt_bounds {n : Nat} (hn : 0 < n) :
    2 * (Nat.sqrt n).log2 ≤ n.log2 ∧ (46 ≤ n.log2 → 23 ≤ (Nat.sqrt n).log2) := by
  have hle := Nat.sqrt_le n
  have hlt := Nat.lt_succ_sqrt n
  have hroot : 0 < Nat.sqrt n := Nat.sqrt_pos.mpr hn
  constructor
  · rw [Nat.le_log2 hn.ne', Nat.two_mul, Nat.pow_add]
    have hself := Nat.log2_self_le hroot.ne'
    exact (Nat.mul_le_mul hself hself).trans hle
  · intro hlog
    rw [Nat.le_log2 hroot.ne']
    have hself := (Nat.le_log2 hn.ne').mp hlog
    by_contra hsmall
    have hsucc : Nat.succ (Nat.sqrt n) ≤ 2 ^ 23 := Nat.lt_of_not_ge hsmall
    have hsquare := Nat.mul_le_mul hsucc hsucc
    omega

theorem within_sqrt (hx : Within place x) (hhigh : place ≤ 104) : Within 41 x.sqrt := by
  have hmodel : x.sqrt.toModel =
      Float32.Model.pack (UnpackedFloat.sqrt .binary32 (parts x)) := rfl
  rcases hx with ⟨s, hs⟩ | ⟨m, e, hm, hparts, hfits, he⟩
  · rw [hs] at hmodel
    exact .inl (isZero_of_model hmodel)
  · obtain ⟨t, ht⟩ : ∃ t, min (e.ediv 2) (Float.Model.Format.binary32.targetExponent
      ((totalExponent m e + 1).ediv 2)) = t := ⟨_, rfl⟩
    obtain ⟨accuracy, hround⟩ : ∃ accuracy, x.sqrt.toModel = Float32.Model.pack
        (roundWithAccuracy .binary32 .positive (Nat.sqrt (m <<< (e - 2 * t).toNat)) t
          accuracy) := by
      rw [hmodel, hparts, ← ht]
      exact ⟨_, rfl⟩
    obtain ⟨v, hstands⟩ := exists_stands (Nat.sqrt (m <<< (e - 2 * t).toNat)) accuracy
    have hshifted : 0 < m <<< (e - 2 * t).toNat := Nat.shiftLeft_pos_iff.mpr hm
    obtain ⟨hmore, hless⟩ := log2_sqrt_bounds hshifted
    rw [log2_shiftLeft hm.ne'] at hmore hless
    have hshort := log2_lt_of_fits hm hfits
    have hhalf : 2 * t ≤ e := by
      have hdiv : t ≤ e / 2 := ht ▸ min_le_left ..
      omega
    have hplace : t ≤ -149 ∨ 2 * t + 47 ≤ m.log2 + e + 1 := by
      have htarget : t ≤ max ((totalExponent m e + 1) / 2 - 24) (-149) := by
        rw [← ht]
        exact min_le_right ..
      unfold totalExponent at htarget
      omega
    exact within_of_round hstands (targetExponent_single ..) (by omega) (by omega) (by decide)
      hround

theorem isFinite_of_sqrt (h : x.sqrt.isFinite = true) : x.isFinite = true := by
  have hmodel : x.sqrt.toModel =
      Float32.Model.pack (UnpackedFloat.sqrt .binary32 (parts x)) := rfl
  show (parts x).isFinite = true
  have hparts : parts x.sqrt = UnpackedFloat.unpack .binary32
      (UnpackedFloat.pack .binary32 (UnpackedFloat.sqrt .binary32 (parts x))) := rfl
  replace h : (parts x.sqrt).isFinite = true := h
  rw [hparts] at h
  rcases hx : parts x with s | _ | s | ⟨s, m, e, hm⟩
  · rw [hx] at h
    cases s <;> exact absurd h (by decide)
  · rw [hx] at h
    exact absurd h (by decide)
  · rfl
  · rfl

/-- The root of the range of the singles, halved. -/
def squareLimit : Float32 := 4611686018427387904

theorem exponent_le_of_abs_lt (h : x.abs < squareLimit) :
    x.isFinite = true ∧ ∀ s m e hm, parts x = .finite s m e hm → e ≤ 38 := by
  have hlimit : parts squareLimit = .finite .positive (2 ^ 23) 39 (by decide) := rfl
  have habs : parts x.abs = UnpackedFloat.unpack .binary32
      (UnpackedFloat.pack .binary32 (UnpackedFloat.abs (parts x))) := rfl
  rw [lt_iff, hlimit, habs] at h
  show (parts x).isFinite = true ∧ _
  rcases hx : parts x with s | _ | s | ⟨s, m, e, hm⟩
  · rw [hx] at h
    change (UnpackedFloat.unpack .binary32 (UnpackedFloat.pack .binary32
      (.infinity .positive))).lt (.finite .positive (2 ^ 23) 39 (by decide)) = true at h
    exact absurd h (by decide)
  · rw [hx] at h
    exact absurd h (by decide)
  · exact ⟨rfl, nofun⟩
  · have hfits : Fits .binary32 m e := fits_of_unpack (by decide) hx
    have hpacked : UnpackedFloat.unpack .binary32 (UnpackedFloat.pack .binary32
        (UnpackedFloat.abs (parts x))) = .finite .positive m e hm := by
      rw [hx]
      exact unpack_pack (by decide) hfits
    rw [hpacked] at h
    refine ⟨rfl, fun s' m' e' hm' heq => ?_⟩
    obtain ⟨-, -, rfl⟩ := UnpackedFloat.finite.inj heq
    have hcompare : (compare e 39).then (compare m (2 ^ 23)) = .lt := by
      simpa [UnpackedFloat.lt, UnpackedFloat.compare] using h
    have hnormal : 2 ^ 23 ≤ m ∨ e = -149 := hfits.normal
    rcases Int.lt_trichotomy e 39 with hlt | rfl | hgt
    · omega
    · rw [Int.compare_eq_eq.mpr rfl, Ordering.eq_then, Nat.compare_eq_lt] at hcompare
      omega
    · rw [Int.compare_eq_gt.mpr hgt] at hcompare
      cases hcompare

end RigidWorlds.Binary

namespace RigidWorlds.Vec2

open Binary

variable {v : Vec2}

theorem upward_normSquared (v : Vec2) : Upward (parts v.normSquared) :=
  upward_unpack_pack (upward_add (upward_unpack_pack (upward_mul_self _))
    (upward_unpack_pack (upward_mul_self _)))

/-- A norm is a number that is not below zero just if its square is a number. -/
theorem isFinite_norm_iff :
    (v.norm.isFinite = true ∧ 0 ≤ v.norm) ↔ v.normSquared.isFinite = true := by
  constructor
  · exact fun h => isFinite_of_sqrt h.1
  · intro h
    have hroot := within_sqrt (within_of_upward h v.upward_normSquared) (Int.le_refl 104)
    exact ⟨hroot.isFinite, hroot.nonneg⟩

theorem isFinite_normSquared (hx : v.x.abs < squareLimit) (hy : v.y.abs < squareLimit) :
    v.normSquared.isFinite = true := by
  obtain ⟨hfiniteX, hplaceX⟩ := exponent_le_of_abs_lt hx
  obtain ⟨hfiniteY, hplaceY⟩ := exponent_le_of_abs_lt hy
  exact (within_add (within_mul_self hfiniteX hplaceX (by decide) (by decide))
    (within_mul_self hfiniteY hplaceY (by decide) (by decide)) (by decide) (by decide)).isFinite

end RigidWorlds.Vec2
