import RigidWorlds.Proofs.Attributes
import RigidWorlds.Proofs.SingleNorms

namespace RigidWorlds

namespace Binary

open Float.Model Float.Model.UnpackedFloat

/-- A finite single above zero. -/
structure Positive (x : Float32) : Prop where
  finite : x.isFinite = true
  pos : 0 < x

instance (x : Float32) : Decidable (Positive x) :=
  decidable_of_iff (x.isFinite = true ∧ 0 < x) ⟨fun h => ⟨h.1, h.2⟩, fun h => ⟨h.1, h.2⟩⟩

/-- The least single above zero. -/
def leastSingle : Float32 := Float32.ofBits 1

variable {x : Float32}

theorem Positive.exists_parts (h : Positive x) :
    ∃ m e hm, parts x = .finite .positive m e hm ∧ Fits .binary32 m e := by
  rcases finite_cases h.finite with hzero | ⟨s, m, e, hm, hparts, hfits⟩
  · exact absurd h.pos hzero.not_pos
  · cases s with
    | positive => exact ⟨m, e, hm, hparts, hfits⟩
    | negative =>
        have hpos := lt_iff.mp h.pos
        rw [hparts] at hpos
        cases hpos

theorem div_two_eq {m den : Nat} (hm : 0 < m) (hpos : 0 < den) (hden : den = 2 ^ 23) (e : Int)
    (shift : Nat) {target : Int}
    (htarget : min (e + 22) (max (e + m.log2 - 25) (-149)) = target)
    (hshift : e + 22 - target = shift) :
    UnpackedFloat.div .binary32 (.finite .positive m e hm) (.finite .positive den (-22) hpos) =
      roundWithAccuracy .binary32 .positive (m <<< shift / den) target
        (accuracyOfFraction (m <<< shift % den) den) := by
  have htotal : totalExponent m e - totalExponent den (-22) = totalExponent m (e - 2) := by
    have htwo : totalExponent den (-22) = 2 := by
      rw [hden]
      rfl
    rw [htwo]
    unfold totalExponent
    omega
  have htarget' : min (e - -22) (Float.Model.Format.binary32.targetExponent
      (totalExponent m e - totalExponent den (-22))) = target := by
    rw [htotal, targetExponent_single, ← htarget]
    omega
  have hshift' : (e - -22 - target).toNat = shift := by omega
  have hcore : divCore .binary32 m e den (-22) =
      (m <<< shift / den, target, accuracyOfFraction (m <<< shift % den) den) := by
    unfold divCore
    simp only [htarget', hshift']
  show (match divCore .binary32 m e den (-22) with
    | (m, e, accuracy) =>
        roundWithAccuracy .binary32 (Sign.positive / Sign.positive) m e accuracy) = _
  rw [hcore]
  rfl

theorem div_two_of_room {m den : Nat} {e : Int} (hm : 0 < m) (hpos : 0 < den)
    (hden : den = 2 ^ 23) (hfits : Fits .binary32 m e) (hroom : -149 < e) :
    UnpackedFloat.div .binary32 (.finite .positive m e hm) (.finite .positive den (-22) hpos) =
        .finite .positive m (e - 1) hm ∧
      Fits .binary32 m (e - 1) := by
  have hlead : 2 ^ 23 ≤ m := hfits.normal.resolve_right (show ¬ e = -149 by omega)
  have hlog : m.log2 = 23 := (Nat.log2_eq_iff hm.ne').mpr ⟨hlead, hfits.short⟩
  have hhigh : e + 127 + 23 + 1 < 256 := hfits.high
  have hfits' : Fits .binary32 m (e - 1) := by
    refine ⟨hfits.short, ?_, .inl hlead, ?_⟩
    · show -149 ≤ e - 1
      omega
    · show e - 1 + 127 + 23 + 1 < 256
      omega
  refine ⟨?_, hfits'⟩
  -- The quotient has one more place than it needs, unless that place would be below the least one.
  obtain ⟨j, hj⟩ : ∃ j : Nat, (j : Int) = e - 1 - max (e - 2) (-149) :=
    ⟨(e - 1 - max (e - 2) (-149)).toNat, by omega⟩
  have htarget : min (e + 22) (max (e + m.log2 - 25) (-149)) = e - 1 - j := by
    rw [hlog]
    omega
  have hdiv := div_two_eq hm hpos hden e (j + 23) htarget (by omega)
  have hwhole : m <<< (j + 23) = m <<< j * den := by
    rw [hden, Nat.shiftLeft_add, Nat.shiftLeft_eq _ 23]
  have hround : roundWithAccuracy .binary32 .positive (m <<< j) (e - 1 - j) .exact =
      rounded .binary32 .positive m (e - 1) := by
    have htotal : totalExponent (m <<< j) (e - 1 - j) = totalExponent m (e - 1) := by
      unfold totalExponent
      rw [log2_shiftLeft hm.ne']
      omega
    refine roundWithAccuracy_exact .positive ?_ (by omega) ?_
    · rw [htotal, hfits'.targetExponent hm]
    · rw [Nat.shiftLeft_eq, zpow_sub₀ (by norm_num), zpow_natCast]
      push_cast
      field_simp
  rw [hdiv, hwhole, Nat.mul_div_cancel _ hpos, Nat.mul_mod_left]
  show roundWithAccuracy .binary32 .positive (m <<< j) (e - 1 - j) .exact = _
  rw [hround]
  unfold rounded
  rw [dif_neg hm.ne', if_pos hfits'.short]

theorem stands_half (m : Nat) {k : Nat} (hk : 0 < k) :
    Stands (.ofMantissaAndAccuracy (m * k / (2 * k)) (accuracyOfFraction (m * k % (2 * k)) (2 * k)))
      (m / 2) := by
  have hstands := stands_fraction (m * k / (2 * k)) (Nat.mod_lt (m * k) (show 0 < 2 * k by omega))
  have hdivision : ((2 * k : Nat) : ℚ) * ((m * k / (2 * k) : Nat) : ℚ) +
      ((m * k % (2 * k) : Nat) : ℚ) = m * k := by
    exact_mod_cast Nat.div_add_mod (m * k) (2 * k)
  have hpos : (0 : ℚ) < k := by exact_mod_cast hk
  have hvalue : ((m * k / (2 * k) : Nat) : ℚ) +
      ((m * k % (2 * k) : Nat) : ℚ) / (2 * k : Nat) = m / 2 := by
    rw [Nat.cast_mul, Nat.cast_two] at hdivision ⊢
    field_simp
    linarith
  rwa [hvalue] at hstands

theorem div_two_of_least {m den : Nat} (hm : 0 < m) (hpos : 0 < den) (hden : den = 2 ^ 23)
    (hshort : m < 2 ^ 24) :
    ∃ n : Nat, |(n : ℚ) - m / 2| ≤ 1 / 2 ∧
      UnpackedFloat.div .binary32 (.finite .positive m (-149) hm)
        (.finite .positive den (-22) hpos) = rounded .binary32 .positive n (-149) := by
  have hlog : m.log2 < 24 := (Nat.log2_lt hm.ne').mpr hshort
  have htarget : min (-149 + 22) (max (-149 + (m.log2 : Int) - 25) (-149)) = -149 := by omega
  have hdiv := div_two_eq hm hpos hden (-149) 22 htarget (by omega)
  obtain ⟨k, hk⟩ : ∃ k, k = 2 ^ 22 := ⟨_, rfl⟩
  obtain rfl : den = 2 * k := by omega
  have hkpos : 0 < k := by omega
  rw [Nat.shiftLeft_eq, ← hk] at hdiv
  have hquotient : m * k / (2 * k) < 2 ^ 24 := by
    rw [Nat.mul_div_mul_right _ _ hkpos]
    exact (Nat.div_le_self m 2).trans_lt hshort
  have hplace : Float.Model.Format.binary32.targetExponent
      (totalExponent (m * k / (2 * k)) (-149)) = -149 :=
    le_antisymm (targetExponent_le hquotient (Int.le_refl _)) (le_max_right _ _)
  obtain ⟨n, -, hnear, hround⟩ := exists_rounded .positive (stands_half m hkpos) hplace.ge
  rw [hplace, sub_self, zpow_zero, mul_one] at hnear
  rw [hplace] at hround
  exact ⟨n, hnear, hdiv.trans hround⟩

theorem Fits.of_least {n : Nat} (hn : n < 2 ^ 24) : Fits .binary32 n (-149) :=
  ⟨hn, Int.le_refl _, .inr rfl, by decide⟩

theorem rounded_least {n : Nat} (hn : 0 < n) (hshort : n < 2 ^ 24) :
    rounded .binary32 .positive n (-149) = .finite .positive n (-149) hn := by
  unfold rounded
  rw [dif_neg hn.ne', if_pos (Fits.of_least hshort).short]

theorem positive_of_model {m : Nat} {e : Int} {hm : 0 < m} (hfits : Fits .binary32 m e)
    (h : x.toModel = Float32.Model.pack (.finite .positive m e hm)) : Positive x := by
  have hparts : parts x = .finite .positive m e hm := by
    show x.toModel.unpack = _
    rw [h]
    exact unpack_pack (by decide) hfits
  exact ⟨isFinite_of_model hfits h, pos_of_parts hparts⟩

theorem half_of_least {m : Nat} {hm : 0 < m}
    (hparts : parts x = .finite .positive m (-149) hm) (hfits : Fits .binary32 m (-149)) :
    Positive (x / 2) ∨ x = leastSingle := by
  have hmodel : (x / 2).toModel =
      Float32.Model.pack (UnpackedFloat.div .binary32 (parts x) (parts 2)) := rfl
  obtain ⟨n, hnear, hdiv⟩ := div_two_of_least hm (Nat.two_pow_pos 23) rfl hfits.short
  rw [hparts] at hmodel
  obtain ⟨hlow, hhigh⟩ := abs_le.mp hnear
  rcases Nat.eq_zero_or_pos n with rfl | hn
  · right
    have hle : (m : ℚ) ≤ 1 := by
      rw [Nat.cast_zero] at hlow
      linarith
    obtain rfl : m = 1 := Nat.le_antisymm (by exact_mod_cast hle) hm
    refine (eq_of_parts ?_).symm
    rw [hparts]
    rfl
  · left
    have hshort : n < 2 ^ 24 := by
      have hle : (n : ℚ) * 2 ≤ m + 1 := by linarith
      have hle' : n * 2 ≤ m + 1 := by exact_mod_cast hle
      have hm' : m < 2 ^ 24 := hfits.short
      omega
    exact positive_of_model (Fits.of_least hshort)
      (hmodel.trans (congrArg _ (hdiv.trans (rounded_least hn hshort))))

theorem Positive.half_cases (h : Positive x) : Positive (x / 2) ∨ x = leastSingle := by
  obtain ⟨m, e, hm, hparts, hfits⟩ := h.exists_parts
  rcases Int.lt_or_eq_of_le (show -149 ≤ e from hfits.low) with hroom | rfl
  · have hmodel : (x / 2).toModel =
        Float32.Model.pack (UnpackedFloat.div .binary32 (parts x) (parts 2)) := rfl
    obtain ⟨hdiv, hfits'⟩ := div_two_of_room hm (Nat.two_pow_pos 23) rfl hfits hroom
    rw [hparts] at hmodel
    exact .inl (positive_of_model hfits' (hmodel.trans (congrArg _ hdiv)))
  · exact half_of_least hparts hfits

theorem half_leastSingle : leastSingle / 2 = 0 := by decide +kernel

theorem Positive.half_or_zero (h : Positive x) : Positive (x / 2) ∨ x / 2 = 0 := by
  rcases h.half_cases with hhalf | rfl
  · exact .inl hhalf
  · exact .inr half_leastSingle

theorem not_positive_zero : ¬ Positive 0 := fun h => isZero_zero.not_pos h.pos

theorem Positive.half_iff (h : Positive x) : Positive (x / 2) ↔ x ≠ leastSingle := by
  constructor
  · rintro hhalf rfl
    rw [half_leastSingle] at hhalf
    exact not_positive_zero hhalf
  · exact h.half_cases.resolve_right

end Binary

open Binary

/-- The distances from the center of a solid to its sides. -/
def Solid.extents : Solid → List Float32
  | .ball r => [r]
  | .cuboid w h => [w, h]

namespace ShapeDescriptor

/-- A circle with a proper radius, or a box with a proper width and height. -/
def Proper (d : ShapeDescriptor) : Prop :=
  match d.kind with
  | .circle => Positive d.param1
  | .box => Positive d.param1 ∧ Positive d.param2
  | .edge | .polygon => False

/-- A box with a side that is too short to be halved. -/
def Vanishing (d : ShapeDescriptor) : Prop :=
  d.kind = .box ∧ (d.param1 = leastSingle ∨ d.param2 = leastSingle)

variable {d : ShapeDescriptor} {solid : Solid}

theorem checkPositive_cases (quantity : Quantity) (x : Float32) :
    Positive x ∧ checkPositive quantity x = .ok x ∨
      ¬ Positive x ∧ ∃ e, checkPositive quantity x = .error e := by
  unfold checkPositive
  by_cases h : Positive x
  · exact .inl ⟨h, if_pos (by simp [h.finite, h.pos])⟩
  · refine .inr ⟨h, _, if_neg fun hcheck => h ?_⟩
    obtain ⟨hfinite, hpos⟩ := (Bool.and_eq_true ..).mp hcheck
    exact ⟨hfinite, of_decide_eq_true hpos⟩

theorem build_cases (d : ShapeDescriptor) :
    d.Proper ∧ (∃ solid, d.build = .ok solid) ∨ ¬ d.Proper ∧ ∃ e, d.build = .error e := by
  obtain ⟨kind, param1, param2⟩ := d
  cases kind with
  | circle =>
      rcases checkPositive_cases .radius param1 with ⟨h, hradius⟩ | ⟨h, e, hradius⟩
      · exact .inl ⟨h, .ball param1, by rw [build, hradius]; rfl⟩
      · exact .inr ⟨h, e, by rw [build, hradius]; rfl⟩
  | box =>
      rcases checkPositive_cases .width param1 with ⟨h, hwidth⟩ | ⟨h, e, hwidth⟩
      · rcases checkPositive_cases .height param2 with ⟨h', hheight⟩ | ⟨h', e, hheight⟩
        · exact .inl ⟨⟨h, h'⟩, _, by rw [build, hwidth, hheight]; rfl⟩
        · exact .inr ⟨fun hproper => h' hproper.2, e, by rw [build, hwidth, hheight]; rfl⟩
      · exact .inr ⟨fun hproper => h hproper.1, e, by rw [build, hwidth]; rfl⟩
  | edge | polygon => exact .inr ⟨id, _, rfl⟩

theorem Proper.extents (h : d.Proper) (hsolid : d.solid? = some solid) :
    (∀ x ∈ solid.extents, Positive x ∨ x = 0) ∧
      ((∀ x ∈ solid.extents, Positive x) ↔ ¬ d.Vanishing) := by
  obtain ⟨kind, param1, param2⟩ := d
  cases kind with
  | circle =>
      obtain rfl := Option.some.inj hsolid
      have hradius : Positive param1 := h
      simp [Solid.extents, Vanishing, hradius]
  | box =>
      obtain rfl := Option.some.inj hsolid
      obtain ⟨hwidth, hheight⟩ : Positive param1 ∧ Positive param2 := h
      constructor
      · simp only [Solid.extents, List.forall_mem_cons, hwidth.half_or_zero, hheight.half_or_zero,
          List.not_mem_nil, false_imp_iff, implies_true, and_self]
      · simp [Solid.extents, Vanishing, hwidth.half_iff, hheight.half_iff]
  | edge | polygon => exact absurd h id

/-- Just the proper shapes are built.  A radius is finite and above zero, and so are the halves of
both sides of a box, unless one of these sides is the least number above zero: half of it is
zero. -/
theorem extents_of_build (d : ShapeDescriptor) :
    (d.Proper ∧ ∃ solid, d.build = .ok solid ∧ d.solid? = some solid ∧
        (∀ x ∈ solid.extents, Positive x ∨ x = 0) ∧
        ((∀ x ∈ solid.extents, Positive x) ↔ ¬ d.Vanishing)) ∨
      ¬ d.Proper ∧ ∃ e, d.build = .error e := by
  rcases d.build_cases with ⟨hproper, solid, hbuild⟩ | hrefused
  · have hsolid := build_eq_ok hbuild
    exact .inl ⟨hproper, solid, hbuild, hsolid, hproper.extents hsolid⟩
  · exact .inr hrefused

/-- A box whose width is the least number above zero has no extent. -/
theorem flat_box :
    Proper ⟨.box, leastSingle, 1⟩ ∧
      build ⟨.box, leastSingle, 1⟩ = .ok (.cuboid 0 (1 / 2)) ∧ ¬ Positive 0 := by
  refine ⟨⟨by decide +kernel, by decide +kernel⟩, ?_, by decide +kernel⟩
  rfl

end ShapeDescriptor

end RigidWorlds
