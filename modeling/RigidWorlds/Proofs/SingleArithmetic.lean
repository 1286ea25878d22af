import RigidWorlds.Proofs.MachineRounding

namespace RigidWorlds.Binary

open Float.Model Float.Model.UnpackedFloat

/-- What a single is made of. -/
def parts (x : Float32) : UnpackedFloat := x.toModel.unpack

/-- The single is one of the two zeros. -/
def IsZero (x : Float32) : Prop := ∃ s, parts x = .zero s

theorem finite_cases {x : Float32} (hx : x.isFinite = true) :
    IsZero x ∨ ∃ s m e hm, parts x = .finite s m e hm ∧ Fits .binary32 m e := by
  have hfinite : (parts x).isFinite = true := hx
  rcases hparts : parts x with s | _ | s | ⟨s, m, e, hm⟩
  · rw [hparts] at hfinite
    cases hfinite
  · rw [hparts] at hfinite
    cases hfinite
  · exact .inl ⟨s, hparts⟩
  · exact .inr ⟨s, m, e, hm, rfl, fits_of_unpack (by decide) hparts⟩

theorem eq_of_parts {x y : Float32} (h : y.toModel = Float32.Model.pack (parts x)) : y = x := by
  apply Float32.toBits_inj.mp
  show y.toModel.toBits = x.toModel.toBits
  rw [h]
  exact congrArg UInt32.ofBitVec (pack_unpack_of_valid x.toModel.valid)

theorem IsZero.isFinite {x : Float32} (hx : IsZero x) : x.isFinite = true := by
  obtain ⟨s, hs⟩ := hx
  show (parts x).isFinite = true
  rw [hs]
  rfl

theorem isZero_of_model {x : Float32} {s : Sign}
    (h : x.toModel = Float32.Model.pack (.zero s)) : IsZero x := by
  refine ⟨s, ?_⟩
  show x.toModel.unpack = _
  rw [h]
  exact unpack_packedZero

theorem isFinite_of_model {x : Float32} {s : Sign} {m : Nat} {e : Int} {hm : 0 < m}
    (hfits : Fits .binary32 m e) (h : x.toModel = Float32.Model.pack (.finite s m e hm)) :
    x.isFinite = true := by
  show (parts x).isFinite = true
  have hparts : parts x = .finite s m e hm := by
    show x.toModel.unpack = _
    rw [h]
    exact unpack_pack (by decide) hfits
  rw [hparts]
  rfl

theorem isZero_zero : IsZero 0 := ⟨.positive, rfl⟩

variable {x y z : Float32}

theorem isFinite_neg (hx : x.isFinite = true) : (-x).isFinite = true := by
  have hmodel : (-x).toModel = Float32.Model.pack (parts x).neg := rfl
  rcases finite_cases hx with ⟨s, hs⟩ | ⟨s, m, e, hm, hparts, hfits⟩
  · rw [hs] at hmodel
    exact (isZero_of_model hmodel).isFinite
  · rw [hparts] at hmodel
    exact isFinite_of_model hfits hmodel

theorem eq_of_not_finite (hx : x.isFinite = false) :
    x = Float32.ofBits 0x7f800000 ∨ x = Float32.ofBits 0xff800000 ∨
      x = Float32.ofBits 0x7fc00000 := by
  have hexponent : @unpackExponent .binary32 x.toBits.toBitVec = -1#_ := by
    by_contra hne
    rw [isFinite_single_iff.mpr (unpackExponent_single_iff.mp hne)] at hx
    cases hx
  have hcompose :=
    @packComponents_unpackSign_unpackExponent_unpackMantissa .binary32 x.toBits.toBitVec
  by_cases hmantissa : @unpackMantissa .binary32 x.toBits.toBitVec = 0#_
  · rw [hexponent, hmantissa] at hcompose
    rcases BitVec.eq_zero_or_eq_one (@unpackSign .binary32 x.toBits.toBitVec) with hsign | hsign
    · rw [hsign] at hcompose
      exact .inl (Float32.toBits_inj.mp (UInt32.toBitVec_inj.mp hcompose.symm))
    · rw [hsign] at hcompose
      exact .inr (.inl (Float32.toBits_inj.mp (UInt32.toBitVec_inj.mp hcompose.symm)))
  · have hpattern := x.toModel.valid.eq_packedNaN hexponent hmantissa
    exact .inr (.inr (Float32.toBits_inj.mp (UInt32.toBitVec_inj.mp hpattern)))

theorem mul_comm_unpacked (f : Float.Model.Format) (u v : UnpackedFloat) :
    UnpackedFloat.mul f u v = UnpackedFloat.mul f v u := by
  have hsign : ∀ s t : Sign, s * t = t * s := by
    intro s t
    cases s <;> cases t <;> rfl
  cases u <;> cases v <;>
    simp only [UnpackedFloat.mul, hsign, Nat.mul_comm, Int.add_comm]

theorem mul_comm_single (x y : Float32) : x * y = y * x := by
  apply Float32.toBits_inj.mp
  show (x * y).toModel.toBits = (y * x).toModel.toBits
  have hmodel : ∀ u v : Float32, (u * v).toModel =
      Float32.Model.pack (UnpackedFloat.mul .binary32 (parts u) (parts v)) := fun _ _ => rfl
  rw [hmodel, hmodel, mul_comm_unpacked]

theorem isZero_zero_mul (hz : IsZero z) (hx : x.isFinite = true) : IsZero (z * x) := by
  have hmodel : (z * x).toModel =
      Float32.Model.pack (UnpackedFloat.mul .binary32 (parts z) (parts x)) := rfl
  obtain ⟨t, ht⟩ := hz
  rcases finite_cases hx with ⟨s, hs⟩ | ⟨s, m, e, hm, hparts, -⟩
  · rw [hs, ht] at hmodel
    exact isZero_of_model hmodel
  · rw [hparts, ht] at hmodel
    exact isZero_of_model hmodel

theorem isZero_mul_zero (hx : x.isFinite = true) (hz : IsZero z) : IsZero (x * z) := by
  rw [mul_comm_single]
  exact isZero_zero_mul hz hx

theorem one_mul_single (hx : x.isFinite = true) : 1 * x = x := by
  have hmodel : (1 * x).toModel =
      Float32.Model.pack (UnpackedFloat.mul .binary32 (parts 1) (parts x)) := rfl
  have hone : parts 1 = .finite .positive (2 ^ 23) (-23) (by decide) := rfl
  rw [hone] at hmodel
  apply eq_of_parts
  rw [hmodel]
  rcases finite_cases hx with ⟨s, hs⟩ | ⟨s, m, e, hm, hparts, hfits⟩
  · rw [hs]
    cases s <;> rfl
  · rw [hparts]
    have hsign : Sign.positive * s = s := by cases s <;> rfl
    have htotal : totalExponent (2 ^ 23 * m) (-23 + e) = totalExponent m e := by
      unfold totalExponent
      rw [Nat.mul_comm, ← Nat.shiftLeft_eq, log2_shiftLeft hm.ne']
      omega
    have hround : roundWithAccuracy .binary32 s (2 ^ 23 * m) (-23 + e) .exact =
        rounded .binary32 s m e := by
      refine roundWithAccuracy_exact s ?_ (by omega) ?_
      · rw [htotal, hfits.targetExponent hm]
      · push_cast
        rw [zpow_add₀ (by norm_num)]
        norm_num
        ring
    show Float32.Model.pack (roundWithAccuracy .binary32 (Sign.positive * s) (2 ^ 23 * m)
      (-23 + e) .exact) = _
    rw [hsign, hround]
    unfold rounded
    rw [dif_neg hm.ne', if_pos hfits.short]

theorem mul_one_single (hx : x.isFinite = true) : x * 1 = x := by
  rw [mul_comm_single, one_mul_single hx]

theorem add_comm_unpacked (f : Float.Model.Format) (u v : UnpackedFloat) :
    UnpackedFloat.add f u v = UnpackedFloat.add f v u := by
  cases u <;> cases v <;> simp only [UnpackedFloat.add]
  case infinity.infinity s t => cases s <;> cases t <;> rfl
  case zero.zero s t => cases s <;> cases t <;> rfl
  case finite.finite s m e hm t n e' hn => rw [Int.min_comm, Int.add_comm]

theorem add_comm_single (x y : Float32) : x + y = y + x := by
  apply Float32.toBits_inj.mp
  show (x + y).toModel.toBits = (y + x).toModel.toBits
  have hmodel : ∀ u v : Float32, (u + v).toModel =
      Float32.Model.pack (UnpackedFloat.add .binary32 (parts u) (parts v)) := fun _ _ => rfl
  rw [hmodel, hmodel, add_comm_unpacked]

theorem isZero_add_zero (hx : IsZero x) (hz : IsZero z) : IsZero (x + z) := by
  have hmodel : (x + z).toModel =
      Float32.Model.pack (UnpackedFloat.add .binary32 (parts x) (parts z)) := rfl
  obtain ⟨s, hs⟩ := hx
  obtain ⟨t, ht⟩ := hz
  rw [hs, ht] at hmodel
  cases s <;> cases t <;> exact isZero_of_model hmodel

theorem isZero_sub_zero (hx : IsZero x) (hz : IsZero z) : IsZero (x - z) := by
  have hmodel : (x - z).toModel =
      Float32.Model.pack (UnpackedFloat.sub .binary32 (parts x) (parts z)) := rfl
  obtain ⟨s, hs⟩ := hx
  obtain ⟨t, ht⟩ := hz
  rw [hs, ht] at hmodel
  cases s <;> cases t <;> exact isZero_of_model hmodel

theorem zero_add_cases (hz : IsZero z) (hx : x.isFinite = true) :
    z + x = x ∨ IsZero x ∧ IsZero (z + x) := by
  rcases finite_cases hx with hzero | ⟨s, m, e, hm, hparts, -⟩
  · exact .inr ⟨hzero, isZero_add_zero hz hzero⟩
  · left
    have hmodel : (z + x).toModel =
        Float32.Model.pack (UnpackedFloat.add .binary32 (parts z) (parts x)) := rfl
    obtain ⟨t, ht⟩ := hz
    apply eq_of_parts
    rw [hmodel, ht, hparts]
    rfl

theorem add_zero_cases (hz : IsZero z) (x : Float32) : x + z = x ∨ IsZero x ∧ IsZero (x + z) := by
  cases hx : x.isFinite with
  | true =>
      rw [add_comm_single]
      exact zero_add_cases hz hx
  | false =>
      have hmodel : (x + z).toModel =
          Float32.Model.pack (UnpackedFloat.add .binary32 (parts x) (parts z)) := rfl
      refine .inl (Float32.toBits_inj.mp ?_)
      show (x + z).toModel.toBits = x.toModel.toBits
      obtain ⟨s, hs⟩ := hz
      rw [hmodel, hs]
      rcases eq_of_not_finite hx with rfl | rfl | rfl <;> cases s <;> rfl

theorem isFinite_zero_add (hz : IsZero z) (hx : x.isFinite = true) : (z + x).isFinite = true := by
  rcases zero_add_cases hz hx with heq | ⟨-, hzero⟩
  · rw [heq]
    exact hx
  · exact hzero.isFinite

theorem isFinite_sub_zero (hx : x.isFinite = true) (hz : IsZero z) : (x - z).isFinite = true := by
  have hmodel : (x - z).toModel =
      Float32.Model.pack (UnpackedFloat.sub .binary32 (parts x) (parts z)) := rfl
  rcases finite_cases hx with hzero | ⟨s, m, e, hm, hparts, hfits⟩
  · exact (isZero_sub_zero hzero hz).isFinite
  · obtain ⟨t, ht⟩ := hz
    rw [ht, hparts] at hmodel
    exact isFinite_of_model hfits hmodel

theorem isFinite_zero_sub (hz : IsZero z) (hx : x.isFinite = true) : (z - x).isFinite = true := by
  have hmodel : (z - x).toModel =
      Float32.Model.pack (UnpackedFloat.sub .binary32 (parts z) (parts x)) := rfl
  rcases finite_cases hx with hzero | ⟨s, m, e, hm, hparts, hfits⟩
  · exact (isZero_sub_zero hz hzero).isFinite
  · obtain ⟨t, ht⟩ := hz
    rw [ht, hparts] at hmodel
    exact isFinite_of_model hfits hmodel

theorem isZero_sub_self (hx : x.isFinite = true) : IsZero (x - x) := by
  have hmodel : (x - x).toModel =
      Float32.Model.pack (UnpackedFloat.sub .binary32 (parts x) (parts x)) := rfl
  rcases finite_cases hx with hzero | ⟨s, m, e, hm, hparts, -⟩
  · exact isZero_sub_zero hzero hzero
  · have hsub : UnpackedFloat.sub .binary32 (.finite s m e hm) (.finite s m e hm) =
        .zero .positive := by
      show UnpackedFloat.normalize .binary32 (s.apply _ - s.apply _) _ _ = _
      rw [Int.sub_self]
      rfl
    rw [hparts, hsub] at hmodel
    exact isZero_of_model hmodel

theorem isZero_add_sub (hz : IsZero z)
    (hx : x.isFinite = true) : IsZero (z + x - x) := by
  rcases zero_add_cases hz hx with heq | ⟨hzero, hsum⟩
  · rw [heq]
    exact isZero_sub_self hx
  · exact isZero_sub_zero hsum hzero

end RigidWorlds.Binary
