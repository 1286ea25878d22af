import Mathlib
import RigidWorlds.Proofs.Conversion

/-!
Machine floats and their bit patterns.  The patterns of numbers survive being read as floats, so the
conversions between singles and doubles are those between the formats.
-/

namespace RigidWorlds.Binary

section

open Float.Model.UnpackedFloat

variable {spec : Float.Model.Format}

theorem pack_finite (sign : Sign) (biased : Nat) {m : Nat} {e : Int} (hm : 0 < m)
    (hbiased : e + spec.exponentBias + spec.mantissaBitsWithoutImplicit = biased)
    (hroom : biased + 1 < 2 ^ spec.exponentBits) :
    pack spec (.finite sign m e hm) =
      packComponents spec sign
        (if m.log2 = spec.mantissaBitsWithoutImplicit then BitVec.ofNat _ biased else 0#_)
        (BitVec.ofNat _ m) := by
  have hlog : m.log2 + 1 = spec.mantissaBits ↔ m.log2 = spec.mantissaBitsWithoutImplicit := by
    unfold Float.Model.Format.mantissaBits
    omega
  simp only [pack, hbiased, Int.toNat_natCast, if_neg (Nat.not_le.mpr hroom), hlog]
  split <;> rfl

theorem toNat_one_append {n : Nat} (m : BitVec n) : (1#1 ++ m).toNat = 2 ^ n + m.toNat := by
  rw [BitVec.toNat_append, ← Nat.shiftLeft_add_eq_or_of_lt m.isLt, Nat.shiftLeft_eq]
  exact congrArg (· + _) (Nat.one_mul _)

theorem ne_zeros_iff {n : Nat} {b : BitVec n} : b ≠ 0#n ↔ b.toNat ≠ 0 := by
  rw [Ne, ← BitVec.toNat_inj, BitVec.toNat_ofNat, Nat.zero_mod]

theorem ne_ones_iff {n : Nat} {b : BitVec n} : b ≠ -1#n ↔ b.toNat + 1 < 2 ^ n := by
  have hlt := b.isLt
  rw [Ne, ← BitVec.toNat_inj, BitVec.neg_one_eq_allOnes, BitVec.toNat_allOnes]
  omega

theorem valid_of_unpackExponent_ne {b : BitVec spec.numBits} (h : unpackExponent b ≠ -1#_) :
    spec.Valid b :=
  ⟨fun hones => absurd hones h⟩

theorem toNat_unpackExponent (b : BitVec spec.numBits) :
    (unpackExponent b).toNat =
      b.toNat / 2 ^ spec.mantissaBitsWithoutImplicit % 2 ^ spec.exponentBits := by
  rw [unpackExponent_def, BitVec.extractLsb'_toNat, Nat.shiftRight_eq_div_pow]

theorem isFinite_unpack_iff {b : BitVec spec.numBits} :
    (unpack spec b).isFinite = true ↔ unpackExponent b ≠ -1#_ := by
  unfold unpack
  constructor
  · intro h heq
    rw [if_pos heq] at h
    split at h <;> cases h
  · intro h
    rw [if_neg h]
    split
    · split <;> rfl
    · rfl

theorem unpackExponent_ne_iff {b : BitVec spec.numBits} :
    unpackExponent b ≠ -1#_ ↔
      b.toNat / 2 ^ spec.mantissaBitsWithoutImplicit % 2 ^ spec.exponentBits ≠
        2 ^ spec.exponentBits - 1 := by
  rw [← toNat_unpackExponent, ← BitVec.toNat_allOnes, ← BitVec.neg_one_eq_allOnes, Ne, Ne,
    BitVec.toNat_inj]

theorem unpackExponent_single_iff {n : UInt32} :
    @unpackExponent .binary32 n.toBitVec ≠ -1#_ ↔
      n.toNat % single.signBit < single.infinity := by
  rw [unpackExponent_ne_iff]
  change n.toNat / 8388608 % 256 ≠ 255 ↔ n.toNat % 2147483648 < 2139095040
  omega

theorem unpackExponent_double_iff {n : UInt64} :
    @unpackExponent .binary64 n.toBitVec ≠ -1#_ ↔
      n.toNat % double.signBit < double.infinity := by
  rw [unpackExponent_ne_iff]
  change n.toNat / 4503599627370496 % 2048 ≠ 2047 ↔
    n.toNat % 9223372036854775808 < 9218868437227405312
  omega

theorem isFinite_single_iff {x : Float32} :
    x.isFinite = true ↔ x.toBits.toNat % single.signBit < single.infinity :=
  isFinite_unpack_iff.trans unpackExponent_single_iff

theorem isFinite_double_iff {x : Float} :
    x.isFinite = true ↔ x.toBits.toNat % double.signBit < double.infinity :=
  isFinite_unpack_iff.trans unpackExponent_double_iff

theorem toBits_ofBits_single {n : UInt32} (h : n.toNat % single.signBit < single.infinity) :
    (Float32.ofBits n).toBits = n :=
  have hvalid := valid_of_unpackExponent_ne (unpackExponent_single_iff.mpr h)
  congrArg UInt32.ofBitVec (pack_unpack_of_valid hvalid)

theorem toBits_ofBits_double {n : UInt64} (h : n.toNat % double.signBit < double.infinity) :
    (Float.ofBits n).toBits = n :=
  have hvalid := valid_of_unpackExponent_ne (unpackExponent_double_iff.mpr h)
  congrArg UInt64.ofBitVec (pack_unpack_of_valid hvalid)

theorem isFinite_ofBits_double {n : UInt64} (h : ¬ n.toNat % double.signBit < double.infinity) :
    (Float.ofBits n).isFinite = false := by
  have hinfinity : ∀ sign,
      (unpack .binary64 (pack .binary64 (.infinity sign))).isFinite = false := by
    intro sign
    cases sign <;> decide
  have hnan : (unpack .binary64 (pack .binary64 .notANumber)).isFinite = false := by decide
  have hexponent := of_not_not (mt unpackExponent_double_iff.mp h)
  have hunpack : ∀ b, @unpackExponent .binary64 b = -1#_ →
      (unpack .binary64 (pack .binary64 (unpack .binary64 b))).isFinite = false := by
    intro b hb
    rw [show unpack .binary64 b = _ from if_pos hb]
    split
    · exact hinfinity _
    · exact hnan
  exact hunpack n.toBitVec hexponent

end

theorem toNat_toBits_widen {x : Float32} (hx : x.isFinite = true) :
    (widen x).toBits.toNat = single.convertSigned double x.toBits.toNat := by
  obtain ⟨hwide, hsign, -⟩ := Format.convertSigned_single (isFinite_single_iff.mp hx)
  have hlt : single.convertSigned double x.toBits.toNat < 2 ^ 64 := by
    have hpattern : x.toBits.toNat < 2 ^ 32 := x.toBits.toNat_lt
    have hsingle : single.signBit = 2 ^ 31 := rfl
    have hdouble : double.signBit = 2 ^ 63 := rfl
    rw [hsingle, hdouble] at hsign
    omega
  have hword : (UInt64.ofNat (single.convertSigned double x.toBits.toNat)).toNat =
      single.convertSigned double x.toBits.toNat := UInt64.toNat_ofNat_of_lt' hlt
  rw [widen, toBits_ofBits_double (by rw [hword]; exact hwide), hword]

theorem isFinite_widen {x : Float32} (hx : x.isFinite = true) : (widen x).isFinite = true := by
  rw [isFinite_double_iff, toNat_toBits_widen hx]
  exact (Format.convertSigned_single (isFinite_single_iff.mp hx)).1

theorem isFinite_of_widen {x : Float32} (h : (widen x).isFinite = true) : x.isFinite = true := by
  by_contra hx
  have hpattern : x.toBits.toNat < 2 ^ 32 := x.toBits.toNat_lt
  have hsingle : single.signBit = 2 ^ 31 := rfl
  have hdouble : double.signBit = 2 ^ 63 := rfl
  have hlarge : ¬ singleBits x < single.infinity := mt isFinite_single_iff.mpr hx
  have hconvert : double.infinity ≤ single.convert double (singleBits x) ∧
      single.convert double (singleBits x) < 2 ^ 63 := by
    rw [Format.convert, if_neg hlarge]
    split <;> decide
  have hsum : single.convertSigned double x.toBits.toNat =
      2 ^ 63 * (x.toBits.toNat / 2 ^ 31) + single.convert double (singleBits x) := by
    rw [Format.convertSigned, Nat.mul_comm]
    rfl
  have hword : (UInt64.ofNat (single.convertSigned double x.toBits.toNat)).toNat =
      single.convertSigned double x.toBits.toNat :=
    UInt64.toNat_ofNat_of_lt' (show _ < 2 ^ 64 by omega)
  refine absurd h (Bool.eq_false_iff.mp (isFinite_ofBits_double ?_))
  rw [hword, hdouble, hsum]
  omega

theorem narrow_widen {x : Float32} (hx : x.isFinite = true) : narrow (widen x) = x := by
  have hfinite := isFinite_single_iff.mp hx
  obtain ⟨-, -, hback⟩ := Format.convertSigned_single hfinite
  rw [narrow, toNat_toBits_widen hx, hback, UInt32.ofNat_toNat, Float32.ofBits_toBits]

end RigidWorlds.Binary
