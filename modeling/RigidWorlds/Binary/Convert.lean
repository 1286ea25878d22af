import RigidWorlds.Binary.Format

/-!
Conversions between machine floats and integers.  Each goes through the bit patterns, so that it
rounds once, to nearest, and a single widened to a double narrows back to itself.
-/

namespace RigidWorlds.Binary

def singleBits (x : Float32) : Nat := x.toBits.toNat % single.signBit

def singleNegative (x : Float32) : Bool := single.signBit ≤ x.toBits.toNat

def doubleBits (x : Float) : Nat := x.toBits.toNat % double.signBit

def doubleNegative (x : Float) : Bool := double.signBit ≤ x.toBits.toNat

def widen (x : Float32) : Float :=
  Float.ofBits (.ofNat (single.convertSigned double x.toBits.toNat))

def narrow (x : Float) : Float32 :=
  Float32.ofBits (.ofNat (double.convertSigned single x.toBits.toNat))

def singleOfInt (n : Int) : Float32 := Float32.ofBits (.ofNat (single.ofInt n))

def doubleOfInt (n : Int) : Float := Float.ofBits (.ofNat (double.ofInt n))

end RigidWorlds.Binary
