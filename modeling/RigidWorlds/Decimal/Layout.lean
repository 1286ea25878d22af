import RigidWorlds.Binary.Convert
import RigidWorlds.Decimal.Shortest

/-!
How a number is laid out once its digits are known.  A `Layout` says between which exponents of the
first digit the number is written in full and whether an integral one keeps its `.0`; the other
numbers are written with one digit before the point and a signed exponent.  It also says which of
two equally near digits stands at the end.
-/

namespace RigidWorlds.Decimal

open Binary

structure Layout where
  /-- Whether a number whose first digit has this exponent is written in full. -/
  plain : Int → Bool
  /-- Whether an integral number written in full ends in `.0`. -/
  pointZero : Bool
  tie : Tie

namespace Layout

def doubleText : Layout := ⟨fun e => -5 ≤ e && e ≤ 15, true, .even⟩

def singleText : Layout := ⟨fun e => -6 ≤ e && e ≤ 12, true, .even⟩

/-- Numbers in prose: always in full, integral ones without a point. -/
def prose : Layout := ⟨fun _ => true, false, .up⟩

def writePlain (l : Layout) (d : Decimal) : List Char :=
  let digits := Nat.toDigits 10 d.significand
  if 0 ≤ d.exponent then
    digits ++ List.replicate d.exponent.toNat '0' ++ if l.pointZero then ['.', '0'] else []
  else
    let places := (-d.exponent).toNat
    if places < digits.length then
      digits.take (digits.length - places) ++ '.' :: digits.drop (digits.length - places)
    else
      '0' :: '.' :: List.replicate (places - digits.length) '0' ++ digits

/-- One digit before the point, then the exponent with its sign. -/
def writeScientific (d : Decimal) : List Char :=
  let digits := Nat.toDigits 10 d.significand
  let exponent := d.leadingExponent
  let fraction := if digits.length = 1 then [] else '.' :: digits.drop 1
  digits.take 1 ++ fraction ++ ['e', if exponent < 0 then '-' else '+'] ++
    Nat.toDigits 10 exponent.natAbs

def write (l : Layout) (d : Decimal) : List Char :=
  if l.plain d.leadingExponent then l.writePlain d else writeScientific d

def writeBits (l : Layout) (f : Format) (negative : Bool) (bits : Nat) : List Char :=
  (if negative then ['-'] else []) ++
    if bits = 0 then '0' :: (if l.pointZero then ['.', '0'] else [])
    else l.write (shortest f l.tie bits)

end Layout

def doubleText (x : Float) : List Char :=
  Layout.doubleText.writeBits double (doubleNegative x) (doubleBits x)

def singleText (x : Float32) : List Char :=
  Layout.singleText.writeBits single (singleNegative x) (singleBits x)

/-- A single in prose; what is no number is named. -/
def prose (x : Float32) : String :=
  if singleBits x < single.infinity then
    String.ofList (Layout.prose.writeBits single (singleNegative x) (singleBits x))
  else if singleBits x = single.infinity then (if singleNegative x then "-inf" else "inf")
  else "NaN"

end RigidWorlds.Decimal
