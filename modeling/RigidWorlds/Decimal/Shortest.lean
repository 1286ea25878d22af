import RigidWorlds.Binary.Format

/-!
Shortest decimal digits.  The reals that round to a finite binary number form an interval, closed
when its significand is even.  `shortest` returns the decimal in that interval with the fewest
digits, and among those the one nearest to the number; which of two equally near ones it takes is a
matter of the `Tie`.
-/

namespace RigidWorlds

open Binary

/-- Which of two equally near numbers is taken: the one with an even last digit, or the larger. -/
inductive Tie where
  | even
  | up
  deriving DecidableEq

def Tie.divNearest : Tie → Nat → Nat → Nat
  | even, num, den => divNearestEven num den
  | up, num, den => (2 * num + den) / (2 * den)

/-- The number `significand * 10 ^ exponent`. -/
structure Decimal where
  significand : Nat
  exponent : Int

namespace Decimal

def digitCount (n : Nat) : Nat := (Nat.toDigits 10 n).length

def leadingExponent (d : Decimal) : Int := d.exponent + digitCount d.significand - 1

/-- The same number without trailing zero digits, at most `fuel` of them removed. -/
def trim : Nat → Decimal → Decimal
  | 0, d => d
  | fuel + 1, d =>
      if d.significand % 10 = 0 then trim fuel ⟨d.significand / 10, d.exponent + 1⟩ else d

/-- A positive number between the ends of the interval that rounds to it, all three over the
denominator `unit`. -/
structure Interval where
  low : Nat
  value : Nat
  high : Nat
  unit : Nat
  closed : Bool

namespace Interval

/-- The interval of the reals that round to positive finite magnitude bits. -/
def ofBits (f : Format) (bits : Nat) : Interval :=
  let significand := f.significand bits
  let place := f.place bits - 2
  let scale := 1 <<< place.toNat
  let below := if significand = 1 <<< f.fractionBits ∧ f.leastPlace < f.place bits then 1 else 2
  { low := (4 * significand - below) * scale
    value := 4 * significand * scale
    high := (4 * significand + 2) * scale
    unit := 1 <<< (-place).toNat
    closed := significand % 2 = 0 }

def contains (i : Interval) (n den : Nat) : Bool :=
  if i.closed then i.low * den ≤ n * i.unit ∧ n * i.unit ≤ i.high * den
  else i.low * den < n * i.unit ∧ n * i.unit < i.high * den

/-- The least `p` such that the value is below `10 ^ p`. -/
def point (i : Interval) : Int :=
  if i.unit ≤ i.value then digitCount (i.value / i.unit)
  else 1 - digitCount ((i.unit + i.value - 1) / i.value - 1)

/-- The decimal with `count` digits in the interval that is nearest to the value. -/
def candidate (i : Interval) (tie : Tie) (count : Nat) : Option Decimal :=
  let exponent := i.point - count
  let num := i.value * Nat.pow 10 (-exponent).toNat
  let den := i.unit * Nat.pow 10 exponent.toNat
  let down := num / den
  let inside (n : Nat) : Bool :=
    i.contains (n * Nat.pow 10 exponent.toNat) (Nat.pow 10 (-exponent).toNat)
  match inside down, inside (down + 1) with
  | true, true => some ⟨tie.divNearest num den, exponent⟩
  | true, false => some ⟨down, exponent⟩
  | false, true => some ⟨down + 1, exponent⟩
  | false, false => none

end Interval

/-- No format needs more digits than this. -/
def digitLimit : Nat := 17

/-- The shortest decimal that rounds to the given positive finite magnitude bits. -/
def shortest (f : Format) (tie : Tie) (bits : Nat) : Decimal :=
  let i := Interval.ofBits f bits
  let found := (List.range digitLimit).findSome? fun n => i.candidate tie (n + 1)
  (found.getD ⟨0, 0⟩).trim digitLimit

end Decimal

end RigidWorlds
