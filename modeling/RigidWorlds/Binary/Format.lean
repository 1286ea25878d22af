/-!
Binary floating-point formats on natural numbers.  The magnitude bits of a format grow with the
number they stand for, so rounding an exact quotient is a single division: `Format.round` returns
the bits of the nearest number of the format, ties to the even significand, and the bits of
infinity once the quotient is too large.
-/

namespace RigidWorlds.Binary

/-- A binary format.  `precision` counts the significand bits with the leading one, `leastPlace` is
the exponent of the last place of the smallest numbers, `exponentBits` the width of the exponent
field. -/
structure Format where
  precision : Nat
  leastPlace : Int
  exponentBits : Nat

def single : Format := ⟨24, -149, 8⟩

def double : Format := ⟨53, -1074, 11⟩

def divNearestEven (num den : Nat) : Nat :=
  let quotient := num / den
  let rest := num % den
  if 2 * rest < den then quotient
  else if den < 2 * rest then quotient + 1
  else quotient + quotient % 2

/-- The exponent of the largest power of two not above `num / den`, for positive arguments. -/
def quotientLog (num den : Nat) : Int :=
  let guess : Int := (num.log2 : Int) - den.log2
  if den <<< guess.toNat ≤ num <<< (-guess).toNat then guess else guess - 1

namespace Format

def fractionBits (f : Format) : Nat := f.precision - 1

/-- The magnitude bits of infinity; larger ones are not numbers. -/
def infinity (f : Format) : Nat := ((1 <<< f.exponentBits) - 1) <<< f.fractionBits

def notANumber (f : Format) : Nat := f.infinity + 1 <<< (f.fractionBits - 1)

def signBit (f : Format) : Nat := 1 <<< (f.fractionBits + f.exponentBits)

def significand (f : Format) (bits : Nat) : Nat :=
  let fraction := bits % (1 <<< f.fractionBits)
  if bits < 1 <<< f.fractionBits then fraction else 1 <<< f.fractionBits + fraction

/-- The exponent of the last place of finite magnitude bits. -/
def place (f : Format) (bits : Nat) : Int :=
  f.leastPlace + ((bits >>> f.fractionBits - 1 : Nat) : Int)

/-- The magnitude bits of the number of the format nearest to `num / den`. -/
def round (f : Format) (num den : Nat) : Nat :=
  if num = 0 then 0
  else
    let place := max f.leastPlace (quotientLog num den - f.fractionBits)
    let steps := divNearestEven (num <<< (-place).toNat) (den <<< place.toNat)
    min f.infinity ((place - f.leastPlace).toNat <<< f.fractionBits + steps)

/-- The magnitude bits, in format `g`, of the number with magnitude `bits` in format `f`. -/
def convert (f g : Format) (bits : Nat) : Nat :=
  if bits < f.infinity then
    let place := f.place bits
    g.round (f.significand bits <<< place.toNat) (1 <<< (-place).toNat)
  else if bits = f.infinity then g.infinity
  else g.notANumber

/-- Moves a bit pattern with its sign from format `f` to format `g`. -/
def convertSigned (f g : Format) (pattern : Nat) : Nat :=
  pattern / f.signBit * g.signBit + f.convert g (pattern % f.signBit)

/-- The bit pattern of the number of the format nearest to an integer. -/
def ofInt (f : Format) (n : Int) : Nat :=
  (if n < 0 then f.signBit else 0) + f.round n.natAbs 1

end Format

end RigidWorlds.Binary
