import RigidWorlds.Json.Fault

/-!
Reading numbers.  A numeral is reduced to a sign, an integer significand below `2 ^ 64` and a power
of ten; further digits only count places.  The double is the significand, rounded, times or divided
by the rounded power of ten, so a long numeral may miss the nearest double by a few last places.
-/

namespace RigidWorlds.Json

open Binary

/-- A value together with the text behind it. -/
abbrev Parsed (α : Type) := α × List Char

def digitValue (c : Char) : Nat := c.toNat - 48

/-- The largest significand that is collected digit by digit. -/
def significandLimit : Nat := 0xffffffffffffffff

def exponentLimit : Nat := 0x7fffffff

/-- The last power of ten below the infinite double. -/
def powerLimit : Nat := 308

def powerOfTen (n : Nat) : Float := doubleOfInt (Nat.pow 10 n)

def clampExponent (e : Int) : Int := max (-exponentLimit - 1) (min exponentLimit e)

/-- The double `x * 10 ^ exponent`, or nothing where it is infinite.  Exponents below `-308` are
taken off in steps of that size until the number is zero. -/
def scale (x : Float) (exponent : Int) : Nat → Option Float
  | 0 => some x
  | fuel + 1 =>
      if exponent.natAbs ≤ powerLimit then
        if 0 ≤ exponent then
          let product := x * powerOfTen exponent.natAbs
          if product.isInf then none else some product
        else some (x / powerOfTen exponent.natAbs)
      else if x == 0 then some x
      else if 0 ≤ exponent then none
      else scale (x / powerOfTen powerLimit) (exponent + powerLimit) fuel

def realOf (negative : Bool) (significand : Nat) (exponent : Int) (rest : List Char) :
    Except Fault (Parsed Number) :=
  match scale (doubleOfInt significand) exponent (exponent.natAbs / powerLimit + 1) with
  | none => .error (.here .numberOutOfRange rest)
  | some x => .ok (.real (if negative then -x else x), rest)

def isDigit (c : Char) : Bool := '0' ≤ c && c ≤ '9'

/-- An exponent too long to count: an error unless the number is zero or tiny. -/
def readHugeExponent (negative zero negativeExponent : Bool) (rest : List Char) :
    Except Fault (Parsed Number) :=
  if !zero && !negativeExponent then .error (.here .numberOutOfRange rest)
  else .ok (.real (if negative then -0.0 else 0.0), rest.dropWhile isDigit)

def readExponentDigits (negative : Bool) (significand : Nat) (start : Int)
    (negativeExponent : Bool) : Nat → List Char → Except Fault (Parsed Number)
  | exponent, [] =>
      realOf negative significand
        (clampExponent (if negativeExponent then start - exponent else start + exponent)) []
  | exponent, c :: rest =>
      if isDigit c then
        if exponentLimit < exponent * 10 + digitValue c then
          readHugeExponent negative (significand == 0) negativeExponent rest
        else
          readExponentDigits negative significand start negativeExponent
            (exponent * 10 + digitValue c) rest
      else
        realOf negative significand
          (clampExponent (if negativeExponent then start - exponent else start + exponent))
          (c :: rest)

def readExponent (negative : Bool) (significand : Nat) (start : Int) (rest : List Char) :
    Except Fault (Parsed Number) :=
  let (negativeExponent, digits) : Bool × List Char :=
    match rest with
    | '+' :: digits => (false, digits)
    | '-' :: digits => (true, digits)
    | digits => (false, digits)
  match digits with
  | [] => .error (.here .endInValue [])
  | c :: rest =>
      if isDigit c then
        readExponentDigits negative significand start negativeExponent (digitValue c) rest
      else .error (.next .invalidNumber (c :: rest))

def readAfterFraction (negative : Bool) (significand : Nat) (exponent : Int) (rest : List Char) :
    Except Fault (Parsed Number) :=
  match rest with
  | 'e' :: rest | 'E' :: rest => readExponent negative significand exponent rest
  | rest => realOf negative significand exponent rest

/-- The digits behind the point; `places` counts those taken into the significand. -/
def readFraction (negative : Bool) (start : Int) :
    Nat → Nat → List Char → Except Fault (Parsed Number)
  | significand, places, c :: rest =>
      if isDigit c then
        if significandLimit < significand * 10 + digitValue c then
          readAfterFraction negative significand (start - places) ((c :: rest).dropWhile isDigit)
        else readFraction negative start (significand * 10 + digitValue c) (places + 1) rest
      else if places = 0 then .error (.next .invalidNumber (c :: rest))
      else readAfterFraction negative significand (start - places) (c :: rest)
  | significand, places, [] =>
      if places = 0 then .error (.next .endInValue [])
      else readAfterFraction negative significand (start - places) []

/-- The digits of an integer beyond the significand: each counts one place. -/
def readLongInteger (negative : Bool) (significand : Nat) :
    Nat → List Char → Except Fault (Parsed Number)
  | places, [] => realOf negative significand places []
  | places, c :: rest =>
      if isDigit c then readLongInteger negative significand (places + 1) rest
      else if c = '.' then readFraction negative places significand 0 rest
      else if c = 'e' ∨ c = 'E' then readExponent negative significand places rest
      else realOf negative significand places (c :: rest)

/-- An integer; zero with a sign and integers below `-2 ^ 63` are doubles. -/
def integerOf (negative : Bool) (n : Nat) : Number :=
  if !negative then .integer n
  else if n = 0 ∨ 0x8000000000000000 < n then .real (-(doubleOfInt n))
  else .integer (-n)

def readAfterInteger (negative : Bool) (significand : Nat) (rest : List Char) :
    Except Fault (Parsed Number) :=
  match rest with
  | '.' :: rest => readFraction negative 0 significand 0 rest
  | 'e' :: rest | 'E' :: rest => readExponent negative significand 0 rest
  | rest => .ok (integerOf negative significand, rest)

def readIntegerDigits (negative : Bool) : Nat → List Char → Except Fault (Parsed Number)
  | significand, [] => readAfterInteger negative significand []
  | significand, c :: rest =>
      if isDigit c then
        if significandLimit < significand * 10 + digitValue c then
          readLongInteger negative significand 0 (c :: rest)
        else readIntegerDigits negative (significand * 10 + digitValue c) rest
      else readAfterInteger negative significand (c :: rest)

/-- A number behind its sign. -/
def readNumber (negative : Bool) (rest : List Char) : Except Fault (Parsed Number) :=
  match rest with
  | [] => .error (.here .endInValue [])
  | '0' :: rest =>
      match rest with
      | c :: _ =>
          if isDigit c then .error (.next .invalidNumber rest)
          else readAfterInteger negative 0 rest
      | [] => readAfterInteger negative 0 rest
  | c :: rest =>
      if isDigit c then readIntegerDigits negative (digitValue c) rest
      else .error (.next .invalidNumber (c :: rest))

end RigidWorlds.Json
