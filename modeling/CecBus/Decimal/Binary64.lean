/-! Binary floating-point numbers of 64 bits as exact values. A finite number is a sign, a significand
and a power of two; a quotient of natural numbers rounds to the nearest of them, a tie to the even
significand. -/

namespace CecBus

/-- A 64-bit binary floating-point number. A finite one stands for `significand * 2 ^ exponent`, where
the exponent is the least one that keeps the significand below `2 ^ 53`, but not below `-1074`. -/
inductive Binary64 where
  | finite (negative : Bool) (significand : Nat) (exponent : Int)
  | infinite (negative : Bool)
  | nan
  deriving DecidableEq, Repr

namespace Binary64

def minExponent : Int := -1074

def maxExponent : Int := 971

def zero (negative : Bool) : Binary64 := .finite negative 0 minExponent

/-- Equality as a value: both zeros are one value, and so are all that are not numbers. -/
def same : Binary64 → Binary64 → Bool
  | .finite s m e, .finite t n f => (m = 0 && n = 0) || (s = t && m = n && e = f)
  | .infinite s, .infinite t => s = t
  | .nan, .nan => true
  | _, _ => false

/-- The quotient of two natural numbers rounded to the nearest one, a tie to the even one. -/
def roundDiv (num den : Nat) : Nat :=
  let quotient := num / den
  let twice := 2 * (num % den)
  if twice < den || (twice = den && quotient % 2 = 0) then quotient else quotient + 1

/-- Multiplies a quotient by `2 ^ -exponent`. -/
def scaled (num den : Nat) (exponent : Int) : Nat × Nat :=
  if exponent < 0 then (num * Nat.pow 2 exponent.natAbs, den) else (num, den * Nat.pow 2 exponent.natAbs)

/-- The exponent for which a positive quotient has a significand of 53 bits, or the least one. -/
def exponentFor (num den : Nat) : Int :=
  let guess : Int := (num.log2 : Int) - (den.log2 : Int) - 52
  let (n, d) := scaled num den guess
  max minExponent (if n / d < Nat.pow 2 52 then guess - 1 else guess)

/-- The nearest number to a quotient. -/
def ofRatio (negative : Bool) (num den : Nat) : Binary64 :=
  if num = 0 then zero negative
  else
    let exponent := exponentFor num den
    let (n, d) := scaled num den exponent
    let significand := roundDiv n d
    let (significand, exponent) :=
      if significand = Nat.pow 2 53 then (Nat.pow 2 52, exponent + 1) else (significand, exponent)
    if maxExponent < exponent then .infinite negative else .finite negative significand exponent

/-- The nearest number to `digits * 10 ^ exponent`. Far outside the range the result is known without
computing the power. -/
def ofDecimal (negative : Bool) (digits : Nat) (exponent : Int) : Binary64 :=
  let magnitude : Int := (Nat.toDigits 10 digits).length + exponent
  if digits = 0 || magnitude < -400 then zero negative
  else if 400 < magnitude then .infinite negative
  else if exponent < 0 then ofRatio negative digits (Nat.pow 10 exponent.natAbs)
  else ofRatio negative (digits * Nat.pow 10 exponent.natAbs) 1

def isFinite : Binary64 → Bool
  | .finite .. => true
  | _ => false

end Binary64

end CecBus
