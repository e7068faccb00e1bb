import StaticSite.Number.Power

/-!
# Double-precision numbers, exactly

A finite double is `± m · 2 ^ e` for natural `m`. `Double.view` reads that form off the bit
pattern, and `Double.ofRatio` goes back: it rounds a quotient of naturals to the nearest double,
a tie to the even mantissa. Conversion, comparison with integers, floor division and remainder
are exact integer arithmetic on the view; only the rounding at the end is a choice.
-/

namespace StaticSite.Double

open StaticSite.Number (twoTo tenTo)

inductive View where
  /-- The number `± mantissa · 2 ^ exponent`. -/
  | finite (negative : Bool) (mantissa : Nat) (exponent : Int)
  | infinite (negative : Bool)
  | notANumber
  deriving Repr, DecidableEq

def view (x : Float) : View :=
  let bits := x.toBits.toNat
  let negative := bits / twoTo 63 % 2 == 1
  let biased : Nat := bits / twoTo 52 % twoTo 11
  let fraction : Nat := bits % twoTo 52
  if biased = 2047 then (if fraction = 0 then .infinite negative else .notANumber)
  else if biased = 0 then .finite negative fraction (-1074)
  else .finite negative (twoTo 52 + fraction) ((biased : Int) - 1075)

def signBit (negative : Bool) : Nat := if negative then twoTo 63 else 0

def infinity (negative : Bool) : Float :=
  Float.ofBits (UInt64.ofNat (signBit negative + 2047 * twoTo 52))

def zero (negative : Bool) : Float := Float.ofBits (UInt64.ofNat (signBit negative))

def notANumber : Float := Float.ofBits 0x7FF8000000000000

/-- The quotient of two naturals, rounded to the nearest integer and on a tie to the even one. -/
def roundDiv (num den : Nat) : Nat :=
  let quotient := num / den
  let twice := 2 * (num % den)
  if twice < den then quotient
  else if den < twice then quotient + 1
  else quotient + quotient % 2

/-- `num · 2 ^ (-e) / den` rounded to the nearest integer. -/
def scaledMantissa (num den : Nat) (e : Int) : Nat :=
  if e ≥ 0 then roundDiv num (den * twoTo e.toNat) else roundDiv (num * twoTo (-e).toNat) den

/-- The exponent at which the quotient has 53 mantissa bits, or the least exponent there is. -/
def quotientExponent (num den : Nat) : Int :=
  let guess : Int := (Nat.log2 num : Int) - Nat.log2 den - 52
  let exact :=
    if guess ≥ 0 then decide (num < twoTo 52 * (den * twoTo guess.toNat))
    else decide (num * twoTo (-guess).toNat < twoTo 52 * den)
  max (if exact then guess - 1 else guess) (-1074)

/-- The double nearest to `± num / den`; beyond the largest one it is infinite. -/
def ofRatio (negative : Bool) (num den : Nat) : Float :=
  if num = 0 then zero negative
  else
    let e := quotientExponent num den
    -- Rounding may reach the next power of two; the bit pattern then counts on by itself.
    let mantissa := scaledMantissa num den e
    let magnitude : Int := if mantissa < twoTo 52 then mantissa
      else (e + 1075) * twoTo 52 + (mantissa - twoTo 52 : Int)
    if magnitude ≥ 2047 * twoTo 52 then infinity negative
    else Float.ofBits (UInt64.ofNat (signBit negative + magnitude.toNat))

/-- The double nearest to `± mantissa · 10 ^ exponent`. Exponents far outside the range of doubles
are settled without computing the power. -/
def ofDecimal (negative : Bool) (mantissa : Nat) (exponent : Int) : Float :=
  if mantissa = 0 then zero negative
  else
    let digits : Int := (Nat.log2 mantissa : Int) * 30103 / 100000 + 1
    if digits + exponent > 320 then infinity negative
    else if digits + exponent < -340 then zero negative
    else if exponent ≥ 0 then ofRatio negative (mantissa * tenTo exponent.toNat) 1
    else ofRatio negative mantissa (tenTo (-exponent).toNat)

def isFinite (x : Float) : Bool := match view x with
  | .finite .. => true
  | _ => false

def isNaN (x : Float) : Bool := match view x with
  | .notANumber => true
  | _ => false

/-- The double nearest to an integer, unless the integer is beyond the largest double. -/
def ofInt? (n : Int) : Option Float :=
  let x := ofRatio (n < 0) n.natAbs 1
  if isFinite x then some x else none

/-- A finite double as a fraction with a positive denominator. -/
def ratio? (x : Float) : Option (Int × Nat) := match view x with
  | .finite negative m e =>
    let n : Int := if negative then -(m : Int) else m
    some (if e ≥ 0 then (n * twoTo e.toNat, 1) else (n, twoTo (-e).toNat))
  | _ => none

def floor? (x : Float) : Option Int := (ratio? x).map fun r => Int.fdiv r.1 r.2

def ceil? (x : Float) : Option Int := (ratio? x).map fun r => -Int.fdiv (-r.1) r.2

/-- The integer part, toward zero. -/
def truncate? (x : Float) : Option Int := (ratio? x).map fun r => Int.tdiv r.1 r.2

def isIntegral (x : Float) : Bool := match ratio? x with
  | some r => r.1 % r.2 == 0
  | none => false

/-- How a double compares with an integer; none for a value that is no number. -/
def compareInt? (x : Float) (n : Int) : Option Ordering := match view x with
  | .notANumber => none
  | .infinite negative => some (if negative then .lt else .gt)
  | .finite .. => (ratio? x).map fun r => compare r.1 (n * r.2)

def compare? (x y : Float) : Option Ordering :=
  if x < y then some .lt else if y < x then some .gt else if x == y then some .eq else none

def isNegative (x : Float) : Bool := match view x with
  | .finite negative .. => negative
  | .infinite negative => negative
  | .notANumber => false

/-- The remainder of exact division, with the sign of the dividend. -/
def remainder (x y : Float) : Float := match view x, view y with
  | .notANumber, _ => notANumber
  | _, .notANumber => notANumber
  | .infinite _, _ => notANumber
  | .finite .., .infinite _ => x
  | .finite nx mx ex, .finite _ my ey =>
    if my = 0 then notANumber
    else
      -- Both numbers in units of the smaller power of two.
      let e := min ex ey
      let rest := (mx * twoTo (ex - e).toNat) % (my * twoTo (ey - e).toNat)
      if e ≥ 0 then ofRatio nx (rest * twoTo e.toNat) 1 else ofRatio nx rest (twoTo (-e).toNat)

/-- The remainder with the sign of the divisor, which must not be zero. -/
def modulo (x y : Float) : Float :=
  let rest := remainder x y
  if rest == 0 then zero (isNegative y)
  else if isNaN rest then rest
  else if isNegative y != isNegative rest then rest + y else rest

/-- An integral value as a double; used where the value is known to fit. -/
def ofIntegral (negative : Bool) (n : Int) : Float := ofRatio negative n.natAbs 1

/-- The floor of the quotient as a double; the divisor must not be zero. -/
def floorDiv (x y : Float) : Float :=
  let rest := remainder x y
  let raw := (x - rest) / y
  let quotient := if !(rest == 0) && isNegative y != isNegative rest then raw - 1 else raw
  if quotient == 0 then zero (isNegative (x / y))
  else match floor? quotient with
    | none => quotient
    | some n =>
      let low := ofIntegral (n < 0) n
      if quotient - low > 0.5 then low + 1 else low

end StaticSite.Double
