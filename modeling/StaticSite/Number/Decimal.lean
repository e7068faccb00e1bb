import StaticSite.Number.Double

/-!
# Decimal text of numbers

The plain text of a double has the fewest digits that read back as the same double; of two such
texts the nearer one is taken, and on a tie the one with the even last digit. Magnitudes from
`10 ^ (-4)` up to `10 ^ 16` are written positionally, the others with an exponent of at least two
digits. Texts with a chosen number of places round the exact value, a tie to the even digit.
-/

namespace StaticSite.Decimal

open StaticSite.Number (tenTo)

/-- A decimal `digits · 10 ^ exponent`. -/
structure Digits where
  digits : Nat
  exponent : Int
  deriving Repr, DecidableEq

def natText (n : Nat) : List Char := Nat.toDigits 10 n

def intText (n : Int) : List Char := if n < 0 then '-' :: natText n.natAbs else natText n.natAbs

/-- Whether `10 ^ p ≤ num / den`. -/
def powerAtMost (p : Int) (num den : Nat) : Bool :=
  if p ≥ 0 then den * tenTo p.toNat ≤ num else den ≤ num * tenTo (-p).toNat

/-- The power of ten of the leading digit of a positive quotient. -/
def leadingPower (num den : Nat) : Int :=
  -- The logarithm of two is 0.30103; the guess is off by two at most.
  let guess : Int := ((Nat.log2 num : Int) - Nat.log2 den) * 30103 / 100000
  if powerAtMost (guess + 1) num den then
    (if powerAtMost (guess + 2) num den then guess + 2 else guess + 1)
  else if powerAtMost guess num den then guess
  else if powerAtMost (guess - 1) num den then guess - 1 else guess - 2

/-- The quotient divided by `10 ^ p`, as a fraction. -/
def scaled (num den : Nat) (p : Int) : Nat × Nat :=
  if p ≥ 0 then (num, den * tenTo p.toNat) else (num * tenTo (-p).toNat, den)

def readsBack (x : Float) (d : Digits) : Bool :=
  (Double.ofDecimal false d.digits d.exponent).toBits == x.toBits

/-- The best decimal with `count` digits that reads back as `x`. -/
def withDigits? (x : Float) (num den : Nat) (power : Int) (count : Nat) : Option Digits :=
  let p := power - count + 1
  let (n, d) := scaled num den p
  let below : Digits := ⟨n / d, p⟩
  let above : Digits := ⟨n / d + 1, p⟩
  -- If any decimal of this length reads back, one of the two neighbours of `x` does.
  match readsBack x below, readsBack x above with
  | true, true => some (if Double.roundDiv n d = n / d then below else above)
  | true, false => some below
  | false, true => some above
  | false, false => none

/-- Tries one digit more until the decimal reads back; seventeen always do. -/
def shortestFrom (x : Float) (num den : Nat) (power : Int) : (left count : Nat) → Digits
  | 0, count => (withDigits? x num den power count).getD ⟨0, 0⟩
  | left + 1, count =>
    match withDigits? x num den power count with
    | some d => d
    | none => shortestFrom x num den power left (count + 1)

/-- The shortest decimal of a positive finite double. -/
def shortest (x : Float) : Digits :=
  match Double.ratio? x with
  | some (n, den) => shortestFrom x n.natAbs den (leadingPower n.natAbs den) 16 1
  | none => ⟨0, 0⟩

def stripZeros (s : List Char) : List Char := (s.reverse.dropWhile (· == '0')).reverse

/-- The exponent part: a sign and at least two digits. -/
def exponentText (e : Int) : List Char :=
  let digits := natText e.natAbs
  (if e < 0 then '-' else '+') :: (if digits.length < 2 then '0' :: digits else digits)

/-- Digits with the point after the first `place` of them; `place` may lie outside the digits. -/
def positional (digits : List Char) (place : Int) : List Char :=
  if place ≤ 0 then '0' :: '.' :: List.replicate (-place).toNat '0' ++ digits
  else if place.toNat ≥ digits.length then
    digits ++ List.replicate (place.toNat - digits.length) '0' ++ ['.', '0']
  else digits.take place.toNat ++ '.' :: digits.drop place.toNat

def scientific (digits : List Char) (place : Int) : List Char :=
  (match digits with
    | [] => ['0']
    | [d] => [d]
    | d :: rest => d :: '.' :: rest) ++ 'e' :: exponentText (place - 1)

/-- The plain text of a positive finite double. -/
def positiveText (x : Float) : List Char :=
  let d := shortest x
  let all := natText d.digits
  let place : Int := all.length + d.exponent
  let digits := stripZeros all
  if -4 < place && place ≤ 16 then positional digits place else scientific digits place

/-- The plain text of a double. -/
def floatText (x : Float) : List Char := match Double.view x with
  | .notANumber => ['n', 'a', 'n']
  | .infinite negative => (if negative then ['-'] else []) ++ ['i', 'n', 'f']
  | .finite negative mantissa _ =>
    (if negative then ['-'] else [])
      ++ if mantissa = 0 then ['0', '.', '0'] else positiveText x.abs

/-- `|x| · 10 ^ places` rounded to an integer. -/
def roundedDigits (x : Float) (places : Int) : Nat :=
  match Double.ratio? x with
  | some (n, den) =>
    let (num, den) := scaled n.natAbs den (-places)
    Double.roundDiv num den
  | none => 0

/-- A finite double rounded to a number of places, which may be negative. -/
def roundTo (x : Float) (places : Int) : Float :=
  if places > 400 then x
  else if places < -400 then Double.zero (Double.isNegative x)
  else Double.ofDecimal (Double.isNegative x) (roundedDigits x places) (-places)

/-- An integer rounded to a multiple of `10 ^ places`, a tie to the even multiple. -/
def roundIntTo (n : Int) (places : Nat) : Int :=
  let unit := tenTo places
  let rounded := Double.roundDiv n.natAbs unit * unit
  if n < 0 then -(rounded : Int) else rounded

/-- The magnitude of a finite double with exactly `places` digits after the point. -/
def fixedText (x : Float) (places : Nat) : List Char :=
  let digits := natText (roundedDigits x places)
  let digits := List.replicate (places + 1 - digits.length) '0' ++ digits
  let whole := digits.take (digits.length - places)
  if places = 0 then whole else whole ++ '.' :: digits.drop (digits.length - places)

/-- The digits and the power of the leading digit of a finite magnitude, to `count + 1` digits. -/
def leadingDigits (x : Float) (count : Nat) : List Char × Int :=
  match Double.ratio? x with
  | some (n, den) =>
    if n = 0 then (List.replicate (count + 1) '0', 0)
    else
      let power := leadingPower n.natAbs den
      let (num, d) := scaled n.natAbs den (power - count)
      let digits := natText (Double.roundDiv num d)
      -- Rounding up to a power of ten makes one digit more.
      if digits.length > count + 1 then (digits.take (count + 1), power + 1) else (digits, power)
  | none => ([], 0)

/-- The magnitude in scientific form with exactly `places` digits after the point. -/
def scientificText (x : Float) (places : Nat) : List Char :=
  let (digits, power) := leadingDigits x places
  scientific digits (power + 1)

/-- The general form: at most `count` significant digits and no trailing zeros, positional while
the leading power is at least `-4` and below `count`. -/
def generalText (x : Float) (count : Nat) : List Char :=
  let count := if count = 0 then 1 else count
  let (digits, power) := leadingDigits x (count - 1)
  let digits := match stripZeros digits with
    | [] => ['0']
    | short => short
  if -4 ≤ power && power < count then
    -- A whole number is written without the point and the zero behind it.
    let text := positional digits (power + 1)
    if power + 1 ≥ digits.length then text.take (text.length - 2) else text
  else scientific digits (power + 1)

end StaticSite.Decimal
