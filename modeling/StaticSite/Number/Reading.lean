import StaticSite.Number.Double
import StaticSite.Text.Search

/-!
# Numbers read from text

Digits of every script count, single low lines may stand between digits, and blanks around the
number are ignored. An integer text in base zero says its base itself.
-/

namespace StaticSite.Number

open StaticSite.Text

/-- Longer decimal texts are refused. -/
def digitLimit : Nat := 4300

/-- The value of a digit or letter in a base of at most thirty-six. -/
def digitIn? (base : Nat) (c : Char) : Option Nat :=
  let value := match decimalValue? c with
    | some d => some d
    | none =>
      if isAsciiLower c then some (c.toNat - 87)
      else if isAsciiUpper c then some (c.toNat - 55) else none
  value.bind fun d => if d < base then some d else none

/-- The value of digits with single low lines between them; `joined` says that a low line may
come next. -/
def digitsIn? (base : Nat) : (joined : Bool) → (value : Nat) → List Char → Option Nat
  | joined, value, [] => if joined then some value else none
  | joined, value, c :: s =>
    if c = '_' then (if joined then digitsIn? base false value s else none)
    else match digitIn? base c with
      | some d => digitsIn? base true (value * base + d) s
      | none => none

def dropSign (s : List Char) : Bool × List Char := match s with
  | '-' :: rest => (true, rest)
  | '+' :: rest => (false, rest)
  | _ => (false, s)

theorem dropSign_suffix (s : List Char) : (dropSign s).2 <:+ s := by
  unfold dropSign
  split
  · exact List.suffix_cons _ _
  · exact List.suffix_cons _ _
  · exact List.suffix_refl _

/-- The base that a leading zero and letter announce. -/
def announced? : List Char → Option (Nat × List Char)
  | '0' :: c :: rest =>
    if c = 'x' || c = 'X' then some (16, rest)
    else if c = 'o' || c = 'O' then some (8, rest)
    else if c = 'b' || c = 'B' then some (2, rest)
    else none
  | _ => none

/-- Drops one low line after an announced base. -/
def dropJoin : List Char → List Char
  | '_' :: rest => rest
  | s => s

def magnitude? (base : Nat) (s : List Char) : Option Nat :=
  match announced? s with
  | some (own, rest) =>
    if base = 0 || base = own then digitsIn? own false 0 (dropJoin rest)
    else digitsIn? base false 0 s
  | none =>
    if base = 0 then
      (digitsIn? 10 false 0 s).bind fun n =>
        if s.head? = some '0' && n ≠ 0 then none else some n
    else digitsIn? base false 0 s

def tooLong (base : Nat) (s : List Char) : Bool :=
  !([2, 4, 8, 16, 32].elem base) && (s.filter (· != '_')).length > digitLimit

/-- An integer text in a base from two to thirty-six, or in base zero. -/
def int? (base : Nat) (s : List Char) : Option Int :=
  if base = 1 || base > 36 then none
  else
    let (negative, body) := dropSign (trim s)
    if tooLong base body then none
    else (magnitude? base body).map fun n => if negative then -(n : Int) else n

/-- Reads decimal digits with single low lines from the front: their value, how many they are, and
the rest; nothing is read if there is no digit or a low line joins no digits. -/
def spanDigits (s : List Char) : Nat × Nat × List Char :=
  go false 0 0 s
where
  go (joined : Bool) (value count : Nat) : List Char → Nat × Nat × List Char
    | [] => (value, count, [])
    | c :: rest =>
      match decimalValue? c with
      | some d => go true (value * 10 + d) (count + 1) rest
      | none =>
        if c = '_' && joined && (rest.head?.bind decimalValue?).isSome then go false value count rest
        else (value, count, c :: rest)

/-- The exponent part of a decimal, zero if there is none. -/
def exponent? : List Char → Option (Int × List Char)
  | [] => some (0, [])
  | c :: rest =>
    if c = 'e' || c = 'E' then
      let (negative, digits) := dropSign rest
      let (value, count, after) := spanDigits digits
      if count = 0 then none else some (if negative then -(value : Int) else value, after)
    else some (0, c :: rest)

def asciiLower (s : List Char) : List Char :=
  s.map fun c => if isAsciiUpper c then Char.ofNat (c.toNat + 32) else c

/-- A decimal with an optional fraction and exponent, and nothing after it. -/
def decimal? (negative : Bool) (s : List Char) : Option Float :=
  let (whole, wholeCount, rest) := spanDigits s
  let (fraction, fractionCount, rest) : Nat × Nat × List Char := match rest with
    | '.' :: after => spanDigits after
    | _ => (0, 0, rest)
  if wholeCount = 0 && fractionCount = 0 then none
  else match exponent? rest with
    | some (e, []) =>
      some (Double.ofDecimal negative (whole * tenTo fractionCount + fraction) (e - fractionCount))
    | _ => none

/-- The text of a double: a decimal, an infinity, or the mark of no number. -/
def float? (s : List Char) : Option Float :=
  let (negative, body) := dropSign (trim s)
  let word := String.ofList (asciiLower body)
  if word = "inf" || word = "infinity" then some (Double.infinity negative)
  else if word = "nan" then some Double.notANumber
  else decimal? negative body

end StaticSite.Number
