import StaticSite.Operation.Iteration
import StaticSite.Text.Escape
import StaticSite.Text.Search
import StaticSite.Value.Display
import StaticSite.Value.Mapping

/-!
# Format strings

A format string holds conversions such as `%s`, `%05.2f` or `%(name)d`. A tuple supplies one value
per conversion, a mapping values by name, and any other value the only one.
-/

namespace StaticSite.Operation

open StaticSite.Text

structure Flags where
  left : Bool
  sign : Option Char
  alternate : Bool
  zero : Bool

def Flags.none : Flags := ⟨false, Option.none, false, false⟩

def flagsFront (flags : Flags) : List Char → Flags × List Char
  | [] => (flags, [])
  | c :: s =>
    if c = '-' then flagsFront { flags with left := true } s
    else if c = '+' then flagsFront { flags with sign := some '+' } s
    else if c = ' ' then
      flagsFront { flags with sign := if flags.sign = some '+' then some '+' else some ' ' } s
    else if c = '#' then flagsFront { flags with alternate := true } s
    else if c = '0' then flagsFront { flags with zero := true } s
    else (flags, c :: s)

def digitsValue (digits : List Char) : Nat :=
  digits.foldl (fun n c => n * 10 + (c.toNat - 48)) 0

def signText (flags : Flags) (negative : Bool) : List Char :=
  if negative then ['-'] else match flags.sign with
    | some c => [c]
    | Option.none => []

/-- Puts a signed body into a field. -/
def fitNumber (flags : Flags) (width : Nat) (sign body : List Char) : List Char :=
  if flags.left then padRight width ' ' (sign ++ body)
  else if flags.zero then sign ++ padLeft (width - sign.length) '0' body
  else padLeft width ' ' (sign ++ body)

def fitText (flags : Flags) (width : Nat) (body : List Char) : List Char :=
  if flags.left then padRight width ' ' body else padLeft width ' ' body

def upperAscii (s : List Char) : List Char :=
  s.map fun c => if isAsciiLower c then Char.ofNat (c.toNat - 32) else c

/-- The digits of a natural in base eight, ten or sixteen, with the announcement if asked for. -/
def baseDigits (conversion : Char) (alternate : Bool) (n : Nat) : List Char :=
  if conversion = 'o' then (if alternate then ['0', 'o'] else []) ++ Nat.toDigits 8 n
  else if conversion = 'x' then (if alternate then ['0', 'x'] else []) ++ Nat.toDigits 16 n
  else if conversion = 'X' then
    (if alternate then ['0', 'X'] else []) ++ upperAscii (Nat.toDigits 16 n)
  else Nat.toDigits 10 n

def formatInt (flags : Flags) (width : Nat) (precision : Option Nat) (conversion : Char) (n : Int) :
    List Char :=
  let digits := baseDigits conversion flags.alternate n.natAbs
  let digits := match precision with
    | some p => padLeft p '0' digits
    | Option.none => digits
  fitNumber flags width (signText flags (n < 0)) digits

/-- The magnitude of a double under one of the three float conversions. -/
def floatBody (conversion : Char) (precision : Nat) (x : Float) : List Char :=
  match Double.view x with
  | .notANumber => ['n', 'a', 'n']
  | .infinite _ => ['i', 'n', 'f']
  | .finite .. =>
    if conversion = 'f' || conversion = 'F' then Decimal.fixedText x precision
    else if conversion = 'e' || conversion = 'E' then Decimal.scientificText x precision
    else Decimal.generalText x precision

def formatFloat (flags : Flags) (width : Nat) (precision : Option Nat) (conversion : Char)
    (x : Float) : List Char :=
  let body := floatBody conversion (precision.getD 6) x
  let body := if isAsciiUpper conversion then upperAscii body else body
  let flags := if Double.isFinite x then flags else { flags with zero := false }
  fitNumber flags width (signText flags (Double.isNegative x)) body

/-- A number as a double. -/
def toFloat (value : Value) : Except Fault Float := match value with
  | .float x => .ok x
  | .undefined f => .error (Value.undefinedFault f)
  | _ => match value.int? with
    | some n => match Double.ofInt? n with
      | some x => .ok x
      | Option.none => .error .overflow
    | Option.none => .error .wrongType

/-- A number as an integer, its fraction cut off. -/
def toInt (value : Value) : Except Fault Int := match value with
  | .float x => match Double.truncate? x with
    | some n => .ok n
    | Option.none => .error (if Double.isNaN x then .wrongValue else .overflow)
  | .undefined f => .error (Value.undefinedFault f)
  | _ => match value.int? with
    | some n => .ok n
    | Option.none => .error .wrongType

def asciiQuoted (s : List Char) : List Char :=
  s.flatMap fun c => if isAscii c then [c] else numberEscape c

/-- One conversion of one value. -/
def convert (escape : Bool) (flags : Flags) (width : Nat) (precision : Option Nat)
    (conversion : Char) (value : Value) : Except Fault (List Char) :=
  let cut (s : List Char) : List Char := match precision with
    | some p => s.take p
    | Option.none => s
  if conversion = 's' then
    let text := match escape, value with
      | true, .markup s => s.toList
      | true, other => escaped other.plain
      | false, other => other.plain
    .ok (fitText flags width (cut text))
  else if conversion = 'r' then .ok (fitText flags width (cut value.quoted))
  else if conversion = 'a' then .ok (fitText flags width (cut (asciiQuoted value.quoted)))
  else if conversion = 'c' then match value with
    | .int n =>
      if n < 0 || n > 0x10FFFF then .error .overflow
      else .ok (fitText flags width [Char.ofNat n.toNat])
    | .str s => match s.toList with
      | [c] => .ok (fitText flags width [c])
      | _ => .error .wrongType
    | _ => .error .wrongType
  else if conversion = 'd' || conversion = 'i' || conversion = 'u' then
    (toInt value).map (formatInt flags width precision 'd')
  else if conversion = 'x' || conversion = 'X' || conversion = 'o' then match value.int? with
    | some n => .ok (formatInt flags width precision conversion n)
    | Option.none => .error .wrongType
  else if ['e', 'E', 'f', 'F', 'g', 'G'].elem conversion then
    (toFloat value).map (formatFloat flags width precision conversion)
  else .error .wrongValue

/-- Where the values of a format string come from. -/
structure Supply where
  waiting : List Value
  named : Option (List (Value × Value))
  /-- Values left over are no fault. -/
  lenient : Bool

def Supply.next (supply : Supply) : Except Fault (Value × Supply) := match supply.waiting with
  | value :: rest => .ok (value, { supply with waiting := rest })
  | [] => .error .wrongType

def supplyOf : Value → Supply
  | .tuple items => ⟨items, Option.none, false⟩
  | .mapping entries => ⟨[.mapping entries], some entries, true⟩
  | value => ⟨[value], Option.none, match value with
    | .list _ | .range .. | .undefined _ => true
    | _ => false⟩

/-- A width or precision: digits, or a star that takes a value. -/
def sizeFront (supply : Supply) (s : List Char) :
    Except Fault (Option Int × Supply × List Char) :=
  match s with
  | '*' :: rest => do
    let (value, supply) ← supply.next
    match value.int? with
    | some n => return (some n, supply, rest)
    | Option.none => .error .wrongType
  | _ => match s.span isAsciiDigit with
    | ([], _) => .ok (Option.none, supply, s)
    | (digits, rest) => .ok (some (digitsValue digits), supply, rest)

/-- The name in parentheses after a percent sign, if there is one; parentheses nest. -/
def nameFront (depth : Nat) : List Char → Option (List Char × List Char)
  | [] => Option.none
  | c :: s =>
    if c = ')' then
      match depth with
      | 0 => some ([], s)
      | depth + 1 => (nameFront depth s).map fun r => (c :: r.1, r.2)
    else (nameFront (if c = '(' then depth + 1 else depth) s).map fun r => (c :: r.1, r.2)

/-- Fills the conversions of a format string. -/
def fillFormat (escape : Bool) : (fuel : Nat) → Supply → List Char → Except Fault (List Char)
  | 0, _, _ => .error .wrongValue
  | _ + 1, supply, [] =>
    if supply.waiting.isEmpty || supply.lenient then .ok [] else .error .wrongType
  | fuel + 1, supply, c :: s => do
    if c ≠ '%' then return c :: (← fillFormat escape fuel supply s)
    else
      let (chosen, s) ← match s with
        | '(' :: inner =>
          match supply.named, nameFront 0 inner with
          | Option.none, _ => .error .wrongType
          | _, Option.none => .error .wrongValue
          | some entries, some (name, rest) =>
            match Mapping.get? (String.ofList name) entries with
            | some value => pure (some value, rest)
            | Option.none => .error .missingKey
        | _ => pure (Option.none, s)
      let (flags, s) := flagsFront .none s
      let (width, supply, s) ← sizeFront supply s
      let (precision, supply, s) ← match s with
        | '.' :: rest => do
          let (p, supply, rest) ← sizeFront supply rest
          pure (some ((p.getD 0).toNat), supply, rest)
        | _ => pure (Option.none, supply, s)
      let flags := if (width.getD 0) < 0 then { flags with left := true } else flags
      let width := (width.getD 0).natAbs
      let s := s.dropWhile fun c => c = 'h' || c = 'l' || c = 'L'
      match s with
      | [] => .error .wrongValue
      | conversion :: rest =>
        if conversion = '%' then return '%' :: (← fillFormat escape fuel supply rest)
        else
          let (value, supply) ← match chosen with
            | some value => pure (value, supply)
            | Option.none => supply.next
          let text ← convert escape flags width precision conversion value
          return text ++ (← fillFormat escape fuel supply rest)

/-- A format string applied to its values. -/
def formatWith (escape : Bool) (s : List Char) (values : Value) : Except Fault (List Char) :=
  fillFormat escape (s.length + 1) (supplyOf values) s

end StaticSite.Operation
