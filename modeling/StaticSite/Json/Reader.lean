import StaticSite.Value.Mapping
import StaticSite.Number.Reading

/-!
# Reading JSON

The reader takes JSON with three more numbers (`NaN`, `Infinity`, `-Infinity`). Integers have any
size, a number with a fraction or exponent is a double. `Json.readFront` reads one value from the
front of a text, `Json.read` a whole text with blanks around the value. A nested value takes at
least one character and two steps of the recursion, so twice the length of the text bounds it.
-/

namespace StaticSite.Json

open StaticSite.Text

/-- What was read and what follows it. -/
abbrev Step (α : Type) := Except Fault (α × List Char)

def isSpace (c : Char) : Bool := c = ' ' || c = '\t' || c = '\n' || c = '\r'

def skipSpace (s : List Char) : List Char := s.dropWhile isSpace

/-- Four hexadecimal digits. -/
def hexUnit? (a b c d : Char) : Option Nat := do
  let a ← hexValue? a
  let b ← hexValue? b
  let c ← hexValue? c
  let d ← hexValue? d
  return ((a * 16 + b) * 16 + c) * 16 + d

def isHighUnit (n : Nat) : Bool := 0xD800 ≤ n && n < 0xDC00

def isLowUnit (n : Nat) : Bool := 0xDC00 ≤ n && n < 0xE000

/-- The character of a code unit. Half of a pair alone has none; as a text has no place for it, it
becomes the replacement character. So texts that differ in such halves only are read as the same, and
what is read can always be encoded. -/
def unitChar (n : Nat) : Char := if 0xD800 ≤ n && n < 0xE000 then '\uFFFD' else Char.ofNat n

def pairChar (high low : Nat) : Char :=
  Char.ofNat (0x10000 + (high - 0xD800) * 0x400 + (low - 0xDC00))

def shortEscape? (c : Char) : Option Char :=
  if c = '"' then some '"'
  else if c = '\\' then some '\\'
  else if c = '/' then some '/'
  else if c = 'b' then some '\x08'
  else if c = 'f' then some '\x0c'
  else if c = 'n' then some '\n'
  else if c = 'r' then some '\r'
  else if c = 't' then some '\t'
  else none

/-- The characters of a string up to its closing quote; `high` is a first half of a pair that
waits for its second half. -/
def stringFrom (high : Option Nat) (read : List Char) : List Char → Step (List Char)
  | [] => .error .malformedJson
  | '"' :: s => .ok ((flush high read).reverse, s)
  | '\\' :: 'u' :: a :: b :: c :: d :: s =>
    match hexUnit? a b c d, high with
    | none, _ => .error .malformedJson
    | some n, some h =>
      if isLowUnit n then stringFrom none (pairChar h n :: read) s
      else if isHighUnit n then stringFrom (some n) (unitChar h :: read) s
      else stringFrom none (unitChar n :: unitChar h :: read) s
    | some n, none =>
      if isHighUnit n then stringFrom (some n) read s
      else stringFrom none (unitChar n :: read) s
  | '\\' :: c :: s =>
    match shortEscape? c with
    | some e => stringFrom none (e :: flush high read) s
    | none => .error .malformedJson
  | c :: s =>
    if c.toNat < 32 || c = '\\' then .error .malformedJson
    else stringFrom none (c :: flush high read) s
where
  flush (high : Option Nat) (read : List Char) : List Char := match high with
    | some h => unitChar h :: read
    | none => read

theorem stringFrom_quote (high : Option Nat) (read s : List Char) :
    stringFrom high read ('"' :: s) = .ok ((stringFrom.flush high read).reverse, s) := by
  rw [stringFrom]

def digitsFront (s : List Char) : List Char × List Char := s.span isAsciiDigit

def digitsNat (digits : List Char) : Nat :=
  digits.foldl (fun n c => n * 10 + (c.toNat - 48)) 0

/-- The fraction of a number: its digits, if a point and a digit come next. -/
def fractionFront (s : List Char) : Option (List Char) × List Char := match s with
  | '.' :: after =>
    match digitsFront after with
    | ([], _) => (none, s)
    | (digits, rest) => (some digits, rest)
  | _ => (none, s)

/-- The exponent of a number, if a mark, an optional sign and a digit come next. -/
def exponentFront (s : List Char) : Option Int × List Char := match s with
  | c :: after =>
    if c = 'e' || c = 'E' then
      let (negative, body) := Number.dropSign after
      match digitsFront body with
      | ([], _) => (none, s)
      | (digits, rest) =>
        (some (if negative then -(digitsNat digits : Int) else digitsNat digits), rest)
    else (none, s)
  | [] => (none, s)

def numberOf (negative : Bool) (whole : List Char) (fraction : Option (List Char))
    (exponent : Option Int) : Except Fault Value :=
  match fraction, exponent with
  | none, none =>
    if whole.length > Number.digitLimit then .error .wrongValue
    else
      let n : Int := digitsNat whole
      .ok (.int (if negative then -n else n))
  | _, _ =>
    let places := fraction.getD []
    .ok (.float (Double.ofDecimal negative (digitsNat (whole ++ places))
      (exponent.getD 0 - places.length)))

/-- The digits of a number in front of its point; a leading zero stands alone. -/
def wholeFront : List Char → List Char × List Char
  | '0' :: rest => (['0'], rest)
  | s => digitsFront s

/-- A number after its sign. -/
def numberFrom (negative : Bool) (s : List Char) : Step Value :=
  let (whole, rest) := wholeFront s
  if whole.isEmpty then .error .malformedJson
  else
    let (fraction, rest) := fractionFront rest
    let (exponent, rest) := exponentFront rest
    (numberOf negative whole fraction exponent).map fun value => (value, rest)

def literals : List (List Char × Value) :=
  [("null".toList, .null), ("true".toList, .bool true), ("false".toList, .bool false),
    ("NaN".toList, .float Double.notANumber), ("Infinity".toList, .float (Double.infinity false)),
    ("-Infinity".toList, .float (Double.infinity true))]

def literal? (s : List Char) : Option (Value × List Char) :=
  literals.findSome? fun entry => (dropFront? entry.1 s).map fun rest => (entry.2, rest)

mutual

/-- A value at the front of a text. -/
def value : (fuel : Nat) → List Char → Step Value
  | 0, _ => .error .malformedJson
  | fuel + 1, s =>
    match s with
    | '"' :: rest => (stringFrom none [] rest).map fun r => (.ofString r.1, r.2)
    | '[' :: rest =>
      match skipSpace rest with
      | ']' :: after => .ok (.list [], after)
      | inner => (elements fuel inner).map fun r => (.list r.1, r.2)
    | '\x7b' :: rest =>
      match skipSpace rest with
      | '\x7d' :: after => .ok (.mapping [], after)
      | inner => (members fuel inner).map fun r => (.mapping (Mapping.ofList r.1), r.2)
    | _ =>
      match literal? s with
      | some found => .ok found
      | none => match s with
        | '-' :: rest => numberFrom true rest
        | _ => numberFrom false s

/-- The elements of a list up to its closing bracket. -/
def elements : (fuel : Nat) → List Char → Except Fault (List Value × List Char)
  | 0, _ => .error .malformedJson
  | fuel + 1, s => do
    let (item, rest) ← value fuel s
    match skipSpace rest with
    | ']' :: after => return ([item], after)
    | ',' :: after =>
      let (items, after) ← elements fuel (skipSpace after)
      return (item :: items, after)
    | _ => .error .malformedJson

/-- The members of a mapping up to its closing brace. -/
def members : (fuel : Nat) → List Char →
    Except Fault (List (Value × Value) × List Char)
  | 0, _ => .error .malformedJson
  | fuel + 1, s =>
    match s with
    | '"' :: rest => do
      let (name, rest) ← stringFrom none [] rest
      match skipSpace rest with
      | ':' :: after =>
        let (item, rest) ← value fuel (skipSpace after)
        match skipSpace rest with
        | '\x7d' :: after => return ([(.ofString name, item)], after)
        | ',' :: after =>
          let (items, after) ← members fuel (skipSpace after)
          return ((.ofString name, item) :: items, after)
        | _ => .error .malformedJson
      | _ => .error .malformedJson
    | _ => .error .malformedJson

end

theorem value_quote (fuel : Nat) (s : List Char) :
    value (fuel + 1) ('"' :: s) = (stringFrom none [] s).map fun r => (.ofString r.1, r.2) := by
  rw [value]

/-- One value at the front of a text, and what follows it. -/
def readFront (s : List Char) : Step Value := value (2 * s.length + 1) s

/-- The value of a whole text. -/
def read (s : List Char) : Except Fault Value := do
  let (result, rest) ← readFront (skipSpace s)
  if (skipSpace rest).isEmpty then return result else .error .malformedJson

end StaticSite.Json
