import StaticSite.Number.Reading
import StaticSite.Yaml.Timestamp
import StaticSite.Yaml.Tree

/-!
# Types of scalars

A plain scalar without a tag has the type that its text looks like: null, a truth value, a number,
a timestamp or a string. The older version of the format knows more truth values, octal numbers by
a leading zero, and numbers in base sixty.
-/

namespace StaticSite.Yaml

open StaticSite.Text

inductive ScalarType where
  | null
  | bool
  | int
  | float
  | timestamp
  | str
  /-- The key that merges mappings. -/
  | merge
  /-- The key that stands for a default. -/
  | default
  deriving Repr, DecidableEq

namespace ScalarType

def isOneOf (words : List String) (s : List Char) : Bool := words.any fun word => word.toList == s

def nullWords : List String := ["", "~", "null", "Null", "NULL"]

def boolWords : List String := ["true", "True", "TRUE", "false", "False", "FALSE"]

def olderBoolWords : List String :=
  ["yes", "Yes", "YES", "no", "No", "NO", "on", "On", "ON", "off", "Off", "OFF"]

def dropSign (s : List Char) : List Char := match s with
  | c :: rest => if c = '-' || c = '+' then rest else s
  | [] => []

def isDigitOrJoin (c : Char) : Bool := isAsciiDigit c || c = '_'

def isOctalOrJoin (c : Char) : Bool := ('0' ≤ c && c ≤ '7') || c = '_'

def isNonEmpty (keep : Char → Bool) (s : List Char) : Bool := !s.isEmpty && s.all keep

/-- An exponent up to the end of a text. -/
def isExponent (needsSign : Bool) : List Char → Bool
  | c :: rest =>
    (c = 'e' || c = 'E')
      && (!needsSign || rest.head? = some '+' || rest.head? = some '-')
      && isNonEmpty isAsciiDigit (dropSign rest)
  | [] => false

def isExponentOrEnd (needsSign : Bool) (s : List Char) : Bool := s.isEmpty || isExponent needsSign s

/-- Groups of at most two digits below sixty, each after a colon; gives what follows them. -/
def sixties : (fuel : Nat) → List Char → Nat × List Char
  | fuel + 1, ':' :: a :: b :: rest =>
    if isAsciiDigit a && isAsciiDigit b && a ≤ '5' then
      let (count, rest) := sixties fuel rest
      (count + 1, rest)
    else if isAsciiDigit a then
      let (count, rest) := sixties fuel (b :: rest)
      (count + 1, rest)
    else (0, ':' :: a :: b :: rest)
  | _, [':', a] => if isAsciiDigit a then (1, []) else (0, [':', a])
  | _, s => (0, s)

def isInSixties (fraction : Bool) (s : List Char) : Bool :=
  let (count, rest) := sixties s.length (s.dropWhile isDigitOrJoin)
  (s.head?.map isAsciiDigit).getD false && count ≠ 0
    && if fraction then rest.head? = some '.' && rest.tail.all isDigitOrJoin else rest.isEmpty

def isFloat (older : Bool) (s : List Char) : Bool :=
  let body := dropSign s
  let special := isOneOf [".inf", ".Inf", ".INF"] body || isOneOf [".nan", ".NaN", ".NAN"] s
  let number := match body with
    | '.' :: rest =>
      (!older || body == s) && !(rest.takeWhile isDigitOrJoin).isEmpty
        && isExponentOrEnd true (rest.dropWhile isDigitOrJoin)
    | c :: _ =>
      isAsciiDigit c && match body.dropWhile isDigitOrJoin with
        | '.' :: rest => isExponentOrEnd older (rest.dropWhile isDigitOrJoin)
        | rest => isExponent older rest
    | [] => false
  special || number || (older && isInSixties true body)

def isInt (older : Bool) (s : List Char) : Bool :=
  let starts := (s.head?.map fun c => isAsciiDigit c || c = '-' || c = '+').getD false
  let body := dropSign s
  let based := match body with
    | '0' :: 'b' :: rest => isNonEmpty (fun c => c = '0' || c = '1' || c = '_') rest
    | '0' :: 'x' :: rest => isNonEmpty (fun c => (hexValue? c).isSome || c = '_') rest
    | '0' :: 'o' :: rest => !older && isNonEmpty isOctalOrJoin rest
    | _ => false
  let plain :=
    if older then
      isNonEmpty isOctalOrJoin body || ((body.head?.map isAsciiDigit).getD false
        && body.head? != some '0' && body.all isDigitOrJoin)
        || (body.head? != some '0' && isInSixties false body)
    else isNonEmpty isDigitOrJoin body
  starts && (based || plain)

def isTimestamp (s : List Char) : Bool := match Timestamp.ofText? s with
  | some stamp => stamp.isPadded || stamp.clock.isSome
  | none => false

/-- The type that a plain text looks like. -/
def ofText (older : Bool) (s : List Char) : ScalarType :=
  if isOneOf boolWords s || (older && isOneOf olderBoolWords s) then .bool
  else if isFloat older s then .float
  else if isInt older s then .int
  else if s == ['<', '<'] then .merge
  else if isOneOf nullWords s then .null
  else if isTimestamp s then .timestamp
  else if s == ['='] then .default
  else .str

end ScalarType

/-! ### Values of typed scalars -/

def dropJoins (s : List Char) : List Char := s.filter (· != '_')

/-- A number in base sixty. -/
def sixtyValue (parts : List (List Char)) (read : List Char → Except Fault Float) :
    Except Fault Float :=
  parts.foldlM (fun total part => do return total * 60 + (← read part)) 0

def readInt (base : Nat) (s : List Char) : Except Fault Int :=
  match Number.int? base s with
  | some n => .ok n
  | none => .error .wrongValue

def readFloat (s : List Char) : Except Fault Float :=
  match Number.float? s with
  | some x => .ok x
  | none => .error .wrongValue

/-- The integer of a text; a text without characters has none. -/
def intValue (older : Bool) (s : List Char) : Except Fault Int := do
  match dropJoins s with
  | [] => .error .missingIndex
  | c :: rest =>
    let body := ScalarType.dropSign (c :: rest)
    let magnitude : Int ← match body with
      | ['0'] => .ok 0
      | '0' :: 'b' :: digits => readInt 2 digits
      | '0' :: 'x' :: digits => readInt 16 digits
      | '0' :: 'o' :: digits => readInt 8 digits
      | '0' :: _ => readInt (if older then 8 else 10) body
      | _ =>
        if older && body.elem ':' then
          (splitOn [':'] body).foldlM (fun total part => do return total * 60 + (← readInt 10 part)) 0
        else readInt 10 body
    return if c = '-' then -magnitude else magnitude

def floatValue (older : Bool) (s : List Char) : Except Fault Float := do
  match Number.asciiLower (dropJoins s) with
  | [] => .error .missingIndex
  | c :: rest =>
    let body := ScalarType.dropSign (c :: rest)
    if body == ".inf".toList then return Double.infinity (c = '-')
    else if body == ".nan".toList then return Double.notANumber
    else
      let magnitude ←
        if older && body.elem ':' then sixtyValue (splitOn [':'] body) readFloat
        else readFloat body
      return if c = '-' then -magnitude else magnitude

def trueWords : List String := ["yes", "y", "true", "on"]

def falseWords : List String := ["no", "n", "false", "off"]

def boolValue (s : List Char) : Except Fault Bool :=
  let word := Number.asciiLower s
  if ScalarType.isOneOf trueWords word then .ok true
  else if ScalarType.isOneOf falseWords word then .ok false
  else .error .missingKey

/-- The value of a scalar of a type; the two special keys are no values. -/
def scalarValue (older : Bool) (type : ScalarType) (s : List Char) : Except Fault Value :=
  match type with
  | .null => .ok .null
  | .bool => (boolValue s).map .bool
  | .int => (intValue older s).map .int
  | .float => (floatValue older s).map .float
  | .timestamp => match Timestamp.ofText? s with
    | some stamp => stamp.value
    | none => malformed
  | .str => .ok (.ofString s)
  | .merge | .default => malformed

end StaticSite.Yaml
