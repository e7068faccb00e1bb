import StaticSite.Operation.Argument
import StaticSite.Operation.Member

/-!
# Operations of sequences, mappings and numbers

Every operation gives a value. An operation that would change its receiver gives what it would
give, and leaves the receiver, which is a value like any other, as it is.
-/

namespace StaticSite.Operation

open StaticSite.Value

/-- The place of the first element equal to a value, between two bounds. -/
def placeOf? (items : List Value) (wanted : Value) (start stop : Int) : Option Nat :=
  let clamp (n : Int) : Nat := (if n < 0 then n + items.length else n).toNat
  let low := clamp start
  (((items.take (clamp stop)).drop low).findIdx? (same wanted)).map (low + ·)

def indexWithin (items : List Value) (actuals : Actuals) : Except Fault Value := do
  let given ← byPosition 1 3 actuals
  let bound (place : Nat) (otherwise : Int) : Except Fault Int := match given[place]? with
    | some value => intArgument value
    | none => .ok otherwise
  match placeOf? items (given.headD .null) (← bound 1 0) (← bound 2 items.length) with
  | some place => return .int place
  | none => .error .wrongValue

def countWithin (items : List Value) (actuals : Actuals) : Except Fault Value := do
  let wanted := (← byPosition 1 1 actuals).headD .null
  return .int (items.countP (same wanted))

def listMethod (items : List Value) (name : String) (actuals : Actuals) : Except Fault Value := do
  match name with
  | "index" => indexWithin items actuals
  | "count" => countWithin items actuals
  | "append" =>
    let _ ← byPosition 1 1 actuals
    return .null
  | "extend" =>
    let _ ← elements ((← byPosition 1 1 actuals).headD .null)
    return .null
  | "insert" =>
    let _ ← intArgument ((← byPosition 2 2 actuals).headD .null)
    return .null
  | "remove" =>
    let wanted := (← byPosition 1 1 actuals).headD .null
    if items.any (same wanted) then return .null else .error .wrongValue
  | "clear" | "reverse" =>
    let _ ← byPosition 0 0 actuals
    return .null
  | "copy" =>
    let _ ← byPosition 0 0 actuals
    return .list items
  | "pop" =>
    let place ← match (← byPosition 0 1 actuals).head? with
      | some value => intArgument value
      | none => .ok (-1)
    match elementAt? items place with
    | some element => return element
    | none => .error .missingIndex
  | "sort" =>
    if actuals.positional.isEmpty && actuals.named.all fun argument =>
        argument.1 == "reverse" || argument.1 == "key" then
      let _ ← sortWith lessThan items
      return .null
    else .error .wrongType
  | _ => .error .wrongType

def tupleMethod (items : List Value) (name : String) (actuals : Actuals) : Except Fault Value :=
  match name with
  | "index" => indexWithin items actuals
  | "count" => countWithin items actuals
  | _ => .error .wrongType

/-- The entries of a mapping, or of a sequence of pairs. -/
def entriesOf (value : Value) : Except Fault (List (Value × Value)) :=
  match value with
  | .mapping entries => .ok entries
  | value => do
    let pairs ← elements value
    pairs.mapM fun pair => do
      match ← elements pair with
      | [key, item] => if isHashable key then .ok (key, item) else .error .wrongType
      | _ => .error .wrongValue

def namedEntries (named : List (String × Value)) : List (Value × Value) :=
  named.map fun argument => (.str argument.1, argument.2)

/-- A mapping from at most one source and from named values. -/
def mappingOf (actuals : Actuals) : Except Fault Value := do
  let given ← byPosition 0 1 ⟨actuals.positional, []⟩
  let entries ← match given with
    | source :: _ => entriesOf source
    | [] => .ok []
  return .mapping (Mapping.merge (Mapping.ofList entries) (namedEntries actuals.named))

/-- A mapping from keys to one value. -/
def mappingOfKeys (actuals : Actuals) : Except Fault Value := do
  let given ← byPosition 1 2 actuals
  let keys ← elements (given.headD .null)
  if !keys.all isHashable then .error .wrongType
  return .mapping (Mapping.ofList (keys.map fun key => (key, given[1]?.getD .null)))

def lookedUp (entries : List (Value × Value)) (key : Value) : Except Fault (Option Value) :=
  if isHashable key then .ok (Mapping.lookup? key entries) else .error .wrongType

def mappingMethod (entries : List (Value × Value)) (name : String) (actuals : Actuals) :
    Except Fault Value := do
  match name with
  | "keys" | "values" | "items" =>
    let _ ← byPosition 0 0 actuals
    return .view (if name = "keys" then .keys else if name = "values" then .values else .items)
      entries
  | "get" | "setdefault" =>
    let given ← byPosition 1 2 actuals
    return (← lookedUp entries (given.headD .null)).getD (given[1]?.getD .null)
  | "pop" =>
    let given ← byPosition 1 2 actuals
    match ← lookedUp entries (given.headD .null), given[1]? with
    | some element, _ => return element
    | none, some otherwise => return otherwise
    | none, none => .error .missingKey
  | "popitem" =>
    let _ ← byPosition 0 0 actuals
    match entries.getLast? with
    | some entry => return .tuple [entry.1, entry.2]
    | none => .error .missingKey
  | "clear" =>
    let _ ← byPosition 0 0 actuals
    return .null
  | "copy" =>
    let _ ← byPosition 0 0 actuals
    return .mapping entries
  | "update" =>
    let _ ← mappingOf actuals
    return .null
  | "fromkeys" => mappingOfKeys actuals
  | _ => .error .wrongType

def bitCount (n : Nat) : Nat := (Nat.toDigits 2 n).count '1'

def bitLength (n : Nat) : Nat := if n = 0 then 0 else Nat.log2 n + 1

def intMethod (n : Int) (name : String) (actuals : Actuals) : Except Fault Value := do
  match name with
  | "bit_length" | "bit_count" | "conjugate" | "as_integer_ratio" | "is_integer" =>
    let _ ← byPosition 0 0 actuals
    return match name with
      | "bit_length" => .int (bitLength n.natAbs)
      | "bit_count" => .int (bitCount n.natAbs)
      | "conjugate" => .int n
      | "is_integer" => .bool true
      | _ => .tuple [.int n, .int 1]
  | _ => .error .wrongType

/-- The quotient of a double in lowest terms. -/
def lowestTerms (n : Int) (d : Nat) : Value :=
  let divisor := max 1 (Nat.gcd n.natAbs d)
  .tuple [.int (n / divisor), .int (d / divisor)]

/-- A double in hexadecimal: thirteen digits after the point, then the power of two. -/
def hexText (x : Float) : List Char := match Double.view x with
  | .finite negative m e =>
    let unit := Number.twoTo 52
    let digits := Text.padLeft 13 '0' (Nat.toDigits 16 (m % unit))
    let power := e + 52
    (if negative then ['-'] else []) ++ (if m = 0 then "0x0.0p+0".toList
      else "0x".toList ++ Decimal.natText (m / unit) ++ '.' :: digits ++ 'p'
        :: (if power < 0 then [] else ['+']) ++ Decimal.intText power)
  | _ => Decimal.floatText x

def floatMethod (x : Float) (name : String) (actuals : Actuals) : Except Fault Value := do
  match name with
  | "is_integer" | "conjugate" | "as_integer_ratio" | "hex" =>
    let _ ← byPosition 0 0 actuals
    match name with
    | "is_integer" => return .bool (Double.isFinite x && Double.isIntegral x)
    | "hex" => return .ofString (hexText x)
    | "conjugate" => return .float x
    | _ => match Double.ratio? x with
      | some (n, d) => return lowestTerms n d
      | none => .error (if Double.isNaN x then .wrongValue else .overflow)
  | _ => .error .wrongType

/-- Whether the elements of a view and those of another value have nothing in common. -/
def viewMethod (part : ViewPart) (entries : List (Value × Value)) (name : String)
    (actuals : Actuals) : Except Fault Value := do
  match name with
  | "isdisjoint" =>
    let others ← elements ((← byPosition 1 1 actuals).headD .null)
    return .bool ((viewItems part entries).all fun item => !others.any (same item))
  | _ => .error .wrongType

end StaticSite.Operation
