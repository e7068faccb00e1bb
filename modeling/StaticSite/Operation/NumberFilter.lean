import StaticSite.Number.Reading
import StaticSite.Operation.TextFilter

/-!
# Filters on numbers

Conversions fall back on a default where a value has no number; rounding takes a tie to the even
digit, and the sum of doubles carries along what each addition rounds away.
-/

namespace StaticSite.Operation

open StaticSite.Text StaticSite.Value

/-- A number as a double, or a text that shows one. -/
def readFloat (value : Value) : Except Fault Float :=
  match value.text? with
  | some s => match Number.float? s.toList with
    | some x => .ok x
    | none => .error .wrongValue
  | none => toFloat value

/-- Conversion faults that a default covers. -/
def isConversion : Fault → Bool
  | .wrongType | .wrongValue => true
  | _ => false

def floatFilter : Filter := ⟨["default"], 0, fun value given =>
  match readFloat value with
  | .ok x => .ok (.float x)
  | .error fault =>
    if isConversion fault then .ok (given.get 0 (.float (Double.zero false))) else .error fault⟩

/-- The integer of a value, its text read in a base. -/
def readInt (base value : Value) : Except Fault Int :=
  match value.text? with
  | some s => match base.int? with
    | none => .error .wrongType
    | some b => match (if b < 0 then none else Number.int? b.toNat s.toList) with
      | some n => .ok n
      | none => .error .wrongValue
  | none => toInt value

def intFilter : Filter := ⟨["default", "base"], 0, fun value given =>
  match readInt (given.get 1 (.int 10)) value with
  | .ok n => .ok (.int n)
  | .error fault =>
    if isConversion fault then
      match (readFloat value).bind fun x => toInt (.float x) with
      | .ok n => .ok (.int n)
      | .error again =>
        if isConversion again || again = .overflow then .ok (given.get 0 (.int 0))
        else .error again
    else .error fault⟩

def absFilter : Filter := ⟨[], 0, fun value _ =>
  match value with
  | .float x => .ok (.float x.abs)
  | value => match value.int? with
    | some n => .ok (.int n.natAbs)
    | none => .error .wrongType⟩

/-- A number rounded to places; without places a double becomes an integer. -/
def rounded (value : Value) (places : Option Int) : Except Fault Value :=
  match value, places with
  | .float x, some p => .ok (.float (if Double.isFinite x then Decimal.roundTo x p else x))
  | .float x, none =>
    if Double.isFinite x then
      (toInt (.float (Decimal.roundTo x 0))).map .int
    else .error (if Double.isNaN x then .wrongValue else .overflow)
  | value, places => match value.int? with
    | some n =>
      let p := places.getD 0
      .ok (.int (if p < 0 then Decimal.roundIntTo n (-p).toNat else n))
    | none => .error .wrongType

/-- The integer above or below a number. -/
def whole (up : Bool) (value : Value) : Except Fault Value :=
  match value with
  | .float x => match (if up then Double.ceil? x else Double.floor? x) with
    | some n => .ok (.int n)
    | none => .error (if Double.isNaN x then .wrongValue else .overflow)
  | value => match value.int? with
    | some n => .ok (.int n)
    | none => .error .wrongType

def roundFilter : Filter := ⟨["precision", "method"], 0, fun value given => do
  let method := given.get 1 (.str "common")
  let precision := given.get 0 (.int 0)
  match method.text? with
  | some "common" => match value.int?, value with
    | none, .float _ | some _, _ => rounded value (← optionalInt precision)
    | _, _ => .error .wrongType
  | some "ceil" | some "floor" =>
    let scale ← power (.int 10) precision
    let result ← whole (method.text? == some "ceil") (← multiply value scale)
    divide result scale
  | _ => .error .filterArgument⟩

def sizeUnits (binary : Bool) : List String :=
  if binary then ["KiB", "MiB", "GiB", "TiB", "PiB", "EiB", "ZiB", "YiB"]
  else ["kB", "MB", "GB", "TB", "PB", "EB", "ZB", "YB"]

/-- A size in the first unit in which it is less than one step; the last unit takes the rest. -/
def sizeText (base : Nat) (bytes : Float) : (step : Nat) → List String → List Char
  | _, [] => []
  | step, name :: rest =>
    let unit := Double.ofRatio false (Nat.pow base (step + 2)) 1
    if bytes < unit || rest.isEmpty then
      let shown := Double.ofRatio false base 1 * bytes / unit
      formatFloat .none 0 (some 1) 'f' shown ++ ' ' :: name.toList
    else sizeText base bytes (step + 1) rest

def fileSizeFilter : Filter := ⟨["binary"], 0, fun value given => do
  let bytes ← readFloat value
  let binary := given.isTrue 0 false
  let base := if binary then 1024 else 1000
  if bytes == 1 then return .str "1 Byte"
  else if bytes < Double.ofRatio false base 1 then
    return .ofString (Decimal.intText (← toInt (.float bytes)) ++ " Bytes".toList)
  else return .ofString (sizeText base bytes 0 (sizeUnits binary))⟩

/-- A sum of doubles: the sum so far and what rounding has lost of it. -/
structure Total where
  sum : Float
  lost : Float

def Total.add (total : Total) (x : Float) : Total :=
  let next := total.sum + x
  ⟨next, total.lost + (if total.sum.abs ≥ x.abs then (total.sum - next) + x
    else (x - next) + total.sum)⟩

def Total.value (total : Total) : Float :=
  if !(total.lost == 0) && Double.isFinite total.lost then total.sum + total.lost else total.sum

/-- Adds values onto a running value; doubles are added with their lost parts. -/
def sumFrom : Value → List Value → Except Fault Value
  | start, items => match start with
    | .float x => floats ⟨x, 0⟩ items
    | _ => general start items
where
  general (start : Value) : List Value → Except Fault Value
    | [] => .ok start
    | item :: rest => do
      match ← add start item with
      | .float x => floats ⟨x, 0⟩ rest
      | next => general next rest
  floats (total : Total) : List Value → Except Fault Value
    | [] => .ok (.float total.value)
    | .float x :: rest => floats (total.add x) rest
    | item :: rest => match item.int? with
      | some n => do
        let x ← floatOfInt n
        floats { total with sum := total.sum + x } rest
      | none => do general (← add (.float total.value) item) rest

def numberFilters : List (String × Filter) :=
  [("abs", absFilter), ("int", intFilter), ("float", floatFilter), ("round", roundFilter),
    ("filesizeformat", fileSizeFilter)]

end StaticSite.Operation
