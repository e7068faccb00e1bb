import StaticSite.Operation.Argument
import StaticSite.Operation.Arithmetic
import StaticSite.Text.Case

/-!
# Tests

A test is a named predicate on a value and further arguments, as in `x is divisibleby 3`. The
comparison operators are tests too, under their symbols and under names.
-/

namespace StaticSite.Operation

open StaticSite.Text StaticSite.Value

/-- The comparison that a test stands for. -/
def comparisonTest? (name : String) : Option Comparison := match name with
  | "==" | "eq" | "equalto" => some .equal
  | "!=" | "ne" => some .unequal
  | "<" | "lt" | "lessthan" => some .less
  | "<=" | "le" => some .lessEqual
  | ">" | "gt" | "greaterthan" => some .greater
  | ">=" | "ge" => some .greaterEqual
  | "in" => some .within
  | _ => none

/-- Whether a value knows its length and can be asked for elements by index. -/
def isSequence : Value → Bool
  | .str _ | .markup _ | .list _ | .tuple _ | .mapping _ | .range .. | .undefined _ => true
  | _ => false

/-- Whether two values are of one kind and equal, as one and the same value is to itself. -/
def sameValue (a b : Value) : Bool :=
  match a, b with
  | .bool x, .bool y => x == y
  | .int x, .int y => x == y
  | .float x, .float y => x.toBits == y.toBits
  | .bool _, _ | _, .bool _ | .int _, _ | _, .int _ | .float _, _ | _, .float _ => false
  | .str _, .markup _ | .markup _, .str _ => false
  | a, b => same a b

/-- Whether every equal value is this very one, wherever it came from: so for small integers, texts
of at most one character and what has a name of its own. -/
def isUnique : Value → Bool
  | .null | .bool _ | .global _ => true
  | .int n => -5 ≤ n && n ≤ 256
  | .str s => match s.toList with
    | [] => true
    | [c] => c.toNat < 256
    | _ => false
  | .tuple items => items.isEmpty
  | _ => false

/-- Whether a value is kept where it was found and not made anew each time it is asked for. -/
def isStored : Value → Bool
  | .int _ | .float _ | .str _ | .markup _ | .list _ | .tuple _ | .mapping _ => true
  | _ => false

/-- The tests that look at the value alone. -/
def plainTest? (name : String) : Option (Value → Bool) := match name with
  | "defined" => some fun value => !value.isUndefined
  | "undefined" => some isUndefined
  | "none" => some fun | .null => true | _ => false
  | "boolean" => some fun | .bool _ => true | _ => false
  | "true" => some fun | .bool b => b | _ => false
  | "false" => some fun | .bool b => !b | _ => false
  | "integer" => some fun | .int _ => true | _ => false
  | "float" => some fun | .float _ => true | _ => false
  | "number" => some fun
    | .bool _ | .int _ | .float _ => true
    | .thing name .. => name == "complex"
    | _ => false
  | "string" => some fun value => value.text?.isSome
  | "mapping" => some fun | .mapping _ => true | _ => false
  | "iterable" => some fun value => (stream value).toOption.isSome
  | "sequence" => some isSequence
  | "callable" => some fun
    | .method .. | .global _ | .undefined _ | .record "Joiner" _ => true
    | _ => false
  | "escaped" => some fun | .markup _ => true | _ => false
  | "lower" => some fun value => isLower value.plain
  | "upper" => some fun value => isUpper value.plain
  | _ => none

/-- The remainder of a value by a divisor, compared with a number. -/
def leaves (value divisor : Value) (rest : Int) : Except Fault Bool := do
  return equal (← modulo value divisor) (.int rest)

/-- A test by its name; `isFilter` and `isTest` tell the names that exist. -/
def applyTest (isFilter isTest : String → Bool) (name : String) (value : Value)
    (actuals : Actuals) : Except Fault Bool := do
  let known (names : String → Bool) : Except Fault Bool :=
    if isHashable value then .ok (match value.text? with
      | some s => names s
      | none => false)
    else .error .wrongType
  match plainTest? name, comparisonTest? name with
  | some holds, _ =>
    let _ ← bind [] 0 actuals
    return holds value
  | _, some operator =>
    let given ← (if name = "in" then bind ["seq"] 1 actuals
      else (byPosition 1 1 actuals).map (·.map some))
    compareWith operator value (given.get 0 .null)
  | none, none => match name with
    | "even" | "odd" =>
      let _ ← bind [] 0 actuals
      leaves value (.int 2) (if name = "even" then 0 else 1)
    | "divisibleby" => leaves value ((← bind ["num"] 1 actuals).get 0 .null) 0
    | "sameas" => return sameValue value ((← bind ["other"] 1 actuals).get 0 .null)
    | "filter" =>
      let _ ← bind [] 0 actuals
      known isFilter
    | "test" =>
      let _ ← bind [] 0 actuals
      known isTest
    | _ => .error .missingOperation

def testNames : List String :=
  ["boolean", "callable", "defined", "divisibleby", "eq", "equalto", "==", "escaped", "even",
    "false", "filter", "float", "ge", "gt", "greaterthan", "in", "integer", "iterable", "le",
    "lessthan", "lower", "lt", "mapping", "ne", "none", "number", "odd", "sameas", "sequence",
    "string", "test", "true", "undefined", "upper", "!=", "<", "<=", ">", ">="]

end StaticSite.Operation
