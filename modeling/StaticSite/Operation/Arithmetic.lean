import StaticSite.Expression.Basic
import StaticSite.Operation.Formatting

/-!
# Arithmetic

Integers are exact and of any size; an integer beside a double becomes one. Division of integers
gives the double nearest to the quotient, floor division and remainder follow the sign of the
divisor. Texts and sequences can be joined and repeated, and a text on the left of `%` is a format
string. An undefined operand is a fault everywhere else.
-/

namespace StaticSite.Operation

open StaticSite.Text StaticSite.Value

/-- The fault of the first undefined operand. -/
def refuseUndefined (a b : Value) : Except Fault Unit :=
  match a, b with
  | .undefined f, _ => .error (undefinedFault f)
  | _, .undefined f => .error (undefinedFault f)
  | _, _ => .ok ()

/-- The limit beyond which a repeated sequence is refused. -/
def repeatLimit : Nat := Number.twoTo 28

def repeated {α : Type} (items : List α) (times : Int) : Except Fault (List α) :=
  if items.length * times.toNat > repeatLimit then .error .overflow
  else .ok (List.replicate times.toNat items).flatten

def floatOfInt (n : Int) : Except Fault Float := match Double.ofInt? n with
  | some x => .ok x
  | none => .error .overflow

/-- Applies the operation on integers or the one on doubles. -/
def onNumbers (onInts : Int → Int → Except Fault Value)
    (onFloats : Float → Float → Except Fault Value) (a b : Value) : Except Fault Value :=
  match numeral? a, numeral? b with
  | some (.int m), some (.int n) => onInts m n
  | some (.float x), some (.int n) => do onFloats x (← floatOfInt n)
  | some (.int m), some (.float y) => do onFloats (← floatOfInt m) y
  | some (.float x), some (.float y) => onFloats x y
  | _, _ => .error .wrongType

def markupOf (s : List Char) : Value := .markup (String.ofList s)

/-- A value as escaped text. -/
def escapedText : Value → List Char
  | .markup s => s.toList
  | value => escaped value.plain

def add (a b : Value) : Except Fault Value := do
  refuseUndefined a b
  match a, b with
  | .str s, .str t => return .str (s ++ t)
  | .markup s, .str _ | .markup s, .markup _ => return markupOf (s.toList ++ escapedText b)
  | .str _, .markup t => return markupOf (escapedText a ++ t.toList)
  | .list xs, .list ys => return .list (xs ++ ys)
  | .tuple xs, .tuple ys => return .tuple (xs ++ ys)
  | a, b => onNumbers (fun m n => .ok (.int (m + n))) (fun x y => .ok (.float (x + y))) a b

def subtract (a b : Value) : Except Fault Value := do
  refuseUndefined a b
  onNumbers (fun m n => .ok (.int (m - n))) (fun x y => .ok (.float (x - y))) a b

/-- A sequence repeated as often as a number says. -/
def repeatValue? (value : Value) (times : Int) : Option (Except Fault Value) := match value with
  | .str s => some ((repeated s.toList times).map .ofString)
  | .markup s => some ((repeated s.toList times).map markupOf)
  | .list items => some ((repeated items times).map .list)
  | .tuple items => some ((repeated items times).map .tuple)
  | _ => none

def multiply (a b : Value) : Except Fault Value := do
  refuseUndefined a b
  match a.int?, b.int? with
  | none, some n => match repeatValue? a n with
    | some result => result
    | none => onNumbers (fun m n => .ok (.int (m * n))) (fun x y => .ok (.float (x * y))) a b
  | some m, none => match repeatValue? b m with
    | some result => result
    | none => onNumbers (fun m n => .ok (.int (m * n))) (fun x y => .ok (.float (x * y))) a b
  | _, _ => onNumbers (fun m n => .ok (.int (m * n))) (fun x y => .ok (.float (x * y))) a b

def divideInts (m n : Int) : Except Fault Value :=
  if n = 0 then .error .divisionByZero
  else
    let x := Double.ofRatio ((m < 0) != (n < 0)) m.natAbs n.natAbs
    if Double.isFinite x then .ok (.float (if m = 0 then Double.zero false else x))
    else .error .overflow

def divide (a b : Value) : Except Fault Value := do
  refuseUndefined a b
  onNumbers divideInts
    (fun x y => if y == 0 then .error .divisionByZero else .ok (.float (x / y))) a b

def floorDivide (a b : Value) : Except Fault Value := do
  refuseUndefined a b
  onNumbers (fun m n => if n = 0 then .error .divisionByZero else .ok (.int (Int.fdiv m n)))
    (fun x y => if y == 0 then .error .divisionByZero else .ok (.float (Double.floorDiv x y))) a b

def modulo (a b : Value) : Except Fault Value :=
  match a with
  | .str s => (formatWith false s.toList b).map .ofString
  | .markup s => (formatWith true s.toList b).map markupOf
  | a => do
    refuseUndefined a b
    onNumbers (fun m n => if n = 0 then .error .divisionByZero else .ok (.int (Int.fmod m n)))
      (fun x y => if y == 0 then .error .divisionByZero else .ok (.float (Double.modulo x y))) a b

/-- A power of doubles. A negative base with a fractional exponent leaves the real numbers. -/
def powerFloats (x y : Float) : Except Fault Value :=
  if x == 0 && y < 0 && Double.isFinite y then .error .divisionByZero
  else if x < 0 && Double.isFinite x && Double.isFinite y && !Double.isIntegral y then
    .ok (.thing "complex" "" "")
  else
    let result := x ^ y
    if Double.isFinite x && Double.isFinite y && !Double.isFinite result then .error .overflow
    else .ok (.float result)

/-- A power of integers; a negative exponent makes it a double. -/
def powerInts (m n : Int) : Except Fault Value :=
  if n ≥ 0 then .ok (.int (Int.pow m n.toNat))
  else do powerFloats (← floatOfInt m) (← floatOfInt n)

def power (a b : Value) : Except Fault Value := do
  refuseUndefined a b
  onNumbers powerInts powerFloats a b

def negate : Value → Except Fault Value
  | .undefined f => .error (undefinedFault f)
  | .float x => .ok (.float (-x))
  | value => match value.int? with
    | some n => .ok (.int (-n))
    | none => .error .wrongType

def positive : Value → Except Fault Value
  | .undefined f => .error (undefinedFault f)
  | .float x => .ok (.float x)
  | value => match value.int? with
    | some n => .ok (.int n)
    | none => .error .wrongType

/-- Whether a container holds an element; a text holds texts. -/
def within (item container : Value) : Except Fault Bool :=
  match container with
  | .str s | .markup s => match item.text? with
    | some t => .ok (contains t.toList s.toList)
    | none => .error .wrongType
  | .mapping entries | .view .keys entries =>
    if isHashable item then .ok (Mapping.contains item entries) else .error .wrongType
  | container => do
    let s ← stream container
    if s.items.any fun other => same other item then return true
    match s.fault with
    | some fault => .error fault
    | none => return false

/-- Decides one comparison. -/
def compareWith (operator : Comparison) (a b : Value) : Except Fault Bool :=
  match operator with
  | .equal => .ok (equal a b)
  | .unequal => .ok (!equal a b)
  | .less => related .less a b
  | .lessEqual => related .lessEqual a b
  | .greater => related .greater a b
  | .greaterEqual => related .greaterEqual a b
  | .within => within a b
  | .notWithin => (within a b).map (!·)

def applyUnary (operator : UnaryOperator) (value : Value) : Except Fault Value :=
  match operator with
  | .negate => negate value
  | .plus => positive value
  | .not => .ok (.bool !value.isTrue)

/-- The operators that need both operands; `and` and `or` choose one of them. -/
def applyBinary (operator : BinaryOperator) (a b : Value) : Except Fault Value :=
  match operator with
  | .add => add a b
  | .subtract => subtract a b
  | .multiply => multiply a b
  | .divide => divide a b
  | .floorDivide => floorDivide a b
  | .modulo => modulo a b
  | .power => power a b
  | .and => .ok (if a.isTrue then b else a)
  | .or => .ok (if a.isTrue then a else b)

end StaticSite.Operation
