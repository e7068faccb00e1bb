import StaticSite.Value.Basic
import StaticSite.Number.Double

/-!
# Equality and order of values

Numbers compare by their exact values across kinds, truth values being zero and one; texts compare
by code point; sequences compare element by element. Values of kinds that have no common order
cannot be compared.
-/

namespace StaticSite.Value

inductive Numeral where
  | int (n : Int)
  | float (x : Float)

def numeral? : Value → Option Numeral
  | .int n => some (.int n)
  | .bool b => some (.int (if b then 1 else 0))
  | .float x => some (.float x)
  | _ => none

/-- The order of two numbers; none if one of them is no number. -/
def Numeral.compare? : Numeral → Numeral → Option Ordering
  | .int a, .int b => some (compare a b)
  | .float a, .int b => Double.compareInt? a b
  | .int a, .float b => (Double.compareInt? b a).map Ordering.swap
  | .float a, .float b => Double.compare? a b

def equalNumbers (a b : Numeral) : Bool := a.compare? b == some .eq

mutual

/-- Equality of an element of a container: an element is equal to itself even if it is no
number. -/
def same (a b : Value) : Bool :=
  match a, b with
  | .float x, .float y => x == y || (Double.isNaN x && Double.isNaN y)
  | .null, .null => true
  | .str s, .str t => s == t
  | .str s, .markup t => s == t
  | .markup s, .str t => s == t
  | .markup s, .markup t => s == t
  | .list xs, .list ys => equalItems xs ys
  | .tuple xs, .tuple ys => equalItems xs ys
  | .mapping xs, .mapping ys => xs.length == ys.length && entriesWithin xs ys
  | .undefined f, .undefined g => f == g
  | .range a b c, .range d e f => rangeLength a b c == rangeLength d e f
      && (rangeLength a b c == 0 || (a == d && (rangeLength a b c == 1 || c == f)))
  | .view .keys xs, .view .keys ys => xs.length == ys.length && keysWithin xs ys
  | .method r m, .method q n => m == n && same r q
  | .global m, .global n => m == n
  | .thing m s q, .thing n t r => m == n && s == t && q == r
  | a, b => match numeral? a, numeral? b with
    | some x, some y => equalNumbers x y
    | _, _ => false

def equalItems : List Value → List Value → Bool
  | [], [] => true
  | x :: xs, y :: ys => same x y && equalItems xs ys
  | _, _ => false

def entriesWithin : List (Value × Value) → List (Value × Value) → Bool
  | [], _ => true
  | (key, value) :: rest, others =>
    (others.any fun other => same key other.1 && same value other.2) && entriesWithin rest others

def keysWithin : List (Value × Value) → List (Value × Value) → Bool
  | [], _ => true
  | (key, _) :: rest, others => (others.any fun other => same key other.1) && keysWithin rest others

end

/-- Equality of values. It differs from `same` on the float that is no number. -/
def equal (a b : Value) : Bool :=
  match a, b with
  | .float x, .float y => x == y
  | a, b => same a b

mutual

/-- Whether a value can be a key: containers that can change cannot. -/
def isHashable : Value → Bool
  | .list _ | .mapping _ => false
  | .tuple items => allHashable items
  | .view .. => false
  | _ => true

def allHashable : List Value → Bool
  | [] => true
  | item :: rest => isHashable item && allHashable rest

end

/-- The four order relations. -/
inductive Relation where
  | less
  | lessEqual
  | greater
  | greaterEqual
  deriving Repr, DecidableEq

def Relation.holds : Relation → Ordering → Bool
  | .less, o => o == .lt
  | .lessEqual, o => o != .gt
  | .greater, o => o == .gt
  | .greaterEqual, o => o != .lt

mutual

/-- Decides an order relation. Undefined values refuse every comparison. -/
def related (relation : Relation) (a b : Value) : Except Fault Bool :=
  match a, b with
  | .undefined f, _ => .error (undefinedFault f)
  | _, .undefined f => .error (undefinedFault f)
  | .str s, .str t => .ok (relation.holds (compare s t))
  | .str s, .markup t => .ok (relation.holds (compare s t))
  | .markup s, .str t => .ok (relation.holds (compare s t))
  | .markup s, .markup t => .ok (relation.holds (compare s t))
  | .list xs, .list ys => relatedItems relation xs ys
  | .tuple xs, .tuple ys => relatedItems relation xs ys
  | .view .keys xs, .view .keys ys => .ok (match relation with
    | .less => keysWithin xs ys && xs.length < ys.length
    | .lessEqual => keysWithin xs ys
    | .greater => keysWithin ys xs && ys.length < xs.length
    | .greaterEqual => keysWithin ys xs)
  | a, b => match numeral? a, numeral? b with
    | some x, some y => .ok (((x.compare? y).map relation.holds).getD false)
    | _, _ => .error .wrongType

/-- The first pair of unlike elements decides, else the lengths do. -/
def relatedItems (relation : Relation) : List Value → List Value → Except Fault Bool
  | [], [] => .ok (relation.holds .eq)
  | [], _ :: _ => .ok (relation.holds .lt)
  | _ :: _, [] => .ok (relation.holds .gt)
  | x :: xs, y :: ys => if same x y then relatedItems relation xs ys else related relation x y

end

def lessThan (a b : Value) : Except Fault Bool := related .less a b

/-- Puts a keyed item before the first one with a larger key. -/
def insertSorted {α : Type} (before : α → α → Except Fault Bool) (item : α) :
    List α → Except Fault (List α)
  | [] => .ok [item]
  | other :: rest => do
    if ← before item other then return item :: other :: rest
    return other :: (← insertSorted before item rest)

/-- A stable sort by a comparison that may fail. -/
def sortWith {α : Type} (before : α → α → Except Fault Bool) (items : List α) :
    Except Fault (List α) :=
  items.foldlM (fun sorted item => insertSorted before item sorted) []

end StaticSite.Value
