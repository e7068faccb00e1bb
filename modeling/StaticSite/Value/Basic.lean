import StaticSite.Fault

/-!
# Values

The values of scopes, component data, settings and expressions. Decoded JSON uses the first eight
constructors only (`Value.IsPlain`); the others arise while an expression is evaluated. A mapping
is the list of its entries in insertion order.
-/

namespace StaticSite

/-- What of a mapping a view shows. -/
inductive ViewPart where
  | keys
  | values
  | items
  deriving Repr, DecidableEq

inductive Value where
  | null
  | bool (b : Bool)
  | int (n : Int)
  | float (x : Float)
  | str (s : String)
  | list (items : List Value)
  | tuple (items : List Value)
  | mapping (entries : List (Value × Value))
  /-- Text that counts as escaped. -/
  | markup (s : String)
  /-- The value of a name, attribute or element that does not exist; `forbidden` marks one that
  exists and must not be reached. -/
  | undefined (forbidden : Bool)
  | range (start stop step : Int)
  /-- The elements an iterator will give, and the fault that comes after them, if any. -/
  | iterator (typeName : String) (items : List Value) (fault : Option Fault)
  | view (part : ViewPart) (entries : List (Value × Value))
  /-- An operation of a value, not yet called. -/
  | method (receiver : Value) (name : String)
  /-- An operation that every expression can name. -/
  | global (name : String)
  /-- A value of which only the type and the texts matter. -/
  | thing (typeName text quoted : String)
  /-- A value of which expressions can name the parts. -/
  | record (typeName : String) (parts : List (String × Value))
  deriving Inhabited

/-- A scope binds names to values. Keys that are no strings name nothing. -/
abbrev Scope := List (Value × Value)

namespace Value

def missing : Value := .undefined false

def hidden : Value := .undefined true

def ofString (s : List Char) : Value := .str (String.ofList s)

/-- The text of a string or of escaped text. -/
def text? : Value → Option String
  | .str s => some s
  | .markup s => some s
  | _ => none

def isUndefined : Value → Bool
  | .undefined _ => true
  | _ => false

/-- Integers and truth values as integers. -/
def int? : Value → Option Int
  | .int n => some n
  | .bool b => some (if b then 1 else 0)
  | _ => none

/-- The number of elements of an arithmetic range. -/
def rangeLength (start stop step : Int) : Nat :=
  if step > 0 then ((stop - start + step - 1) / step).toNat
  else if step < 0 then ((start - stop - step - 1) / (-step)).toNat
  else 0

def rangeItems (start stop step : Int) : List Value :=
  (List.range (rangeLength start stop step)).map fun (i : Nat) => .int (start + i * step)

def viewItems (part : ViewPart) (entries : List (Value × Value)) : List Value := match part with
  | .keys => entries.map Prod.fst
  | .values => entries.map Prod.snd
  | .items => entries.map fun entry => .tuple [entry.1, entry.2]

def isTrue : Value → Bool
  | .null => false
  | .bool b => b
  | .int n => n ≠ 0
  | .float x => !(x == 0)
  | .str s => s ≠ ""
  | .markup s => s ≠ ""
  | .list items => !items.isEmpty
  | .tuple items => !items.isEmpty
  | .mapping entries => !entries.isEmpty
  | .undefined _ => false
  | .range start stop step => rangeLength start stop step ≠ 0
  | .view _ entries => !entries.isEmpty
  | .iterator .. | .method .. | .global _ | .thing .. | .record .. => true

/-- The name of a value's type, as reports show it. -/
def typeName : Value → String
  | .null => "NoneType"
  | .bool _ => "bool"
  | .int _ => "int"
  | .float _ => "float"
  | .str _ => "str"
  | .list _ => "list"
  | .tuple _ => "tuple"
  | .mapping _ => "dict"
  | .markup _ => "Markup"
  | .undefined _ => "Undefined"
  | .range .. => "range"
  | .iterator name .. => name
  | .view .keys _ => "dict_keys"
  | .view .values _ => "dict_values"
  | .view .items _ => "dict_items"
  | .method (.str _) "format" | .method (.str _) "format_map" => "function"
  | .method (.markup _) "format" | .method (.markup _) "format_map" => "function"
  | .method (.markup _) _ => "method"
  | .method .. => "builtin_function_or_method"
  | .global name => if name = "range" || name = "lipsum" then "function" else "type"
  | .thing name .. | .record name _ => name

/-- The fault of using an undefined value. -/
def undefinedFault (forbidden : Bool) : Fault :=
  if forbidden then .forbiddenValue else .undefinedValue

end Value

end StaticSite
