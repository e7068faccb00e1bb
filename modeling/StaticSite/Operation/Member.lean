import StaticSite.Operation.Arithmetic

/-!
# Members, items and slices

`member` looks for an operation or property of a value first and for an item under that name
second; `item` looks the other way round. What cannot be found is an undefined value. Names that
start with a low line exist on every value and stay hidden: reading one gives an undefined value
that refuses every use.
-/

namespace StaticSite.Operation

open StaticSite.Text StaticSite.Value

def textMethods : List String :=
  ["capitalize", "casefold", "center", "count", "encode", "endswith", "expandtabs", "find",
    "format", "format_map", "index", "isalnum", "isalpha", "isascii", "isdecimal", "isdigit",
    "isidentifier", "islower", "isnumeric", "isprintable", "isspace", "istitle", "isupper", "join",
    "ljust", "lower", "lstrip", "maketrans", "partition", "removeprefix", "removesuffix",
    "replace", "rfind", "rindex", "rjust", "rpartition", "rsplit", "rstrip", "split",
    "splitlines", "startswith", "strip", "swapcase", "title", "translate", "upper", "zfill"]

def listMethods : List String :=
  ["append", "clear", "copy", "count", "extend", "index", "insert", "pop", "remove", "reverse",
    "sort"]

def mappingMethods : List String :=
  ["clear", "copy", "fromkeys", "get", "items", "keys", "pop", "popitem", "setdefault", "update",
    "values"]

def intMethods : List String :=
  ["as_integer_ratio", "bit_count", "bit_length", "conjugate", "from_bytes", "is_integer",
    "to_bytes"]

def floatMethods : List String :=
  ["as_integer_ratio", "conjugate", "fromhex", "hex", "is_integer"]

/-- The names of the operations of a value. -/
def methodsOf : Value → List String
  | .str _ => textMethods
  | .markup _ => "striptags" :: "unescape" :: "escape" :: textMethods
  | .list _ => listMethods
  | .tuple _ => ["count", "index"]
  | .mapping _ => mappingMethods
  | .bool _ | .int _ => intMethods
  | .float _ => floatMethods
  | .range .. => ["count", "index"]
  | .iterator "generator" .. => ["close", "send", "throw"]
  | .record "Cycler" _ => ["next", "reset"]
  | .view part _ => match part with
    | .values => []
    | _ => ["isdisjoint"]
  | _ => []

/-- The properties of numbers and ranges, and the parts of records. A pair that ends in a list is a
group: the key that its elements share and the elements. -/
def property? (value : Value) (name : String) : Option Value :=
  match value with
  | .bool _ | .int _ =>
    let n := value.int?.getD 0
    if name = "real" || name = "numerator" then some (.int n)
    else if name = "imag" then some (.int 0)
    else if name = "denominator" then some (.int 1)
    else none
  | .float x =>
    if name = "real" then some (.float x)
    else if name = "imag" then some (.float (Double.zero false))
    else none
  | .range start stop step =>
    if name = "start" then some (.int start)
    else if name = "stop" then some (.int stop)
    else if name = "step" then some (.int step)
    else none
  | .tuple [key, .list items] =>
    if name = "grouper" then some key
    else if name = "list" then some (.list items)
    else none
  | .record _ parts => parts.lookup name
  | _ => none

/-- The hidden names that every value has. -/
def commonHidden : List String :=
  ["class", "delattr", "dir", "doc", "eq", "format", "ge", "getattribute", "getstate", "gt",
    "hash", "init", "init_subclass", "le", "lt", "ne", "new", "reduce", "reduce_ex", "repr",
    "setattr", "sizeof", "str", "subclasshook"]

def sequenceHidden : List String := ["add", "contains", "getitem", "iter", "len", "mul", "rmul"]

def numberHidden : List String :=
  ["abs", "add", "bool", "ceil", "divmod", "float", "floor", "floordiv", "getnewargs", "int",
    "mod", "mul", "neg", "pos", "pow", "radd", "rdivmod", "rfloordiv", "rmod", "rmul", "round",
    "rpow", "rsub", "rtruediv", "sub", "truediv", "trunc"]

/-- The further hidden names of a value. -/
def ownHidden : Value → List String
  | .str _ => "getnewargs" :: "mod" :: "rmod" :: sequenceHidden
  | .markup _ =>
    ["dict", "getnewargs", "html", "html_format", "mod", "module", "radd", "rmod", "slots"]
      ++ sequenceHidden
  | .list _ =>
    ["class_getitem", "delitem", "iadd", "imul", "reversed", "setitem"] ++ sequenceHidden
  | .tuple _ => "class_getitem" :: "getnewargs" :: sequenceHidden
  | .mapping _ =>
    ["class_getitem", "contains", "delitem", "getitem", "ior", "iter", "len", "or", "reversed",
      "ror", "setitem"]
  | .bool _ | .int _ =>
    ["and", "index", "invert", "lshift", "or", "rand", "rlshift", "ror", "rrshift", "rshift",
      "rxor", "xor"] ++ numberHidden
  | .float _ => "getformat" :: numberHidden
  | .null => ["bool"]
  | .range .. => ["bool", "contains", "getitem", "iter", "len", "reversed"]
  | .iterator .. => ["iter", "next"]
  | .view .. => ["iter", "len", "reversed"]
  | .method .. => ["call", "name", "qualname", "self", "text_signature"]
  | .global _ => ["call", "dict", "module", "name", "qualname"]
  | .undefined _ =>
    ["add", "bool", "call", "complex", "div", "float", "floordiv", "getattr", "getitem", "int",
      "iter", "len", "mod", "module", "mul", "neg", "pos", "pow", "radd", "rdiv", "rfloordiv",
      "rmod", "rmul", "rpow", "rsub", "rtruediv", "slots", "sub", "truediv"]
  | .thing .. | .record .. => []

/-- The name between doubled low lines, if it is of that form. -/
def betweenLines? (name : String) : Option String :=
  (dropFront? ['_', '_'] name.toList).bind fun rest =>
    if endsWith ['_', '_'] rest && rest.length > 2 then
      some (String.ofList (rest.take (rest.length - 2)))
    else none

/-- Whether a value has an attribute that expressions must not reach. -/
def isHidden (value : Value) (name : String) : Bool :=
  match betweenLines? name with
  | some word => commonHidden.elem word || (ownHidden value).elem word
  | none => match value with
    | .iterator "generator" .. => ["gi_code", "gi_frame"].elem name
    | .global _ => value.typeName == "type" && name == "mro"
    | .undefined _ => name.startsWith "_undefined_" || name == "_fail_with_undefined_error"
    | .record _ parts => name.startsWith "_" && (parts.lookup name).isSome
    | _ => false

/-- An operation, a property or a hidden attribute of a value, if it has one of that name. -/
def attribute? (value : Value) (name : String) : Option Value :=
  if isHidden value name then some .hidden
  else match property? value name with
    | some found => some found
    | none => if (methodsOf value).elem name then some (.method value name) else none

/-- The element at an index; a negative one counts from the end. -/
def elementAt? {α : Type} (items : List α) (index : Int) : Option α :=
  let place := if index < 0 then index + items.length else index
  if place < 0 then none else items[place.toNat]?

/-- What a value holds under an index or key, or the fault of asking. -/
def subscript (value index : Value) : Except Fault Value :=
  let found (element : Option Value) : Except Fault Value := match element with
    | some element => .ok element
    | none => .error .missingIndex
  match value with
  | .undefined f => .error (undefinedFault f)
  | .mapping entries =>
    if isHashable index then match Mapping.lookup? index entries with
      | some element => .ok element
      | none => .error .missingKey
    else .error .wrongType
  | _ => match index.int? with
    | none => .error .wrongType
    | some n => match value with
      | .list items | .tuple items => found (elementAt? items n)
      | .str s => found ((elementAt? s.toList n).map fun c => .ofString [c])
      | .markup s => found ((elementAt? s.toList n).map fun c => markupOf [c])
      | .range start stop step => found (elementAt? (rangeItems start stop step) n)
      | _ => .error .wrongType

/-- Faults of a subscript after which an attribute is looked for. -/
def isSubscriptMiss : Fault → Bool
  | .wrongType | .missingKey | .missingIndex => true
  | _ => false

/-- The value of `target.name`. -/
def member (target : Value) (name : String) : Except Fault Value :=
  match attribute? target name with
  | some found => .ok found
  | none => match subscript target (.str name) with
    | .ok found => .ok found
    | .error fault => if isSubscriptMiss fault then .ok .missing else .error fault

/-- The value of `target[index]`. -/
def item (target index : Value) : Except Fault Value :=
  match subscript target index with
  | .ok found => .ok found
  | .error fault =>
    if isSubscriptMiss fault then
      .ok ((index.text?.bind (attribute? target)).getD .missing)
    else .error fault

/-- The bounds of a slice. -/
structure Slice where
  start : Option Int
  stop : Option Int
  step : Int

def sliceBound (value : Option Value) : Except Fault (Option Int) := match value with
  | none | some .null => .ok none
  | some value => match value.int? with
    | some n => .ok (some n)
    | none => .error .wrongType

def sliceOf (start stop step : Option Value) : Except Fault Slice := do
  let step := (← sliceBound step).getD 1
  if step = 0 then .error .wrongValue
  return ⟨← sliceBound start, ← sliceBound stop, step⟩

/-- The first place, the bound and the step of a slice of a sequence of a given length. -/
def Slice.places (s : Slice) (length : Nat) : Int × Int × Int :=
  -- Going backward, a slice stops at the place before the first element.
  let low : Int := if s.step < 0 then -1 else 0
  let high : Int := if s.step < 0 then length - 1 else length
  let clamp (n : Int) : Int :=
    if n < 0 then max low (n + length) else min high n
  (match s.start with
    | some n => clamp n
    | none => if s.step < 0 then high else low,
   match s.stop with
    | some n => clamp n
    | none => if s.step < 0 then low else high,
   s.step)

def Slice.apply {α : Type} (s : Slice) (items : List α) : List α :=
  let (start, stop, step) := s.places items.length
  let all := items.toArray
  (List.range (rangeLength start stop step)).filterMap fun (i : Nat) =>
    all[(start + i * step).toNat]?

/-- The part of a sequence that a slice selects. -/
def Slice.select (s : Slice) (value : Value) : Except Fault Value :=
  match value with
  | .str t => .ok (.ofString (s.apply t.toList))
  | .markup t => .ok (markupOf (s.apply t.toList))
  | .list items => .ok (.list (s.apply items))
  | .tuple items => .ok (.tuple (s.apply items))
  | .range first last by_ =>
    let (start, stop, step) := s.places (rangeLength first last by_)
    .ok (.range (first + start * by_) (first + stop * by_) (step * by_))
  | .mapping _ => .error .missingKey
  | .undefined f => .error (undefinedFault f)
  | _ => .error .wrongType

/-- The value of a slice of a target. -/
def slice (target : Value) (start stop step : Option Value) : Except Fault Value := do
  match target with
  | .undefined f => .error (undefinedFault f)
  | _ =>
    unless hasSlices target do
      .error (match target with | .mapping _ => .missingKey | _ => .wrongType)
    (← sliceOf start stop step).select target
where
  hasSlices : Value → Bool
    | .str _ | .markup _ | .list _ | .tuple _ | .range .. => true
    | _ => false

end StaticSite.Operation
