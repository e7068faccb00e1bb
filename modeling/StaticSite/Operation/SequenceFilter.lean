import StaticSite.Operation.Attribute
import StaticSite.Operation.NumberFilter

/-!
# Filters on sequences and mappings

Filters that only rearrange elements are lazy: they give an iterator, and a fault among the
elements shows when they are asked for. Order filters compare texts without regard to case unless
told otherwise.
-/

namespace StaticSite.Operation

open StaticSite.Text StaticSite.Value

/-- The first result of an order filter's parameters: the getter of its attribute. -/
def keyGetter (path : Value) (caseSensitive : Bool) : Except Fault (Value → Except Fault Value) :=
  do
    let steps ← attributeSteps path
    return fun value => (follow .null value steps).map (caseKey caseSensitive)

def defaultFilter : Filter := ⟨["default_value", "boolean"], 0, fun value given =>
  .ok (if value.isUndefined || (given.isTrue 1 false && !value.isTrue) then given.get 0 (.str "")
    else value)⟩

/-- Applies a getter to every element of a lazy stream. -/
def mapStream (f : Value → Except Fault Value) (value : Value) : Except Fault Stream := do
  let s ← stream value
  return Stream.mapUntil f s.items s.fault

def joinFilter : Filter := ⟨["d", "attribute"], 0, fun value given => do
  let path := given.get 1 .null
  let steps ← attributeSteps (if path.isTrue then path else .null)
  let items ← (← mapStream (follow .null · steps) value).drain
  return .ofString (joinWith (given.get 0 (.str "")).plain (items.map plain))⟩

def firstFilter : Filter := ⟨[], 0, fun value _ => do
  return (← (← stream value).head).getD .missing⟩

/-- The elements from the back, for values that can be read that way, and how the reader of them
is called. -/
def reversed? : Value → Option (String × List Value)
  | .list items => some ("list_reverseiterator", items.reverse)
  | .tuple items => some ("reversed", items.reverse)
  | .str s | .markup s => some ("reversed", (characters s).reverse)
  | .mapping entries => some ("dict_reversekeyiterator", (entries.map Prod.fst).reverse)
  | .range start stop step => some ("range_iterator", (rangeItems start stop step).reverse)
  | .view .keys entries => some ("dict_reversekeyiterator", (entries.map Prod.fst).reverse)
  | .view .values entries => some ("dict_reversevalueiterator", (entries.map Prod.snd).reverse)
  | .view .items entries => some ("dict_reverseitemiterator", (viewItems .items entries).reverse)
  | .undefined _ => some ("reversed", [])
  | _ => none

def lastFilter : Filter := ⟨[], 0, fun value _ =>
  match reversed? value with
  | some (_, items) => .ok (items.headD .missing)
  | none => .error .wrongType⟩

def reverseFilter : Filter := ⟨[], 0, fun value _ =>
  match value with
  | .str s => .ok (.ofString s.toList.reverse)
  | .markup s => .ok (markupOf s.toList.reverse)
  | value => match reversed? value with
    | some (name, items) => .ok (.iterator name items none)
    | none => match stream value with
      | .ok s => (s.drain).map fun items => .list items.reverse
      | .error _ => .error .filterArgument⟩

def lengthFilter : Filter := ⟨[], 0, fun value _ => (length value).map fun n => .int n⟩

def listFilter : Filter := ⟨[], 0, fun value _ => (elements value).map .list⟩

def sortFilter : Filter := ⟨["reverse", "case_sensitive", "attribute"], 0, fun value given => do
  let lists ← attributeLists (given.get 2 .null)
  let key (element : Value) : Except Fault Value := do
    let parts ← lists.mapM fun steps => follow .null element steps
    return .list (parts.map (caseKey (given.isTrue 1 false)))
  let pairs ← keyed key (← elements value)
  return .list ((← sortKeyed (given.isTrue 0 false) pairs).map Prod.snd)⟩

/-- The element with the least or greatest key; of equal ones the first. -/
def extreme (greatest : Bool) : (best : Value × Value) → List (Value × Value) → Except Fault Value
  | best, [] => .ok best.2
  | best, pair :: rest => do
    if ← (if greatest then lessThan best.1 pair.1 else lessThan pair.1 best.1) then
      extreme greatest pair rest
    else extreme greatest best rest

def extremeFilter (greatest : Bool) : Filter :=
  ⟨["case_sensitive", "attribute"], 0, fun value given => do
    match ← (← stream value).head with
    | none => return .missing
    | some _ =>
      let key ← keyGetter (given.get 1 .null) (given.isTrue 0 false)
      match ← keyed key (← elements value) with
      | [] => return .missing
      | pair :: rest => extreme greatest pair rest⟩

def dictsortFilter : Filter := ⟨["case_sensitive", "by", "reverse"], 0, fun value given => do
  let by_ := (given.get 1 (.str "key")).text?
  if by_ ≠ some "key" && by_ ≠ some "value" then .error .filterArgument
  match value with
  | .mapping entries =>
    let pairs := entries.map fun entry =>
      (caseKey (given.isTrue 0 false) (if by_ = some "key" then entry.1 else entry.2),
        Value.tuple [entry.1, entry.2])
    return .list ((← sortKeyed (given.isTrue 2 false) pairs).map Prod.snd)
  | .undefined f => .error (undefinedFault f)
  | _ => .error .missingAttribute⟩

def itemsFilter : Filter := ⟨[], 0, fun value _ =>
  .ok (generator (match value with
    | .mapping entries => .ofList (viewItems .items entries)
    | .undefined _ => .ofList []
    | _ => ⟨[], some .wrongType⟩))⟩

def sumFilter : Filter := ⟨["attribute", "start"], 0, fun value given => do
  let steps ← attributeSteps (given.get 0 .null)
  let s ← mapStream (follow .null · steps) value
  let start := given.get 1 (.int 0)
  if start.text?.isSome then .error .wrongType
  let total ← sumFrom start s.items
  match s.fault with
  | some fault => .error fault
  | none => return total⟩

/-- The elements with keys that no earlier element has. -/
def distinctFrom (key : Value → Except Fault Value) (last : Option Fault) :
    (seen items : List Value) → Stream
  | _, [] => ⟨[], last⟩
  | seen, item :: rest =>
    match key item with
    | .error fault => ⟨[], some fault⟩
    | .ok k =>
      if !isHashable k then ⟨[], some .wrongType⟩
      else if seen.any (same k) then distinctFrom key last seen rest
      else
        let tail := distinctFrom key last (k :: seen) rest
        ⟨item :: tail.items, tail.fault⟩

/-- Defers the faults of preparing a stream to the time when its elements are asked for. -/
def deferred (s : Except Fault Stream) : Value := generator (match s with
  | .ok s => s
  | .error fault => ⟨[], some fault⟩)

def uniqueFilter : Filter := ⟨["case_sensitive", "attribute"], 0, fun value given =>
  .ok (deferred (do
    let key ← keyGetter (given.get 1 .null) (given.isTrue 0 false)
    let s ← stream value
    return distinctFrom key s.fault [] s.items))⟩

def fillUp (fill : Value) (missing : Except Fault Int) (group : List Value) :
    Except Fault (List Value) :=
  match fill with
  | .null => .ok group
  | fill => missing.map fun n => group ++ List.replicate n.toNat fill

/-- Groups of `size` elements in order; `group` collects, in reverse, the group under way. -/
def batchesFrom (size : Value) (fill : Value) (last : Option Fault) :
    (group items : List Value) → Stream
  | group, [] =>
    match last with
    | some fault => ⟨[], some fault⟩
    | none =>
      if group.isEmpty then ⟨[], none⟩
      else
        let missing := match size.int? with
          | some n => Except.ok (n - group.length)
          | none => .error .wrongType
        match fillUp fill missing group.reverse with
        | .ok full => ⟨[.list full], none⟩
        | .error fault => ⟨[], some fault⟩
  | group, item :: rest =>
    if equal (.int group.length) size then
      let tail := batchesFrom size fill last [item] rest
      ⟨.list group.reverse :: tail.items, tail.fault⟩
    else batchesFrom size fill last (item :: group) rest

def batchFilter : Filter := ⟨["linecount", "fill_with"], 1, fun value given =>
  .ok (deferred (do
    let s ← stream value
    return batchesFrom (given.get 0 .null) (given.get 1 .null) s.fault [] s.items))⟩

/-- Cuts elements into a number of columns; the first columns take one element more until none is
left over. -/
def columns (count : Nat) (fill : Value) (items : List Value) : List Value :=
  let each := items.length / count
  let extra := items.length % count
  (List.range count).map fun n =>
    let start := n * each + min n extra
    let size := if n < extra then each + 1 else each
    let column := (items.drop start).take size
    .list (match fill with
      | .null => column
      | fill => if n ≥ extra then column ++ [fill] else column)

def sliceFilter : Filter := ⟨["slices", "fill_with"], 1, fun value given =>
  .ok (deferred (do
    let items ← elements value
    let count ← intArgument (given.get 0 .null)
    if count = 0 then .error .divisionByZero
    return .ofList (if count < 0 then [] else columns count.toNat (given.get 1 .null) items)))⟩

/-- Runs of pairs with equal keys. -/
def runs : List (Value × Value) → List (Value × List Value)
  | [] => []
  | (key, item) :: rest =>
    match runs rest with
    | (next, items) :: more =>
      if equal key next then (key, item :: items) :: more else (key, [item]) :: (next, items) :: more
    | [] => [(key, [item])]

def groupbyFilter : Filter :=
  ⟨["attribute", "default", "case_sensitive"], 1, fun value given => do
    let steps ← attributeSteps (given.get 0 .null)
    let otherwise := given.get 1 .null
    let sensitive := given.isTrue 2 false
    let pairs ← keyed (fun item => (follow otherwise item steps).map (caseKey sensitive))
      (← elements value)
    let groups := runs (← sortKeyed false pairs)
    let shown ← groups.mapM fun group => do
      let key ← match group.2 with
        | item :: _ => if sensitive then pure group.1 else follow otherwise item steps
        | [] => pure group.1
      return .tuple [key, .list group.2]
    return .list shown⟩

def attrFilter : Filter := ⟨["name"], 1, fun value given => do
  let name := given.get 0 .null
  match name.text? with
  | none => .error .wrongType
  | some name => match attribute? value name, value with
    | some found, _ => return found
    | none, .undefined f => .error (undefinedFault f)
    | none, _ => return .missing⟩

/-- A choice without chance: the first element. -/
def randomFilter : Filter := ⟨[], 0, fun value _ => do
  match value with
  | .mapping (_ :: _) => .error .missingKey
  | value =>
    let _ ← length value
    return (← elements value).headD .missing⟩

def sequenceFilters : List (String × Filter) :=
  [("default", defaultFilter), ("d", defaultFilter), ("join", joinFilter), ("first", firstFilter),
    ("last", lastFilter), ("reverse", reverseFilter), ("length", lengthFilter),
    ("count", lengthFilter), ("list", listFilter), ("sort", sortFilter),
    ("min", extremeFilter false), ("max", extremeFilter true), ("dictsort", dictsortFilter),
    ("items", itemsFilter), ("sum", sumFilter), ("unique", uniqueFilter), ("batch", batchFilter),
    ("slice", sliceFilter), ("groupby", groupbyFilter), ("attr", attrFilter),
    ("random", randomFilter)]

end StaticSite.Operation
