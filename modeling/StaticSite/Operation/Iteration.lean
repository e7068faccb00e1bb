import StaticSite.Value.Order

/-!
# Going over the elements of a value

A stream is the elements a value gives, and the fault, if any, in which it ends. Faults of a lazy
computation show only when its elements are asked for.
-/

namespace StaticSite.Operation

structure Stream where
  items : List Value
  fault : Option Fault

def Stream.ofList (items : List Value) : Stream := ⟨items, none⟩

/-- All elements, or the fault. -/
def Stream.drain (s : Stream) : Except Fault (List Value) := match s.fault with
  | none => .ok s.items
  | some fault => .error fault

/-- The first element; a fault counts only if no element comes before it. -/
def Stream.head (s : Stream) : Except Fault (Option Value) := match s.items, s.fault with
  | item :: _, _ => .ok (some item)
  | [], some fault => .error fault
  | [], none => .ok none

/-- A stream of results, up to the first fault. -/
def Stream.mapUntil (f : Value → Except Fault Value) (items : List Value) (last : Option Fault) :
    Stream :=
  match items with
  | [] => ⟨[], last⟩
  | item :: rest =>
    match f item with
    | .ok result =>
      let tail := mapUntil f rest last
      ⟨result :: tail.items, tail.fault⟩
    | .error fault => ⟨[], some fault⟩

/-- A stream of the elements that pass a test, up to the first fault. -/
def Stream.filterUntil (keep : Value → Except Fault Bool) (items : List Value)
    (last : Option Fault) : Stream :=
  match items with
  | [] => ⟨[], last⟩
  | item :: rest =>
    match keep item with
    | .ok true =>
      let tail := filterUntil keep rest last
      ⟨item :: tail.items, tail.fault⟩
    | .ok false => filterUntil keep rest last
    | .error fault => ⟨[], some fault⟩

def characters (s : String) : List Value := s.toList.map fun c => .ofString [c]

/-- The stream of a value; an undefined value has no elements. -/
def stream : Value → Except Fault Stream
  | .list items | .tuple items => .ok (.ofList items)
  | .str s | .markup s => .ok (.ofList (characters s))
  | .mapping entries => .ok (.ofList (entries.map Prod.fst))
  | .range start stop step => .ok (.ofList (Value.rangeItems start stop step))
  | .view part entries => .ok (.ofList (Value.viewItems part entries))
  | .iterator _ items fault => .ok ⟨items, fault⟩
  | .undefined _ => .ok (.ofList [])
  | _ => .error .wrongType

/-- All elements of a value. -/
def elements (value : Value) : Except Fault (List Value) := do (← stream value).drain

/-- A lazy value over a stream. -/
def generator (s : Stream) : Value := .iterator "generator" s.items s.fault

/-- The number of elements, of values that know it. -/
def length : Value → Except Fault Nat
  | .list items | .tuple items => .ok items.length
  | .str s | .markup s => .ok s.length
  | .mapping entries | .view _ entries => .ok entries.length
  | .range start stop step => .ok (Value.rangeLength start stop step)
  | .undefined _ => .ok 0
  | _ => .error .wrongType

end StaticSite.Operation
