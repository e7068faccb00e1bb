import StaticSite.Operation.Predicate
import StaticSite.Operation.SequenceFilter

/-!
# Filters by name

Most filters are entries of a table. `map`, `select` and their kin apply another filter or test to
each element; the name they apply is their first argument, so a filter that applies a filter has
one argument less to hand on.
-/

namespace StaticSite.Operation

open StaticSite.Value

def plainFilters : List (String × Filter) := textFilters ++ numberFilters ++ sequenceFilters

/-- The filters that apply another operation to each element. -/
def applyingFilters : List String := ["map", "select", "reject", "selectattr", "rejectattr"]

def isFilterName (name : String) : Bool :=
  (plainFilters.lookup name).isSome || applyingFilters.elem name || name == "format"

def isTestName (name : String) : Bool := testNames.elem name

def test (name : String) (value : Value) (actuals : Actuals) : Except Fault Bool :=
  applyTest isFilterName isTestName name value actuals

/-- The name of an operation that is given as a value. -/
def operationName (value : Value) : Except Fault String :=
  match value.text? with
  | some name => .ok name
  | none => if isHashable value then .error .missingOperation else .error .wrongType

/-- The getter of `map` when it takes an attribute. -/
def mapAttribute (named : List (String × Value)) : Except Fault (Value → Except Fault Value) :=
  match named.lookup "attribute" with
  | none => .error .filterArgument
  | some path => do
    let steps ← attributeSteps path
    let known := ["attribute", "default"]
    if named.any fun argument => !known.elem argument.1 then
      .error .filterArgument
    return fun value => follow ((named.lookup "default").getD .null) value steps

/-- The test of `select` and its kin: a named test, or the truth of an element. -/
def elementTest (actuals : Actuals) : Except Fault (Value → Except Fault Bool) :=
  .ok (match actuals.positional with
    | [] => fun value => .ok value.isTrue
    | name :: rest => fun value => do test (← operationName name) value ⟨rest, actuals.named⟩)

/-- The test of `selectattr` and its kin, on an attribute of an element. -/
def attributeTest (actuals : Actuals) : Except Fault (Value → Except Fault Bool) :=
  match actuals.positional with
  | [] => .error .filterArgument
  | path :: rest => do
    let steps ← attributeSteps path
    let holds ← elementTest ⟨rest, actuals.named⟩
    return fun value => do holds (← follow .null value steps)

/-- The elements of a value that pass a test; a value that is not true has none to look at. -/
def selected (keep : Bool) (prepare : Except Fault (Value → Except Fault Bool)) (value : Value) :
    Value :=
  if !value.isTrue then generator (.ofList [])
  else deferred (do
    let holds ← prepare
    let s ← stream value
    return Stream.filterUntil (fun item => (holds item).map (· == keep)) s.items s.fault)

def formatFilter (value : Value) (actuals : Actuals) : Except Fault Value := do
  let values ←
    if actuals.named.isEmpty then pure (.tuple actuals.positional)
    else if actuals.positional.isEmpty then
      pure (.mapping (actuals.named.map fun argument => (.str argument.1, argument.2)))
    else .error .filterArgument
  match value with
  | .markup s => return markupOf (← formatWith true s.toList values)
  | value => return .ofString (← formatWith false value.plain values)

/-- Applies a filter, given what `map` makes of an element. -/
def applyWith (actuals : Actuals) (mapped : Except Fault (Value → Except Fault Value))
    (name : String) (value : Value) : Except Fault Value :=
  match plainFilters.lookup name with
  | some filter => do filter.run value (← bind filter.parameters filter.required actuals)
  | none => match name with
    | "map" =>
      .ok (if value.isTrue then deferred (do mapStream (← mapped) value)
        else generator (.ofList []))
    | "select" => .ok (selected true (elementTest actuals) value)
    | "reject" => .ok (selected false (elementTest actuals) value)
    | "selectattr" => .ok (selected true (attributeTest actuals) value)
    | "rejectattr" => .ok (selected false (attributeTest actuals) value)
    | "format" => formatFilter value actuals
    | _ => .error .missingOperation

/-- Applies a filter to a value with arguments by position and by name. -/
def applyFilter (named : List (String × Value)) : (positional : List Value) → (name : String) →
    (value : Value) → Except Fault Value
  | [], name, value => applyWith ⟨[], named⟩ (mapAttribute named) name value
  | first :: rest, name, value =>
    applyWith ⟨first :: rest, named⟩
      (.ok fun item => do applyFilter named rest (← operationName first) item) name value

def filter (name : String) (value : Value) (actuals : Actuals) : Except Fault Value :=
  applyFilter actuals.named actuals.positional name value

end StaticSite.Operation
