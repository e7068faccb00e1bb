import StaticSite.Value.Order

/-!
# Arguments of operations

An operation lists its parameters; a call fills them by position and by name. A call with too many
arguments, an unknown name, a parameter filled twice or a required one left out is of the wrong
type.
-/

namespace StaticSite.Operation

/-- The evaluated arguments of a call. -/
structure Actuals where
  positional : List Value
  named : List (String × Value)

def Actuals.none : Actuals := ⟨[], []⟩

/-- The values of the parameters, in order; a parameter may have none. -/
abbrev Bound := List (Option Value)

/-- Fills parameters: the first ones by position, the others by name. -/
def fillParameters (named : List (String × Value)) : (parameters : List String) →
    (positional : List Value) → Except Fault Bound
  | [], [] => .ok []
  | [], _ :: _ => .error .wrongType
  | name :: rest, value :: values =>
    if (named.lookup name).isSome then .error .wrongType
    else (fillParameters named rest values).map (some value :: ·)
  | name :: rest, [] => (fillParameters named rest []).map (named.lookup name :: ·)

/-- Binds a call to parameters of which the first `required` must be filled. -/
def bind (parameters : List String) (required : Nat) (actuals : Actuals) : Except Fault Bound := do
  let bound ← fillParameters actuals.named parameters actuals.positional
  if actuals.named.any fun argument => !parameters.elem argument.1 then .error .wrongType
  else if (bound.take required).any Option.isNone then .error .wrongType
  else return bound

/-- The arguments of a call that takes them by position only. -/
def byPosition (least most : Nat) (actuals : Actuals) : Except Fault (List Value) :=
  if actuals.named.isEmpty && least ≤ actuals.positional.length
    && actuals.positional.length ≤ most then .ok actuals.positional
  else .error .wrongType

/-- The value of the parameter at a place. -/
def Bound.get (bound : Bound) (place : Nat) (otherwise : Value) : Value :=
  (bound[place]?.join).getD otherwise

def Bound.isTrue (bound : Bound) (place : Nat) (otherwise : Bool) : Bool :=
  match bound[place]?.join with
  | some value => value.isTrue
  | none => otherwise

/-- An integer argument. -/
def intArgument (value : Value) : Except Fault Int := match value.int? with
  | some n => .ok n
  | none => .error .wrongType

/-- An integer argument that may be left out or null. -/
def optionalInt (value : Option Value) : Except Fault (Option Int) := match value with
  | none | some .null => .ok none
  | some value => (intArgument value).map some

/-- A text argument. -/
def textArgument (value : Value) : Except Fault (List Char) := match value.text? with
  | some s => .ok s.toList
  | none => .error .wrongType

end StaticSite.Operation
