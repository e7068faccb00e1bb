import StaticSite.Expression.Basic
import StaticSite.Operation.Call
import StaticSite.Operation.Filter

/-!
# Evaluating expressions

Operands are evaluated from left to right. `and`, `or`, the inline conditional and a chain of
comparisons stop as soon as the result is known. A name stands for its value in the scope, else for
a global, else for an undefined value.

Values are not changed in place: a method or filter that would change a list gives its result, and
the list stays as it was. A power that is no real number is a thing without digits, with which nothing
can be computed, and a random choice takes the first element. Where these limits matter, an evaluator
is a parameter of what reads expressions.
-/

namespace StaticSite.Expression

open StaticSite.Operation StaticSite.Value

/-- Whether a constant can be written as a literal: infinities and the like have none. -/
def hasLiteral : Value → Bool
  | .float x => Double.isFinite x
  | .list items | .tuple items => allLiteral items
  | .mapping entries => entriesLiteral entries
  | _ => true
where
  allLiteral : List Value → Bool
    | [] => true
    | first :: rest => hasLiteral first && allLiteral rest
  entriesLiteral : List (Value × Value) → Bool
    | [] => true
    | (key, value) :: rest => hasLiteral key && hasLiteral value && entriesLiteral rest

/-- The value of a name. -/
def lookup (scope : Scope) (name : String) : Value :=
  if name = "self" then .thing "TemplateReference" "" ""
  else match Mapping.get? name scope with
    | some value => value
    | none => if globalNames.elem name then .global name else .missing

/-- The arguments of a spread of names, which must not repeat a name. -/
def spreadNames (named : List (String × Value)) (value : Value) :
    Except Fault (List (String × Value)) :=
  match value with
  | .mapping entries => do
    let added ← entries.mapM fun entry => match entry.1.text? with
      | some word => .ok (word, entry.2)
      | none => .error .wrongType
    if added.any fun argument => (named.lookup argument.1).isSome then .error .wrongType
    else return named ++ added
  | .undefined f => .error (undefinedFault f)
  | _ => .error .wrongType

/-- Applies a filter of an expression; a filter that does not exist takes no named arguments. -/
def applyNamedFilter (name : String) (value : Value) (actuals : Actuals) : Except Fault Value :=
  if !isFilterName name && !actuals.named.isEmpty then .error .wrongType
  else Operation.filter name value actuals

/-- Whether two expressions lead from one name of the scope along one path of constant keys. -/
def samePlace : Expression → Expression → Bool
  | .name a, .name b => a == b
  | .member target a, .member other b => a == b && samePlace target other
  | .member target a, .item other (.constant (.str b)) => a == b && samePlace target other
  | .item target (.constant (.str a)), .member other b => a == b && samePlace target other
  | .item target (.constant i), .item other (.constant j) => sameValue i j && samePlace target other
  | _, _ => false

/-- Whether the one argument of a test is the place that it tests. -/
def testsOwnPlace (target : Expression) : Arguments → Bool
  | .mk [other] [] none none => samePlace target other
  | _ => false

/-- Applies a test of an expression. Two values that were computed apart are equal at most; they
are one and the same only if there is no second such value or both are kept in one place. -/
def applyNamedTest (target : Expression) (arguments : Arguments) (name : String) (value : Value)
    (actuals : Actuals) : Except Fault Value := do
  if !isTestName name && !actuals.named.isEmpty then throw .wrongType
  let holds ← Operation.test name value actuals
  if name = "sameas" then
    return .bool (holds && (isUnique value || isStored value && testsOwnPlace target arguments))
  else return .bool holds

mutual

/-- The value of an expression in a scope. -/
def value (scope : Scope) : Expression → Except Fault Value
  | .constant v => if hasLiteral v then .ok v else .error .unboundName
  | .name word => .ok (lookup scope word)
  | .tuple items => (values scope items).map .tuple
  | .list items => (values scope items).map .list
  | .dictionary entries => do
    let pairs ← entryValues scope entries
    if pairs.all fun pair => isHashable pair.1 then return .mapping (Mapping.ofList pairs)
    else .error .wrongType
  | .member target word => do Operation.member (← value scope target) word
  | .item target (.slice start stop step) => do
    let v ← value scope target
    let start ← optionalValue scope start
    let stop ← optionalValue scope stop
    let step ← optionalValue scope step
    Operation.slice v start stop step
  | .item target index => do
    let v ← value scope target
    Operation.item v (← value scope index)
  | .slice .. => .error .illFormedProgram
  | .call target arguments => do
    let v ← value scope target
    Operation.call v (← actuals scope arguments)
  | .filter target word arguments => do
    let v ← value scope target
    applyNamedFilter word v (← actuals scope arguments)
  | .test target word arguments => do
    let v ← value scope target
    applyNamedTest target arguments word v (← actuals scope arguments)
  | .unary operator operand => do applyUnary operator (← value scope operand)
  | .binary .and left right => do
    let v ← value scope left
    if v.isTrue then value scope right else return v
  | .binary .or left right => do
    let v ← value scope left
    if v.isTrue then return v else value scope right
  | .binary operator left right => do
    let v ← value scope left
    applyBinary operator v (← value scope right)
  | .compare first rest => do
    let v ← value scope first
    (chain scope v rest).map .bool
  | .concat parts => do
    return .ofString ((← values scope parts).map Value.plain).flatten
  | .conditional condition whenTrue whenFalse => do
    if (← value scope condition).isTrue then value scope whenTrue
    else return (← optionalValue scope whenFalse).getD .missing

def values (scope : Scope) : List Expression → Except Fault (List Value)
  | [] => .ok []
  | e :: rest => do
    let v ← value scope e
    return v :: (← values scope rest)

def entryValues (scope : Scope) : List (Expression × Expression) →
    Except Fault (List (Value × Value))
  | [] => .ok []
  | (key, e) :: rest => do
    let k ← value scope key
    let v ← value scope e
    return (k, v) :: (← entryValues scope rest)

def namedValues (scope : Scope) : List (String × Expression) → Except Fault (List (String × Value))
  | [] => .ok []
  | (word, e) :: rest => do
    let v ← value scope e
    return (word, v) :: (← namedValues scope rest)

def optionalValue (scope : Scope) : Option Expression → Except Fault (Option Value)
  | none => .ok none
  | some e => (value scope e).map some

/-- Whether each value stands in its relation to the next. -/
def chain (scope : Scope) (v : Value) : List (Comparison × Expression) → Except Fault Bool
  | [] => .ok true
  | (operator, e) :: rest => do
    let next ← value scope e
    if ← compareWith operator v next then chain scope next rest else return false

def actuals (scope : Scope) : Arguments → Except Fault Actuals
  | .mk positional named spread spreadNamed => do
    -- A spread comes after the arguments of its kind that are written out.
    let first ← values scope positional
    let more ← match ← optionalValue scope spread with
      | some v => elements v
      | none => .ok []
    let byName ← namedValues scope named
    let byName ← match ← optionalValue scope spreadNamed with
      | some v => spreadNames byName v
      | none => .ok byName
    return ⟨first ++ more, byName⟩

end

end StaticSite.Expression
