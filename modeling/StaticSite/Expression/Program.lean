import StaticSite.Expression.Evaluation
import StaticSite.Expression.Parser

/-!
# Programs

An expression text is prepared once and evaluated in many scopes. Preparing computes the operators
whose operands are constants, so a fault of such a part is met only if it cannot be computed, and it
refuses filters and tests that do not exist. Inside an inline conditional they are refused only when
they are met.
-/

namespace StaticSite.Expression

open StaticSite.Operation StaticSite.Value

/-- Whether a computed constant may replace its expression. -/
def isConstantKind : Value → Bool
  | .null | .bool _ | .int _ | .float _ | .str _ | .markup _ | .range .. => true
  | .list items | .tuple items => allConstant items
  | .mapping entries => entriesConstant entries
  | _ => false
where
  allConstant : List Value → Bool
    | [] => true
    | first :: rest => isConstantKind first && allConstant rest
  entriesConstant : List (Value × Value) → Bool
    | [] => true
    | (key, v) :: rest => isConstantKind key && isConstantKind v && entriesConstant rest

/-- Filters that look at more than their arguments. -/
def isOpenFilter (word : String) : Bool := word == "random" || applyingFilters.elem word

/-- Entries up to the first one that is no constant: what they are, and whether they are all. -/
abbrev ConstantEntries := List (Value × Value) × Bool

def entriesHashable (entries : ConstantEntries) : Bool :=
  entries.1.all fun entry => isHashable entry.1

mutual

/-- The value of an expression without names, if computing it meets no fault. -/
def constant? : Expression → Option Value
  | .constant v => some v
  | .name _ => none
  | .tuple items => (constants? items).map .tuple
  | .list items => (constants? items).map .list
  | .dictionary entries =>
    let found := constantEntries entries
    if found.2 && entriesHashable found then some (.mapping (Mapping.ofList found.1)) else none
  | .member target word => (constant? target).bind fun v => (Operation.member v word).toOption
  | .item target (.slice start stop step) =>
    (constant? target).bind fun v => (optionalConstant? start).bind fun start =>
      (optionalConstant? stop).bind fun stop => (optionalConstant? step).bind fun step =>
        match Operation.slice v start stop step with
        | .ok part => some part
        | .error fault => if isSubscriptMiss fault then some .missing else none
  | .item target index =>
    (constant? target).bind fun v =>
      (constant? index).bind fun i => (Operation.item v i).toOption
  | .slice .. => none
  | .call .. => none
  | .filter target word arguments =>
    (constant? target).bind fun v => (constantActuals? arguments).bind fun actuals =>
      if isOpenFilter word then none else (applyNamedFilter word v actuals).toOption
  | .test target word arguments =>
    (constant? target).bind fun v => (constantActuals? arguments).bind fun actuals =>
      (applyNamedTest target arguments word v actuals).toOption
  | .unary operator operand => (constant? operand).bind fun v => (applyUnary operator v).toOption
  | .binary .and left right =>
    (constant? left).bind fun v => if v.isTrue then constant? right else some v
  | .binary .or left right =>
    (constant? left).bind fun v => if v.isTrue then some v else constant? right
  | .binary operator left right =>
    (constant? left).bind fun v =>
      (constant? right).bind fun w => (applyBinary operator v w).toOption
  | .compare first rest =>
    (constant? first).bind fun v => (constantChain? v rest).map .bool
  | .concat parts =>
    (constants? parts).map fun values => .ofString (values.map Value.plain).flatten
  | .conditional condition whenTrue whenFalse =>
    (constant? condition).bind fun v =>
      if v.isTrue then constant? whenTrue else (optionalConstant? whenFalse).join

def constants? : List Expression → Option (List Value)
  | [] => some []
  | e :: rest => (constant? e).bind fun v => (constants? rest).map (v :: ·)

def constantEntries : List (Expression × Expression) → ConstantEntries
  | [] => ([], true)
  | (key, e) :: rest =>
    match constant? key, constant? e with
    | some k, some v =>
      let found := constantEntries rest
      ((k, v) :: found.1, found.2)
    -- The entries after this one are not looked at.
    | _, _ => ([], false)

def optionalConstant? : Option Expression → Option (Option Value)
  | none => some none
  | some e => (constant? e).map some

def constantChain? (v : Value) : List (Comparison × Expression) → Option Bool
  | [] => some true
  | (operator, e) :: rest =>
    (constant? e).bind fun next =>
      match compareWith operator v next with
      | .ok true => constantChain? next rest
      | .ok false => some false
      | .error _ => none

def constantNamed? : List (String × Expression) → Option (List (String × Value))
  | [] => some []
  | (word, e) :: rest =>
    (constant? e).bind fun v => (constantNamed? rest).map ((word, v) :: ·)

def constantActuals? : Arguments → Option Actuals
  | .mk positional named spread spreadNamed =>
    (constants? positional).bind fun first => (constantNamed? named).bind fun byName =>
      (optionalConstant? spread).bind fun more => (optionalConstant? spreadNamed).bind fun names =>
        let all := match more with
          | some v => (elements v).toOption.map (first ++ ·)
          | none => some first
        let byName := match names with
          | some v => (spreadNames byName v).toOption
          | none => some byName
        all.bind fun all => byName.map fun byName => ⟨all, byName⟩

end

mutual

/-- Refuses constant mappings with a key that cannot be one, anywhere in an expression. -/
def checkKeys : Expression → Except Fault Unit
  | .constant _ | .name _ => .ok ()
  | .tuple items | .list items | .concat items => checkAllKeys items
  | .dictionary entries => do
    checkEntryKeys entries
    unless entriesHashable (constantEntries entries) do .error .wrongType
  | .member target _ => checkKeys target
  | .item target index => do
    checkKeys target
    checkKeys index
  | .slice start stop step => do
    checkOptionalKeys start
    checkOptionalKeys stop
    checkOptionalKeys step
  | .call target arguments | .filter target _ arguments | .test target _ arguments => do
    checkKeys target
    checkArgumentKeys arguments
  | .unary _ operand => checkKeys operand
  | .binary _ left right => do
    checkKeys left
    checkKeys right
  | .compare first rest => do
    checkKeys first
    checkChainKeys rest
  | .conditional condition whenTrue whenFalse => do
    checkKeys condition
    checkKeys whenTrue
    checkOptionalKeys whenFalse

def checkAllKeys : List Expression → Except Fault Unit
  | [] => .ok ()
  | e :: rest => do
    checkKeys e
    checkAllKeys rest

def checkEntryKeys : List (Expression × Expression) → Except Fault Unit
  | [] => .ok ()
  | (key, e) :: rest => do
    checkKeys key
    checkKeys e
    checkEntryKeys rest

def checkChainKeys : List (Comparison × Expression) → Except Fault Unit
  | [] => .ok ()
  | (_, e) :: rest => do
    checkKeys e
    checkChainKeys rest

def checkNamedKeys : List (String × Expression) → Except Fault Unit
  | [] => .ok ()
  | (_, e) :: rest => do
    checkKeys e
    checkNamedKeys rest

def checkOptionalKeys : Option Expression → Except Fault Unit
  | none => .ok ()
  | some e => checkKeys e

def checkArgumentKeys : Arguments → Except Fault Unit
  | .mk positional named spread spreadNamed => do
    checkAllKeys positional
    checkNamedKeys named
    checkOptionalKeys spread
    checkOptionalKeys spreadNamed

end

/-- Words that cannot name an argument in an ordinary call; a call that uses one takes its named
arguments as a mapping. -/
def reservedWords : List String :=
  ["False", "None", "True", "and", "as", "assert", "async", "await", "break", "class", "continue",
    "def", "del", "elif", "else", "except", "finally", "for", "from", "global", "if", "import",
    "in", "is", "lambda", "nonlocal", "not", "or", "pass", "raise", "return", "try", "while",
    "with", "yield"]

def repeatsName : List String → Bool
  | [] => false
  | word :: rest => rest.elem word || repeatsName rest

def acceptableNames (words : List String) : Bool :=
  words.any reservedWords.elem || !repeatsName words

/-- The state says whether the expression can still be arranged for evaluation. -/
abbrev Preparation := StateT Bool (Except Fault)

/-- Notes that the expression cannot be arranged; the fault comes when all of it has been looked
at. -/
def markUnsound : Preparation Unit := set false

/-- A constant, unless it is an integer that is too long to write. -/
def literal (v : Value) : Preparation Expression :=
  if tooLong v then throw .wrongValue else return .constant v
where
  tooLong : Value → Bool
    | .int n => n.natAbs ≥ Number.tenTo Number.digitLimit
    | .list items | .tuple items => anyTooLong items
    | .mapping entries => entryTooLong entries
    | _ => false
  anyTooLong : List Value → Bool
    | [] => false
    | first :: rest => tooLong first || anyTooLong rest
  entryTooLong : List (Value × Value) → Bool
    | [] => false
    | (key, v) :: rest => tooLong key || tooLong v || entryTooLong rest

/-- Computes an operator over constants, or goes on with its parts. -/
def computed (e : Expression) (otherwise : Preparation Expression) : Preparation Expression := do
  -- A key that cannot be one is refused even where the constant would not be used.
  match checkKeys e with
  | .error fault => throw fault
  | .ok _ => match (constant? e).filter isConstantKind with
    | some v => literal v
    | none => otherwise

mutual

/-- Prepares an expression; `soft` says that it stands in an inline conditional. -/
def prepare (soft : Bool) : Expression → Preparation Expression
  | .constant v => literal v
  | .name word => return .name word
  | .tuple items => return .tuple (← prepareAll soft items)
  | .list items => return .list (← prepareAll soft items)
  | .dictionary entries => return .dictionary (← prepareEntries soft entries)
  | .member target word =>
    computed (.member target word) do return .member (← prepare soft target) word
  | .item target (.slice start stop step) =>
    computed (.item target (.slice start stop step)) do
      let target ← prepare soft target
      let start ← prepareOptional soft start
      let stop ← prepareOptional soft stop
      return .item target (.slice start stop (← prepareOptional soft step))
  | .item target index =>
    computed (.item target index) do
      let target ← prepare soft target
      return .item target (← prepare soft index)
  | .slice start stop step => do
    markUnsound
    let start ← prepareOptional soft start
    let stop ← prepareOptional soft stop
    return .slice start stop (← prepareOptional soft step)
  | .call target arguments => do
    computed (.call target arguments) do
      let target ← prepare soft target
      return .call target (← prepareArguments soft arguments)
  | .filter target word arguments =>
    computed (.filter target word arguments) do
      unless soft || isFilterName word do throw .unknownOperation
      let target ← prepare soft target
      return .filter target word (← prepareArguments soft arguments)
  | .test target word arguments =>
    computed (.test target word arguments) do
      unless soft || isTestName word do throw .unknownOperation
      let target ← prepare soft target
      return .test target word (← prepareArguments soft arguments)
  | .unary operator operand =>
    computed (.unary operator operand) do return .unary operator (← prepare soft operand)
  | .binary operator left right =>
    computed (.binary operator left right) do
      let left ← prepare soft left
      return .binary operator left (← prepare soft right)
  | .compare first rest =>
    computed (.compare first rest) do
      let first ← prepare soft first
      return .compare first (← prepareChain soft rest)
  | .concat parts => computed (.concat parts) do return .concat (← prepareAll soft parts)
  | .conditional condition whenTrue whenFalse =>
    computed (.conditional condition whenTrue whenFalse) do
      -- Either branch may never be met, so what it names need not exist yet.
      let whenTrue ← prepare true whenTrue
      let condition ← prepare true condition
      return .conditional condition whenTrue (← prepareOptional true whenFalse)

def prepareAll (soft : Bool) : List Expression → Preparation (List Expression)
  | [] => return []
  | e :: rest => do
    let first ← prepare soft e
    return first :: (← prepareAll soft rest)

def prepareEntries (soft : Bool) : List (Expression × Expression) →
    Preparation (List (Expression × Expression))
  | [] => return []
  | (key, e) :: rest => do
    let key ← prepare soft key
    let e ← prepare soft e
    return (key, e) :: (← prepareEntries soft rest)

def prepareChain (soft : Bool) : List (Comparison × Expression) →
    Preparation (List (Comparison × Expression))
  | [] => return []
  | (operator, e) :: rest => do
    let e ← prepare soft e
    return (operator, e) :: (← prepareChain soft rest)

def prepareNamed (soft : Bool) : List (String × Expression) →
    Preparation (List (String × Expression))
  | [] => return []
  | (word, e) :: rest => do
    let e ← prepare soft e
    return (word, e) :: (← prepareNamed soft rest)

def prepareOptional (soft : Bool) : Option Expression → Preparation (Option Expression)
  | none => return none
  | some e => return some (← prepare soft e)

def prepareArguments (soft : Bool) : Arguments → Preparation Arguments
  | .mk positional named spread spreadNamed => do
    unless acceptableNames (named.map Prod.fst) do markUnsound
    let positional ← prepareAll soft positional
    let named ← prepareNamed soft named
    let spread ← prepareOptional soft spread
    return .mk positional named spread (← prepareOptional soft spreadNamed)

end

/-- An expression that is ready for evaluation. -/
structure Program where
  expression : Expression
  deriving Inhabited

/-- Prepares an expression text. -/
def compile (s : List Char) : Except Fault Program := do
  let (expression, sound) ← (prepare false (← read s)).run true
  if sound then return ⟨expression⟩ else .error .illFormedProgram

/-- Evaluates a program in a scope. -/
def Program.run (program : Program) (scope : Scope) : Except Fault Value :=
  value scope program.expression

/-- Prepares and evaluates an expression text. -/
def evaluate (s : List Char) (scope : Scope) : Except Fault Value := do
  (← compile s).run scope

end StaticSite.Expression
