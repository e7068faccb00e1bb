import StaticSite.Expression.Basic
import StaticSite.Expression.Token

/-!
# Reading expressions

From the loosest binding to the tightest: the inline conditional, `or`, `and`, `not`, comparisons,
sums, joined texts, products, powers (grouped from the left), signs, and what follows a primary
expression: members, items, calls, filters and tests. A sign binds tighter than a power, and a
filter looser than a sign. Each function hands on a smaller budget; `Expression.read?` computes one
that is enough from the number of tokens.
-/

namespace StaticSite.Expression

abbrev Parser := StateT (List Token) (Except Fault)

namespace Parser

def malformed {α : Type} : Parser α := throw .malformedExpression

/-- The token at a place further on. One that is refused cannot be looked at. -/
def tokenAt (place : Nat) : Parser (Option Token) := do
  match (← get)[place]? with
  | some (.refused fault) => throw fault
  | token => return token

def peek : Parser (Option Token) := tokenAt 0

def second : Parser (Option Token) := tokenAt 1

def advance : Parser Unit := modify List.tail

def atSymbol (s : Symbol) : Parser Bool := do return (← peek) == some (.symbol s)

def atName (name : String) : Parser Bool := do return (← peek) == some (.name name)

/-- Skips a symbol if it comes next. -/
def skipSymbol (s : Symbol) : Parser Bool := do
  if ← atSymbol s then
    advance
    return true
  else return false

def skipName (name : String) : Parser Bool := do
  if ← atName name then
    advance
    return true
  else return false

def expect (s : Symbol) : Parser Unit := do
  unless ← skipSymbol s do malformed

def expectName : Parser String := do
  match ← peek with
  | some (.name word) => do
    advance
    return word
  | _ => malformed

def comparison? : Option Token → Option Comparison
  | some (.symbol .equal) => some .equal
  | some (.symbol .unequal) => some .unequal
  | some (.symbol .less) => some .less
  | some (.symbol .lessEqual) => some .lessEqual
  | some (.symbol .greater) => some .greater
  | some (.symbol .greaterEqual) => some .greaterEqual
  | _ => none

def sumOperator? : Option Token → Option BinaryOperator
  | some (.symbol .plus) => some .add
  | some (.symbol .minus) => some .subtract
  | _ => none

def productOperator? : Option Token → Option BinaryOperator
  | some (.symbol .times) => some .multiply
  | some (.symbol .over) => some .divide
  | some (.symbol .floorOver) => some .floorDivide
  | some (.symbol .percent) => some .modulo
  | _ => none

/-- String literals that follow one another are one text. -/
def adjacentTexts : List Token → List Char × List Token
  | .text s :: rest =>
    let (more, after) := adjacentTexts rest
    (s ++ more, after)
  | rest => ([], rest)

/-- The constant or name that a word stands for. -/
def wordExpression (word : String) : Expression :=
  if word = "true" || word = "True" then .constant (.bool true)
  else if word = "false" || word = "False" then .constant (.bool false)
  else if word = "none" || word = "None" then .constant .null
  else .name word

/-- The further words of a dotted name. -/
def dottedRest : (fuel : Nat) → Parser String
  | 0 => malformed
  | fuel + 1 => do
    if ← skipSymbol .dot then
      let word ← expectName
      return "." ++ word ++ (← dottedRest fuel)
    else return ""

/-- Whether a test takes the next token as its one argument. -/
def startsTestArgument : Option Token → Bool
  | some (.name word) => !(word == "else" || word == "or" || word == "and")
  | some (.text _) | some (.int _) | some (.float _) => true
  | some (.symbol s) => s == .openParen || s == .openBracket || s == .openBrace
  | some (.refused _) | none => false

/-- What call arguments have been read so far. -/
structure Gathered where
  positional : List Expression
  named : List (String × Expression)
  spread : Option Expression
  spreadNamed : Option Expression

def Gathered.arguments (g : Gathered) : Arguments :=
  .mk g.positional g.named g.spread g.spreadNamed

mutual

def conditional : (fuel : Nat) → Parser Expression
  | 0 => malformed
  | fuel + 1 => do conditionalRest fuel (← disjunction fuel)

def conditionalRest : (fuel : Nat) → Expression → Parser Expression
  | 0, _ => malformed
  | fuel + 1, whenTrue => do
    -- The condition is no conditional itself; what follows `else` may be one.
    if ← skipName "if" then
      let condition ← disjunction fuel
      if ← skipName "else" then
        let whenFalse ← conditional fuel
        conditionalRest fuel (.conditional condition whenTrue (some whenFalse))
      else conditionalRest fuel (.conditional condition whenTrue none)
    else return whenTrue

def disjunction : (fuel : Nat) → Parser Expression
  | 0 => malformed
  | fuel + 1 => do disjunctionRest fuel (← conjunction fuel)

def disjunctionRest : (fuel : Nat) → Expression → Parser Expression
  | 0, _ => malformed
  | fuel + 1, left => do
    if ← skipName "or" then disjunctionRest fuel (.binary .or left (← conjunction fuel))
    else return left

def conjunction : (fuel : Nat) → Parser Expression
  | 0 => malformed
  | fuel + 1 => do conjunctionRest fuel (← negation fuel)

def conjunctionRest : (fuel : Nat) → Expression → Parser Expression
  | 0, _ => malformed
  | fuel + 1, left => do
    if ← skipName "and" then conjunctionRest fuel (.binary .and left (← negation fuel))
    else return left

def negation : (fuel : Nat) → Parser Expression
  | 0 => malformed
  | fuel + 1 => do
    if ← skipName "not" then return .unary .not (← negation fuel)
    else comparison fuel

def comparison : (fuel : Nat) → Parser Expression
  | 0 => malformed
  | fuel + 1 => do
    let first ← sum fuel
    match ← comparisonRest fuel with
    | [] => return first
    | rest => return .compare first rest

def comparisonRest : (fuel : Nat) → Parser (List (Comparison × Expression))
  | 0 => malformed
  | fuel + 1 => do
    match comparison? (← peek) with
    | some operator =>
      advance
      let operand ← sum fuel
      return (operator, operand) :: (← comparisonRest fuel)
    | none =>
      if ← skipName "in" then
        let operand ← sum fuel
        return (.within, operand) :: (← comparisonRest fuel)
      else if (← atName "not") && (← second) == some (.name "in") then
        advance
        advance
        let operand ← sum fuel
        return (.notWithin, operand) :: (← comparisonRest fuel)
      else return []

def sum : (fuel : Nat) → Parser Expression
  | 0 => malformed
  | fuel + 1 => do sumRest fuel (← joined fuel)

def sumRest : (fuel : Nat) → Expression → Parser Expression
  | 0, _ => malformed
  | fuel + 1, left => do
    match sumOperator? (← peek) with
    | some operator =>
      advance
      sumRest fuel (.binary operator left (← joined fuel))
    | none => return left

def joined : (fuel : Nat) → Parser Expression
  | 0 => malformed
  | fuel + 1 => do
    let first ← product fuel
    match ← joinedRest fuel with
    | [] => return first
    | rest => return .concat (first :: rest)

def joinedRest : (fuel : Nat) → Parser (List Expression)
  | 0 => malformed
  | fuel + 1 => do
    if ← skipSymbol .tilde then
      let part ← product fuel
      return part :: (← joinedRest fuel)
    else return []

def product : (fuel : Nat) → Parser Expression
  | 0 => malformed
  | fuel + 1 => do productRest fuel (← power fuel)

def productRest : (fuel : Nat) → Expression → Parser Expression
  | 0, _ => malformed
  | fuel + 1, left => do
    match productOperator? (← peek) with
    | some operator =>
      advance
      productRest fuel (.binary operator left (← power fuel))
    | none => return left

def power : (fuel : Nat) → Parser Expression
  | 0 => malformed
  | fuel + 1 => do powerRest fuel (← signed fuel true)

def powerRest : (fuel : Nat) → Expression → Parser Expression
  | 0, _ => malformed
  | fuel + 1, left => do
    if ← skipSymbol .power then powerRest fuel (.binary .power left (← signed fuel true))
    else return left

/-- A primary expression under its signs; filters belong to the outermost sign. -/
def signed : (fuel : Nat) → (filters : Bool) → Parser Expression
  | 0, _ => malformed
  | fuel + 1, filters => do
    let inner ←
      if ← skipSymbol .minus then do pure (.unary .negate (← signed fuel false))
      else if ← skipSymbol .plus then do pure (.unary .plus (← signed fuel false))
      else primary fuel
    let followed ← followers fuel inner
    if filters then operations fuel followed else return followed

def primary : (fuel : Nat) → Parser Expression
  | 0 => malformed
  | fuel + 1 => do
    match ← peek with
    | some (.name word) =>
      advance
      return wordExpression word
    | some (.text _) =>
      let (text, rest) := adjacentTexts (← get)
      set rest
      return .constant (.ofString text)
    | some (.int n) =>
      advance
      return .constant (.int n)
    | some (.float x) =>
      advance
      return .constant (.float x)
    | some (.symbol .openParen) =>
      advance
      let inner ← parenthesized fuel
      expect .closeParen
      return inner
    | some (.symbol .openBracket) =>
      advance
      return .list (← listItems fuel true)
    | some (.symbol .openBrace) =>
      advance
      return .dictionary (← dictionaryEntries fuel true)
    | _ => malformed

/-- What stands between parentheses: one expression, or a tuple, which has a comma or nothing. -/
def parenthesized : (fuel : Nat) → Parser Expression
  | 0 => malformed
  | fuel + 1 => do
    if ← atSymbol .closeParen then return .tuple []
    else
      let first ← conditional fuel
      if ← atSymbol .comma then return .tuple (first :: (← tupleRest fuel))
      else return first

def tupleRest : (fuel : Nat) → Parser (List Expression)
  | 0 => malformed
  | fuel + 1 => do
    if ← skipSymbol .comma then
      if ← atSymbol .closeParen then return []
      else
        let item ← conditional fuel
        return item :: (← tupleRest fuel)
    else return []

def listItems : (fuel : Nat) → (first : Bool) → Parser (List Expression)
  | 0, _ => malformed
  | fuel + 1, first => do
    if ← skipSymbol .closeBracket then return []
    else
      unless first do expect .comma
      if !first && (← skipSymbol .closeBracket) then return []
      else
        let item ← conditional fuel
        return item :: (← listItems fuel false)

def dictionaryEntries : (fuel : Nat) → (first : Bool) → Parser (List (Expression × Expression))
  | 0, _ => malformed
  | fuel + 1, first => do
    if ← skipSymbol .closeBrace then return []
    else
      unless first do expect .comma
      if !first && (← skipSymbol .closeBrace) then return []
      else
        let key ← conditional fuel
        expect .colon
        let value ← conditional fuel
        return (key, value) :: (← dictionaryEntries fuel false)

/-- Members, items and calls after an expression. -/
def followers : (fuel : Nat) → Expression → Parser Expression
  | 0, _ => malformed
  | fuel + 1, target => do
    if ← skipSymbol .dot then
      match ← peek with
      | some (.name word) =>
        advance
        followers fuel (.member target word)
      | some (.int n) =>
        advance
        followers fuel (.item target (.constant (.int n)))
      | _ => malformed
    else if ← skipSymbol .openBracket then
      match ← subscripts fuel true with
      -- Several indices are one tuple, no index is the empty one.
      | [index] => followers fuel (.item target index)
      | indices => followers fuel (.item target (.tuple indices))
    else if ← atSymbol .openParen then
      followers fuel (.call target (← callArguments fuel))
    else return target

def subscripts : (fuel : Nat) → (first : Bool) → Parser (List Expression)
  | 0, _ => malformed
  | fuel + 1, first => do
    if ← skipSymbol .closeBracket then return []
    else
      unless first do expect .comma
      let index ← subscript fuel
      return index :: (← subscripts fuel false)

/-- An index or a slice. -/
def subscript : (fuel : Nat) → Parser Expression
  | 0 => malformed
  | fuel + 1 => do
    if ← skipSymbol .colon then sliceRest fuel none
    else
      let start ← conditional fuel
      if ← skipSymbol .colon then sliceRest fuel (some start) else return start

def sliceRest : (fuel : Nat) → Option Expression → Parser Expression
  | 0, _ => malformed
  | fuel + 1, start => do
    let stop ← sliceBound fuel
    if ← skipSymbol .colon then
      let step ← if (← atSymbol .closeBracket) || (← atSymbol .comma) then pure none
        else do pure (some (← conditional fuel))
      return .slice start stop step
    else return .slice start stop none

def sliceBound : (fuel : Nat) → Parser (Option Expression)
  | 0 => malformed
  | fuel + 1 => do
    if (← atSymbol .colon) || (← atSymbol .closeBracket) || (← atSymbol .comma) then return none
    else return some (← conditional fuel)

/-- Filters, tests and calls after an expression. -/
def operations : (fuel : Nat) → Expression → Parser Expression
  | 0, _ => malformed
  | fuel + 1, target => do
    if ← skipSymbol .bar then
      let name := (← expectName) ++ (← dottedRest fuel)
      let arguments ← if ← atSymbol .openParen then callArguments fuel else pure .none
      operations fuel (.filter target name arguments)
    else if ← skipName "is" then operations fuel (← testRest fuel target)
    else if ← atSymbol .openParen then
      operations fuel (.call target (← callArguments fuel))
    else return target

def testRest : (fuel : Nat) → Expression → Parser Expression
  | 0, _ => malformed
  | fuel + 1, target => do
    let negated ← skipName "not"
    let name := (← expectName) ++ (← dottedRest fuel)
    let arguments ←
      if ← atSymbol .openParen then callArguments fuel
      else if startsTestArgument (← peek) then do
        -- A test of a test has to be in parentheses.
        if ← atName "is" then malformed
        else pure (Arguments.mk [← followers fuel (← primary fuel)] [] none none)
      else pure .none
    let test := Expression.test target name arguments
    return if negated then .unary .not test else test

def callArguments : (fuel : Nat) → Parser Arguments
  | 0 => malformed
  | fuel + 1 => do
    expect .openParen
    return (← argumentsRest fuel true ⟨[], [], none, none⟩).arguments

/-- Arguments up to the closing parenthesis: those by position come first, then those by name; a
spread of names ends the list. -/
def argumentsRest : (fuel : Nat) → (first : Bool) → Gathered → Parser Gathered
  | 0, _, _ => malformed
  | fuel + 1, first, g => do
    if ← skipSymbol .closeParen then return g
    else
      unless first do expect .comma
      if !first && (← skipSymbol .closeParen) then return g
      else if ← skipSymbol .times then
        if g.spread.isSome || g.spreadNamed.isSome then malformed
        else argumentsRest fuel false { g with spread := some (← conditional fuel) }
      else if ← skipSymbol .power then
        if g.spreadNamed.isSome then malformed
        else argumentsRest fuel false { g with spreadNamed := some (← conditional fuel) }
      else
        match ← peek, ← second with
        | some (.name word), some (.symbol .assign) =>
          if g.spreadNamed.isSome then malformed
          else
            advance
            advance
            let value ← conditional fuel
            argumentsRest fuel false { g with named := g.named ++ [(word, value)] }
        | _, _ =>
          -- After a spread or a name nothing comes by position.
          if g.spread.isSome || g.spreadNamed.isSome || !g.named.isEmpty then malformed
          else
            let value ← conditional fuel
            argumentsRest fuel false { g with positional := g.positional ++ [value] }

end

end Parser

/-- Reads a whole expression text. -/
def read (s : List Char) : Except Fault Expression := do
  let all := tokens s
  let (expression, rest) ← Parser.conditional (20 * (all.length + 2)) all
  if rest.isEmpty then return expression else .error .malformedExpression

end StaticSite.Expression
