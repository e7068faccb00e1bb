import StaticSite.Value.Basic

/-!
# Expressions

The tree of an expression. A slice occurs as the index of an item, and inside a tuple that is one.
-/

namespace StaticSite

inductive UnaryOperator where
  | negate
  | plus
  | not
  deriving Repr, DecidableEq

inductive BinaryOperator where
  | add | subtract | multiply | divide | floorDivide | modulo | power
  | and | or
  deriving Repr, DecidableEq

inductive Comparison where
  | equal | unequal | less | lessEqual | greater | greaterEqual | within | notWithin
  deriving Repr, DecidableEq

mutual

inductive Expression where
  | constant (value : Value)
  | name (name : String)
  | tuple (items : List Expression)
  | list (items : List Expression)
  | dictionary (entries : List (Expression × Expression))
  | member (target : Expression) (name : String)
  | item (target index : Expression)
  | slice (start stop step : Option Expression)
  | call (target : Expression) (arguments : Arguments)
  | filter (target : Expression) (name : String) (arguments : Arguments)
  | test (target : Expression) (name : String) (arguments : Arguments)
  | unary (operator : UnaryOperator) (operand : Expression)
  | binary (operator : BinaryOperator) (left right : Expression)
  | compare (first : Expression) (rest : List (Comparison × Expression))
  | concat (parts : List Expression)
  | conditional (condition whenTrue : Expression) (whenFalse : Option Expression)

/-- The arguments of a call: by position, by name, and the two spread forms. -/
inductive Arguments where
  | mk (positional : List Expression) (named : List (String × Expression))
    (spread spreadNamed : Option Expression)

end

instance : Inhabited Expression := ⟨.constant .null⟩

def Arguments.none : Arguments := .mk [] [] Option.none Option.none

end StaticSite
