import StaticSite.Expression.Basic
import StaticSite.Proofs.Value.Faults

/-!
# Expressions without calls

An expression is bare if nothing in it is called and no filter takes arguments. A test may take
some, by position only.
-/

namespace StaticSite.Expression

/-- No call and no argument in parentheses. -/
inductive Bare : Expression → Prop where
  | constant {v : Value} (tame : v.Tame) : Bare (.constant v)
  | name (word : String) : Bare (.name word)
  | tuple {items : List Expression} (each : ∀ e ∈ items, Bare e) : Bare (.tuple items)
  | list {items : List Expression} (each : ∀ e ∈ items, Bare e) : Bare (.list items)
  | dictionary {entries : List (Expression × Expression)} (keys : ∀ entry ∈ entries, Bare entry.1)
      (values : ∀ entry ∈ entries, Bare entry.2) : Bare (.dictionary entries)
  | member {target : Expression} (word : String) (bare : Bare target) : Bare (.member target word)
  | item {target index : Expression} (bare : Bare target) (chosen : Bare index)
      (single : ∀ start stop step, index ≠ .slice start stop step) : Bare (.item target index)
  | part {target : Expression} {start stop step : Option Expression} (bare : Bare target)
      (first : ∀ e ∈ start, Bare e) (last : ∀ e ∈ stop, Bare e) (stride : ∀ e ∈ step, Bare e) :
      Bare (.item target (.slice start stop step))
  | slice {start stop step : Option Expression} (first : ∀ e ∈ start, Bare e)
      (last : ∀ e ∈ stop, Bare e) (stride : ∀ e ∈ step, Bare e) : Bare (.slice start stop step)
  | filter {target : Expression} (word : String) (bare : Bare target) :
      Bare (.filter target word .none)
  | test {target : Expression} (word : String) {others : List Expression} (bare : Bare target)
      (each : ∀ e ∈ others, Bare e) : Bare (.test target word (.mk others [] none none))
  | unary {operand : Expression} (operator : UnaryOperator) (bare : Bare operand) :
      Bare (.unary operator operand)
  | binary {left right : Expression} (operator : BinaryOperator) (first : Bare left)
      (second : Bare right) : Bare (.binary operator left right)
  | compare {first : Expression} {rest : List (Comparison × Expression)} (bare : Bare first)
      (each : ∀ link ∈ rest, Bare link.2) : Bare (.compare first rest)
  | concat {parts : List Expression} (each : ∀ e ∈ parts, Bare e) : Bare (.concat parts)
  | conditional {condition whenTrue : Expression} {whenFalse : Option Expression}
      (judged : Bare condition) (first : Bare whenTrue) (second : ∀ e ∈ whenFalse, Bare e) :
      Bare (.conditional condition whenTrue whenFalse)

/-- An index may be a slice. -/
theorem Bare.subscript {target index : Expression} (bare : Bare target) (chosen : Bare index) :
    Bare (.item target index) := by
  by_cases sliced : ∃ start stop step, index = .slice start stop step
  · obtain ⟨start, stop, step, rfl⟩ := sliced
    cases chosen with
    | slice first last stride => exact .part bare first last stride
  · exact .item bare chosen fun start stop step same => sliced ⟨start, stop, step, same⟩

end StaticSite.Expression
