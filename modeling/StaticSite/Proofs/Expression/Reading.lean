import StaticSite.Expression.Parser
import StaticSite.Proofs.Expression.Bare
import StaticSite.Proofs.Expression.Tokens

/-!
# Reading without closing parentheses

Where no closing parenthesis is left, arguments in parentheses and parenthesized expressions cannot
end, so what is read is bare, and the only faults are those of a text that cannot be read. `Yields`
says so of a parser; one lemma for each function of the grammar derives it for the next larger
budget, and an induction on the budget puts them together.
-/

namespace StaticSite.Expression.Parser

variable {α β : Type} {good : α → Prop} {fine : β → Prop}

/-- No closing parenthesis is left, and what is refused cannot be read. -/
abbrev Unclosed (left : List Token) : Prop := ∀ token ∈ left, token.Admissible

/-- Where no closing parenthesis is left, a parser gives something good and leaves none, or the text
cannot be read. -/
def Yields (good : α → Prop) (parser : Parser α) : Prop :=
  ∀ left, Unclosed left →
    Confined Unreadable (fun read => good read.1 ∧ Unclosed read.2) (parser left)

namespace Yields

theorem pure {a : α} (holds : good a) : Yields good (Pure.pure a) := fun _ unclosed =>
  ⟨holds, unclosed⟩

theorem bind {parser : Parser α} {next : α → Parser β} (first : Yields good parser)
    (rest : ∀ a, good a → Yields fine (next a)) : Yields fine (parser >>= next) := by
  intro left unclosed
  show Confined _ _ (parser left >>= fun read => next read.1 read.2)
  exact (first left unclosed).bind fun read ends => rest read.1 ends.1 read.2 ends.2

/-- What is read can be changed. -/
theorem map {parser : Parser α} {f : α → β} (first : Yields good parser)
    (keeps : ∀ a, good a → fine (f a)) : Yields fine (parser >>= fun a => Pure.pure (f a)) :=
  first.bind fun a holds => pure (keeps a holds)

/-- One more item in front of a list of them. -/
theorem cons {parser : Parser α} {more : Parser (List α)} (first : Yields good parser)
    (rest : Yields (fun items => ∀ a ∈ items, good a) more) :
    Yields (fun items => ∀ a ∈ items, good a) (do
      let a ← parser
      return a :: (← more)) :=
  first.bind fun _ here => rest.map fun _ there => List.forall_mem_cons.mpr ⟨here, there⟩

end Yields

theorem malformed_yields : Yields good (malformed : Parser α) := fun _ _ => .inl rfl

theorem tokenAt_yields (place : Nat) : Yields (· ≠ some (.symbol .closeParen)) (tokenAt place) := by
  intro left unclosed
  unfold tokenAt
  -- Looking at what is left takes nothing from it.
  dsimp only [bind, StateT.bind, get, getThe, MonadStateOf.get, StateT.get, Pure.pure, Except.pure,
    Except.bind]
  cases found : left[place]? with
  | none => exact ⟨nofun, unclosed⟩
  | some token =>
    have admissible := unclosed token (List.mem_of_getElem? found)
    have open_ : some token ≠ some (.symbol .closeParen) := fun same =>
      admissible.unclosing (Option.some.inj same)
    cases token with
    | refused fault => exact admissible.refusal fault rfl
    | _ => exact ⟨open_, unclosed⟩

theorem peek_yields : Yields (· ≠ some (.symbol .closeParen)) peek := tokenAt_yields 0

theorem second_yields : Yields (fun _ => True) second := fun left unclosed =>
  (tokenAt_yields 1 left unclosed).mono (fun _ => id) fun _ ends => ⟨trivial, ends.2⟩

theorem advance_yields : Yields (fun _ => True) advance := fun _ unclosed =>
  ⟨trivial, fun token listed => unclosed token (List.mem_of_mem_tail listed)⟩

theorem atSymbol_yields (s : Symbol) : Yields (fun found => found = true → s ≠ .closeParen)
    (atSymbol s) := by
  refine peek_yields.map fun front open_ found same => open_ ?_
  rw [← same]
  exact eq_of_beq found

theorem atName_yields (word : String) : Yields (fun _ => True) (atName word) :=
  peek_yields.map fun _ _ => trivial

theorem skipSymbol_yields (s : Symbol) : Yields (fun found => found = true → s ≠ .closeParen)
    (skipSymbol s) := by
  refine (atSymbol_yields s).bind fun found open_ => ?_
  split
  next here => exact advance_yields.bind fun _ _ => .pure fun _ => open_ here
  · exact .pure fun found => nomatch found

theorem skipName_yields (word : String) : Yields (fun _ => True) (skipName word) := by
  refine (atName_yields word).bind fun found _ => ?_
  split
  · exact advance_yields.map fun _ _ => trivial
  · exact .pure trivial

/-- A closing parenthesis is never met. -/
theorem expect_yields (s : Symbol) : Yields (fun _ => s ≠ .closeParen) (expect s) := by
  refine (skipSymbol_yields s).bind fun found open_ => ?_
  split
  next here => exact .pure (open_ here)
  · exact malformed_yields

theorem expectName_yields : Yields (fun _ => True) expectName := by
  refine peek_yields.bind fun front _ => ?_
  split
  · exact advance_yields.map fun _ _ => trivial
  · exact malformed_yields

theorem dottedRest_yields (fuel : Nat) : Yields (fun _ => True) (dottedRest fuel) := by
  induction fuel with
  | zero => exact malformed_yields
  | succ fuel ih =>
    rw [dottedRest]
    refine (skipSymbol_yields .dot).bind fun found _ => ?_
    split
    · exact expectName_yields.bind fun word _ => ih.map fun _ _ => trivial
    · exact .pure trivial

theorem adjacentTexts_suffix (left : List Token) : (adjacentTexts left).2 <:+ left := by
  fun_induction adjacentTexts left with
  | case1 s rest more after found ih =>
    rw [found] at ih
    exact ih.trans (List.suffix_cons _ _)
  | case2 => exact List.suffix_refl _

theorem wordExpression_bare (word : String) : (wordExpression word).Bare := by
  unfold wordExpression
  split
  · exact .constant trivial
  split
  · exact .constant trivial
  split
  · exact .constant trivial
  · exact .name word

/-- What every function of the grammar gives within a budget. -/
structure Reads (fuel : Nat) : Prop where
  conditional : Yields Bare (conditional fuel)
  conditionalRest : ∀ e, Bare e → Yields Bare (conditionalRest fuel e)
  disjunction : Yields Bare (disjunction fuel)
  disjunctionRest : ∀ e, Bare e → Yields Bare (disjunctionRest fuel e)
  conjunction : Yields Bare (conjunction fuel)
  conjunctionRest : ∀ e, Bare e → Yields Bare (conjunctionRest fuel e)
  negation : Yields Bare (negation fuel)
  comparison : Yields Bare (comparison fuel)
  comparisonRest : Yields (fun links => ∀ link ∈ links, Bare link.2) (comparisonRest fuel)
  sum : Yields Bare (sum fuel)
  sumRest : ∀ e, Bare e → Yields Bare (sumRest fuel e)
  joined : Yields Bare (joined fuel)
  joinedRest : Yields (fun parts => ∀ e ∈ parts, Bare e) (joinedRest fuel)
  product : Yields Bare (product fuel)
  productRest : ∀ e, Bare e → Yields Bare (productRest fuel e)
  power : Yields Bare (power fuel)
  powerRest : ∀ e, Bare e → Yields Bare (powerRest fuel e)
  signed : ∀ filters, Yields Bare (signed fuel filters)
  primary : Yields Bare (primary fuel)
  parenthesized : Yields (fun _ => True) (parenthesized fuel)
  tupleRest : Yields (fun _ => True) (tupleRest fuel)
  listItems : ∀ first, Yields (fun items => ∀ e ∈ items, Bare e) (listItems fuel first)
  dictionaryEntries : ∀ first, Yields
    (fun entries => ∀ entry ∈ entries, Bare entry.1 ∧ Bare entry.2) (dictionaryEntries fuel first)
  followers : ∀ e, Bare e → Yields Bare (followers fuel e)
  subscripts : ∀ first, Yields (fun items => ∀ e ∈ items, Bare e) (subscripts fuel first)
  subscript : Yields Bare (subscript fuel)
  sliceRest : ∀ start : Option Expression, (∀ e ∈ start, Bare e) →
    Yields Bare (sliceRest fuel start)
  sliceBound : Yields (fun bound => ∀ e ∈ bound, Bare e) (sliceBound fuel)
  operations : ∀ e, Bare e → Yields Bare (operations fuel e)
  testRest : ∀ e, Bare e → Yields Bare (testRest fuel e)
  /-- Arguments have no end. -/
  callArguments : Yields (fun _ => False) (callArguments fuel)
  argumentsRest : ∀ first g, Yields (fun _ => False) (argumentsRest fuel first g)

namespace Reads

variable {fuel : Nat}

/-- Without a budget nothing is read. -/
theorem zero : Reads 0 := by
  constructor
  all_goals intros
  all_goals exact malformed_yields

/-! ### Operators -/

theorem conditional_succ (ih : Reads fuel) : Yields Bare (Parser.conditional (fuel + 1)) := by
  rw [Parser.conditional]
  exact ih.disjunction.bind ih.conditionalRest

theorem conditionalRest_succ (ih : Reads fuel) (e : Expression) (bare : Bare e) :
    Yields Bare (Parser.conditionalRest (fuel + 1) e) := by
  rw [Parser.conditionalRest]
  refine (skipName_yields "if").bind fun judged _ => ?_
  split
  · refine ih.disjunction.bind fun condition judged => (skipName_yields "else").bind fun other _ => ?_
    split
    · refine ih.conditional.bind fun whenFalse second => ih.conditionalRest _ ?_
      -- The condition is read after the branch that it stands for.
      exact .conditional judged bare (forall_mem_some second)
    · exact ih.conditionalRest _ (.conditional judged bare forall_mem_none)
  · exact .pure bare

theorem disjunction_succ (ih : Reads fuel) : Yields Bare (Parser.disjunction (fuel + 1)) := by
  rw [Parser.disjunction]
  exact ih.conjunction.bind ih.disjunctionRest

theorem disjunctionRest_succ (ih : Reads fuel) (e : Expression) (bare : Bare e) :
    Yields Bare (Parser.disjunctionRest (fuel + 1) e) := by
  rw [Parser.disjunctionRest]
  refine (skipName_yields "or").bind fun more _ => ?_
  split
  · exact ih.conjunction.bind fun right second => ih.disjunctionRest _ (.binary .or bare second)
  · exact .pure bare

theorem conjunction_succ (ih : Reads fuel) : Yields Bare (Parser.conjunction (fuel + 1)) := by
  rw [Parser.conjunction]
  exact ih.negation.bind ih.conjunctionRest

theorem conjunctionRest_succ (ih : Reads fuel) (e : Expression) (bare : Bare e) :
    Yields Bare (Parser.conjunctionRest (fuel + 1) e) := by
  rw [Parser.conjunctionRest]
  refine (skipName_yields "and").bind fun more _ => ?_
  split
  · exact ih.negation.bind fun right second => ih.conjunctionRest _ (.binary .and bare second)
  · exact .pure bare

theorem negation_succ (ih : Reads fuel) : Yields Bare (Parser.negation (fuel + 1)) := by
  rw [Parser.negation]
  refine (skipName_yields "not").bind fun negated _ => ?_
  split
  · exact ih.negation.map fun operand bare => .unary .not bare
  · exact ih.comparison

theorem comparison_succ (ih : Reads fuel) : Yields Bare (Parser.comparison (fuel + 1)) := by
  rw [Parser.comparison]
  refine ih.sum.bind fun first bare => ih.comparisonRest.bind fun rest each => ?_
  split
  · exact .pure bare
  · exact .pure (.compare bare each)

theorem comparisonRest_succ (ih : Reads fuel) :
    Yields (fun links => ∀ link ∈ links, Bare link.2) (Parser.comparisonRest (fuel + 1)) := by
  -- One more link of the chain, whichever way its operator is written.
  have link (operator : Comparison) :
      Yields (fun links => ∀ link ∈ links, Bare link.2) (do
        let operand ← Parser.sum fuel
        return (operator, operand) :: (← Parser.comparisonRest fuel)) :=
    ih.sum.bind fun operand bare => ih.comparisonRest.map fun rest each =>
      List.forall_mem_cons.mpr ⟨bare, each⟩
  rw [Parser.comparisonRest]
  refine peek_yields.bind fun front _ => ?_
  split
  next operator _ => exact advance_yields.bind fun _ _ => link operator
  · refine (skipName_yields "in").bind fun within _ => ?_
    split
    · exact link .within
    · refine (atName_yields "not").bind fun negated _ => second_yields.bind fun next _ => ?_
      split
      · exact advance_yields.bind fun _ _ => advance_yields.bind fun _ _ => link .notWithin
      · exact .pure (List.forall_mem_nil _)

theorem sum_succ (ih : Reads fuel) : Yields Bare (Parser.sum (fuel + 1)) := by
  rw [Parser.sum]
  exact ih.joined.bind ih.sumRest

theorem sumRest_succ (ih : Reads fuel) (e : Expression) (bare : Bare e) :
    Yields Bare (Parser.sumRest (fuel + 1) e) := by
  rw [Parser.sumRest]
  refine peek_yields.bind fun front _ => ?_
  split
  next operator _ =>
    refine advance_yields.bind fun _ _ => ih.joined.bind fun right second => ?_
    exact ih.sumRest _ (.binary operator bare second)
  · exact .pure bare

theorem joined_succ (ih : Reads fuel) : Yields Bare (Parser.joined (fuel + 1)) := by
  rw [Parser.joined]
  refine ih.product.bind fun first bare => ih.joinedRest.bind fun rest each => ?_
  split
  · exact .pure bare
  · exact .pure (.concat (List.forall_mem_cons.mpr ⟨bare, each⟩))

theorem joinedRest_succ (ih : Reads fuel) :
    Yields (fun parts => ∀ e ∈ parts, Bare e) (Parser.joinedRest (fuel + 1)) := by
  rw [Parser.joinedRest]
  refine (skipSymbol_yields .tilde).bind fun more _ => ?_
  split
  · exact ih.product.cons ih.joinedRest
  · exact .pure (List.forall_mem_nil _)

theorem product_succ (ih : Reads fuel) : Yields Bare (Parser.product (fuel + 1)) := by
  rw [Parser.product]
  exact ih.power.bind ih.productRest

theorem productRest_succ (ih : Reads fuel) (e : Expression) (bare : Bare e) :
    Yields Bare (Parser.productRest (fuel + 1) e) := by
  rw [Parser.productRest]
  refine peek_yields.bind fun front _ => ?_
  split
  next operator _ =>
    refine advance_yields.bind fun _ _ => ih.power.bind fun right second => ?_
    exact ih.productRest _ (.binary operator bare second)
  · exact .pure bare

theorem power_succ (ih : Reads fuel) : Yields Bare (Parser.power (fuel + 1)) := by
  rw [Parser.power]
  exact (ih.signed true).bind ih.powerRest

theorem powerRest_succ (ih : Reads fuel) (e : Expression) (bare : Bare e) :
    Yields Bare (Parser.powerRest (fuel + 1) e) := by
  rw [Parser.powerRest]
  refine (skipSymbol_yields .power).bind fun more _ => ?_
  split
  · exact (ih.signed true).bind fun right second => ih.powerRest _ (.binary .power bare second)
  · exact .pure bare

/-! ### Primary expressions -/

theorem signed_succ (ih : Reads fuel) (filters : Bool) :
    Yields Bare (Parser.signed (fuel + 1) filters) := by
  rw [Parser.signed]
  have tail (inner : Expression) (bare : Bare inner) : Yields Bare (do
      let followed ← Parser.followers fuel inner
      if filters then Parser.operations fuel followed else return followed) := by
    refine (ih.followers inner bare).bind fun followed bare => ?_
    split
    · exact ih.operations followed bare
    · exact .pure bare
  refine (skipSymbol_yields .minus).bind fun minus _ => ?_
  refine (skipSymbol_yields .plus).bind fun plus _ => ?_
  cases minus with
  | true => exact (ih.signed false).bind fun operand bare => tail _ (.unary .negate bare)
  | false => cases plus with
    | true => exact (ih.signed false).bind fun operand bare => tail _ (.unary .plus bare)
    | false => exact ih.primary.bind tail

theorem primary_succ (ih : Reads fuel) : Yields Bare (Parser.primary (fuel + 1)) := by
  rw [Parser.primary]
  refine peek_yields.bind fun front _ => ?_
  split
  next word _ => exact advance_yields.map fun _ _ => wordExpression_bare word
  next =>
    intro left unclosed
    exact ⟨.constant trivial,
      fun token listed => unclosed token ((adjacentTexts_suffix left).mem listed)⟩
  next => exact advance_yields.map fun _ _ => .constant trivial
  next => exact advance_yields.map fun _ _ => .constant trivial
  next =>
    -- A parenthesis that opens is never closed.
    refine advance_yields.bind fun _ _ => ih.parenthesized.bind fun inner _ => ?_
    exact (expect_yields .closeParen).bind fun _ never => absurd rfl never
  next =>
    exact advance_yields.bind fun _ _ => (ih.listItems true).map fun items each => .list each
  next =>
    refine advance_yields.bind fun _ _ => (ih.dictionaryEntries true).map fun entries each => ?_
    exact .dictionary (fun entry listed => (each entry listed).1) fun entry listed =>
      (each entry listed).2
  next => exact malformed_yields

theorem parenthesized_succ (ih : Reads fuel) :
    Yields (fun _ => True) (Parser.parenthesized (fuel + 1)) := by
  rw [Parser.parenthesized]
  refine (atSymbol_yields .closeParen).bind fun empty _ => ?_
  split
  · exact .pure trivial
  · refine ih.conditional.bind fun first _ => (atSymbol_yields .comma).bind fun more _ => ?_
    split
    · exact ih.tupleRest.map fun _ _ => trivial
    · exact .pure trivial

theorem tupleRest_succ (ih : Reads fuel) :
    Yields (fun _ => True) (Parser.tupleRest (fuel + 1)) := by
  rw [Parser.tupleRest]
  refine (skipSymbol_yields .comma).bind fun more _ => ?_
  split
  · refine (atSymbol_yields .closeParen).bind fun ended _ => ?_
    split
    · exact .pure trivial
    · exact ih.conditional.bind fun item _ => ih.tupleRest.map fun _ _ => trivial
  · exact .pure trivial

/-! ### Elements and indices -/

/-- An element comes first or after a comma. -/
theorem separated_yields (first : Bool) {next : PUnit → Parser α}
    (rest : ∀ u, Yields good (next u)) :
    Yields good (if first = true then next () else expect .comma >>= next) := by
  split
  · exact rest ()
  · exact (expect_yields .comma).bind fun u _ => rest u

theorem listItems_succ (ih : Reads fuel) (first : Bool) :
    Yields (fun items => ∀ e ∈ items, Bare e) (Parser.listItems (fuel + 1) first) := by
  rw [Parser.listItems]
  refine (skipSymbol_yields .closeBracket).bind fun ended _ => ?_
  split
  · exact .pure (List.forall_mem_nil _)
  · refine separated_yields first fun _ => (skipSymbol_yields .closeBracket).bind fun last _ => ?_
    split
    · exact .pure (List.forall_mem_nil _)
    · exact ih.conditional.cons (ih.listItems false)

theorem dictionaryEntries_succ (ih : Reads fuel) (first : Bool) :
    Yields (fun entries => ∀ entry ∈ entries, Bare entry.1 ∧ Bare entry.2)
      (Parser.dictionaryEntries (fuel + 1) first) := by
  rw [Parser.dictionaryEntries]
  refine (skipSymbol_yields .closeBrace).bind fun ended _ => ?_
  split
  · exact .pure (List.forall_mem_nil _)
  · refine separated_yields first fun _ => (skipSymbol_yields .closeBrace).bind fun last _ => ?_
    split
    · exact .pure (List.forall_mem_nil _)
    · refine ih.conditional.bind fun key named => (expect_yields .colon).bind fun _ _ => ?_
      exact ih.conditional.bind fun v bare => (ih.dictionaryEntries false).map fun rest each =>
        List.forall_mem_cons.mpr ⟨⟨named, bare⟩, each⟩

theorem followers_succ (ih : Reads fuel) (e : Expression) (bare : Bare e) :
    Yields Bare (Parser.followers (fuel + 1) e) := by
  rw [Parser.followers]
  refine (skipSymbol_yields .dot).bind fun dotted _ => ?_
  split
  · refine peek_yields.bind fun front _ => ?_
    split
    next word _ => exact advance_yields.bind fun _ _ => ih.followers _ (.member word bare)
    next =>
      -- A number after a point is an index.
      exact advance_yields.bind fun _ _ => ih.followers _ (bare.subscript (.constant trivial))
    next => exact malformed_yields
  · refine (skipSymbol_yields .openBracket).bind fun indexed _ => ?_
    split
    · refine (ih.subscripts true).bind fun indices each => ?_
      split
      next index =>
        exact ih.followers _ (bare.subscript (each index (List.mem_singleton_self index)))
      next => exact ih.followers _ (bare.subscript (.tuple each))
    · -- A call would need a closing parenthesis, so it is no way to go on.
      refine (atSymbol_yields .openParen).bind fun called _ => ?_
      split
      · exact ih.callArguments.bind fun _ never => never.elim
      · exact .pure bare

theorem subscripts_succ (ih : Reads fuel) (first : Bool) :
    Yields (fun items => ∀ e ∈ items, Bare e) (Parser.subscripts (fuel + 1) first) := by
  rw [Parser.subscripts]
  refine (skipSymbol_yields .closeBracket).bind fun ended _ => ?_
  split
  · exact .pure (List.forall_mem_nil _)
  · exact separated_yields first fun _ => ih.subscript.cons (ih.subscripts false)

theorem subscript_succ (ih : Reads fuel) : Yields Bare (Parser.subscript (fuel + 1)) := by
  rw [Parser.subscript]
  refine (skipSymbol_yields .colon).bind fun open_ _ => ?_
  split
  · exact ih.sliceRest none forall_mem_none
  · refine ih.conditional.bind fun start bare => (skipSymbol_yields .colon).bind fun sliced _ => ?_
    split
    · exact ih.sliceRest (some start) (forall_mem_some bare)
    · exact .pure bare

theorem sliceRest_succ (ih : Reads fuel) (start : Option Expression)
    (first : ∀ e ∈ start, Bare e) : Yields Bare (Parser.sliceRest (fuel + 1) start) := by
  rw [Parser.sliceRest]
  refine ih.sliceBound.bind fun stop last => (skipSymbol_yields .colon).bind fun stepped _ => ?_
  split
  · refine (atSymbol_yields .closeBracket).bind fun ended _ => ?_
    refine (atSymbol_yields .comma).bind fun more _ => ?_
    split
    · exact .pure (.slice first last forall_mem_none)
    · exact ih.conditional.bind fun step bare => .pure
        (.slice first last (forall_mem_some bare))
  · exact .pure (.slice first last forall_mem_none)

theorem sliceBound_succ (ih : Reads fuel) :
    Yields (fun bound => ∀ e ∈ bound, Bare e) (Parser.sliceBound (fuel + 1)) := by
  rw [Parser.sliceBound]
  refine (atSymbol_yields .colon).bind fun stepped _ => ?_
  refine (atSymbol_yields .closeBracket).bind fun ended _ => ?_
  refine (atSymbol_yields .comma).bind fun more _ => ?_
  split
  · exact .pure forall_mem_none
  · exact ih.conditional.map fun _ => forall_mem_some

/-! ### Filters, tests and arguments -/

theorem operations_succ (ih : Reads fuel) (e : Expression) (bare : Bare e) :
    Yields Bare (Parser.operations (fuel + 1) e) := by
  rw [Parser.operations]
  refine (skipSymbol_yields .bar).bind fun filtered _ => ?_
  split
  · refine expectName_yields.bind fun word _ => (dottedRest_yields fuel).bind fun dotted _ => ?_
    refine (atSymbol_yields .openParen).bind fun called _ => ?_
    split
    · exact ih.callArguments.bind fun _ never => never.elim
    · exact ih.operations _ (.filter _ bare)
  · refine (skipName_yields "is").bind fun tested _ => ?_
    split
    · exact (ih.testRest e bare).bind ih.operations
    · refine (atSymbol_yields .openParen).bind fun called _ => ?_
      split
      · exact ih.callArguments.bind fun _ never => never.elim
      · exact .pure bare

theorem testRest_succ (ih : Reads fuel) (e : Expression) (bare : Bare e) :
    Yields Bare (Parser.testRest (fuel + 1) e) := by
  rw [Parser.testRest]
  refine (skipName_yields "not").bind fun negated _ => ?_
  refine expectName_yields.bind fun word _ => (dottedRest_yields fuel).bind fun dotted _ => ?_
  -- A test that is denied stands under `not`, with the same arguments.
  have tail (others : List Expression) (each : ∀ e ∈ others, Bare e) :
      Bare (if negated then .unary .not (.test e (word ++ dotted) (.mk others [] none none))
        else .test e (word ++ dotted) (.mk others [] none none)) := by
    cases negated with
    | true => exact .unary .not (.test _ bare each)
    | false => exact .test _ bare each
  refine (atSymbol_yields .openParen).bind fun called _ => peek_yields.bind fun front _ => ?_
  cases called with
  | true => exact ih.callArguments.bind fun _ never => never.elim
  | false =>
    cases startsTestArgument front with
    | true =>
      refine (atName_yields "is").bind fun chained _ => ?_
      cases chained with
      | true =>
        -- A test cannot be tested again.
        apply Yields.bind (malformed_yields : Yields (fun _ => False) _)
        exact fun _ never => never.elim
      | false =>
        refine ih.primary.bind fun other here => (ih.followers other here).bind fun other here => ?_
        exact .pure (tail [other] (List.forall_mem_singleton.mpr here))
    | false => exact .pure (tail [] (List.forall_mem_nil _))

theorem callArguments_succ (ih : Reads fuel) :
    Yields (fun _ => False) (Parser.callArguments (fuel + 1)) := by
  rw [Parser.callArguments]
  refine (expect_yields .openParen).bind fun _ _ => ?_
  exact (ih.argumentsRest true _).bind fun _ never => never.elim

theorem argumentsRest_succ (ih : Reads fuel) (first : Bool) (g : Gathered) :
    Yields (fun _ => False) (Parser.argumentsRest (fuel + 1) first g) := by
  -- Whatever an argument is, the closing parenthesis has to come after it.
  have more {f : Expression → Gathered} : Yields (fun _ => False) (do
      let e ← Parser.conditional fuel
      Parser.argumentsRest fuel false (f e)) :=
    ih.conditional.bind fun e _ => ih.argumentsRest false _
  rw [Parser.argumentsRest]
  refine (skipSymbol_yields .closeParen).bind fun ended open_ => ?_
  split
  next met => exact absurd rfl (open_ met)
  refine separated_yields first fun _ => (skipSymbol_yields .closeParen).bind fun last open_ => ?_
  split
  next met => exact absurd rfl (open_ (Bool.and_eq_true_iff.mp met).2)
  refine (skipSymbol_yields .times).bind fun spread _ => ?_
  split
  · split
    · exact malformed_yields
    · exact more
  refine (skipSymbol_yields .power).bind fun spreadNamed _ => ?_
  split
  · split
    · exact malformed_yields
    · exact more
  refine peek_yields.bind fun front _ => second_yields.bind fun next _ => ?_
  split
  · split
    · exact malformed_yields
    · exact advance_yields.bind fun _ _ => advance_yields.bind fun _ _ => more
  · split
    · exact malformed_yields
    · exact more

end Reads

/-- What every function of the grammar gives, whatever the budget. -/
theorem reads (fuel : Nat) : Reads fuel := by
  -- Every function of the grammar calls the others with one less, so they go together.
  induction fuel with
  | zero => exact .zero
  | succ fuel ih => exact {
      conditional := ih.conditional_succ
      conditionalRest := ih.conditionalRest_succ
      disjunction := ih.disjunction_succ
      disjunctionRest := ih.disjunctionRest_succ
      conjunction := ih.conjunction_succ
      conjunctionRest := ih.conjunctionRest_succ
      negation := ih.negation_succ
      comparison := ih.comparison_succ
      comparisonRest := ih.comparisonRest_succ
      sum := ih.sum_succ
      sumRest := ih.sumRest_succ
      joined := ih.joined_succ
      joinedRest := ih.joinedRest_succ
      product := ih.product_succ
      productRest := ih.productRest_succ
      power := ih.power_succ
      powerRest := ih.powerRest_succ
      signed := ih.signed_succ
      primary := ih.primary_succ
      parenthesized := ih.parenthesized_succ
      tupleRest := ih.tupleRest_succ
      listItems := ih.listItems_succ
      dictionaryEntries := ih.dictionaryEntries_succ
      followers := ih.followers_succ
      subscripts := ih.subscripts_succ
      subscript := ih.subscript_succ
      sliceRest := ih.sliceRest_succ
      sliceBound := ih.sliceBound_succ
      operations := ih.operations_succ
      testRest := ih.testRest_succ
      callArguments := ih.callArguments_succ
      argumentsRest := ih.argumentsRest_succ }

end StaticSite.Expression.Parser
