import Mathlib.Data.List.Infix
import StaticSite.Expression.Token
import StaticSite.Proofs.Catching

/-!
# Characters of tokens

Each token is read from the front of the text, so what is left is a suffix of it: a character that
the text does not have is in no later token either. A closing parenthesis is a token of its own
character only. What is no token is refused as malformed, or as a number that has no value.
-/

namespace StaticSite

open StaticSite.Text

namespace Number

theorem spanDigits_suffix (s : List Char) : (spanDigits s).2.2 <:+ s := by
  have within (joined : Bool) (value count : Nat) (s : List Char) :
      (spanDigits.go joined value count s).2.2 <:+ s := by
    fun_induction spanDigits.go joined value count s with
    | case1 => exact List.suffix_refl _
    | case2 _ _ _ _ _ _ _ ih => exact ih.trans (List.suffix_cons _ _)
    | case3 _ _ _ _ _ _ _ ih => exact ih.trans (List.suffix_cons _ _)
    | case4 => exact List.suffix_refl _
  exact within false 0 0 s

theorem exponent?_suffix {s after : List Char} {e : Int} (read : exponent? s = some (e, after)) :
    after <:+ s := by
  unfold exponent? at read
  split at read
  · cases read
    exact List.suffix_refl _
  next c rest =>
    split at read
    · dsimp only at read
      split at read
      · contradiction
      · cases read
        exact ((spanDigits_suffix _).trans (dropSign_suffix rest)).trans (List.suffix_cons c rest)
    · cases read
      exact List.suffix_refl _

theorem announced?_suffix {s rest : List Char} {base : Nat}
    (read : announced? s = some (base, rest)) : rest <:+ s := by
  unfold announced? at read
  split at read
  next c rest =>
    have behind : rest <:+ '0' :: c :: rest := List.suffix_append ['0', c] rest
    split at read
    · cases read
      exact behind
    split at read
    · cases read
      exact behind
    split at read
    · cases read
      exact behind
    · cases read
  · cases read

end Number

namespace Expression

theorem symbolFront?_eq_append {s rest : List Char} {symbol : Symbol}
    (read : symbolFront? s = some (symbol, rest)) :
    ∃ front, (front, symbol) ∈ spellings ∧ s = front ++ rest := by
  obtain ⟨entry, listed, found⟩ := List.exists_of_findSome?_eq_some read
  obtain ⟨left, front, same⟩ := Option.map_eq_some_iff.mp found
  cases same
  exact ⟨entry.1, listed, dropFront?_eq_some_iff.mp front⟩

/-- The symbol of a closing parenthesis has one spelling. -/
theorem closeParen_mem {s rest : List Char} (read : symbolFront? s = some (.closeParen, rest)) :
    ')' ∈ s := by
  obtain ⟨front, listed, rfl⟩ := symbolFront?_eq_append read
  simp only [spellings, List.mem_cons, Prod.mk.injEq, reduceCtorEq, and_false, false_or,
    List.not_mem_nil, or_false, and_true] at listed
  rw [listed]
  exact List.mem_cons_self

/-- A fraction is read from what follows the whole part, or nothing is. -/
theorem fraction_suffix {behind tail : List Char} {fraction places : Nat}
    (read : (match behind with
      | '.' :: after => match Number.spanDigits after with
        | (_, 0, _) => (0, 0, behind)
        | found => found
      | _ => (0, 0, behind)) = (fraction, places, tail)) : tail <:+ behind := by
  split at read
  next after =>
    split at read
    · cases read
      exact List.suffix_refl _
    next found _ =>
      have inner := Number.spanDigits_suffix after
      rw [read] at inner
      exact inner.trans (List.suffix_cons '.' after)
  · cases read
    exact List.suffix_refl _

theorem floatFront?_suffix {s rest : List Char} {x : Float} (read : floatFront? s = some (x, rest)) :
    rest <:+ s := by
  have whole := Number.spanDigits_suffix s
  unfold floatFront? at read
  revert whole read
  generalize Number.spanDigits s = spanned
  obtain ⟨value, count, behind⟩ := spanned
  intro read whole
  split at read
  next _ _ behind same =>
    cases same
    split at read
    · contradiction
    split at read
    next fraction places tail found =>
      have behind := (fraction_suffix found).trans whole
      -- An exponent that cannot be read leaves the fraction, which ends where it did before.
      have plain {y : Float} (read : (if places = 0 then none else some (y, tail)) = some (x, rest)) :
          rest <:+ s := by
        split at read
        · contradiction
        · cases read
          exact behind
      dsimp only at read
      split at read
      · split at read
        · split at read
          next scaled =>
            cases read
            exact (Number.exponent?_suffix scaled).trans behind
          · exact plain read
        · exact plain read
      · exact plain read

theorem joinedDigits_suffix (isDigitOf : Char → Bool) (s : List Char) :
    (joinedDigits isDigitOf s).2 <:+ s := by
  fun_induction joinedDigits isDigitOf s with
  | case1 => exact List.suffix_refl _
  | case2 c s digit digits rest found ih =>
    rw [found] at ih
    exact ih.trans (List.suffix_cons c s)
  | case3 d after _ digits rest found _ ih =>
    rw [found] at ih
    exact ih.trans (List.suffix_append ['_', d] after)
  | case4 | case5 => exact List.suffix_refl _

theorem basedFront?_suffix {s rest : List Char} {n : Int} (read : basedFront? s = some (n, rest)) :
    rest <:+ s := by
  obtain ⟨⟨base, digits⟩, announced, found⟩ := Option.bind_eq_some_iff.mp read
  have tail := joinedDigits_suffix (if base = 16 then isDigitOf 16 else isAsciiDigitOf base) digits
  split at found
  · contradiction
  next front after _ joined =>
    cases found
    dsimp only at joined
    rw [joined] at tail
    exact tail.trans (Number.announced?_suffix announced)

theorem intFront?_suffix {s rest : List Char} {n : Int} (read : intFront? s = some (n, rest)) :
    rest <:+ s := by
  unfold intFront? at read
  split at read
  next found based =>
    cases read
    exact basedFront?_suffix based
  · split at read
    next after _ =>
      cases read
      exact (joinedDigits_suffix _ after).trans (List.suffix_cons _ _)
    next c tail _ _ =>
      split at read
      · cases read
        exact joinedDigits_suffix isDecimal (c :: tail)
      · contradiction
    · contradiction

theorem literalFront?_suffix {quote : Char} {s body rest : List Char}
    (read : literalFront? quote s = some (body, rest)) : rest <:+ s := by
  fun_induction literalFront? quote s generalizing body with
  | case1 | case4 => contradiction
  | case2 c s ih =>
    obtain ⟨inner, found, same⟩ := Option.map_eq_some_iff.mp read
    cases same
    exact (ih found).trans (List.suffix_append ['\\', c] s)
  | case3 =>
    cases read
    exact List.suffix_cons _ _
  | case5 c s _ _ _ ih =>
    obtain ⟨inner, found, same⟩ := Option.map_eq_some_iff.mp read
    cases same
    exact (ih found).trans (List.suffix_cons c s)

/-! ### Tokens of a text -/

/-- The faults of a text that cannot be read. -/
def Unreadable (fault : Fault) : Prop := fault = .malformedExpression ∨ fault = .illFormedProgram

/-- A token that is no closing parenthesis; if it is refused, then because it cannot be read. -/
structure Token.Admissible (token : Token) : Prop where
  unclosing : token ≠ .symbol .closeParen
  refusal : ∀ fault, token = .refused fault → Unreadable fault

namespace Token

theorem admissible_symbol {symbol : Symbol} (other : symbol ≠ .closeParen) :
    Admissible (.symbol symbol) :=
  ⟨fun same => other (Token.symbol.inj same), nofun⟩

theorem admissible_refused {fault : Fault} (unreadable : Unreadable fault) :
    Admissible (.refused fault) := by
  refine ⟨nofun, fun other same => ?_⟩
  cases same
  exact unreadable

theorem admissible_malformed : Admissible (.refused .malformedExpression) :=
  admissible_refused (.inl rfl)

end Token

/-- A token that is no symbol, and the text after it. -/
theorem wordFront?_ends {afterPoint : Bool} {s rest : List Char} {word : Token}
    (read : wordFront? afterPoint s = some (word, rest)) : word.Admissible ∧ rest <:+ s := by
  unfold wordFront? at read
  -- Float, integer, string and word are tried in this order; each leaves a suffix.
  generalize float : (if afterPoint = true then none else floatFront? s) = front at read
  dsimp only at read
  split at read
  next =>
    cases read
    constructor
    · unfold floatToken
      split
      · exact ⟨nofun, nofun⟩
      · exact Token.admissible_refused (.inr rfl)
    · split at float
      · contradiction
      · exact floatFront?_suffix float
  next int =>
    cases read
    exact ⟨⟨nofun, nofun⟩, intFront?_suffix int⟩
  · split at read
    · split at read
      next =>
        split at read
        · obtain ⟨inner, found, same⟩ := Option.map_eq_some_iff.mp read
          cases same
          refine ⟨?_, (literalFront?_suffix found).trans (List.suffix_cons _ _)⟩
          split
          · exact ⟨nofun, nofun⟩
          · exact Token.admissible_malformed
        · contradiction
      · contradiction
    · cases read
      refine ⟨?_, List.dropWhile_suffix _⟩
      split
      · exact ⟨nofun, nofun⟩
      · exact Token.admissible_malformed

/-- Without a closing parenthesis in the text there is none among the tokens. -/
theorem tokensFrom_admissible (fuel : Nat) (open_ : List Symbol) (afterPoint : Bool) {s : List Char}
    (absent : ')' ∉ s) : ∀ token ∈ tokensFrom fuel open_ afterPoint s, token.Admissible := by
  have last : ∀ token ∈ [Token.refused .malformedExpression], token.Admissible :=
    List.forall_mem_singleton.mpr Token.admissible_malformed
  induction fuel generalizing open_ afterPoint s with
  | zero =>
    cases s with
    | nil => exact List.forall_mem_nil _
    | cons c s => exact last
  | succ fuel ih =>
    cases s with
    | nil => exact List.forall_mem_nil _
    | cons c s =>
      rw [tokensFrom]
      split
      · exact ih open_ false fun inside => absent (List.mem_cons_of_mem c inside)
      · -- A word, a number or a literal is tried first, then a symbol.
        split
        next word rest read =>
          obtain ⟨here, behind⟩ := wordFront?_ends read
          exact List.forall_mem_cons.mpr
            ⟨here, ih open_ false fun inside => absent (behind.mem inside)⟩
        · split
          · exact last
          next symbol rest read =>
            obtain ⟨front, listed, whole⟩ := symbolFront?_eq_append read
            split
            · exact last
            next still _ =>
              -- The rest has no closing parenthesis, and the symbol itself is none.
              have free : ')' ∉ rest := fun inside =>
                absent (by rw [whole]; exact List.mem_append_right front inside)
              refine List.forall_mem_cons.mpr
                ⟨Token.admissible_symbol ?_, ih still (symbol == .dot) free⟩
              rintro rfl
              exact absent (closeParen_mem read)

theorem normalizeLines_mem {c : Char} {s : List Char} (inside : c ∈ normalizeLines s) :
    c = '\n' ∨ c ∈ s := by
  fun_induction normalizeLines s with
  | case1 => exact .inr inside
  | case2 s ih | case3 s _ ih =>
    rcases List.mem_cons.mp inside with rfl | behind
    · exact .inl rfl
    · exact (ih behind).imp_right fun there => by simp [there]
  | case4 d s _ _ ih =>
    rcases List.mem_cons.mp inside with rfl | behind
    · exact .inr List.mem_cons_self
    · exact (ih behind).imp_right (List.mem_cons_of_mem d)

theorem tokens_admissible {s : List Char} (absent : ')' ∉ s) :
    ∀ token ∈ tokens s, token.Admissible := by
  have lines : ')' ∉ normalizeLines s := fun inside =>
    (normalizeLines_mem inside).elim (by decide) absent
  refine tokensFrom_admissible _ [] false ?_
  unfold sourceLines
  dsimp only
  split
  · exact fun inside => lines (List.mem_of_mem_dropLast inside)
  · exact lines

end Expression

end StaticSite
