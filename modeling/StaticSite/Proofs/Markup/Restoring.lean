import StaticSite.Proofs.Markup.Tokens

/-!
# Putting elements back

From intact markup the elements are put back, each in the place of its tokens, and no token is left
over. An element ends with a bracket, which no token holds, so a token cannot begin in an element
and end behind it.
-/

namespace StaticSite.Markup

open StaticSite.Text

variable {store : Store}

/-! ### Elements end with a bracket -/

theorem closingFront?_ends {name s rest : List Char} (found : closingFront? name s = some rest) :
    '>' :: rest <:+ s := by
  unfold closingFront? at found
  split at found
  · split at found
    next after _ tail read =>
      split at found
      next blanks last =>
        cases found
        obtain ⟨front, same⟩ := sameNameFront?_suffix read
        have inner : '>' :: rest <:+ tail := last ▸ List.dropWhile_suffix isBlank
        have outer : tail <:+ after := ⟨front, same.symm⟩
        exact (inner.trans outer).trans (List.suffix_append ['<', '/'] after)
      · contradiction
    · contradiction
  · contradiction

theorem afterClosing?_ends {name s rest : List Char} (found : afterClosing? name s = some rest) :
    '>' :: rest <:+ s := by
  induction s with
  | nil => contradiction
  | cons c s ih =>
    rw [afterClosing?] at found
    split at found
    next closed =>
      cases found
      exact closingFront?_ends closed
    next => exact (ih found).trans (List.suffix_cons c s)

theorem elementFront?_ends {tag s rest : List Char} (found : elementFront? tag s = some rest) :
    '>' :: rest <:+ s := by
  unfold elementFront? at found
  split at found
  next after =>
    split at found
    next name inner read =>
      obtain ⟨content, opened, closed⟩ := Option.bind_eq_some_iff.mp found
      obtain ⟨attributes, same⟩ := openingEnd?_suffix opened
      have tag : inner <:+ after := ⟨name, (nameFront?_eq_append read).symm⟩
      have body : content <:+ inner := ⟨attributes, same.symm⟩
      have whole := ((afterClosing?_ends closed).trans body).trans tag
      exact whole.trans (List.suffix_cons '<' after)
    next => contradiction
  next => contradiction

theorem elements_ends {tags : List (List Char)} {s source : List Char} {item : Unit}
    (listed : Piece.found item source ∈ (elements tags).pieces s) :
    ∃ body, source = body ++ ['>'] := by
  obtain ⟨rest, recognised⟩ := Scanner.run_of_mem listed
  obtain ⟨after, read, same⟩ := Option.map_eq_some_iff.mp recognised
  cases same
  obtain ⟨tag, _, front⟩ := List.exists_of_findSome?_eq_some read
  obtain ⟨body, whole⟩ := elementFront?_ends front
  have shape : source ++ rest = (body ++ ['>']) ++ rest := by
    rw [← whole, List.append_assoc, List.singleton_append]
  exact ⟨body, List.append_cancel_right shape⟩

theorem verbatimElements_ends {s element : List Char} (listed : element ∈ verbatimElements s) :
    ∃ body, element = body ++ ['>'] := by
  obtain ⟨item, found⟩ := Store.found_of_mem_sources listed
  exact elements_ends found

/-! ### Putting elements back -/

namespace Store

/-- One text is the other with fragments in the place of their tokens. -/
inductive Restores (store : Store) : List Char → List Char → Prop where
  | nil : Restores store [] []
  | plain {c : Char} {s t : List Char} (differs : c ≠ '%') (rest : Restores store s t) :
      Restores store (c :: s) (c :: t)
  | token {place : Nat} {fragment s t : List Char} (kept : store.fragments[place]? = some fragment)
      (rest : Restores store s t) : Restores store (store.token place ++ s) (fragment ++ t)

theorem tokenFront?_plain (store : Store) {c : Char} (rest : List Char) (differs : c ≠ '%') :
    store.tokenFront? (c :: rest) = none := by
  have absent : dropFront? store.tokenStart (c :: rest) = none := by
    rw [tokenStart_eq]
    exact dropFront?_cons_ne _ _ differs
  rw [tokenFront?, absent, Option.bind_none]

theorem tokenFront?_token (store : Store) (place : Nat) (rest : List Char) :
    store.tokenFront? (store.token place ++ rest) = some (place, rest) := by
  have digits := natText_digits place
  -- The digits of every script are read, and those that are written are of the first.
  have decimal : ∀ c ∈ Decimal.natText place, isDecimal c = true := by
    intro c inside
    have ascii := isAscii_of_isAsciiDigit (digits c inside)
    rw [isDecimal, if_pos ascii, digits c inside]
  have value : (Decimal.natText place).foldl
      (fun n c => n * 10 + (decimalValue? c).getD 0) 0 = place := by
    have same : ∀ n, ∀ c ∈ Decimal.natText place,
        n * 10 + (decimalValue? c).getD 0 = n * 10 + (c.toNat - 48) := by
      intro n c inside
      have ascii := isAscii_of_isAsciiDigit (digits c inside)
      rw [decimalValue?, if_pos ascii, if_pos (digits c inside), Option.getD_some]
    exact (List.foldl_ext _ _ 0 same).trans (foldl_natText place)
  have percent : isDecimal '%' = false := by decide
  have body : store.token place ++ rest
      = store.tokenStart ++ (Decimal.natText place ++ '%' :: '%' :: rest) := by
    simp [token_eq, tokenEnd]
  have started := dropFront?_append store.tokenStart (Decimal.natText place ++ '%' :: '%' :: rest)
  have taken : (Decimal.natText place ++ '%' :: '%' :: rest).takeWhile isDecimal
      = Decimal.natText place := by
    rw [List.takeWhile_append_of_pos decimal, List.takeWhile_cons_of_neg (by simp [percent])]
    exact List.append_nil _
  have left : (Decimal.natText place ++ '%' :: '%' :: rest).dropWhile isDecimal
      = '%' :: '%' :: rest := by
    rw [List.dropWhile_append_of_pos decimal, List.dropWhile_cons_of_neg (by simp [percent])]
  have closed : dropFront? tokenEnd ('%' :: '%' :: rest) = some rest := dropFront?_append _ _
  rw [tokenFront?, body, started, Option.bind_some, left, closed]
  split
  next empty =>
    rw [taken] at empty
    exact absurd empty Nat.toDigits_ne_nil
  next => rw [taken, value, Option.map_some]

theorem get_natCast {place : Nat} {fragment : List Char}
    (kept : store.fragments[place]? = some fragment) : store.get place = .ok fragment := by
  have positive : ¬ (place : Int) < 0 := by omega
  rw [get]
  simp only [if_neg positive, Int.toNat_natCast, kept]

theorem Intact.restores {s : List Char} (whole : store.Intact s) : ∃ t, store.Restores s t := by
  induction whole with
  | nil => exact ⟨[], .nil⟩
  | plain differs _ ih =>
    obtain ⟨t, rest⟩ := ih
    exact ⟨_, .plain differs rest⟩
  | token kept _ ih =>
    obtain ⟨t, rest⟩ := ih
    exact ⟨_, .token (List.getElem?_eq_getElem kept) rest⟩

namespace Restores

variable {s t : List Char}

theorem restorePieces (restored : store.Restores s t) :
    Markup.restorePieces store (store.tokens.pieces s) = .ok t := by
  induction restored with
  | nil =>
    rw [Scanner.pieces_nil]
    rfl
  | @plain c s t differs _ ih =>
    have absent : store.tokens.run (c :: s) = none := tokenFront?_plain store s differs
    rw [Scanner.pieces_plain absent, Markup.restorePieces, ih]
    rfl
  | @token place fragment s t kept _ ih =>
    have present : store.tokens.run (store.token place ++ s) = some (place, s) :=
      tokenFront?_token store place s
    rw [Scanner.pieces_found present, Markup.restorePieces, get_natCast kept, ih]
    rfl

theorem eq_of_empty (restored : store.Restores s t) (empty : store.fragments = []) : s = t := by
  induction restored with
  | nil => rfl
  | plain _ _ ih => rw [ih]
  | token kept =>
    rw [empty] at kept
    contradiction

/-- Putting the elements back into a text with tokens does not fail. -/
theorem restore (restored : store.Restores s t) : Markup.restore s store = .ok t := by
  unfold Markup.restore
  split
  next empty => rw [restored.eq_of_empty (List.isEmpty_iff.mp empty)]
  next => exact restored.restorePieces

/-- Where no fragment holds the nonce, what is restored holds no token. -/
theorem tokenStart_notInfix (restored : store.Restores s t) (lettered : store.Lettered)
    (ends : ∀ fragment ∈ store.fragments, ∃ body, fragment = body ++ ['>'])
    (apart : ∀ fragment ∈ store.fragments, ¬ store.nonce <:+: fragment) :
    ¬ store.tokenStart <:+: t := by
  have bracket : '>' ∉ store.tokenStart := by
    intro inside
    refine notMem_token lettered (by decide : isTokenChar '>' = false) 0 ?_
    rw [token_eq]
    exact List.mem_append_left _ inside
  induction restored with
  | nil =>
    intro inside
    have none := List.infix_nil.mp inside
    rw [tokenStart_eq] at none
    contradiction
  | plain differs _ ih =>
    intro inside
    rcases List.infix_cons_iff.mp inside with ⟨after, front⟩ | inside
    · rw [tokenStart_eq] at front
      exact differs (List.cons.inj front).1.symm
    · exact ih inside
  | token kept _ ih =>
    -- A token would begin in the fragment, which has no nonce, or behind it.
    have listed := List.mem_of_getElem? kept
    obtain ⟨body, rfl⟩ := ends _ listed
    intro inside
    rw [List.append_assoc] at inside
    rcases infix_or_of_notMem bracket inside with inside | inside
    · have nonce := store.nonce_infix_tokenStart.trans inside
      exact apart _ listed (nonce.trans (List.prefix_append _ _).isInfix)
    · exact ih inside

end Restores

end Store

end StaticSite.Markup
