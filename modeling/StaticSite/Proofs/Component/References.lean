import StaticSite.Component.Reference
import StaticSite.Markup.Comment
import StaticSite.Markup.Verbatim
import StaticSite.Proofs.Json.Front

/-!
# References and tokens

The references of a component are found in markup that holds tokens of verbatim elements, and a
token says how many fragments the store had before. The numbers make no difference: whatever the
store holds, the same names are referred to and the same data is refused.
-/

namespace StaticSite

open StaticSite.Text

/-! ### Protected markup -/

namespace Markup

theorem intText_natCast (n : Nat) : Decimal.intText n = Decimal.natText n := by
  have positive : ¬ (n : Int) < 0 := by omega
  rw [Decimal.intText, if_neg positive, Int.natAbs_natCast]

theorem nextToken_eq (store : Store) : store.nextToken
    = store.tokenStart ++ Decimal.natText store.size ++ Store.tokenEnd :=
  congrArg (fun digits => store.tokenStart ++ digits ++ Store.tokenEnd) (intText_natCast store.size)

theorem nextToken_append : ∃ start : List Char, ∀ (store : Store) (s : List Char),
    store.nextToken ++ s
      = (start ++ store.nonce) ++ '_' :: (Decimal.natText store.size ++ '%' :: '%' :: s) := by
  have regroup (start nonce digits s : List Char) :
      start ++ nonce ++ ['_'] ++ digits ++ ['%', '%'] ++ s
        = (start ++ nonce) ++ '_' :: (digits ++ '%' :: '%' :: s) := by
    simp only [List.append_assoc, List.cons_append, List.nil_append]
  refine ⟨"%%VERBATIM_".toList, fun store s => ?_⟩
  rw [nextToken_eq]
  exact regroup _ _ _ _

theorem nextToken_alike {store other : Store} (nonce : store.nonce = other.nonce)
    {s t : List Char} (rest : Renumbered s t) :
    Renumbered (store.nextToken ++ s) (other.nextToken ++ t) := by
  obtain ⟨start, shape⟩ := nextToken_append
  rw [shape, shape, nonce]
  exact (Renumbered.refl _).append
    (.number (natText_word _) (natText_word _) (.same _ (.same _ rest)))

theorem keepPieces_alike {store other : Store} (nonce : store.nonce = other.nonce)
    (pieces : List (Piece Unit)) :
    Renumbered (keepPieces store pieces).1 (keepPieces other pieces).1 := by
  induction pieces generalizing store other with
  | nil => exact .nil
  | cons piece pieces ih =>
    cases piece with
    | plain c => exact .same c (ih nonce)
    | found item source =>
      have added : (store.add source).nonce = (other.add source).nonce := nonce
      exact nextToken_alike nonce (ih added)

theorem keepPieces_nonce (store : Store) (pieces : List (Piece Unit)) :
    (keepPieces store pieces).2.nonce = store.nonce := by
  induction pieces generalizing store with
  | nil => rfl
  | cons piece pieces ih =>
    cases piece with
    | plain c => exact ih store
    | found item source => exact ih (store.add source)

theorem comments_steady : Steady (fun _ _ => True) comments '<' where
  needs c rest differs := by
    have absent : dropFront? commentOpening (c :: rest) = none := dropFront?_cons_ne _ _ differs
    simp [comments, commentFront?, absent]
  other := by decide
  alike {s t} alike := by
    -- Neither mark of a comment has a low line, so numbers of tokens do not matter to them.
    have opening : '_' ∉ commentOpening := by decide
    have front := alike.dropFront? opening
    simp only [comments, commentFront?]
    cases first : dropFront? commentOpening s <;> cases second : dropFront? commentOpening t <;>
      rw [first, second] at front
    · exact .none
    · cases front
    · cases front
    next body other =>
      cases front with
      | some inner =>
        have closing : '_' ∉ commentClosing := by decide
        have cut := inner.cutAt? closing (by decide)
        simp only [Option.bind_some]
        cases one : (cutAt? commentClosing body).map Prod.snd <;>
          cases two : (cutAt? commentClosing other).map Prod.snd <;>
          simp only [commentClosing] at one two cut <;> rw [one, two] at cut
        · exact .none
        · cases cut
        · cases cut
        · cases cut with
          | some rest => exact .some ⟨trivial, rest⟩

theorem stripComments_alike {s t : List Char} (alike : Renumbered s t) :
    Renumbered (stripComments s) (stripComments t) := comments_steady.replace [] alike

/-- The markup of a component differs only in numbers, whatever a store with the nonce holds. -/
theorem protect_alike {store other : Store} (nonce : store.nonce = other.nonce) (s : List Char) :
    Renumbered (stripComments (protect s store).1) (stripComments (protect s other).1) :=
  stripComments_alike (keepPieces_alike nonce _)

theorem protect_nonce (s : List Char) (store : Store) : (protect s store).2.nonce = store.nonce :=
  keepPieces_nonce store _

end Markup

/-! ### References -/

namespace Component

/-- Why the data of a reference was refused. -/
def Inline.refusal? : Inline → Option Fault
  | .refused fault => some fault
  | _ => none

/-- What a reference says about its data, without the data. -/
def Inline.bare : Inline → Inline
  | .given _ => .given []
  | other => other

theorem Inline.refusal?_bare (inline : Inline) : inline.bare.refusal? = inline.refusal? := by
  cases inline <;> rfl

theorem Inline.refusal?_eq {a b : Inline} (same : a.bare = b.bare) : a.refusal? = b.refusal? := by
  rw [← a.refusal?_bare, same, b.refusal?_bare]

namespace Reference

theorem readInline_closed {literal after s : List Char} (inside : literal <:+ s)
    (later : '\x7d' :: after <:+ s) : '\x7d' :: (readInline literal after).2 <:+ s := by
  unfold readInline
  split
  next v rest read =>
    split
    next rest' _ closed =>
      have blanks : rest.dropWhile isBlank <:+ rest := List.dropWhile_suffix _
      rw [closed] at blanks
      exact (blanks.trans (Json.readFront_after read).1).trans inside
    next => exact later
  next => exact later
  next => exact later

/-- A reference ends with a brace. -/
theorem inlineFront?_closed {s rest : List Char} {inline : Inline}
    (found : inlineFront? s = some (inline, rest)) : '\x7d' :: rest <:+ s := by
  unfold inlineFront? at found
  split at found
  next after =>
    cases found
    exact List.suffix_refl _
  next body =>
    split at found
    next inner opened =>
      obtain ⟨cut, split, read⟩ := Option.map_eq_some_iff.mp found
      have blanks : body.dropWhile isBlank <:+ body := List.dropWhile_suffix _
      rw [opened] at blanks
      have inside := blanks.trans (List.suffix_cons ':' body)
      have later : '\x7d' :: cut.2 <:+ inner := by
        refine ⟨cut.1 ++ ['\x7d'], ?_⟩
        rw [cutAt?_eq_append split]
        simp [closing]
      -- Whether the data is read or its end is guessed, a brace of the text is what ends it.
      have whole := readInline_closed inside ((later.trans (List.suffix_cons _ _)).trans inside)
      rw [read] at whole
      exact whole
    next => contradiction
  next => contradiction

theorem front?_cons {s : List Char} {c : Char} {name : List Char}
    (named : s.takeWhile isNameChar = c :: name) :
    front? (opening ++ s) = (inlineFront? (s.dropWhile isNameChar)).map fun found =>
      (⟨c :: name, found.1⟩, found.2) := by
  have opened : dropFront? opening (opening ++ s) = some s := dropFront?_append _ _
  simp only [front?, opened, Option.bind_some, named]
  cases read : inlineFront? (s.dropWhile isNameChar) with
  | none => rfl
  | some found =>
    have inside : found.2 <:+ s :=
      ((List.suffix_cons _ _).trans (inlineFront?_closed read)).trans (List.dropWhile_suffix _)
    simp only [Option.map_some, ← List.suffix_iff_eq_drop.mp inside]

theorem front?_closed {s rest : List Char} {reference : Reference}
    (found : front? s = some (reference, rest)) : '\x7d' :: rest <:+ s := by
  obtain ⟨body, opened, -⟩ := Option.bind_eq_some_iff.mp found
  have shape : s = opening ++ body := dropFront?_eq_some_iff.mp opened
  subst shape
  cases named : body.takeWhile isNameChar with
  | nil => simp [front?, opened, named] at found
  | cons c name =>
    rw [front?_cons named] at found
    obtain ⟨⟨inline, after⟩, read, same⟩ := Option.map_eq_some_iff.mp found
    cases same
    have inner := (inlineFront?_closed read).trans (List.dropWhile_suffix isNameChar)
    exact inner.trans (List.suffix_append opening body)

theorem front?_nil {s : List Char} (unnamed : s.takeWhile isNameChar = []) :
    front? (opening ++ s) = none := by
  simp only [front?, dropFront?_append, Option.bind_some, unnamed]

/-- A name is followed by a brace or a colon. -/
theorem front?_percent {s rest : List Char} (ends : s.dropWhile isNameChar = '%' :: rest) :
    front? (opening ++ s) = none := by
  cases named : s.takeWhile isNameChar with
  | nil => exact front?_nil named
  | cons c name =>
    rw [front?_cons named, ends]
    rfl

/-- There is nothing to report in text between references. -/
theorem reportAll_text (s : List Char) (pieces : List (Piece Reference)) :
    reportAll (s.map Piece.plain ++ pieces) = reportAll pieces := by
  induction s with
  | nil => rfl
  | cons c s ih => exact ih

theorem isNameChar_of_isAsciiWord (c : Char) (word : isAsciiWord c = true) :
    isNameChar c = true := by
  have letter := (Bool.and_eq_true_iff.mp word).2
  simp [isNameChar, letter]

/-- References of one name whose data is refused alike. -/
def SameLink (a b : Reference) : Prop :=
  a.name = b.name ∧ a.inline.refusal? = b.inline.refusal?

/-- What is made of data that could be read. -/
def closed (v : Value) (rest after : List Char) : Inline × List Char :=
  match rest.dropWhile isBlank, v with
  | '\x7d' :: rest, .mapping entries => (.given entries, rest)
  | _, _ => (.unterminated, after)

theorem closed_other {v : Value} {rest : List Char} (after : List Char)
    (other : (∀ u, rest.dropWhile isBlank ≠ '\x7d' :: u) ∨ Json.isMapping v = false) :
    closed v rest after = (.unterminated, after) := by
  unfold closed
  split
  next u entries shut =>
    rcases other with absent | kind
    · exact absurd shut (absent u)
    · contradiction
  next => rfl

theorem closed_alike {v w : Value} {s t u z : List Char} (kind : Json.SameKind v w)
    (rests : Renumbered s t) (later : Renumbered u z) :
    (closed v s u).1.bare = (closed w t z).1.bare
      ∧ Renumbered (closed v s u).2 (closed w t z).2 := by
  have blank : isBlank '_' = false := by decide
  have brace : '\x7d' ≠ '_' := by decide
  rcases (rests.dropWhile blank).head brace with ⟨one, two, first, second, inner⟩ | ⟨first, second⟩
  · cases mapping : Json.isMapping v with
    | false =>
      rw [closed_other u (.inr mapping), closed_other z (.inr (kind.symm.trans mapping))]
      exact ⟨rfl, later⟩
    | true =>
      obtain ⟨entries, rfl⟩ := Json.isMapping_iff.mp mapping
      obtain ⟨others, rfl⟩ := Json.isMapping_iff.mp (kind.symm.trans mapping)
      simp only [closed, first, second]
      exact ⟨rfl, inner⟩
  · rw [closed_other u (.inl first), closed_other z (.inl second)]
    exact ⟨rfl, later⟩

theorem readInline_alike {s t u v : List Char} (literals : Renumbered s t)
    (later : Renumbered u v) :
    (readInline s u).1.bare = (readInline t v).1.bare
      ∧ Renumbered (readInline s u).2 (readInline t v).2 := by
  have read := Json.readFront_alike literals
  unfold readInline
  -- The reader ends alike on both texts, so the mixed cases are impossible.
  cases first : Json.readFront s with
  | error fault =>
    cases second : Json.readFront t with
    | ok found =>
      rw [first, second] at read
      cases read
    | error other =>
      rw [first, second] at read
      cases read
      split
      · contradiction
      · exact ⟨rfl, later⟩
      · exact ⟨rfl, later⟩
  | ok found =>
    cases second : Json.readFront t with
    | error fault =>
      rw [first, second] at read
      cases read
    | ok other =>
      rw [first, second] at read
      cases read with
      | ok kind rests => exact closed_alike kind rests later

theorem inlineFront?_alike {s t : List Char} (alike : Renumbered s t) :
    FoundAlike (fun a b => a.refusal? = b.refusal?) (inlineFront? s) (inlineFront? t) := by
  cases alike with
  | nil => exact .none
  | number => exact .none
  | @same c s t rest =>
    -- The head of both texts is one character: an end, the colon of data, or neither.
    by_cases bare : c = '\x7d'
    · subst bare
      exact .some ⟨rfl, rest⟩
    by_cases colon : c = ':'
    · subst colon
      have blank : isBlank '_' = false := by decide
      have brace : '\x7b' ≠ '_' := by decide
      rcases (rest.dropWhile blank).head brace with ⟨u, v, first, second, inner⟩ | ⟨first, second⟩
      · have mark : '_' ∉ closing := by decide
        have cut := inner.cutAt? mark (by decide)
        simp only [inlineFront?, first, second]
        cases one : cutAt? closing u <;> cases two : cutAt? closing v <;>
          simp only [closing] at one two cut <;> rw [one, two] at cut
        · exact .none
        · cases cut
        · cases cut
        · cases cut with
          | some later =>
            obtain ⟨shapes, rests⟩ := readInline_alike (.same _ inner) later
            exact .some ⟨Inline.refusal?_eq shapes, rests⟩
      · have absent {w : List Char} (other : ∀ u, w.dropWhile isBlank ≠ '\x7b' :: u) :
            inlineFront? (':' :: w) = none := by
          rw [inlineFront?]
          split
          next u opened => exact absurd opened (other u)
          next => rfl
        rw [absent first, absent second]
        exact .none
    · have absent (u : List Char) : inlineFront? (c :: u) = none := by
        unfold inlineFront?
        split <;> simp_all
      rw [absent, absent]
      exact .none

theorem front?_alike {s t : List Char} (alike : Renumbered s t) :
    FoundAlike SameLink (front? s) (front? t) := by
  have mark : '_' ∉ opening := by decide
  have front := alike.dropFront? mark
  cases first : dropFront? opening s <;> cases second : dropFront? opening t <;>
    rw [first, second] at front
  · have absent {w : List Char} (missing : dropFront? opening w = none) : front? w = none := by
      rw [front?, missing, Option.bind_none]
    rw [absent first, absent second]
    exact .none
  · cases front
  · cases front
  next body other =>
    cases front with
    | some inner =>
      rw [dropFront?_eq_some_iff.mp first, dropFront?_eq_some_iff.mp second]
      have low : isNameChar '_' = true := by decide
      have percent : isNameChar '%' = false := by decide
      -- Either the name is the same in both, or it ends at the percent sign of a token.
      rcases inner.takeWhile_or low isNameChar_of_isAsciiWord percent with
        ⟨taken, left⟩ | ⟨u, v, one, two⟩
      · have inlines := inlineFront?_alike left
        cases named : body.takeWhile isNameChar with
        | nil =>
          rw [front?_nil named, front?_nil (taken ▸ named)]
          exact .none
        | cons c name =>
          rw [front?_cons named, front?_cons (taken ▸ named)]
          cases one : inlineFront? (body.dropWhile isNameChar) <;>
            cases two : inlineFront? (other.dropWhile isNameChar) <;> rw [one, two] at inlines
          · exact .none
          · cases inlines
          · cases inlines
          · cases inlines with
            | some found => exact .some ⟨⟨rfl, found.1⟩, found.2⟩
      · rw [front?_percent one, front?_percent two]
        exact .none

theorem steady : Steady SameLink scanner '@' where
  needs c rest differs := by
    have absent : dropFront? opening (c :: rest) = none := dropFront?_cons_ne _ _ differs
    simp [scanner, front?, absent]
  other := by decide
  alike := front?_alike

end Reference

end Component

end StaticSite
