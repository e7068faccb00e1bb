import StaticSite.Proofs.Markup.Restoring

/-!
# Markup with the tokens of two stores

The same markup has other tokens in another store: the nonce is another one, and the numbers are, so
they may have more digits or fewer. Two texts match if they are the same but for their tokens, and
tokens in the same place stand for the same fragment, each in its own store. A step that only looks
for marks of characters that no token holds finds the same in both texts, and what it leaves matches
again. So the same text is restored from both.
-/

namespace StaticSite

namespace Text

variable {α β γ δ : Type} {related : α → β → Prop} {made : γ → δ → Prop} {first : Option α}
  {second : Option β}

/-- Two searches of which neither finds anything, or both find related things. -/
theorem rel_cases (found : Option.Rel related first second) : (first = none ∧ second = none)
    ∨ ∃ a b, first = some a ∧ second = some b ∧ related a b := by
  cases found with
  | none => exact .inl ⟨rfl, rfl⟩
  | some both => exact .inr ⟨_, _, rfl, rfl, both⟩

theorem rel_map {f : α → γ} {g : β → δ} (found : Option.Rel related first second)
    (step : ∀ {a b}, related a b → made (f a) (g b)) :
    Option.Rel made (first.map f) (second.map g) := by
  cases found with
  | none => exact .none
  | some both => exact .some (step both)

theorem rel_bind {f : α → Option γ} {g : β → Option δ} (found : Option.Rel related first second)
    (step : ∀ {a b}, related a b → Option.Rel made (f a) (g b)) :
    Option.Rel made (first.bind f) (second.bind g) := by
  cases found with
  | none => exact .none
  | some both => exact step both

theorem rel_mono {weaker : α → β → Prop} (found : Option.Rel related first second)
    (implies : ∀ {a b}, related a b → weaker a b) : Option.Rel weaker first second := by
  cases found with
  | none => exact .none
  | some both => exact .some (implies both)

end Text

namespace Markup

open StaticSite.Text

namespace Store

inductive Matched (first second : Store) : List Char → List Char → Prop where
  | nil : Matched first second [] []
  | plain {c : Char} {s t : List Char} (differs : c ≠ '%') (rest : Matched first second s t) :
      Matched first second (c :: s) (c :: t)
  | token {place other : Nat} {fragment s t : List Char}
      (one : first.fragments[place]? = some fragment)
      (two : second.fragments[other]? = some fragment) (rest : Matched first second s t) :
      Matched first second (first.token place ++ s) (second.token other ++ t)

variable {first second : Store}

/-- A pair of texts matches another one. -/
abbrev Both (first second : Store) (a b : List Char × List Char) : Prop :=
  Matched first second a.1 b.1 ∧ Matched first second a.2 b.2

theorem percent_notMem_of_isSharp {mark : List Char} (sharp : isSharp mark = true) :
    '%' ∉ mark := by
  cases mark with
  | nil => contradiction
  | cons c mark =>
    obtain ⟨foreign, plain⟩ := isSharp_cons.mp sharp
    rw [List.mem_cons, not_or]
    refine ⟨?_, plain⟩
    rintro rfl
    contradiction

namespace Matched

variable {s t u v : List Char}

theorem of_notMem (plain : '%' ∉ s) : Matched first second s s := by
  induction s with
  | nil => exact nil
  | cons c s ih =>
    have differs : c ≠ '%' := fun same => plain (same ▸ List.mem_cons_self)
    exact .plain differs (ih fun inside => plain (List.mem_cons_of_mem c inside))

theorem symm (matched : Matched first second s t) : Matched second first t s := by
  induction matched with
  | nil => exact nil
  | plain differs _ ih => exact plain differs ih
  | token one two _ ih => exact token two one ih

theorem append (front : Matched first second s t) (back : Matched first second u v) :
    Matched first second (s ++ u) (t ++ v) := by
  induction front with
  | nil => exact back
  | plain differs _ ih => exact plain differs ih
  | token one two _ ih =>
    rw [List.append_assoc, List.append_assoc]
    exact token one two ih

theorem mono {later last : Store} (matched : Matched first second s t)
    (one : Extends first later) (two : Extends second last) : Matched later last s t := by
  have kept {store later : Store} (grown : Extends store later) {place : Nat}
      {fragment : List Char} (here : store.fragments[place]? = some fragment) :
      later.fragments[place]? = some fragment := by
    obtain ⟨more, whole⟩ := grown.fragments
    obtain ⟨inside, -⟩ := List.getElem?_eq_some_iff.mp here
    rw [← whole, List.getElem?_append_left inside, here]
  induction matched with
  | nil => exact nil
  | plain differs _ ih => exact plain differs ih
  | token here there _ ih =>
    rw [← one.token, ← two.token]
    exact token (kept one here) (kept two there) ih

/-- The same text is restored from both. -/
theorem restores (matched : Matched first second s t) :
    ∃ text, first.Restores s text ∧ second.Restores t text := by
  induction matched with
  | nil => exact ⟨[], .nil, .nil⟩
  | plain differs _ ih =>
    obtain ⟨text, one, two⟩ := ih
    exact ⟨_, .plain differs one, .plain differs two⟩
  | token here there _ ih =>
    obtain ⟨text, one, two⟩ := ih
    exact ⟨_, .token here one, .token there two⟩

/-! ### Characters -/

theorem tokenStart_infix (matched : Matched first second s t) (inside : '%' ∈ s) :
    first.tokenStart <:+: s := by
  induction matched with
  | nil => contradiction
  | plain differs _ ih =>
    rcases List.mem_cons.mp inside with same | inside
    · exact absurd same.symm differs
    · exact (ih inside).trans (List.suffix_cons _ _).isInfix
  | token =>
    rw [token_eq, List.append_assoc]
    exact (List.prefix_append _ _).isInfix

theorem percent_mem (matched : Matched first second s t) (inside : '%' ∈ s) : '%' ∈ t := by
  induction matched with
  | nil => contradiction
  | plain differs _ ih =>
    rcases List.mem_cons.mp inside with same | inside
    · exact absurd same.symm differs
    · exact List.mem_cons_of_mem _ (ih inside)
  | token =>
    rw [token_eq, tokenStart_eq]
    exact List.mem_cons_self

theorem eq_of_notMem (matched : Matched first second s t) (plain : '%' ∉ s) : s = t := by
  induction matched with
  | nil => rfl
  | plain _ _ ih => rw [ih fun inside => plain (List.mem_cons_of_mem _ inside)]
  | token =>
    rw [token_eq, tokenStart_eq] at plain
    exact absurd List.mem_cons_self plain

/-- A character that no token holds is in both texts or in none. -/
theorem mem (lettered : first.Lettered) {c : Char} (foreign : isTokenChar c = false)
    (matched : Matched first second s t) (inside : c ∈ s) : c ∈ t := by
  induction matched with
  | nil => contradiction
  | plain _ _ ih =>
    rcases List.mem_cons.mp inside with rfl | inside
    · exact List.mem_cons_self
    · exact List.mem_cons_of_mem _ (ih inside)
  | token _ _ _ ih =>
    rcases List.mem_append.mp inside with here | inside
    · exact absurd here (notMem_token lettered foreign _)
    · exact List.mem_append_right _ (ih inside)

/-- Both texts start with the same character, unless they start with tokens. -/
theorem cons {c : Char} (differs : c ≠ '%') (matched : Matched first second (c :: s) t) :
    ∃ u, t = c :: u ∧ Matched first second s u := by
  generalize shape : c :: s = text at matched
  cases matched with
  | nil => contradiction
  | plain _ rest =>
    cases shape
    exact ⟨_, rfl, rest⟩
  | token =>
    rw [token_eq, tokenStart_eq] at shape
    exact absurd (List.cons.inj shape).1 differs

theorem front {front : List Char} (plain : '%' ∉ front)
    (matched : Matched first second (front ++ s) t) :
    ∃ u, t = front ++ u ∧ Matched first second s u := by
  induction front generalizing t with
  | nil => exact ⟨t, rfl, matched⟩
  | cons c front ih =>
    have differs : c ≠ '%' := fun same => plain (same ▸ List.mem_cons_self)
    obtain ⟨u, rfl, rest⟩ := matched.cons differs
    obtain ⟨v, rfl, inner⟩ := ih (fun inside => plain (List.mem_cons_of_mem c inside)) rest
    exact ⟨v, rfl, inner⟩

theorem isEmpty_eq (matched : Matched first second s t) : s.isEmpty = t.isEmpty := by
  cases matched with
  | nil => rfl
  | plain => rfl
  | token => simp [token_eq, tokenStart_eq]

/-- Between the low line of a token and its end there are only letters, digits and low lines. -/
theorem token_append (store : Store) (place : Nat) (s : List Char) :
    store.token place ++ s = "%%VERBATIM".toList
      ++ '_' :: ((store.nonce ++ '_' :: Decimal.natText place) ++ '%' :: '%' :: s) := by
  have front : "VERBATIM_".toList = "VERBATIM".toList ++ ['_'] := by decide
  have whole : "%%VERBATIM".toList = '%' :: '%' :: "VERBATIM".toList := by decide
  rw [token_eq, tokenStart_eq, tokenEnd, front, whole]
  simp only [List.append_assoc, List.cons_append, List.nil_append]

/-- Tokens of two stores are read as numbers that differ. -/
theorem renumbered (matched : Matched first second s t) (one : first.Lettered)
    (two : second.Lettered) : Renumbered s t := by
  have word {store : Store} (lettered : store.Lettered) (place : Nat) :
      ∀ c ∈ store.nonce ++ '_' :: Decimal.natText place, isAsciiWord c = true := by
    intro c inside
    rcases List.mem_append.mp inside with letter | inside
    · exact isAsciiWord_of_isAlphanum (lettered c letter)
    rcases List.mem_cons.mp inside with rfl | digit
    · decide
    · exact natText_word place c digit
  induction matched with
  | nil => exact .nil
  | plain _ _ ih => exact .same _ ih
  | token _ _ _ ih =>
    -- The nonce and the number of a token are read as one word.
    rw [token_append, token_append]
    exact (Renumbered.refl _).append (.number (word one _) (word two _) (.same _ (.same _ ih)))

/-! ### Searches -/

theorem takeWhile_eq {p : Char → Bool} (stops : p '%' = false)
    (matched : Matched first second s t) : s.takeWhile p = t.takeWhile p := by
  induction matched with
  | nil => rfl
  | plain _ _ ih => rw [List.takeWhile_cons, List.takeWhile_cons, ih]
  | token => simp [token_eq, tokenStart_eq, stops]

theorem dropWhile {p : Char → Bool} (stops : p '%' = false)
    (matched : Matched first second s t) :
    Matched first second (s.dropWhile p) (t.dropWhile p) := by
  induction matched with
  | nil => exact nil
  | @plain c s t differs rest ih =>
    by_cases passes : p c = true
    · simpa only [List.dropWhile_cons_of_pos passes] using ih
    · simpa only [List.dropWhile_cons_of_neg passes] using plain differs rest
  | token one two rest =>
    have stays (store : Store) (place : Nat) (rest : List Char) :
        (store.token place ++ rest).dropWhile p = store.token place ++ rest := by
      rw [token_eq, tokenStart_eq]
      exact List.dropWhile_cons_of_neg (by simp [stops])
    rw [stays, stays]
    exact token one two rest

/-- The mark comes first in both texts or in none. -/
theorem dropFront? {mark : List Char} (plain : '%' ∉ mark)
    (matched : Matched first second s t) :
    Option.Rel (Matched first second) (Text.dropFront? mark s) (Text.dropFront? mark t) := by
  induction mark generalizing s t with
  | nil => exact .some matched
  | cons c mark ih =>
    simp only [List.mem_cons, not_or] at plain
    cases matched with
    | nil => exact .none
    | @plain d s t differs rest =>
      by_cases equal : c = d
      · simpa only [Text.dropFront?, equal, if_true] using ih plain.2 rest
      · simp only [Text.dropFront?, equal, if_false]
        exact .none
    | token =>
      -- A token begins with a percent sign, and the mark does not.
      have absent (store : Store) (place : Nat) (rest : List Char) :
          Text.dropFront? (c :: mark) (store.token place ++ rest) = none := by
        rw [token_eq, tokenStart_eq]
        exact dropFront?_cons_ne _ _ plain.1
      rw [absent, absent]
      exact .none

/-- Matching texts go before those that were found. -/
theorem push {a b : Option (List Char × List Char)} (front : Matched first second s t)
    (found : Option.Rel (Both first second) a b) :
    Option.Rel (Both first second) (a.map fun parts => (s ++ parts.1, parts.2))
      (b.map fun parts => (t ++ parts.1, parts.2)) :=
  rel_map found fun both => ⟨front.append both.1, both.2⟩

theorem cutAt? {mark : List Char} (one : first.Lettered) (two : second.Lettered)
    (sharp : isSharp mark = true) (matched : Matched first second s t) :
    Option.Rel (Both first second) (Text.cutAt? mark s) (Text.cutAt? mark t) := by
  cases mark with
  | nil => contradiction
  | cons c mark =>
    obtain ⟨foreign, plain⟩ := isSharp_cons.mp sharp
    have percent := percent_notMem_of_isSharp sharp
    induction matched with
    | nil => exact .none
    | @plain d s t differs rest ih =>
      have here := (Matched.plain differs rest).dropFront? percent
      rw [Text.cutAt?, Text.cutAt?]
      rcases rel_cases here with ⟨one, two⟩ | ⟨_, _, one, two, rests⟩
      · rw [one, two]
        exact push (.plain differs .nil) ih
      · rw [one, two]
        exact .some ⟨.nil, rests⟩
    | @token place other fragment s t here there rest ih =>
      have skips {store : Store} (lettered : store.Lettered) (place : Nat) (rest : List Char) :
          Skips (Text.dropFront? (c :: mark)) (store.token place) rest :=
        Skips.of_not_mem (fun _ _ other => dropFront?_cons_ne _ _ other)
          (notMem_token lettered foreign place) rest
      have alone := Matched.token here there .nil
      rw [List.append_nil, List.append_nil] at alone
      -- Both searches go past the token, however long it is.
      rw [cutAt?_skip (skips one place s), cutAt?_skip (skips two other t)]
      exact push alone ih

/-! ### Replacing -/

/-- Replacing a mark throughout. Neither limit is reached. -/
theorem replaceFrom {mark new copy : List Char} {limit other : Nat}
    (matched : Matched first second s t) (one : first.Lettered) (two : second.Lettered)
    (sharp : isSharp mark = true) (inner : Matched first second new copy)
    (enough : s.length < limit) (plenty : t.length < other) :
    Matched first second (Text.replaceFrom mark new limit 0 s)
      (Text.replaceFrom mark copy other 0 t) := by
  cases mark with
  | nil => contradiction
  | cons c mark =>
    obtain ⟨foreign, plain⟩ := isSharp_cons.mp sharp
    induction size : s.length using Nat.strongRecOn generalizing s t limit other with
    | ind n ih =>
      obtain ⟨limit, rfl⟩ : ∃ less, limit = less + 1 := ⟨limit - 1, by omega⟩
      obtain ⟨other, rfl⟩ : ∃ less, other = less + 1 := ⟨other - 1, by omega⟩
      cases matched with
      | nil => exact .nil
      | @plain d s t differs rest =>
        have percent : '%' ∉ c :: mark := percent_notMem_of_isSharp sharp
        have here := (Matched.plain differs rest).dropFront? percent
        simp only [List.length_cons] at enough plenty size
        rw [Text.replaceFrom, Text.replaceFrom, startsWith, startsWith]
        rcases rel_cases here with ⟨starts, begins⟩ | ⟨after, behind, starts, begins, rests⟩
        · rw [starts, begins]
          exact .plain differs (ih s.length (by omega) rest (by omega) (by omega) rfl)
        · -- The mark is skipped as a whole, so the search goes on with what follows it.
          have shape : d :: s = c :: (mark ++ after) := dropFront?_eq_some_iff.mp starts
          have form : d :: t = c :: (mark ++ behind) := dropFront?_eq_some_iff.mp begins
          rw [starts, begins]
          obtain ⟨rfl, rfl⟩ := List.cons.inj shape
          obtain ⟨-, rfl⟩ := List.cons.inj form
          have skip : (d :: mark).length - 1 = mark.length := rfl
          simp only [List.length_append] at enough plenty size
          simp only [Option.isSome_some, if_true, skip, replaceFrom_skip]
          exact inner.append (ih after.length (by omega) rests (by omega) (by omega) rfl)
      | @token place number fragment s t here there rest =>
        have shorter := length_lt_token first place s
        have smaller := length_lt_token second number t
        have alone := Matched.token here there .nil
        rw [List.append_nil, List.append_nil] at alone
        rw [replaceFrom_plain _ _ _ (notMem_token one foreign place),
          replaceFrom_plain _ _ _ (notMem_token two foreign number)]
        exact alone.append (ih s.length (by omega) rest (by omega) (by omega) rfl)

theorem replaceAll {mark new copy : List Char} (matched : Matched first second s t)
    (one : first.Lettered) (two : second.Lettered) (sharp : isSharp mark = true)
    (inner : Matched first second new copy) :
    Matched first second (Text.replaceAll mark new s) (Text.replaceAll mark copy t) := by
  have nonempty : mark ≠ [] := by
    rintro rfl
    contradiction
  rw [Text.replaceAll, Text.replaceAll, replaceUpTo, replaceUpTo, if_neg nonempty, if_neg nonempty]
  exact matched.replaceFrom one two sharp inner (Nat.lt_succ_self _) (Nat.lt_succ_self _)

theorem replaceFirst {mark new copy : List Char} (matched : Matched first second s t)
    (one : first.Lettered) (two : second.Lettered) (sharp : isSharp mark = true)
    (inner : Matched first second new copy) :
    Matched first second (Text.replaceFirst mark new s) (Text.replaceFirst mark copy t) := by
  have cut := matched.cutAt? one two sharp
  unfold Text.replaceFirst
  rcases rel_cases cut with ⟨one, two⟩ | ⟨_, _, one, two, both⟩
  · rw [one, two]
    exact matched
  · rw [one, two]
    exact (both.1.append inner).append both.2

theorem substituteEnvironment {env : List Char} (matched : Matched first second s t)
    (one : first.Lettered) (two : second.Lettered) (plain : '%' ∉ env) :
    Matched first second (Markup.substituteEnvironment env s)
      (Markup.substituteEnvironment env t) := by
  have path : '%' ∉ assetsPath env := by simp [assetsPath, plain]
  have named := matched.replaceAll one two (by decide : isSharp environmentToken = true)
    (of_notMem plain)
  exact named.replaceAll one two (by decide) (of_notMem path)

/-! ### Trimming and splitting -/

theorem trimBackOf_append (drop : Char → Bool) (front s : List Char) :
    trimBackOf drop (front ++ s) = if (trimBackOf drop s).isEmpty then trimBackOf drop front
      else front ++ trimBackOf drop s := by
  simp only [trimBackOf, List.reverse_append, List.dropWhile_append, List.isEmpty_reverse]
  split <;> simp

/-- Where no token ends with what is dropped, the texts still match without it. -/
theorem trimBackOf {drop : Char → Bool} (stops : drop '%' = false)
    (matched : Matched first second s t) :
    Matched first second (Text.trimBackOf drop s) (Text.trimBackOf drop t) := by
  have whole (store : Store) (place : Nat) :
      Text.trimBackOf drop (store.token place) = store.token place := by
    rw [token_eq, tokenEnd, Text.trimBackOf]
    simp [stops]
  induction matched with
  | nil => exact nil
  | @plain c s t differs _ ih =>
    show Matched first second (Text.trimBackOf drop ([c] ++ s)) (Text.trimBackOf drop ([c] ++ t))
    rw [trimBackOf_append, trimBackOf_append, ← ih.isEmpty_eq]
    split
    · -- Nothing is left behind the character, so it is trimmed as if it stood alone.
      refine .of_notMem fun inside => ?_
      have alone : '%' ∈ [c] := List.mem_reverse.mp
        ((List.dropWhile_suffix drop).subset (List.mem_reverse.mp inside))
      exact differs (List.mem_singleton.mp alone).symm
    · exact .plain differs ih
  | @token place other fragment s t one two _ ih =>
    have alone := token one two .nil
    rw [List.append_nil, List.append_nil] at alone
    rw [trimBackOf_append, trimBackOf_append, ← ih.isEmpty_eq, whole, whole]
    split
    · exact alone
    · exact alone.append ih

theorem trim (matched : Matched first second s t) :
    Matched first second (Text.trim s) (Text.trim t) :=
  (matched.dropWhile (by decide)).trimBackOf (by decide)

theorem splitFrom_plain {c : Char} {front : List Char} (absent : c ∉ front) (limit : Nat)
    (piece s : List Char) : splitFrom [c] (limit + 1) 0 piece (front ++ s)
      = splitFrom [c] (limit + 1) 0 (front.reverse ++ piece) s := by
  induction front generalizing piece with
  | nil => rfl
  | cons d front ih =>
    rw [List.mem_cons, not_or] at absent
    have other : startsWith [c] (d :: (front ++ s)) = false := by
      rw [startsWith, dropFront?_cons_ne _ _ (Ne.symm absent.1)]
      rfl
    rw [List.cons_append, splitFrom, other, if_neg Bool.false_ne_true, ih absent.2,
      List.reverse_cons, List.append_assoc]
    rfl

/-- The pieces of matching texts between occurrences of a character match one by one. Neither limit
is reached. -/
theorem splitFrom {c : Char} {piece copy : List Char} {limit other : Nat}
    (matched : Matched first second s t) (one : first.Lettered)
    (two : second.Lettered) (foreign : isTokenChar c = false)
    (collected : Matched first second piece.reverse copy.reverse)
    (enough : s.length < limit) (plenty : t.length < other) :
    List.Forall₂ (Matched first second) (Text.splitFrom [c] limit 0 piece s)
      (Text.splitFrom [c] other 0 copy t) := by
  induction matched generalizing piece copy limit other with
  | nil =>
    have last (limit : Nat) (piece : List Char) :
        Text.splitFrom [c] limit 0 piece [] = [piece.reverse] := by
      cases limit <;> rfl
    rw [last, last]
    exact .cons collected .nil
  | @plain d s t differs rest ih =>
    obtain ⟨limit, rfl⟩ : ∃ less, limit = less + 1 := ⟨limit - 1, by omega⟩
    obtain ⟨other, rfl⟩ : ∃ less, other = less + 1 := ⟨other - 1, by omega⟩
    simp only [List.length_cons] at enough plenty
    by_cases here : c = d
    · -- The piece that has been collected ends here in both texts.
      subst here
      have starts (s : List Char) : startsWith [c] (c :: s) = true := by
        simp [startsWith, Text.dropFront?]
      rw [Text.splitFrom, Text.splitFrom, starts, starts]
      exact .cons collected (ih .nil (by omega) (by omega))
    · have starts (s : List Char) : startsWith [c] (d :: s) = false := by
        rw [startsWith, dropFront?_cons_ne _ _ (Ne.symm here)]
        rfl
      rw [Text.splitFrom, Text.splitFrom, starts, starts]
      refine ih ?_ (by omega) (by omega)
      rw [List.reverse_cons, List.reverse_cons]
      exact collected.append (.plain differs .nil)
  | @token place number fragment s t here there rest ih =>
    obtain ⟨limit, rfl⟩ : ∃ less, limit = less + 1 := ⟨limit - 1, by omega⟩
    obtain ⟨other, rfl⟩ : ∃ less, other = less + 1 := ⟨other - 1, by omega⟩
    have alone := token here there .nil
    rw [List.append_nil, List.append_nil] at alone
    rw [List.length_append] at enough plenty
    rw [splitFrom_plain (notMem_token one foreign place),
      splitFrom_plain (notMem_token two foreign number)]
    refine ih ?_ (by omega) (by omega)
    rw [List.reverse_append, List.reverse_append, List.reverse_reverse, List.reverse_reverse]
    exact collected.append alone

theorem splitOn {c : Char} (matched : Matched first second s t) (one : first.Lettered)
    (two : second.Lettered) (foreign : isTokenChar c = false) :
    List.Forall₂ (Matched first second) (Text.splitOn [c] s) (Text.splitOn [c] t) :=
  matched.splitFrom one two foreign .nil (Nat.lt_succ_self _) (Nat.lt_succ_self _)

end Matched

/-! ### Pieces -/

/-- Pieces of matching texts, with related items and sources at the same places. -/
inductive Cuts {α : Type} (first second : Store)
    (related : α → List Char → α → List Char → Prop) : List (Piece α) → List (Piece α) → Prop where
  | nil : Cuts first second related [] []
  | text {s t : List Char} {p q : List (Piece α)} (matched : Matched first second s t)
      (rest : Cuts first second related p q) :
      Cuts first second related (s.map .plain ++ p) (t.map .plain ++ q)
  | found {a b : α} {source other : List Char} {p q : List (Piece α)}
      (items : related a source b other) (rest : Cuts first second related p q) :
      Cuts first second related (.found a source :: p) (.found b other :: q)

/-- A scanner finds nothing at the front of two texts, or related items in front of matching
texts. -/
def Finds {α : Type} (first second : Store) (related : α → List Char → α → List Char → Prop)
    (scanner : Scanner α) (s t : List Char) : Prop :=
  Option.Rel (fun a b => Matched first second a.2 b.2
    ∧ ∀ source other, s = source ++ a.2 → t = other ++ b.2 → related a.1 source b.1 other)
    (scanner.run s) (scanner.run t)

/-- A scanner whose items begin with a character that no token holds cuts matching texts into
matching parts. -/
theorem Matched.pieces {α : Type} {related : α → List Char → α → List Char → Prop}
    {allowed : α → List Char → Prop} {scanner : Scanner α} {mark : Char} {s t : List Char}
    (matched : Matched first second s t) (one : first.Lettered) (two : second.Lettered)
    (needs : ∀ c rest, c ≠ mark → scanner.run (c :: rest) = none)
    (foreign : isTokenChar mark = false)
    (finds : ∀ {s t : List Char}, Matched first second s t →
      (∀ {item source rest}, s = source ++ rest → scanner.run s = some (item, rest) →
        allowed item source) → Finds first second related scanner s t)
    (all : ∀ item source, Piece.found item source ∈ scanner.pieces s → allowed item source) :
    Cuts first second related (scanner.pieces s) (scanner.pieces t) := by
  induction size : s.length using Nat.strongRecOn generalizing s t with
  | ind n ih =>
    cases matched with
    | nil =>
      rw [Scanner.pieces_nil]
      exact .nil
    | @plain c s t differs rest =>
      have allowed {item : α} {source after : List Char} (shape : c :: s = source ++ after)
          (here : scanner.run (c :: s) = some (item, after)) : allowed item source := by
        rw [shape] at here all
        rw [Scanner.pieces_found here] at all
        exact all item source List.mem_cons_self
      have found := finds (.plain differs rest) allowed
      rcases rel_cases found with ⟨here, there⟩ | ⟨_, _, here, there, rests, items⟩
      · rw [Scanner.pieces_plain here] at all ⊢
        rw [Scanner.pieces_plain there]
        have shorter : s.length < n := size ▸ Nat.lt_succ_self _
        exact .text (.plain differs .nil) (ih s.length shorter rest (fun item source listed =>
          all item source (List.mem_cons_of_mem _ listed)) rfl)
      · obtain ⟨source, shape⟩ := scanner.suffix here
        obtain ⟨other, form⟩ := scanner.suffix there
        have shorter := scanner.shorter here
        have items := items source other shape form
        rw [shape] at here all ⊢
        rw [form] at there ⊢
        rw [Scanner.pieces_found here] at all ⊢
        rw [Scanner.pieces_found there]
        exact .found items (ih _ (size ▸ shorter) rests (fun item source listed =>
          all item source (List.mem_cons_of_mem _ listed)) rfl)
    | @token place other fragment s t here there rest =>
      -- No item begins inside of a token.
      have skips {store : Store} (lettered : store.Lettered) (place : Nat) (rest : List Char) :
          Skips scanner.run (store.token place) rest :=
        Skips.of_not_mem needs (notMem_token lettered foreign place) rest
      have shorter : s.length < n := size ▸ length_lt_token first place s
      have alone := Matched.token here there .nil
      rw [List.append_nil, List.append_nil] at alone
      rw [Scanner.pieces_skip (skips one place s)] at all ⊢
      rw [Scanner.pieces_skip (skips two other t)]
      exact .text alone (ih s.length shorter rest (fun item source listed =>
        all item source (List.mem_append_right _ listed)) rfl)

/-- Pieces can be written out again, with matching texts for the items. -/
theorem Cuts.flatMap {α : Type} {related : α → List Char → α → List Char → Prop}
    {p q : List (Piece α)} (cuts : Cuts first second related p q) {f : Piece α → List Char}
    (same : ∀ c, f (.plain c) = [c]) (written : ∀ {a source b other}, related a source b other →
      Matched first second (f (.found a source)) (f (.found b other))) :
    Matched first second (p.flatMap f) (q.flatMap f) := by
  induction cuts with
  | nil => exact .nil
  | text matched _ ih =>
    rw [List.flatMap_append, List.flatMap_append, flatMap_plain f same, flatMap_plain f same]
    exact matched.append ih
  | found items _ ih => exact (written items).append ih

/-! ### Comments and verbatim elements -/

theorem finds_comments {s t : List Char} (matched : Matched first second s t)
    (one : first.Lettered) (two : second.Lettered) :
    Finds first second (fun _ _ _ _ => True) comments s t := by
  have front := matched.dropFront? (by decide : '%' ∉ commentOpening)
  have rests : Option.Rel (Matched first second) (commentFront? s) (commentFront? t) :=
    rel_bind front fun body =>
      rel_map (body.cutAt? one two (by decide : isSharp commentClosing = true)) And.right
  exact rel_map rests fun rest => ⟨rest, fun _ _ _ _ => trivial⟩

theorem Matched.stripComments {s t : List Char} (matched : Matched first second s t)
    (one : first.Lettered) (two : second.Lettered) :
    Matched first second (Markup.stripComments s) (Markup.stripComments t) := by
  have cuts : Cuts first second (fun _ _ _ _ => True) (comments.pieces s) (comments.pieces t) :=
    matched.pieces one two comments_steady.needs (by decide)
      (fun matched _ => finds_comments matched one two) fun _ _ _ => trivial
  exact cuts.flatMap (fun _ => rfl) fun _ => .nil

/-- Elements that are taken out leave matching texts, whatever is in the two stores. -/
theorem keepPieces_matched (first second : Store) {pieces : List (Piece Unit)}
    (outside : ∀ c, Piece.plain c ∈ pieces → c ≠ '%') :
    Matched (keepPieces first pieces).2 (keepPieces second pieces).2 (keepPieces first pieces).1
      (keepPieces second pieces).1 := by
  induction pieces generalizing first second with
  | nil => exact .nil
  | cons piece pieces ih =>
    have rest (first second : Store) :=
      ih first second fun c listed => outside c (List.mem_cons_of_mem _ listed)
    cases piece with
    | plain c => exact .plain (outside c List.mem_cons_self) (rest first second)
    | found item source =>
      -- Each store keeps the element at its own end, so the tokens have other numbers.
      have kept (store : Store) :
          (keepPieces store (.found item source :: pieces)).2.fragments[store.size]?
            = some source := by
        rw [keepPieces_fragments, sources, size, List.getElem?_append_right (Nat.le_refl _),
          Nat.sub_self]
        rfl
      have whole := Matched.token (kept first) (kept second) (rest (first.add source)
        (second.add source))
      rw [(keepPieces_extends first _).token, (keepPieces_extends second _).token] at whole
      exact whole

end Store

theorem protect_matched {s : List Char} (first second : Store) (inside : PercentInside s) :
    Store.Matched (protect s first).2 (protect s second).2 (protect s first).1
      (protect s second).1 := Store.keepPieces_matched first second inside

end Markup

end StaticSite
