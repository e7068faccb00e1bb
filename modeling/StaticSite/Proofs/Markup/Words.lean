import StaticSite.Proofs.Markup.Respacing

/-!
# Words of markup

A markup is words with runs of blanks between, where an element is a part of a word whatever is in
it. While markup is minified, tokens stand for the elements. They hold no blanks, and they begin and
end with an edge. So squeezing what is left of a markup leaves the words that the markup has, and of
each run of blanks what the words around it ask for as they look with tokens in them.
-/

namespace StaticSite.Markup

open StaticSite.Text

/-! ### Words of pieces -/

deriving instance DecidableEq for Piece

/-- Some pieces and no blank. -/
structure IsSolid (pieces : List (Piece Unit)) : Prop where
  nonempty : pieces ≠ []
  solid : ∀ c, .plain c ∈ pieces → isBlank c = false

/-- Words with their gaps, as one. -/
def spread (words : List (List (Piece Unit) × List Char)) : List (Piece Unit) :=
  words.flatMap fun word => word.1 ++ word.2.map .plain

theorem spread_cons (word : List (Piece Unit) × List Char)
    (rest : List (List (Piece Unit) × List Char)) :
    spread (word :: rest) = word.1 ++ (word.2.map .plain ++ spread rest) := by
  rw [spread, List.flatMap_cons, List.append_assoc]
  rfl

/-- The character of a piece that is a blank. -/
def blank? : Piece Unit → Option Char
  | .plain c => if isBlank c then some c else none
  | .found _ _ => none

/-- Puts a piece in front of blanks and words: into the first word, or as a word of its own. -/
def putFront (piece : Piece Unit) : List Char → List (List (Piece Unit) × List Char) →
    List (List (Piece Unit) × List Char)
  | [], (word, gap) :: rest => (piece :: word, gap) :: rest
  | lead, words => ([piece], lead) :: words

/-- Cuts pieces into the blanks in front and words, each with the blanks behind it. -/
def cutWords : List (Piece Unit) → List Char × List (List (Piece Unit) × List Char)
  | [] => ([], [])
  | piece :: pieces =>
    let (lead, words) := cutWords pieces
    match blank? piece with
    | some c => (c :: lead, words)
    | none => ([], putFront piece lead words)

theorem spread_putFront (piece : Piece Unit) (lead : List Char)
    (words : List (List (Piece Unit) × List Char)) :
    spread (putFront piece lead words) = piece :: (lead.map .plain ++ spread words) := by
  unfold putFront
  split <;> simp [spread]

theorem spaced_putFront {piece : Piece Unit} (solid : blank? piece = none) {lead : List Char}
    {words : List (List (Piece Unit) × List Char)} (leading : IsBlanks lead)
    (spaced : Spaced IsSolid words) : Spaced IsSolid (putFront piece lead words) := by
  have character (c : Char) (same : piece = .plain c) : isBlank c = false := by
    subst same
    simpa [blank?] using solid
  have alone : IsSolid [piece] :=
    ⟨List.cons_ne_nil _ _, fun c listed => character c (List.mem_singleton.mp listed).symm⟩
  have joined {word : List (Piece Unit)} (inner : IsSolid word) : IsSolid (piece :: word) :=
    ⟨List.cons_ne_nil _ _, fun c listed => (List.mem_cons.mp listed).elim
      (fun same => character c same.symm) (inner.solid c)⟩
  cases lead with
  | nil =>
    cases spaced with
    | nil => exact .last alone leading
    | last inner blanks => exact .last (joined inner) blanks
    | cons inner blanks nonempty more => exact .cons (joined inner) blanks nonempty more
  -- Blanks come before the first word, so the piece is a word of its own.
  | cons c lead =>
    cases spaced with
    | nil => exact .last alone leading
    | last inner blanks => exact .cons alone leading (List.cons_ne_nil _ _) (.last inner blanks)
    | cons inner blanks nonempty more =>
      exact .cons alone leading (List.cons_ne_nil _ _) (.cons inner blanks nonempty more)

/-- Cutting pieces into words loses none of them. -/
theorem cutWords_spaced (pieces : List (Piece Unit)) :
    pieces = (cutWords pieces).1.map .plain ++ spread (cutWords pieces).2
      ∧ IsBlanks (cutWords pieces).1 ∧ Spaced IsSolid (cutWords pieces).2 := by
  induction pieces with
  | nil => exact ⟨rfl, .nil, .nil⟩
  | cons piece pieces ih =>
    obtain ⟨whole, leading, spaced⟩ := ih
    rw [cutWords]
    dsimp only
    split
    next c blank =>
      obtain ⟨rfl, here⟩ : piece = .plain c ∧ isBlank c = true := by
        cases piece with
        | plain d =>
          obtain ⟨here, same⟩ := (Option.ite_none_right_eq_some).mp blank
          cases same
          exact ⟨rfl, here⟩
        | found item source => contradiction
      refine ⟨?_, List.forall_mem_cons.mpr ⟨here, leading⟩, spaced⟩
      rw [List.map_cons, List.cons_append, ← whole]
    next solid =>
      refine ⟨?_, .nil, spaced_putFront solid leading spaced⟩
      rw [spread_putFront, ← whole]
      rfl

/-! ### How words look with tokens in them -/

/-- How pieces look where edges are searched for: an element begins with one and ends with one. -/
def outline (pieces : List (Piece Unit)) : List Char :=
  pieces.flatMap (Piece.write fun _ => Store.tokenEnd ++ Store.tokenEnd)

/-- Texts that are the same but for what stands between the edges of a token. -/
inductive Alike : List Char → List Char → Prop where
  | nil : Alike [] []
  | plain (c : Char) {s t : List Char} (rest : Alike s t) : Alike (c :: s) (c :: t)
  | token (m n : List Char) {s t : List Char} (rest : Alike s t) :
      Alike ('%' :: '%' :: (m ++ '%' :: '%' :: s)) ('%' :: '%' :: (n ++ '%' :: '%' :: t))

theorem keepPieces_alike_outline {store : Store} (pieces : List (Piece Unit)) :
    Alike (keepPieces store pieces).1 (outline pieces) := by
  induction pieces generalizing store with
  | nil => exact .nil
  | cons piece pieces ih =>
    cases piece with
    | plain c => exact .plain c ih
    | found item source =>
      have shape : (keepPieces store (.found item source :: pieces)).1
          = '%' :: '%' :: ("VERBATIM_".toList ++ store.nonce ++ ['_']
            ++ Decimal.natText store.size
            ++ '%' :: '%' :: (keepPieces (store.add source) pieces).1) := by
        rw [Store.keepPieces_found, Store.token_eq, Store.tokenStart_eq, Store.tokenEnd]
        simp
      rw [shape]
      exact .token _ [] ih

namespace Alike

variable {s t : List Char}

/-- A token is longer than one edge and more. -/
theorem eq_of_short (alike : Alike s t) (short : s.length ≤ 3 ∨ t.length ≤ 3) : s = t := by
  induction alike with
  | nil => rfl
  | plain c _ ih =>
    simp only [List.length_cons] at short
    rw [ih (by omega)]
  | token =>
    simp only [List.length_cons, List.length_append] at short
    omega

theorem eq_iff (alike : Alike s t) (short : List Char) (length : short.length ≤ 3) :
    s = short ↔ t = short := by
  constructor
  · rintro rfl
    exact (alike.eq_of_short (.inl length)).symm
  · rintro rfl
    exact alike.eq_of_short (.inr length)

theorem isOneEdge (alike : Alike s t) : IsOneEdge s ↔ IsOneEdge t := by
  rw [IsOneEdge, IsOneEdge, alike.eq_iff _ (by decide), alike.eq_iff _ (by decide)]

theorem closesEdge_cons {c : Char} {s : List Char} :
    ClosesEdge (c :: s) ↔ (c = '>' ∧ s = []) ∨ (c = '%' ∧ s = ['%']) ∨ ClosesEdge s := by
  simp only [ClosesEdge, Store.tokenEnd, List.suffix_cons_iff, List.cons.injEq]
  constructor
  · rintro ((⟨rfl, rfl⟩ | ends) | ⟨rfl, rfl⟩ | ends)
    · exact .inl ⟨rfl, rfl⟩
    · exact .inr (.inr (.inl ends))
    · exact .inr (.inl ⟨rfl, rfl⟩)
    · exact .inr (.inr (.inr ends))
  · rintro (⟨rfl, rfl⟩ | ⟨rfl, rfl⟩ | ends | ends)
    · exact .inl (.inl ⟨rfl, rfl⟩)
    · exact .inr (.inl ⟨rfl, rfl⟩)
    · exact .inl (.inr ends)
    · exact .inr (.inr ends)

/-- Of a text that ends with a token, no more than the edge of the token is looked at. -/
theorem closesEdge_append (m s : List Char) :
    ClosesEdge (m ++ '%' :: '%' :: s) ↔ ClosesEdge ('%' :: '%' :: s) := by
  induction m with
  | nil => rfl
  | cons c m ih =>
    have long : m ++ '%' :: '%' :: s ≠ ['%'] := by
      intro same
      have length := congrArg List.length same
      simp only [List.length_append, List.length_cons, List.length_nil] at length
      omega
    rw [List.cons_append, closesEdge_cons, ih]
    simp [long]

theorem closesEdge_percents {s : List Char} :
    ClosesEdge ('%' :: '%' :: s) ↔ s = [] ∨ s = ['%'] ∨ ClosesEdge s := by
  rw [closesEdge_cons, closesEdge_cons]
  simp

theorem closesEdge (alike : Alike s t) : ClosesEdge s ↔ ClosesEdge t := by
  induction alike with
  | nil => rfl
  | plain c rest ih =>
    rw [closesEdge_cons, closesEdge_cons, rest.eq_iff [] (by decide),
      rest.eq_iff ['%'] (by decide), ih]
  | @token m n s t rest ih =>
    -- Tokens may differ within, but not in the edge that they end with.
    have first := closesEdge_append ('%' :: '%' :: m) s
    have second := closesEdge_append ('%' :: '%' :: n) t
    rw [List.cons_append, List.cons_append] at first second
    rw [first, second, closesEdge_percents, closesEdge_percents,
      rest.eq_iff [] (by decide), rest.eq_iff ['%'] (by decide), ih]

theorem prefix_percent (alike : Alike s t) : ['%'] <+: s ↔ ['%'] <+: t := by
  cases alike with
  | nil => rfl
  | plain c rest => simp [List.cons_prefix_cons]
  | token m n rest => simp [List.cons_prefix_cons]

theorem opensEdge (alike : Alike s t) : OpensEdge s ↔ OpensEdge t := by
  cases alike with
  | nil => rfl
  | plain c rest =>
    simp only [OpensEdge, Store.tokenEnd, List.cons_prefix_cons, List.nil_prefix, and_true,
      rest.prefix_percent]
  | token m n rest =>
    exact iff_of_true (.inr (List.prefix_append ['%', '%'] _))
      (.inr (List.prefix_append ['%', '%'] _))

theorem isClosed {u v : List Char} (first : Alike s t) (second : Alike u v) (used : Bool) :
    IsClosed used s u ↔ IsClosed used t v := by
  rw [IsClosed, IsClosed, first.closesEdge, second.opensEdge, first.isOneEdge]

end Alike

/-! ### Squeezing the words -/

/-- The pieces of a word with the blanks behind it, before and after. -/
def Word.before (word : Word (List (Piece Unit))) : List (Piece Unit) :=
  word.text ++ word.run.map .plain

def Word.after (word : Word (List (Piece Unit))) : List (Piece Unit) :=
  word.text ++ word.kept.map .plain

/-- Words of pieces with what is left of the blanks between them. -/
def respaced (words : List (List (Piece Unit) × List Char)) : List (Word (List (Piece Unit))) :=
  respace outline false words

namespace Store

variable {store : Store}

theorem keepPieces_append (store : Store) (front back : List (Piece Unit)) :
    keepPieces store (front ++ back) = ((keepPieces store front).1
      ++ (keepPieces (keepPieces store front).2 back).1,
        (keepPieces (keepPieces store front).2 back).2) := by
  induction front generalizing store with
  | nil => rfl
  | cons piece front ih =>
    cases piece with
    | plain c => rw [List.cons_append, keepPieces, ih, keepPieces]; rfl
    | found item source =>
      rw [List.cons_append, keepPieces, ih, keepPieces, List.append_assoc]

theorem keepPieces_blanks (store : Store) (gap : List Char) :
    keepPieces store (gap.map .plain) = (gap, store) := by
  induction gap with
  | nil => rfl
  | cons c gap ih => rw [List.map_cons, keepPieces, ih]

/-- The words with tokens for their elements. -/
def inked (store : Store) :
    List (List (Piece Unit) × List Char) → List (List Char × List Char)
  | [] => []
  | (word, gap) :: rest => ((keepPieces store word).1, gap) :: inked (keepPieces store word).2 rest

theorem keepPieces_spread (store : Store) (words : List (List (Piece Unit) × List Char)) :
    (keepPieces store (spread words)).1 = joined (inked store words) := by
  induction words generalizing store with
  | nil => rfl
  | cons word rest ih =>
    rw [spread_cons, keepPieces_append, keepPieces_append, keepPieces_blanks, inked, joined_cons,
      ih]

theorem isBlank_of_isTokenChar {c : Char} (token : isTokenChar c = true) : isBlank c = false := by
  simp only [isTokenChar, Bool.or_eq_true, decide_eq_true_eq] at token
  rcases token with (letter | rfl) | rfl
  · exact (isInner_eq_true.mp (isInner_of_isAlphanum letter)).1
  · decide
  · decide

theorem isWord_keepPieces (lettered : store.Lettered) {word : List (Piece Unit)}
    (solid : IsSolid word) : IsWord (keepPieces store word).1 := by
  obtain ⟨nonempty, plain⟩ := solid
  constructor
  · obtain ⟨piece, word, rfl⟩ := List.exists_cons_of_ne_nil nonempty
    cases piece with
    | plain c => exact List.cons_ne_nil _ _
    | found item source =>
      rw [keepPieces_found, token_eq, tokenStart_eq]
      exact List.cons_ne_nil _ _
  · -- Characters of a word are no blanks, and those of a token are none either.
    clear nonempty
    induction word generalizing store with
    | nil => exact fun c listed => absurd listed List.not_mem_nil
    | cons piece word ih =>
      have rest (c : Char) (listed : .plain c ∈ word) : isBlank c = false :=
        plain c (.tail _ listed)
      cases piece with
      | plain c =>
        rw [keepPieces_plain]
        exact List.forall_mem_cons.mpr ⟨plain c List.mem_cons_self, ih lettered rest⟩
      | found item source =>
        have added : (store.add source).Lettered := lettered
        rw [keepPieces_found]
        intro c listed
        rcases List.mem_append.mp listed with here | there
        · exact isBlank_of_isTokenChar (isTokenChar_of_mem lettered here)
        · exact ih added rest c there

theorem spaced_inked (lettered : store.Lettered) {words : List (List (Piece Unit) × List Char)}
    (spaced : Spaced IsSolid words) : Spaced IsWord (inked store words) := by
  induction spaced generalizing store with
  | nil => exact .nil
  | last solid blanks => exact .last (isWord_keepPieces lettered solid) blanks
  | @cons word next gap later rest solid blanks nonempty _ ih =>
    have later : (keepPieces store word).2.Lettered :=
      (keepPieces_extends store word).lettered lettered
    exact .cons (isWord_keepPieces lettered solid) blanks nonempty (ih later)

/-- The words look the same with tokens in them, so the same is left of the blanks. -/
theorem keepPieces_respace (store : Store) (used : Bool)
    (words : List (List (Piece Unit) × List Char)) :
    (keepPieces store ((respace outline used words).flatMap Word.after)).1
      = (respace id used (inked store words)).flatMap fun word => word.text ++ word.kept := by
  induction words generalizing store used with
  | nil => rfl
  | cons word rest ih =>
    obtain ⟨word, gap⟩ := word
    cases rest with
    | nil =>
      simp [respace, inked, Word.after]
    | cons next rest =>
      obtain ⟨next, later⟩ := next
      -- Whether two words are joined is seen at their outlines, which tokens leave alike.
      have same : IsClosed used (id (keepPieces store word).1)
          (id (keepPieces (keepPieces store word).2 next).1)
          ↔ IsClosed used (outline word) (outline next) :=
        (keepPieces_alike_outline word).isClosed (keepPieces_alike_outline next) used
      have shape (used : Bool) := ih (keepPieces store word).2 used
      rw [inked] at shape
      rw [inked, inked, respace, respace]
      simp only [same]
      split
      next closed =>
        rw [List.flatMap_cons, List.flatMap_cons, keepPieces_append, ← shape true, Word.after]
        simp
      next kept =>
        rw [List.flatMap_cons, List.flatMap_cons, keepPieces_append, ← shape false, Word.after,
          keepPieces_append, keepPieces_blanks]

end Store

theorem squeeze_keepPieces {store : Store} (lettered : store.Lettered) {lead : List Char}
    {words : List (List (Piece Unit) × List Char)} (leading : IsBlanks lead)
    (spaced : Spaced IsSolid words) :
    squeeze (keepPieces store (lead.map .plain ++ spread words)).1
      = (keepPieces store ((respaced words).flatMap Word.after)).1 := by
  rw [Store.keepPieces_append, Store.keepPieces_blanks, Store.keepPieces_spread,
    squeeze_words leading (Store.spaced_inked lettered spaced), respaced, Store.keepPieces_respace]

end StaticSite.Markup
