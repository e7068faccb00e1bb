import StaticSite.Proofs.Markup.Words

/-!
# Minified markup

Minified markup has the elements of the markup that it is made of and the same characters between
them, and of the blanks what the words around them ask for. Words are joined where blanks stand
between edges. An edge is meant to be one of a tag or an element, but two percent signs of the text
are taken for one as well.
-/

namespace StaticSite.Markup

open StaticSite.Text

/-! ### Reading the words again -/

/-- Whether an edge ends where pieces end, if one ends in front of them or not. -/
def endsIn : Bool → List (Piece Unit) → Bool
  | edge, [] => edge
  | _, .plain c :: pieces => endsIn (endsEdge c) pieces
  | _, .found _ _ :: pieces => endsIn true pieces

theorem Respaced.append {edge : Bool} {p q : List (Piece Unit)} (word : List (Piece Unit))
    (rest : Respaced (endsIn edge word) p q) : Respaced edge (word ++ p) (word ++ q) := by
  induction word generalizing edge with
  | nil => exact rest
  | cons piece word ih =>
    cases piece with
    | plain c => exact .plain (ih rest)
    | found item source => exact .found (ih rest)

/-- An element begins with a bracket. -/
def Bracketed (pieces : List (Piece Unit)) : Prop :=
  ∀ item source, Piece.found item source ∈ pieces → ∃ rest, source = '<' :: rest

theorem outline_plain (c : Char) (pieces : List (Piece Unit)) :
    outline (.plain c :: pieces) = c :: outline pieces := rfl

theorem outline_found (item : Unit) (source : List Char) (pieces : List (Piece Unit)) :
    outline (.found item source :: pieces) = '%' :: '%' :: '%' :: '%' :: outline pieces := rfl

theorem endsIn_eq (edge : Bool) (word : List (Piece Unit)) :
    endsIn edge word = ((outline word).getLast?.map endsEdge).getD edge := by
  induction word generalizing edge with
  | nil => rfl
  | cons piece word ih =>
    cases piece with
    | plain c =>
      rw [endsIn, ih, outline_plain, List.getLast?_cons]
      cases (outline word).getLast? <;> rfl
    | found item source =>
      rw [endsIn, ih, outline_found]
      simp only [List.getLast?_cons]
      cases (outline word).getLast? <;> rfl

theorem endsIn_of_closesEdge {edge : Bool} {word : List (Piece Unit)}
    (closes : ClosesEdge (outline word)) : endsIn edge word = true := by
  rw [endsIn_eq]
  rcases closes with ⟨front, shape⟩ | ⟨front, shape⟩
  · rw [← shape, List.getLast?_concat]
    rfl
  · have whole : front ++ Store.tokenEnd = front ++ ['%'] ++ ['%'] := by simp [Store.tokenEnd]
    rw [← shape, whole, List.getLast?_concat]
    rfl

theorem enters_of_opensEdge {word : List (Piece Unit)} (pieces : List (Piece Unit))
    (opens : OpensEdge (outline word)) (bracketed : Bracketed word) :
    Enters ((word ++ pieces).flatMap Piece.source) := by
  rcases word with _ | ⟨⟨c⟩ | ⟨item, source⟩, word⟩
  · rcases opens with ends | ends <;> cases List.prefix_nil.mp ends
  · rw [outline_plain, OpensEdge, Store.tokenEnd, List.cons_prefix_cons,
      List.cons_prefix_cons] at opens
    rcases opens with ⟨rfl, -⟩ | ⟨rfl, percent⟩
    · exact .bracket _
    · -- The second percent sign is one of the markup or stands for an element.
      rcases word with _ | ⟨⟨d⟩ | ⟨item, source⟩, word⟩
      · cases List.prefix_nil.mp percent
      · obtain ⟨rfl, -⟩ := List.cons_prefix_cons.mp percent
        exact .percents _
      · obtain ⟨rest, rfl⟩ := bracketed item source (.tail _ List.mem_cons_self)
        exact .percent _
  · obtain ⟨rest, rfl⟩ := bracketed item source List.mem_cons_self
    exact .bracket _

theorem shorten_eq {gap : List Char} (blanks : IsBlanks gap) (nonempty : gap ≠ []) :
    ∃ c, isBlank c = true ∧ shorten gap = [c] := by
  match gap, nonempty with
  | [c], _ => exact ⟨c, blanks c List.mem_cons_self, rfl⟩
  | c :: d :: gap, _ => exact ⟨' ', by decide, by simp [shorten]⟩

theorem respace_cons {ω : Type} (look : ω → List Char) (used : Bool) (word : ω × List Char)
    (rest : List (ω × List Char)) :
    ∃ kept tail, respace look used (word :: rest) = ⟨word.1, word.2, kept⟩ :: tail := by
  cases rest with
  | nil => exact ⟨[], [], rfl⟩
  | cons next rest =>
    rw [respace]
    split <;> exact ⟨_, _, rfl⟩

/-- What is left of the words is a respacing of them. -/
theorem respaced_respace {edge used : Bool} {words : List (List (Piece Unit) × List Char)}
    (spaced : Spaced IsSolid words) (bracketed : Bracketed (spread words)) :
    Respaced edge (spread words) ((respace outline used words).flatMap Word.after) := by
  induction spaced generalizing edge used with
  | nil => exact .ended .nil
  | @last word gap solid blanks =>
    have ended : Respaced (endsIn edge word) (gap.map .plain) [] := .ended blanks
    have whole := ended.append
    simpa [spread, respace, Word.after] using whole
  | @cons word next gap later rest solid blanks nonempty _ ih =>
    rw [spread_cons] at bracketed ⊢
    have behind : Bracketed (spread ((next, later) :: rest)) := fun item source listed =>
      bracketed item source (List.mem_append_right _ (List.mem_append_right _ listed))
    rw [respace]
    split
    next closed =>
      obtain ⟨closes, opens, -⟩ := closed
      rw [List.flatMap_cons, Word.after, List.map_nil, List.append_nil]
      refine .append word ?_
      rw [endsIn_of_closesEdge closes]
      -- What is left goes on with the next word, so with the edge that this begins with.
      refine .closed blanks ?_ (ih behind)
      obtain ⟨kept, tail, shape⟩ := respace_cons outline true (next, later) rest
      rw [shape, List.flatMap_cons, Word.after, List.append_assoc]
      refine enters_of_opensEdge _ opens fun item source listed => behind item source ?_
      rw [spread_cons]
      exact List.mem_append_left _ listed
    next kept =>
      obtain ⟨c, blank, short⟩ := shorten_eq blanks nonempty
      rw [List.flatMap_cons, Word.after, short, List.append_assoc]
      exact .append word (.shorter blanks nonempty blank (ih behind))

/-! ### What minifying makes of a markup -/

/-- The pieces of a markup that are no blanks. -/
def ink (pieces : List (Piece Unit)) : List (Piece Unit) :=
  pieces.filter fun piece => (blank? piece).isNone

/-- The characters of a markup outside of its elements. -/
def outside (pieces : List (Piece Unit)) : List Char :=
  pieces.filterMap fun
    | .plain c => some c
    | .found _ _ => none

/-- Whether the blanks behind the last of some words are gone, or what was the case before them. -/
def usedAfter {ω : Type} : Bool → List (Word ω) → Bool
  | used, [] => used
  | _, word :: words => usedAfter word.kept.isEmpty words

/-- Some pieces are words with runs of blanks between, and others are these words with what is left
of the blanks: nothing of those at the ends and of those between edges, and otherwise short ones. -/
structure Minified (before after : List (Piece Unit)) (lead : List Char)
    (words : List (Word (List (Piece Unit)))) : Prop where
  read : before = lead.map .plain ++ words.flatMap Word.before
  left : after = words.flatMap Word.after
  leading : IsBlanks lead
  solid : ∀ word ∈ words, IsSolid word.text ∧ IsBlanks word.run ∧ IsBlanks word.kept
  last : ∀ front word, words = front ++ [word] → word.kept = []
  inner : ∀ front word next back, words = front ++ word :: next :: back → word.run ≠ [] ∧
    word.kept = if IsClosed (usedAfter false front) (outline word.text) (outline next.text) then []
      else shorten word.run

section

variable {ω : Type} {look : ω → List Char} {IsSolid : ω → Prop} {words : List (ω × List Char)}

theorem respace_map (look : ω → List Char) (used : Bool) (words : List (ω × List Char)) :
    (respace look used words).map (fun word => (word.text, word.run)) = words := by
  fun_induction respace look used words with
  | case1 => rfl
  | case2 => rfl
  | case3 used word gap next later rest _ ih => rw [List.map_cons, ih]
  | case4 used word gap next later rest _ ih => rw [List.map_cons, ih]

theorem respace_forall (spaced : Spaced IsSolid words) (used : Bool) :
    ∀ word ∈ respace look used words,
      IsSolid word.text ∧ IsBlanks word.run ∧ IsBlanks word.kept := by
  induction spaced generalizing used with
  | nil => exact fun _ listed => absurd listed List.not_mem_nil
  | last solid blanks => exact List.forall_mem_singleton.mpr ⟨solid, blanks, .nil⟩
  | cons solid blanks _ _ ih =>
    rw [respace]
    split
    next => exact List.forall_mem_cons.mpr ⟨⟨solid, blanks, .nil⟩, ih true⟩
    next =>
      exact List.forall_mem_cons.mpr ⟨⟨solid, blanks, isBlanks_shorten blanks⟩, ih false⟩

theorem respace_ne_nil (used : Bool) (word : ω × List Char) (rest : List (ω × List Char)) :
    respace look used (word :: rest) ≠ [] := by
  obtain ⟨kept, tail, shape⟩ := respace_cons look used word rest
  rw [shape]
  exact List.cons_ne_nil _ _

theorem respace_cons_cons (used : Bool) {word next : ω} {gap later : List Char}
    (nonempty : gap ≠ []) (rest : List (ω × List Char)) :
    let kept := if IsClosed used (look word) (look next) then [] else shorten gap
    respace look used ((word, gap) :: (next, later) :: rest)
      = ⟨word, gap, kept⟩ :: respace look kept.isEmpty ((next, later) :: rest) := by
  intro kept
  rw [respace]
  by_cases closed : IsClosed used (look word) (look next)
  · rw [if_pos closed, show kept = [] from if_pos closed]
    rfl
  · have filled : (shorten gap).isEmpty = false := by
      rw [shorten]
      split
      · rfl
      · simpa using nonempty
    rw [if_neg closed, show kept = shorten gap from if_neg closed, filled]

theorem respace_last {used : Bool} {front : List (Word ω)} {word : Word ω}
    (spaced : Spaced IsSolid words) (shape : respace look used words = front ++ [word]) :
    word.kept = [] := by
  induction spaced generalizing used front with
  | nil => simp [respace] at shape
  | last =>
    rcases front with _ | ⟨other, _ | ⟨more, front⟩⟩ <;> simp only [respace, List.nil_append,
      List.cons_append, List.cons.injEq, reduceCtorEq, and_false, and_true] at shape
    rw [← shape]
  | cons _ _ nonempty _ ih =>
    rw [respace_cons_cons _ nonempty] at shape
    cases front with
    | nil => exact absurd (List.cons.inj shape).2 (respace_ne_nil _ _ _)
    | cons other front => exact ih (List.cons.inj shape).2

theorem respace_inner (spaced : Spaced IsSolid words) {used : Bool} {front back : List (Word ω)}
    {word next : Word ω} (shape : respace look used words = front ++ word :: next :: back) :
    word.run ≠ [] ∧
      word.kept = if IsClosed (usedAfter used front) (look word.text) (look next.text) then []
        else shorten word.run := by
  -- The induction goes along the words in front, which change only whether an edge is used.
  induction spaced generalizing used front with
  | nil => simp [respace] at shape
  | last => cases front <;> simp [respace] at shape
  | @cons first second gap later rest _ _ nonempty _ ih =>
    rw [respace_cons_cons _ nonempty] at shape
    cases front with
    | nil =>
      obtain ⟨rfl, behind⟩ := List.cons.inj shape
      obtain ⟨kept, tail, begins⟩ := respace_cons look _ (second, later) rest
      rw [begins] at behind
      obtain ⟨rfl, -⟩ := List.cons.inj behind
      exact ⟨nonempty, rfl⟩
    | cons other front =>
      obtain ⟨rfl, behind⟩ := List.cons.inj shape
      have inner := ih behind
      exact inner

end

theorem ink_append (front back : List (Piece Unit)) : ink (front ++ back) = ink front ++ ink back :=
  List.filter_append ..

theorem ink_blanks {gap : List Char} (blanks : IsBlanks gap) : ink (gap.map .plain) = [] := by
  rw [ink, List.filter_eq_nil_iff]
  intro piece listed
  obtain ⟨c, inside, rfl⟩ := List.mem_map.mp listed
  simp [blank?, blanks c inside]

/-- Minified pieces differ in blanks only. -/
theorem Minified.ink {before after : List (Piece Unit)} {lead : List Char}
    {words : List (Word (List (Piece Unit)))} (minified : Minified before after lead words) :
    ink after = ink before := by
  rw [minified.read, minified.left, ink_append, ink_blanks minified.leading, List.nil_append]
  have solid := minified.solid
  clear minified
  induction words with
  | nil => rfl
  | cons word words ih =>
    obtain ⟨⟨-, run, kept⟩, rest⟩ := List.forall_mem_cons.mp solid
    rw [List.flatMap_cons, List.flatMap_cons, ink_append, ink_append, ih rest, Word.before,
      Word.after, ink_append, ink_append, ink_blanks run, ink_blanks kept]

theorem sources_ink (pieces : List (Piece Unit)) :
    Store.sources (ink pieces) = Store.sources pieces := by
  induction pieces with
  | nil => rfl
  | cons piece pieces ih =>
    rw [ink] at ih ⊢
    cases piece with
    | plain c =>
      rw [List.filter_cons]
      split
      · exact ih
      · exact ih
    | found item source => exact congrArg (source :: ·) ih

theorem outside_ink (pieces : List (Piece Unit)) :
    outside (ink pieces) = (outside pieces).filter fun c => !isBlank c := by
  induction pieces with
  | nil => rfl
  | cons piece pieces ih =>
    rw [ink, outside] at ih ⊢
    rw [outside] at ih ⊢
    cases piece with
    | plain c =>
      cases kind : isBlank c <;> simpa [blank?, kind] using ih
    | found item source => simpa [blank?] using ih

theorem minified_respaced {lead : List Char} {words : List (List (Piece Unit) × List Char)}
    (leading : IsBlanks lead) (spaced : Spaced IsSolid words) :
    Minified (lead.map .plain ++ spread words) ((respaced words).flatMap Word.after) lead
      (respaced words) where
  read := by
    have whole : spread words = (respaced words).flatMap Word.before := by
      rw [spread, ← respace_map outline false words, List.flatMap_map, respace_map, respaced]
      rfl
    rw [whole]
  left := rfl
  leading := leading
  solid := respace_forall spaced false
  last _ _ := respace_last spaced
  inner _ _ _ _ := respace_inner spaced

theorem small_preservedTags : ∀ tag ∈ preservedTags, IsSmall tag := by
  have all : ∀ tag ∈ preservedTags, tag.all isAsciiLower = true := by decide
  exact fun tag listed => List.all_eq_true.mp (all tag listed)

theorem elements_bracketed {tags : List (List Char)} (s : List Char) :
    Bracketed ((elements tags).pieces s) := by
  intro item source listed
  obtain ⟨rest, recognised⟩ := Scanner.run_of_mem listed
  obtain ⟨after, read, same⟩ := Option.map_eq_some_iff.mp recognised
  cases same
  obtain ⟨front, whole⟩ := anyElementFront?_suffix read
  exact ⟨front, List.append_cancel_right whole⟩

/-- Without comments nothing is taken out of what is left of a markup. -/
theorem stripComments_keepPieces {store : Store} (lettered : store.Lettered)
    {pieces : List (Piece Unit)} (uncommented : ¬ commentOpening.map Piece.plain <:+: pieces) :
    stripComments (keepPieces store pieces).1 = (keepPieces store pieces).1 := by
  refine stripComments_of_absent fun inside => uncommented ?_
  exact Store.plain_infix_of_keepPieces lettered (by decide) (by decide) inside

/-- Stores that have kept the same elements are the same. -/
theorem keepPieces_extends_of_sources {store : Store} {p q : List (Piece Unit)}
    (same : Store.sources p = Store.sources q) :
    Store.Extends (keepPieces store p).2 (keepPieces store q).2 := by
  refine ⟨(Store.keepPieces_extends store q).nonce.trans
    (Store.keepPieces_extends store p).nonce.symm, ?_⟩
  rw [Store.keepPieces_fragments, Store.keepPieces_fragments, same]

/-- Minifying a markup gives what is left of the words that it is made of, and these are read again
as they are. -/
theorem minify_spread {nonce s lead : List Char} {words : List (List (Piece Unit) × List Char)}
    (lettered : (Store.empty nonce).Lettered) (absent : ¬ (Store.empty nonce).tokenStart <:+: s)
    (uncommented : ¬ commentOpening.map Piece.plain <:+: (elements preservedTags).pieces s)
    (whole : (elements preservedTags).pieces s = lead.map .plain ++ spread words)
    (leading : IsBlanks lead) (spaced : Spaced IsSolid words) :
    let left := (respaced words).flatMap Word.after
    minify nonce s = .ok (left.flatMap Piece.source) ∧
      (elements preservedTags).pieces (left.flatMap Piece.source) = left := by
  intro left
  have source := (elements preservedTags).source_pieces s
  rw [whole, Respaced.source_map_plain] at source
  have inside {piece : Piece Unit} (listed : piece ∈ spread words) :
      piece ∈ (elements preservedTags).pieces s := whole ▸ List.mem_append_right _ listed
  have respaced : Respaced false (spread words) left :=
    respaced_respace spaced fun item source listed =>
      elements_bracketed s item source (inside listed)
  have read : (elements preservedTags).pieces ((spread words).flatMap Piece.source)
      = spread words := by
    have pieces := Scanner.pieces_skip
      (elements_skip_blanks preservedTags leading ((spread words).flatMap Piece.source))
    rw [source, whole] at pieces
    exact (List.append_cancel_left pieces).symm
  refine ⟨?_, pieces_respaced small_preservedTags respaced read⟩
  have tight := respaced.tightened fun item source listed => elements_ends (inside listed)
  -- The elements stand for their tokens again only if no other token begins in what is left.
  have free : ¬ (Store.empty nonce).tokenStart <:+: left.flatMap Piece.source := fun start =>
    absent ((tight.tokenStart lettered start).trans ⟨lead, [], by rw [List.append_nil, source]⟩)
  have same : Store.sources left = Store.sources (lead.map .plain ++ spread words) := by
    rw [← sources_ink, (minified_respaced leading spaced).ink, sources_ink]
  have kept : Store.Extends (keepPieces (.empty nonce) left).2
      (keepPieces (.empty nonce) (lead.map .plain ++ spread words)).2 :=
    keepPieces_extends_of_sources same
  have percent : '%' ∉ (Store.empty nonce).nonce := by
    intro listed
    exact absurd (lettered _ listed) (by decide)
  show restore (squeeze (stripComments (keepPieces (.empty nonce)
    ((elements preservedTags).pieces s)).1)) (keepPieces (.empty nonce)
      ((elements preservedTags).pieces s)).2 = _
  rw [stripComments_keepPieces lettered uncommented, whole,
    squeeze_keepPieces lettered leading spaced]
  refine Store.restore_keepPieces percent kept ?_
  rwa [Store.tokenStart_congr (Store.keepPieces_extends (.empty nonce) _).nonce]

/-- Minifying goes through, and what comes out has the same elements, byte for byte and in the same
order, with the same characters between them as far as these are no blanks. The markup may be any
text in which no token begins and that has no comments outside of its elements. -/
theorem minify_keeps_elements {nonce s : List Char} (lettered : (Store.empty nonce).Lettered)
    (absent : ¬ (Store.empty nonce).tokenStart <:+: s)
    (uncommented : ¬ commentOpening.map Piece.plain <:+: (elements preservedTags).pieces s) :
    ∃ t, minify nonce s = .ok t ∧
      let before := (elements preservedTags).pieces s
      let after := (elements preservedTags).pieces t
      Store.sources after = Store.sources before ∧
      (outside after).filter (fun c => !isBlank c) = (outside before).filter (fun c => !isBlank c) ∧
      ink after = ink before := by
  obtain ⟨whole, leading, spaced⟩ := cutWords_spaced ((elements preservedTags).pieces s)
  obtain ⟨minified, again⟩ := minify_spread lettered absent uncommented whole leading spaced
  refine ⟨_, minified, ?_⟩
  intro before after
  -- Respacing moves blanks alone, and ink is all but blanks.
  have same : ink after = ink before := by
    rw [show after = _ from again, show before = _ from whole]
    exact (minified_respaced leading spaced).ink
  exact ⟨by rw [← sources_ink, same, sources_ink], by rw [← outside_ink, same, outside_ink], same⟩

/-- Blanks inside of a tag, between tags, beside an element, and behind an element that is not
closed. -/
def preformatted : List Char := " <b> a </b>\n<pre> x\n y </pre>  <code> c".toList

/-- The element stays as it is, and the blanks around it go. -/
theorem minify_keeps_elements_preformatted :
    let left := "<b> a </b><pre> x\n y </pre><code> c".toList
    (Store.empty ['n']).Lettered ∧ ¬ (Store.empty ['n']).tokenStart <:+: preformatted ∧
    ¬ commentOpening.map Piece.plain <:+: (elements preservedTags).pieces preformatted ∧
    minify ['n'] preformatted = .ok left ∧
    Store.sources ((elements preservedTags).pieces left) = ["<pre> x\n y </pre>".toList] ∧
    (outside ((elements preservedTags).pieces left)).filter (fun c => !isBlank c)
      = "<b>a</b><code>c".toList := by
  intro left
  have lettered : (Store.empty ['n']).Lettered := by
    intro c listed
    rw [List.mem_singleton.mp listed]
    rfl
  have absent : ¬ (Store.empty ['n']).tokenStart <:+: preformatted := by decide +kernel
  have uncommented :
      ¬ commentOpening.map Piece.plain <:+: (elements preservedTags).pieces preformatted := by
    decide +kernel
  obtain ⟨text, minified, sources, characters, -⟩ :=
    minify_keeps_elements lettered absent uncommented
  have same : minify ['n'] preformatted = .ok left := by decide +kernel
  obtain rfl : left = text := Except.ok.inj (same.symm.trans minified)
  refine ⟨lettered, absent, uncommented, same, sources.trans ?_, characters.trans ?_⟩
  · decide +kernel
  · decide +kernel

/-! ### Joined words -/

/-- A word ends with the bracket of a tag or with an element. -/
def EndsTag (word : List (Piece Unit)) : Prop :=
  ∃ front last, word = front ++ [last] ∧
    (last = .plain '>' ∨ ∃ item source, last = .found item source)

/-- A word begins with the bracket of a tag or with an element. -/
def BeginsTag (word : List (Piece Unit)) : Prop :=
  ∃ first rest, word = first :: rest ∧
    (first = .plain '<' ∨ ∃ item source, first = .found item source)

variable {word : List (Piece Unit)}

theorem outline_append (front back : List (Piece Unit)) :
    outline (front ++ back) = outline front ++ outline back := List.flatMap_append

theorem EndsTag.closesEdge (ends : EndsTag word) :
    ClosesEdge (outline word) ∧ ¬ IsOneEdge (outline word) := by
  obtain ⟨front, last, rfl, rfl | ⟨item, source, rfl⟩⟩ := ends
  · have shape : outline (front ++ [.plain '>']) = outline front ++ ['>'] := outline_append _ _
    -- A word that is one edge is of percent signs alone, and no more than three of them.
    have bracket : '>' ∈ outline front ++ ['>'] := List.mem_append_right _ List.mem_cons_self
    rw [shape]
    refine ⟨.inl ⟨outline front, rfl⟩, ?_⟩
    rintro (same | same)
    · exact absurd (same ▸ bracket) (by decide)
    · exact absurd (same ▸ bracket) (by decide)
  · have shape : outline (front ++ [.found item source])
        = outline front ++ ['%', '%'] ++ Store.tokenEnd := by
      rw [outline_append, List.append_assoc]
      rfl
    rw [shape]
    refine ⟨.inr ⟨_, rfl⟩, ?_⟩
    rintro (same | same)
    · simpa [Store.tokenEnd] using congrArg List.length same
    · simpa [Store.tokenEnd] using congrArg List.length same

theorem BeginsTag.opensEdge (begins : BeginsTag word) :
    OpensEdge (outline word) ∧ ¬ IsOneEdge (outline word) := by
  obtain ⟨first, rest, rfl, rfl | ⟨item, source, rfl⟩⟩ := begins
  · rw [outline_plain]
    exact ⟨.inl (List.prefix_append ['<'] _), by simp [IsOneEdge]⟩
  · rw [outline_found]
    exact ⟨.inr (List.prefix_append ['%', '%'] _), by simp [IsOneEdge]⟩

theorem usedAfter_append {ω : Type} (used : Bool) (front : List (Word ω)) (word : Word ω) :
    usedAfter used (front ++ [word]) = word.kept.isEmpty := by
  induction front generalizing used with
  | nil => rfl
  | cons other front ih => exact ih other.kept.isEmpty

theorem usedAfter_eq_true {ω : Type} {words : List (Word ω)} (used : usedAfter false words = true) :
    ∃ front word, words = front ++ [word] ∧ word.kept = [] := by
  rcases List.eq_nil_or_concat words with rfl | ⟨front, word, rfl⟩
  · contradiction
  · rw [List.concat_eq_append, usedAfter_append, List.isEmpty_iff] at used
    exact ⟨front, word, List.concat_eq_append, used⟩

namespace Minified

variable {before after : List (Piece Unit)} {lead : List Char}
  {words front back : List (Word (List (Piece Unit)))} {word next : Word (List (Piece Unit))}

/-- The blanks behind a word go exactly if they stand between edges and the first of these has not
been used up. -/
theorem kept_eq_nil_iff (minified : Minified before after lead words)
    (shape : words = front ++ word :: next :: back) : word.kept = [] ↔
      IsClosed (usedAfter false front) (outline word.text) (outline next.text) := by
  obtain ⟨nonempty, kept⟩ := minified.inner front word next back shape
  have listed : word ∈ words := shape ▸ List.mem_append_right _ List.mem_cons_self
  obtain ⟨c, -, short⟩ := shorten_eq (minified.solid word listed).2.1 nonempty
  rw [kept]
  split
  next closed => exact iff_of_true rfl closed
  next other =>
    rw [short]
    exact iff_of_false (List.cons_ne_nil _ _) other

theorem kept_blank (minified : Minified before after lead words)
    (shape : words = front ++ word :: next :: back) :
    word.kept = [] ∨ ∃ c, isBlank c = true ∧ word.kept = [c] := by
  obtain ⟨nonempty, kept⟩ := minified.inner front word next back shape
  have listed : word ∈ words := shape ▸ List.mem_append_right _ List.mem_cons_self
  obtain ⟨c, blank, short⟩ := shorten_eq (minified.solid word listed).2.1 nonempty
  rw [kept]
  split
  next => exact .inl rfl
  next => exact .inr ⟨c, blank, short⟩

/-- If words are joined at tags and elements only, then no edge of percent signs takes part in a
gap: one that has been used up would have joined its word to the one before. -/
theorem tags_of_joined (minified : Minified before after lead words)
    (joined : ∀ word next, [word, next] <:+: words → word.kept = [] →
      EndsTag word.text ∧ BeginsTag next.text)
    (shape : words = front ++ word :: next :: back) (closes : ClosesEdge (outline word.text))
    (opens : OpensEdge (outline next.text)) : EndsTag word.text ∧ BeginsTag next.text := by
  refine joined word next ⟨front, back, by rw [shape]; simp⟩ ?_
  refine (minified.kept_eq_nil_iff shape).mpr ⟨closes, opens, ?_⟩
  rintro ⟨used, one⟩
  obtain ⟨front, other, rfl, gone⟩ := usedAfter_eq_true used
  have tagged := joined other word ⟨front, next :: back, by rw [shape]; simp⟩ gone
  exact tagged.2.opensEdge.2 one

end Minified

/-- Minifying a markup leaves one blank between two of its words, or joins them. Words are joined
between the edges of tags and elements, and never but between edges. That the edges are always of
tags and elements holds exactly for the markups without blanks between edges of which one is of
percent signs: these may be characters of the text, and are taken for a token. -/
theorem minify_joins_iff {nonce s : List Char} (lettered : (Store.empty nonce).Lettered)
    (absent : ¬ (Store.empty nonce).tokenStart <:+: s)
    (uncommented : ¬ commentOpening.map Piece.plain <:+: (elements preservedTags).pieces s) :
    let read := (elements preservedTags).pieces s
    let words := respaced (cutWords read).2
    (∃ t, minify nonce s = .ok t ∧
      Minified read ((elements preservedTags).pieces t) (cutWords read).1 words) ∧
    (∀ word next, [word, next] <:+: words →
      (word.kept = [] ∨ ∃ c, isBlank c = true ∧ word.kept = [c]) ∧
      (EndsTag word.text → BeginsTag next.text → word.kept = []) ∧
      (word.kept = [] → ClosesEdge (outline word.text) ∧ OpensEdge (outline next.text))) ∧
    ((∀ word next, [word, next] <:+: words → word.kept = [] →
        EndsTag word.text ∧ BeginsTag next.text) ↔
      ∀ word next, [word, next] <:+: words → ClosesEdge (outline word.text) →
        OpensEdge (outline next.text) → EndsTag word.text ∧ BeginsTag next.text) := by
  intro read words
  obtain ⟨whole, leading, spaced⟩ := cutWords_spaced read
  -- The words are those of the markup, and what is left between them is a rule of two neighbours.
  obtain ⟨done, again⟩ := minify_spread lettered absent uncommented whole leading spaced
  have minified := minified_respaced leading spaced
  rw [← whole] at minified
  refine ⟨⟨_, done, by rwa [again]⟩, ?_, ?_, ?_⟩
  · rintro word next ⟨front, back, shape⟩
    rw [List.append_assoc] at shape
    have rule := minified.kept_eq_nil_iff shape.symm
    refine ⟨minified.kept_blank shape.symm, fun ends begins => rule.mpr ⟨ends.closesEdge.1,
      begins.opensEdge.1, fun used => ends.closesEdge.2 used.2⟩, fun gone => ?_⟩
    obtain ⟨closes, opens, -⟩ := rule.mp gone
    exact ⟨closes, opens⟩
  · rintro joined word next ⟨front, back, shape⟩
    rw [List.append_assoc] at shape
    exact minified.tags_of_joined joined shape.symm
  · rintro tagged word next ⟨front, back, shape⟩ gone
    have adjacent : [word, next] <:+: words := ⟨front, back, shape⟩
    rw [List.append_assoc] at shape
    obtain ⟨closes, opens, -⟩ := (minified.kept_eq_nil_iff shape.symm).mp gone
    exact tagged word next adjacent closes opens

/-- Percent signs of a text in front of a tag. -/
def percents : List Char := "a%% <b>c  d</b>".toList

/-- The blank behind the percent signs goes, although no tag ends in front of it. -/
theorem minify_joins_iff_percents :
    (Store.empty ['n']).Lettered ∧ ¬ (Store.empty ['n']).tokenStart <:+: percents ∧
    ¬ commentOpening.map Piece.plain <:+: (elements preservedTags).pieces percents ∧
    minify ['n'] percents = .ok "a%%<b>c d</b>".toList ∧
    ¬ ∀ word next,
      [word, next] <:+: respaced (cutWords ((elements preservedTags).pieces percents)).2 →
      word.kept = [] → EndsTag word.text ∧ BeginsTag next.text := by
  have lettered : (Store.empty ['n']).Lettered := by
    intro c listed
    rw [List.mem_singleton.mp listed]
    rfl
  have absent : ¬ (Store.empty ['n']).tokenStart <:+: percents := by decide +kernel
  have uncommented :
      ¬ commentOpening.map Piece.plain <:+: (elements preservedTags).pieces percents := by
    decide +kernel
  obtain ⟨-, -, joined⟩ := minify_joins_iff lettered absent uncommented
  refine ⟨lettered, absent, uncommented, by decide +kernel, fun only => ?_⟩
  have words : respaced (cutWords ((elements preservedTags).pieces percents)).2
      = [⟨"a%%".toList.map .plain, [' '], []⟩, ⟨"<b>c".toList.map .plain, [' ', ' '], [' ']⟩,
        ⟨"d</b>".toList.map .plain, [], []⟩] := by decide +kernel
  have tags := joined.mp only
  rw [words] at tags
  obtain ⟨⟨front, last, shape, kind⟩, -⟩ := tags _ _ (List.infix_append [] [_, _] [_])
    (by decide +kernel) (by decide +kernel)
  -- The first word ends with a percent sign.
  have ends := congrArg List.getLast? shape
  rw [List.getLast?_concat] at ends
  obtain rfl : .plain '%' = last := Option.some.inj ends
  rcases kind with same | ⟨item, source, same⟩ <;> contradiction

end StaticSite.Markup
