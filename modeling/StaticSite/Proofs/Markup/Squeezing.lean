import Mathlib.Data.List.TakeWhile
import StaticSite.Markup.Minify
import StaticSite.Proofs.Markup.Matching

/-!
# Words and the blanks between them

A text is words with runs of blanks between. Squeezing it leaves the words as they are. Between two
words the blanks go if the first one ends with an edge and the second one begins with one, and
otherwise one of them is left. Edges are not shared: two percent signs are one edge, so where the
blanks in front of them are gone, they do not take the blanks behind them with them.
-/

namespace StaticSite

namespace Text.Scanner

variable {α : Type} {scanner : Scanner α}

theorem replace_nil (f : α → List Char) : scanner.replace f [] = [] := by
  rw [replace, pieces_nil]
  rfl

theorem replace_skip (f : α → List Char) {front rest : List Char}
    (skips : Skips scanner.run front rest) :
    scanner.replace f (front ++ rest) = front ++ scanner.replace f rest := by
  rw [replace, pieces_skip skips, List.flatMap_append]
  congr 1
  induction front with
  | nil => rfl
  | cons c front ih => exact congrArg (c :: ·) (ih skips.tail)

theorem replace_found (f : α → List Char) {front rest : List Char} {item : α}
    (present : scanner.run (front ++ rest) = some (item, rest)) :
    scanner.replace f (front ++ rest) = f item ++ scanner.replace f rest := by
  rw [replace, pieces_found present, List.flatMap_cons]
  rfl

end Text.Scanner

namespace Markup

open StaticSite.Text

/-! ### Words -/

/-- Blanks, as many as there may be. -/
def IsBlanks (s : List Char) : Prop := ∀ c ∈ s, isBlank c = true

theorem IsBlanks.nil : IsBlanks [] := fun _ listed => absurd listed List.not_mem_nil

/-- Some characters and no blank. -/
structure IsWord (s : List Char) : Prop where
  nonempty : s ≠ []
  solid : ∀ c ∈ s, isBlank c = false

/-- A text in front of which a run of blanks ends. -/
def Stops (s : List Char) : Prop := ∀ c ∈ s.head?, isBlank c = false

variable {s gap word : List Char}

theorem Stops.nil : Stops [] := by simp [Stops]

theorem IsWord.stops (solid : IsWord word) (rest : List Char) : Stops (word ++ rest) := by
  obtain ⟨c, word, rfl⟩ := List.exists_cons_of_ne_nil solid.nonempty
  simpa [Stops] using solid.solid c List.mem_cons_self

theorem takeWhile_blanks (blanks : IsBlanks gap) (stops : Stops s) :
    (gap ++ s).takeWhile isBlank = gap := by
  rw [List.takeWhile_append_of_pos blanks]
  cases s with
  | nil => simp
  | cons c s =>
    have other : isBlank c = false := stops c rfl
    rw [List.takeWhile_cons_of_neg (by simp [other]), List.append_nil]

theorem dropWhile_blanks (blanks : IsBlanks gap) (stops : Stops s) :
    (gap ++ s).dropWhile isBlank = s := by
  rw [List.dropWhile_append_of_pos blanks]
  cases s with
  | nil => rfl
  | cons c s =>
    have other : isBlank c = false := stops c rfl
    rw [List.dropWhile_cons_of_neg (by simp [other])]

theorem head?_blanks (blanks : IsBlanks gap) (behind : gap ≠ [] ∨ s = []) :
    ∀ c ∈ (gap ++ s).head?, isBlank c = true := by
  intro c first
  cases gap with
  | nil =>
    obtain rfl := behind.resolve_left (fun filled => filled rfl)
    contradiction
  | cons d gap =>
    cases first
    exact blanks c List.mem_cons_self

/-! ### Edges -/

/-- A text ends with an edge. -/
def ClosesEdge (s : List Char) : Prop := ['>'] <:+ s ∨ Store.tokenEnd <:+ s

/-- A text begins with an edge. -/
def OpensEdge (s : List Char) : Prop := ['<'] <+: s ∨ Store.tokenEnd <+: s

/-- Percent signs that make up one edge and not two. -/
def IsOneEdge (s : List Char) : Prop := s = ['%', '%'] ∨ s = ['%', '%', '%']

/-- The blanks between two words go, where those in front of the first word have used up its first
edge or not. -/
def IsClosed (used : Bool) (word next : List Char) : Prop :=
  ClosesEdge word ∧ OpensEdge next ∧ ¬ (used = true ∧ IsOneEdge word)

instance (s : List Char) : Decidable (ClosesEdge s) :=
  inferInstanceAs (Decidable (_ ∨ _))

instance (s : List Char) : Decidable (OpensEdge s) :=
  inferInstanceAs (Decidable (_ ∨ _))

instance (s : List Char) : Decidable (IsOneEdge s) :=
  inferInstanceAs (Decidable (_ ∨ _))

instance (used : Bool) (word next : List Char) : Decidable (IsClosed used word next) :=
  inferInstanceAs (Decidable (_ ∧ _ ∧ _))

theorem edge?_eq_some_iff {tagEdge : Char} (bracket : tagEdge ≠ '%') {edge rest : List Char} :
    edge? tagEdge s = some (edge, rest) ↔
      s = edge ++ rest ∧ (edge = [tagEdge] ∨ edge = Store.tokenEnd) := by
  constructor
  · intro found
    refine ⟨edge?_eq_append found, ?_⟩
    cases s with
    | nil => contradiction
    | cons c s =>
      rw [edge?] at found
      split at found
      next same =>
        cases found
        exact .inl (congrArg (fun c => [c]) same)
      next =>
        obtain ⟨tail, -, same⟩ := Option.map_eq_some_iff.mp found
        cases same
        exact .inr rfl
  · rintro ⟨rfl, rfl | rfl⟩
    · rw [List.singleton_append, edge?, if_pos rfl]
    · have front : dropFront? Store.tokenEnd ('%' :: '%' :: rest) = some rest :=
        dropFront?_append Store.tokenEnd rest
      show edge? tagEdge ('%' :: '%' :: rest) = _
      rw [edge?, if_neg (Ne.symm bracket), front]
      rfl

theorem edge?_isSome_iff : (edge? '<' s).isSome = true ↔ OpensEdge s := by
  rw [Option.isSome_iff_exists, Prod.exists]
  simp only [edge?_eq_some_iff (by decide : '<' ≠ '%')]
  constructor
  · rintro ⟨edge, rest, rfl, rfl | rfl⟩
    · exact .inl (List.prefix_append _ _)
    · exact .inr (List.prefix_append _ _)
  · rintro (⟨rest, rfl⟩ | ⟨rest, rfl⟩)
    · exact ⟨_, rest, rfl, .inl rfl⟩
    · exact ⟨_, rest, rfl, .inr rfl⟩

/-- An edge at the front of a word is found in front of what follows as well. -/
theorem edge?_append {edge rest : List Char} (found : edge? '<' word = some (edge, rest))
    (s : List Char) : edge? '<' (word ++ s) = some (edge, rest ++ s) := by
  have bracket : '<' ≠ '%' := by decide
  rw [edge?_eq_some_iff bracket] at found ⊢
  exact ⟨by rw [found.1, List.append_assoc], found.2⟩

/-- Blanks do not help a word to an edge. -/
theorem opensEdge_append (solid : IsWord word) (begins : ∀ c ∈ s.head?, isBlank c = true) :
    OpensEdge (word ++ s) ↔ OpensEdge word := by
  match word, solid with
  | [], solid => exact absurd rfl solid.nonempty
  | [c], _ =>
    have apart : ¬ ['%'] <+: s := by
      rintro ⟨rest, rfl⟩
      exact absurd (begins '%' rfl) (by decide)
    simp [OpensEdge, Store.tokenEnd, List.cons_prefix_cons, apart]
  | c :: d :: word, _ => simp [OpensEdge, Store.tokenEnd, List.cons_prefix_cons]

/-- What is left of a word behind its first edge still ends with an edge, unless the edge was the
only one. -/
theorem closesEdge_behind {edge rest : List Char} (found : edge? '<' word = some (edge, rest)) :
    ClosesEdge rest ↔ ClosesEdge word ∧ ¬ IsOneEdge word := by
  obtain ⟨rfl, rfl | rfl⟩ := (edge?_eq_some_iff (by decide)).mp found
  · simp [ClosesEdge, IsOneEdge, Store.tokenEnd, List.suffix_cons_iff]
  · rcases rest with _ | ⟨c, _ | ⟨d, rest⟩⟩
    · simp [ClosesEdge, IsOneEdge, Store.tokenEnd]
    · by_cases percent : c = '%'
      · simp [ClosesEdge, IsOneEdge, Store.tokenEnd, List.suffix_cons_iff, percent]
      · simp [ClosesEdge, IsOneEdge, Store.tokenEnd, List.suffix_cons_iff, percent, Ne.symm percent]
    · simp [ClosesEdge, IsOneEdge, Store.tokenEnd, List.suffix_cons_iff]

/-! ### Blanks between edges -/

theorem betweenFront?_edge {edge : List Char} (alone : edge = ['>'] ∨ edge = Store.tokenEnd)
    (s : List Char) : betweenFront? (edge ++ s)
      = if s.takeWhile isBlank = [] then none
        else (edge? '<' (s.dropWhile isBlank)).map fun right => ((edge, right.1), right.2) := by
  rcases alone with rfl | rfl <;> rfl

/-- No blanks stand between edges at the front of a word that is more than an edge. -/
theorem betweenFront?_word (solid : IsWord word) (begins : ∀ c ∈ s.head?, isBlank c = true)
    (more : ¬ (word = ['>'] ∨ word = Store.tokenEnd)) : betweenFront? (word ++ s) = none := by
  rw [betweenFront?, Option.bind_eq_none_iff]
  rintro ⟨edge, rest⟩ opened
  obtain ⟨shape, kind⟩ := (edge?_eq_some_iff (by decide)).mp opened
  rcases List.append_eq_append_iff.mp shape with ⟨behind, rfl, rfl⟩ | ⟨behind, rfl, rfl⟩
  · -- The edge is no more than the word, since blanks follow there.
    exfalso
    cases behind with
    | nil =>
      rw [List.append_nil] at kind
      exact more kind
    | cons c behind =>
      have blank : isBlank c = true := begins c rfl
      have inside : c ∈ word ++ c :: behind := List.mem_append_right _ List.mem_cons_self
      rcases kind with same | same
      · rw [same, List.mem_singleton] at inside
        exact absurd (inside ▸ blank) (by decide)
      · rw [same, Store.tokenEnd] at inside
        simp only [List.mem_cons, List.not_mem_nil, or_self, or_false] at inside
        exact absurd (inside ▸ blank) (by decide)
  · have nonempty : behind ≠ [] := by
      rintro rfl
      rw [List.append_nil] at more
      exact more kind
    obtain ⟨c, behind, rfl⟩ := List.exists_cons_of_ne_nil nonempty
    have other : isBlank c = false := solid.solid c (List.mem_append_right _ List.mem_cons_self)
    have none : (c :: behind ++ s).takeWhile isBlank = [] :=
      List.takeWhile_cons_of_neg (by simp [other])
    dsimp only
    rw [if_pos none]

/-- Inside of a word and behind it, nothing stands between edges unless the word ends with one and
the next one begins with one. -/
theorem between_skips (solid : ∀ c ∈ word, isBlank c = false)
    (begins : ∀ c ∈ s.head?, isBlank c = true)
    (apart : ClosesEdge word → edge? '<' (s.dropWhile isBlank) = none) :
    Skips between.run word s := by
  intro tail inside nonempty
  by_cases alone : tail = ['>'] ∨ tail = Store.tokenEnd
  · have closes : ClosesEdge word := by
      rcases alone with rfl | rfl
      · exact .inl inside
      · exact .inr inside
    show betweenFront? (tail ++ s) = none
    rw [betweenFront?_edge alone, apart closes]
    split <;> rfl
  · exact betweenFront?_word ⟨nonempty, fun c listed => solid c (inside.subset listed)⟩ begins alone

theorem between_skips_blanks (blanks : IsBlanks gap) (s : List Char) :
    Skips between.run gap s := by
  intro tail inside nonempty
  obtain ⟨c, tail, rfl⟩ := List.exists_cons_of_ne_nil nonempty
  have blank : isBlank c = true := blanks c (inside.subset List.mem_cons_self)
  show betweenFront? (c :: (tail ++ s)) = none
  rw [betweenFront?, Option.bind_eq_none_iff]
  rintro ⟨edge, rest⟩ opened
  obtain ⟨shape, rfl | rfl⟩ := (edge?_eq_some_iff (by decide)).mp opened
  · exact absurd ((List.cons.inj shape).1 ▸ blank) (by decide)
  · exact absurd ((List.cons.inj shape).1 ▸ blank) (by decide)

theorem stops_of_edge {edge rest : List Char} (opens : edge? '<' s = some (edge, rest)) :
    Stops s := by
  obtain ⟨rfl, rfl | rfl⟩ := (edge?_eq_some_iff (by decide)).mp opens
  · intro c first
    cases first
    decide
  · intro c first
    cases first
    decide

/-- A word is looked through up to the edge that it ends with. -/
theorem between_skips_edge {front edge : List Char} (solid : IsWord (front ++ edge))
    (alone : edge = ['>'] ∨ edge = Store.tokenEnd) (begins : ∀ c ∈ s.head?, isBlank c = true) :
    Skips between.run front (edge ++ s) := by
  intro tail inside nonempty
  obtain ⟨c, tail, rfl⟩ := List.exists_cons_of_ne_nil nonempty
  have whole : IsWord (c :: tail ++ edge) := by
    refine ⟨List.cons_ne_nil _ _, fun d listed => solid.solid d ?_⟩
    rw [List.mem_append] at listed ⊢
    exact listed.imp (fun here => inside.subset here) id
  show betweenFront? (c :: tail ++ (edge ++ s)) = none
  rw [← List.append_assoc]
  refine betweenFront?_word whole begins fun same => ?_
  -- No edge ends with another one.
  rcases alone with rfl | rfl <;> rcases same with same | same <;>
    simp [Store.tokenEnd, List.append_eq_cons_iff] at same

/-- The text without the blanks between edges. -/
def closeGaps (s : List Char) : List Char := between.replace (fun edges => edges.1 ++ edges.2) s

/-- The blanks between two edges are dropped, and the search goes on behind the second one. -/
theorem between_closed {edge rest : List Char} (solid : ∀ c ∈ word, isBlank c = false)
    (closes : ClosesEdge word) (blanks : IsBlanks gap) (nonempty : gap ≠ [])
    (opens : edge? '<' s = some (edge, rest)) :
    closeGaps (word ++ (gap ++ s))
      = word ++ (edge ++ closeGaps rest) := by
  obtain ⟨front, last, rfl, alone⟩ : ∃ front last, word = front ++ last ∧
      (last = ['>'] ∨ last = Store.tokenEnd) := by
    rcases closes with ⟨front, rfl⟩ | ⟨front, rfl⟩
    · exact ⟨front, _, rfl, .inl rfl⟩
    · exact ⟨front, _, rfl, .inr rfl⟩
  have filled : last ≠ [] := by
    rcases alone with rfl | rfl <;> exact List.cons_ne_nil _ _
  -- Nothing is dropped within the word, since an edge in it is followed by no blank.
  have begins : ∀ c ∈ (gap ++ s).head?, isBlank c = true := head?_blanks blanks (.inl nonempty)
  have stops := stops_of_edge opens
  have present : between.run (last ++ (gap ++ s)) = some ((last, edge), rest) := by
    show betweenFront? (last ++ (gap ++ s)) = _
    rw [betweenFront?_edge alone, takeWhile_blanks blanks stops, if_neg nonempty,
      dropWhile_blanks blanks stops, opens]
    rfl
  have skips := between_skips_edge ⟨List.append_ne_nil_of_right_ne_nil _ filled, solid⟩ alone begins
  have shape : last ++ (gap ++ s) = last ++ gap ++ edge ++ rest := by
    rw [((edge?_eq_some_iff (by decide)).mp opens).1]
    simp
  rw [List.append_assoc, closeGaps, Scanner.replace_skip _ skips]
  rw [shape] at present ⊢
  rw [Scanner.replace_found _ present, ← closeGaps]
  simp

/-- Where the blanks do not stand between edges, they stay, and the search goes on behind them. -/
theorem between_kept (solid : ∀ c ∈ word, isBlank c = false) (blanks : IsBlanks gap)
    (nonempty : gap ≠ [] ∨ s = []) (stops : Stops s)
    (apart : ClosesEdge word → edge? '<' s = none) :
    closeGaps (word ++ (gap ++ s))
      = word ++ (gap ++ closeGaps s) := by
  have begins := head?_blanks blanks nonempty
  have skips : Skips between.run word (gap ++ s) := by
    refine between_skips solid begins ?_
    rwa [dropWhile_blanks blanks stops]
  rw [closeGaps, Scanner.replace_skip _ skips,
    Scanner.replace_skip _ (between_skips_blanks blanks s), closeGaps]

/-! ### Words and gaps -/

section

variable {ω : Type}

/-- A word with the blanks that stand behind it and what is left of them. -/
structure Word (ω : Type) where
  text : ω
  run : List Char
  kept : List Char
  deriving DecidableEq

/-- Words with blanks between any two of them; behind the last one there may be some as well. -/
inductive Spaced (IsSolid : ω → Prop) : List (ω × List Char) → Prop where
  | nil : Spaced IsSolid []
  | last {word : ω} {gap : List Char} (solid : IsSolid word) (blanks : IsBlanks gap) :
      Spaced IsSolid [(word, gap)]
  | cons {word next : ω} {gap later : List Char} {rest : List (ω × List Char)}
      (solid : IsSolid word) (blanks : IsBlanks gap) (nonempty : gap ≠ [])
      (more : Spaced IsSolid ((next, later) :: rest)) :
      Spaced IsSolid ((word, gap) :: (next, later) :: rest)

/-- A run of two or more blanks becomes a space. -/
def shorten (gap : List Char) : List Char := if 2 ≤ gap.length then [' '] else gap

/-- What is left of the blanks behind each word, for words that look like certain texts: nothing of
those between edges and of those behind the last word, and otherwise one blank. -/
def respace (look : ω → List Char) : Bool → List (ω × List Char) → List (Word ω)
  | _, [] => []
  | _, [(word, gap)] => [⟨word, gap, []⟩]
  | used, (word, gap) :: (next, later) :: rest =>
    if IsClosed used (look word) (look next) then
      ⟨word, gap, []⟩ :: respace look true ((next, later) :: rest)
    else ⟨word, gap, shorten gap⟩ :: respace look false ((next, later) :: rest)

end

/-- Texts with gaps between, as one. -/
def joined (words : List (List Char × List Char)) : List Char :=
  words.flatMap fun word => word.1 ++ word.2

theorem joined_cons (word : List Char × List Char) (rest : List (List Char × List Char)) :
    joined (word :: rest) = word.1 ++ (word.2 ++ joined rest) := by
  rw [joined, List.flatMap_cons, List.append_assoc]
  rfl

/-- Words without the blanks between edges. -/
def thinned : Bool → List (List Char × List Char) → List (List Char × List Char)
  | _, [] => []
  | _, [word] => [word]
  | used, (word, gap) :: (next, later) :: rest =>
    if IsClosed used word next then (word, []) :: thinned true ((next, later) :: rest)
    else (word, gap) :: thinned false ((next, later) :: rest)

/-- Words with short gaps between and nothing at the end. -/
def finished : List (List Char × List Char) → List Char
  | [] => []
  | [word] => word.1
  | word :: next :: rest => word.1 ++ (shorten word.2 ++ finished (next :: rest))

theorem finished_cons (word : List Char × List Char) {rest : List (List Char × List Char)}
    (more : rest ≠ []) : finished (word :: rest) = word.1 ++ (shorten word.2 ++ finished rest) := by
  cases rest with
  | nil => contradiction
  | cons next rest => rfl

theorem thinned_ne_nil (used : Bool) (word : List Char × List Char)
    (rest : List (List Char × List Char)) : thinned used (word :: rest) ≠ [] := by
  cases rest with
  | nil => exact List.cons_ne_nil _ _
  | cons next rest =>
    rw [thinned]
    split <;> exact List.cons_ne_nil _ _

theorem finished_thinned (used : Bool) (words : List (List Char × List Char)) :
    finished (thinned used words)
      = (respace id used words).flatMap fun word => word.text ++ word.kept := by
  fun_induction thinned used words with
  | case1 => rfl
  | case2 used word => simp [finished, respace]
  | case3 used word gap next later rest closed ih =>
    have same : IsClosed used (id word) (id next) := closed
    rw [finished_cons _ (thinned_ne_nil _ _ _), ih, respace, if_pos same]
    simp [shorten]
  | case4 used word gap next later rest kept ih =>
    have same : ¬ IsClosed used (id word) (id next) := kept
    rw [finished_cons _ (thinned_ne_nil _ _ _), ih, respace, if_neg same]
    simp

namespace Spaced

variable {next : List Char × List Char} {rest : List (List Char × List Char)}

theorem head (spaced : Spaced IsWord (next :: rest)) : IsWord next.1 := by
  cases spaced with
  | last solid _ => exact solid
  | cons solid _ _ _ => exact solid

theorem begins (spaced : Spaced IsWord (next :: rest)) :
    ∀ c ∈ (next.2 ++ joined rest).head?, isBlank c = true := by
  cases spaced with
  | last _ blanks => exact head?_blanks blanks (.inr rfl)
  | cons _ blanks nonempty _ => exact head?_blanks blanks (.inl nonempty)

end Spaced

/-- What of a word is still looked at: all of it, or what is behind an edge that has been used. -/
inductive Remains (word : List Char) : Bool → List Char → List Char → Prop where
  | whole : Remains word false [] word
  | behind {edge rest : List Char} (found : edge? '<' word = some (edge, rest)) :
      Remains word true edge rest

namespace Remains

variable {used : Bool} {front behind : List Char}

theorem append (remains : Remains word used front behind) : front ++ behind = word := by
  cases remains with
  | whole => rfl
  | behind found => exact (edge?_eq_append found).symm

theorem closesEdge (remains : Remains word used front behind) :
    ClosesEdge behind ↔ ClosesEdge word ∧ ¬ (used = true ∧ IsOneEdge word) := by
  cases remains with
  | whole => simp
  | behind found => simpa using closesEdge_behind found

end Remains

/-- Without the blanks between edges a text is its words with what is left of the blanks. The
induction is on the words, and of the first one no more is looked at than what remains. -/
theorem closeGaps_joined {used : Bool} {words : List (List Char × List Char)}
    {front behind : List Char} (spaced : Spaced IsWord ((word, gap) :: words))
    (remains : Remains word used front behind) :
    front ++ closeGaps (behind ++ (gap ++ joined words))
      = joined (thinned used ((word, gap) :: words)) := by
  induction words generalizing word gap used front behind with
  | nil =>
    have whole := remains.append
    cases spaced with
    | last solid blanks =>
      have inner : ∀ c ∈ behind, isBlank c = false := fun c listed =>
        solid.solid c (whole ▸ List.mem_append_right _ listed)
      have kept := between_kept inner blanks (.inr rfl) .nil fun _ => rfl
      have nothing : closeGaps [] = [] := Scanner.replace_nil _
      rw [joined, List.flatMap_nil, kept, nothing]
      simp [thinned, joined, ← whole]
  | cons next rest ih =>
    obtain ⟨next, later⟩ := next
    have whole := remains.append
    cases spaced with
    | cons solid blanks nonempty more =>
      have inner : ∀ c ∈ behind, isBlank c = false := fun c listed =>
        solid.solid c (whole ▸ List.mem_append_right _ listed)
      have opens := opensEdge_append more.head more.begins
      rw [joined_cons, thinned]
      split
      next closed =>
        obtain ⟨one, two, free⟩ := closed
        obtain ⟨⟨edge, tail⟩, found⟩ := Option.isSome_iff_exists.mp (edge?_isSome_iff.mpr two)
        have opened := edge?_append found (later ++ joined rest)
        -- The edge of the next word is used up, and the search goes on behind it.
        have inductively := ih more (.behind found)
        rw [between_closed inner (remains.closesEdge.mpr ⟨one, free⟩) blanks nonempty opened,
          inductively, ← List.append_assoc, whole, joined_cons, List.nil_append]
      next kept =>
        have apart (closes : ClosesEdge behind) :
            edge? '<' (next ++ (later ++ joined rest)) = none := by
          obtain ⟨one, free⟩ := remains.closesEdge.mp closes
          rw [← Option.not_isSome_iff_eq_none, edge?_isSome_iff, opens]
          exact fun two => kept ⟨one, two, free⟩
        have inductively := ih more .whole
        rw [List.nil_append] at inductively
        rw [between_kept inner blanks (.inl nonempty) (more.head.stops _) apart, inductively,
          ← List.append_assoc, whole, joined_cons]

/-! ### Runs of blanks -/

/-- The text with runs of blanks shortened. -/
def shortenRuns (s : List Char) : List Char := runs.replace (fun _ => [' ']) s

theorem runs_skips (solid : ∀ c ∈ word, isBlank c = false) (s : List Char) :
    Skips runs.run word s := by
  intro tail inside nonempty
  obtain ⟨c, tail, rfl⟩ := List.exists_cons_of_ne_nil nonempty
  have other : isBlank c = false := solid c (inside.subset List.mem_cons_self)
  have none : (c :: tail ++ s).takeWhile isBlank = [] :=
    List.takeWhile_cons_of_neg (by simp [other])
  show runFront? (c :: tail ++ s) = _
  rw [runFront?, none]
  rfl

theorem shortenRuns_word (solid : IsWord word) (s : List Char) :
    shortenRuns (word ++ s) = word ++ shortenRuns s :=
  Scanner.replace_skip _ (runs_skips solid.solid s)

theorem shortenRuns_blanks (blanks : IsBlanks gap) (stops : Stops s) :
    shortenRuns (gap ++ s) = shorten gap ++ shortenRuns s := by
  have taken := takeWhile_blanks blanks stops
  have dropped := dropWhile_blanks blanks stops
  rw [shorten]
  split
  next long =>
    have present : runs.run (gap ++ s) = some ((), s) := by
      show runFront? (gap ++ s) = _
      rw [runFront?, taken, dropped, if_pos long]
    exact Scanner.replace_found _ present
  next short =>
    match gap, short with
    | [], _ => rfl
    | [c], short =>
      have absent : runs.run (c :: s) = none := by
        show runFront? ([c] ++ s) = _
        rw [runFront?, taken, if_neg short]
      exact Scanner.replace_skip _ (.cons absent (.nil _ _))
    | c :: d :: gap, short => simp at short

/-- Words with gaps, some of which may be closed. -/
def Loose (words : List (List Char × List Char)) : Prop :=
  ∀ word ∈ words, IsWord word.1 ∧ IsBlanks word.2

theorem Loose.stops {words : List (List Char × List Char)} (loose : Loose words) :
    Stops (joined words) := by
  cases words with
  | nil => exact .nil
  | cons word rest =>
    have solid := (loose word List.mem_cons_self).1
    rw [joined_cons]
    exact solid.stops _

theorem shortenRuns_joined {words : List (List Char × List Char)} (loose : Loose words) :
    shortenRuns (joined words) = joined (words.map fun word => (word.1, shorten word.2)) := by
  induction words with
  | nil => exact Scanner.replace_nil _
  | cons word rest ih =>
    obtain ⟨⟨solid, blanks⟩, others⟩ := List.forall_mem_cons.mp loose
    rw [joined_cons, shortenRuns_word solid, shortenRuns_blanks blanks (Loose.stops others),
      ih others, List.map_cons, joined_cons]

theorem isBlanks_shorten (blanks : IsBlanks gap) : IsBlanks (shorten gap) := by
  rw [shorten]
  split
  next =>
    intro c listed
    rw [List.mem_singleton.mp listed]
    decide
  next => exact blanks

/-! ### The ends of a text -/

theorem trimBackOf_blanks (blanks : IsBlanks gap) : trimBackOf isBlank gap = [] := by
  rw [trimBackOf, List.reverse_eq_nil_iff, List.dropWhile_eq_nil_iff]
  exact fun c listed => blanks c (List.mem_reverse.mp listed)

theorem trimBackOf_word (solid : IsWord word) : trimBackOf isBlank word = word := by
  have stops : Stops word.reverse := by
    intro c first
    exact solid.solid c (List.mem_reverse.mp (List.mem_of_mem_head? first))
  have dropped : word.reverse.dropWhile isBlank = word.reverse :=
    dropWhile_blanks .nil stops
  rw [trimBackOf, dropped, List.reverse_reverse]

theorem finished_ne_nil {word : List Char × List Char} {rest : List (List Char × List Char)}
    (loose : Loose (word :: rest)) : finished (word :: rest) ≠ [] := by
  have solid := (loose word List.mem_cons_self).1.nonempty
  cases rest with
  | nil => exact solid
  | cons next rest => exact List.append_ne_nil_of_left_ne_nil solid _

/-- Behind the last word nothing is left. -/
theorem trimBackOf_joined {words : List (List Char × List Char)} (loose : Loose words) :
    trimBackOf isBlank (joined (words.map fun word => (word.1, shorten word.2)))
      = finished words := by
  induction words with
  | nil => rfl
  | cons word rest ih =>
    obtain ⟨⟨solid, blanks⟩, others⟩ := List.forall_mem_cons.mp loose
    rw [List.map_cons, joined_cons, ← List.append_assoc, Store.Matched.trimBackOf_append, ih others]
    cases rest with
    | nil =>
      have last : trimBackOf isBlank (word.1 ++ shorten word.2) = word.1 := by
        rw [Store.Matched.trimBackOf_append, trimBackOf_blanks (isBlanks_shorten blanks),
          trimBackOf_word solid]
        rfl
      exact last
    | cons next rest =>
      -- More words follow, so the blanks behind this one are not at the end.
      have filled : (finished (next :: rest)).isEmpty = false := by
        simpa using finished_ne_nil others
      rw [filled, finished, List.append_assoc]
      rfl

theorem loose_thinned {used : Bool} {words : List (List Char × List Char)}
    (spaced : Spaced IsWord words) : Loose (thinned used words) := by
  induction words generalizing used with
  | nil => exact fun _ listed => absurd listed List.not_mem_nil
  | cons word rest ih =>
    cases spaced with
    | last solid blanks => exact List.forall_mem_singleton.mpr ⟨solid, blanks⟩
    | cons solid blanks _ more =>
      rw [thinned]
      split
      next => exact List.forall_mem_cons.mpr ⟨⟨solid, .nil⟩, ih more⟩
      next => exact List.forall_mem_cons.mpr ⟨⟨solid, blanks⟩, ih more⟩

theorem closeGaps_words {words : List (List Char × List Char)} (spaced : Spaced IsWord words) :
    closeGaps (joined words) = joined (thinned false words) := by
  cases words with
  | nil => exact Scanner.replace_nil _
  | cons word rest =>
    have closed := closeGaps_joined spaced .whole
    rwa [List.nil_append, ← joined_cons] at closed

/-- Squeezing a text leaves its words, and of the blanks what the edges around them ask for. -/
theorem squeeze_words {lead : List Char} {words : List (List Char × List Char)}
    (leading : IsBlanks lead) (spaced : Spaced IsWord words) :
    squeeze (lead ++ joined words)
      = (respace id false words).flatMap fun word => word.text ++ word.kept := by
  have loose : Loose (thinned false words) := loose_thinned spaced
  have short : Loose ((thinned false words).map fun word => (word.1, shorten word.2)) := by
    intro word listed
    obtain ⟨whole, inside, rfl⟩ := List.mem_map.mp listed
    exact ⟨(loose whole inside).1, isBlanks_shorten (loose whole inside).2⟩
  have closed : closeGaps (lead ++ joined words) = lead ++ joined (thinned false words) := by
    rw [closeGaps, Scanner.replace_skip _ (between_skips_blanks leading _), ← closeGaps,
      closeGaps_words spaced]
  show trimBackOf isBlank ((shortenRuns (closeGaps (lead ++ joined words))).dropWhile isBlank) = _
  rw [closed, shortenRuns_blanks leading loose.stops, shortenRuns_joined loose,
    dropWhile_blanks (isBlanks_shorten leading) short.stops, trimBackOf_joined loose,
    finished_thinned]

end Markup

end StaticSite
