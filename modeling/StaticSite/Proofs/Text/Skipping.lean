import Mathlib.Data.List.Infix
import StaticSite.Text.Scanner
import StaticSite.Text.Search

/-!
# Fronts that a search passes over

A search tries a recogniser at every place of a text. Where the recogniser fails at every place of
a front, whatever it is that the front stands before, the search of the whole text is the search of
the rest. `Skips` states this for one rest; the lemmas build it up from the parts of a front.
-/

namespace StaticSite.Text

variable {α : Type}

/-- The recogniser fails at every place of `front` when `rest` follows it. -/
def Skips (recognise : List Char → Option α) (front rest : List Char) : Prop :=
  ∀ tail, tail <:+ front → tail ≠ [] → recognise (tail ++ rest) = none

namespace Skips

theorem nil (recognise : List Char → Option α) (rest : List Char) : Skips recognise [] rest := by
  intro tail inside nonempty
  exact absurd (List.suffix_nil.mp inside) nonempty

theorem cons {recognise : List Char → Option α} {c : Char} {front rest : List Char}
    (absent : recognise (c :: (front ++ rest)) = none) (skips : Skips recognise front rest) :
    Skips recognise (c :: front) rest := by
  intro tail inside nonempty
  rcases List.suffix_cons_iff.mp inside with whole | inner
  · rw [whole]
    exact absent
  · exact skips tail inner nonempty

theorem head {recognise : List Char → Option α} {c : Char} {front rest : List Char}
    (skips : Skips recognise (c :: front) rest) : recognise (c :: (front ++ rest)) = none :=
  skips (c :: front) (List.suffix_refl _) (List.cons_ne_nil _ _)

theorem tail {recognise : List Char → Option α} {c : Char} {front rest : List Char}
    (skips : Skips recognise (c :: front) rest) : Skips recognise front rest :=
  fun piece inside nonempty => skips piece (inside.trans (List.suffix_cons _ _)) nonempty

theorem append {recognise : List Char → Option α} {front next rest : List Char}
    (first : Skips recognise front (next ++ rest)) (second : Skips recognise next rest) :
    Skips recognise (front ++ next) rest := by
  induction front with
  | nil => exact second
  | cons c front ih =>
    apply cons
    · simpa using first.head
    · exact ih first.tail

/-- A recogniser that needs a character in front passes over text without that character. -/
theorem of_not_mem {recognise : List Char → Option α} {mark : Char} {front : List Char}
    (needs : ∀ c rest, c ≠ mark → recognise (c :: rest) = none) (absent : mark ∉ front)
    (rest : List Char) : Skips recognise front rest := by
  induction front with
  | nil => exact nil recognise rest
  | cons c front ih =>
    apply cons
    · exact needs c _ fun same => absent (same ▸ List.mem_cons_self)
    · exact ih fun inside => absent (List.mem_cons_of_mem c inside)

end Skips

/-! ### Searches -/

theorem dropFront?_append (front rest : List Char) : dropFront? front (front ++ rest) = some rest :=
  dropFront?_eq_some_iff.mpr rfl

theorem dropFront?_cons_ne {c d : Char} (mark rest : List Char) (differ : d ≠ c) :
    dropFront? (c :: mark) (d :: rest) = none := by
  simp [dropFront?, Ne.symm differ]

theorem cutAt?_skip {mark front rest : List Char} (skips : Skips (dropFront? mark) front rest) :
    cutAt? mark (front ++ rest)
      = (cutAt? mark rest).map fun parts => (front ++ parts.1, parts.2) := by
  induction front with
  | nil => simp
  | cons c front ih =>
    rw [List.cons_append, cutAt?, skips.head, ih skips.tail, Option.map_map]
    rfl

/-- The cut falls at the end of a front that the search passes over. -/
theorem cutAt?_append {mark front rest : List Char} (nonempty : mark ≠ [])
    (skips : Skips (dropFront? mark) front (mark ++ rest)) :
    cutAt? mark (front ++ (mark ++ rest)) = some (front, rest) := by
  have here : cutAt? mark (mark ++ rest) = some ([], rest) := by
    cases mark with
    | nil => exact absurd rfl nonempty
    | cons c mark =>
      have front := dropFront?_append (c :: mark) rest
      simp only [List.cons_append] at front ⊢
      rw [cutAt?, front]
  rw [cutAt?_skip skips, here]
  simp

/-- A text that holds the mark is cut. -/
theorem cutAt?_isSome (mark front rest : List Char) :
    (cutAt? mark (front ++ (mark ++ rest))).isSome = true := by
  induction front with
  | nil =>
    cases mark with
    | nil => cases rest <;> rfl
    | cons c mark =>
      have here := dropFront?_append (c :: mark) rest
      rw [List.cons_append] at here
      rw [List.nil_append, List.cons_append, cutAt?, here]
      rfl
  | cons c front ih =>
    rw [List.cons_append, cutAt?]
    split
    · rfl
    · rw [Option.isSome_map]
      exact ih

/-- The cut at a single character falls at its first occurrence. -/
theorem cutAt?_char {c : Char} {front rest : List Char} (absent : c ∉ front) :
    cutAt? [c] (front ++ c :: rest) = some (front, rest) :=
  cutAt?_append (List.cons_ne_nil _ _)
    (Skips.of_not_mem (fun _ _ differ => dropFront?_cons_ne _ _ differ) absent _)

/-- A cut at a single character leaves none in front. -/
theorem cutAt?_char_notMem {c : Char} {s before after : List Char}
    (found : cutAt? [c] s = some (before, after)) : c ∉ before := by
  induction s generalizing before with
  | nil => contradiction
  | cons d s ih =>
    rw [cutAt?] at found
    split at found
    next =>
      cases found
      exact List.not_mem_nil
    next absent =>
      obtain ⟨⟨front, rest⟩, inner, same⟩ := Option.map_eq_some_iff.mp found
      cases same
      have differs : c ≠ d := by
        rintro rfl
        simp [dropFront?] at absent
      rw [List.mem_cons, not_or]
      exact ⟨differs, ih inner⟩

/-- A text of characters of one kind has no other ones. -/
theorem notMem_of_forall {kind : Char → Bool} {c : Char} {s : List Char}
    (all : ∀ d ∈ s, kind d = true) (other : kind c = false) : c ∉ s := by
  intro inside
  rw [all c inside] at other
  contradiction

/-- A mark begins behind a front that does not hold its first character. -/
theorem infix_of_notMem {c : Char} {mark front rest : List Char} (absent : c ∉ front)
    (inside : c :: mark <:+: front ++ rest) : c :: mark <:+: rest := by
  induction front with
  | nil => exact inside
  | cons d front ih =>
    rw [List.mem_cons, not_or] at absent
    rcases List.infix_cons_iff.mp inside with begins | later
    · exact absurd (List.cons_prefix_cons.mp begins).1 absent.1
    · exact ih absent.2 later

/-- A mark without a character ends in front of the first one. -/
theorem prefix_of_notMem {c : Char} {mark front rest : List Char} (absent : c ∉ mark)
    (begins : mark <+: front ++ c :: rest) : mark <+: front := by
  induction front generalizing mark with
  | nil =>
    cases mark with
    | nil => exact List.nil_prefix
    | cons d mark =>
      rw [List.mem_cons, not_or] at absent
      exact absurd (List.cons_prefix_cons.mp begins).1.symm absent.1
  | cons d front ih =>
    cases mark with
    | nil => exact List.nil_prefix
    | cons e mark =>
      rw [List.mem_cons, not_or] at absent
      obtain ⟨same, later⟩ := List.cons_prefix_cons.mp begins
      exact List.cons_prefix_cons.mpr ⟨same, ih absent.2 later⟩

/-- A mark without a character stands in front of it or behind it. -/
theorem infix_or_of_notMem {c : Char} {mark front rest : List Char} (absent : c ∉ mark)
    (inside : mark <:+: front ++ c :: rest) : mark <:+: front ∨ mark <:+: rest := by
  induction front with
  | nil =>
    rcases List.infix_cons_iff.mp inside with begins | later
    · exact .inl (prefix_of_notMem absent begins).isInfix
    · exact .inr later
  | cons d front ih =>
    rcases List.infix_cons_iff.mp inside with begins | later
    · exact .inl (prefix_of_notMem absent begins).isInfix
    · exact (ih later).imp (fun inner => inner.trans (List.suffix_cons _ _).isInfix) id

theorem suffix_of_notMem {c : Char} {front back rest : List Char} (absent : c ∉ front)
    (ends : c :: rest <:+ front ++ back) : c :: rest <:+ back := by
  induction front with
  | nil => exact ends
  | cons d front ih =>
    rw [List.mem_cons, not_or] at absent
    rcases List.suffix_cons_iff.mp ends with whole | later
    · exact absurd (List.cons.inj whole).1 absent.1
    · exact ih absent.2 later

/-! ### Pieces -/

/-- The first piece of a text begins with what has been collected. -/
theorem splitFrom_head (mark : List Char) (limit skip : Nat) (piece s : List Char) :
    ∃ first rest, splitFrom mark limit skip piece s = (piece.reverse ++ first) :: rest := by
  induction s generalizing limit skip piece with
  | nil => exact ⟨[], [], by cases limit <;> cases skip <;> simp [splitFrom]⟩
  | cons c s ih =>
    match limit, skip with
    | limit, skip + 1 => simpa [splitFrom] using ih limit skip piece
    | 0, 0 => exact ⟨c :: s, [], by simp [splitFrom]⟩
    | limit + 1, 0 =>
      unfold splitFrom
      split
      · exact ⟨[], _, by rw [List.append_nil]⟩
      · obtain ⟨first, rest, found⟩ := ih (limit + 1) 0 (c :: piece)
        exact ⟨c :: first, rest, by rw [found]; simp⟩

theorem splitOn_of_notMem {mark : Char} {s : List Char} (absent : mark ∉ s) :
    splitOn [mark] s = [s] := by
  have collected (piece : List Char) (limit : Nat) :
      splitFrom [mark] limit 0 piece s = [piece.reverse ++ s] := by
    induction s generalizing piece limit with
    | nil => cases limit <;> simp [splitFrom]
    | cons c s ih =>
      rw [List.mem_cons, not_or] at absent
      cases limit with
      | zero => simp [splitFrom]
      | succ limit =>
        have other : ¬ mark = c := absent.1
        simp [splitFrom, startsWith, dropFront?, other, ih absent.2]
  exact collected [] _

theorem joinWith_char (mark : Char) (piece : List Char) {rest : List (List Char)}
    (more : rest ≠ []) :
    joinWith [mark] (piece :: rest) = piece ++ mark :: joinWith [mark] rest := by
  cases rest with
  | nil => contradiction
  | cons next rest => simp [joinWith]

/-- The pieces between single characters do not hold it, and joined by it they are the text. -/
theorem splitFrom_char {mark : Char} {s piece : List Char} {limit : Nat} (room : s.length < limit)
    (absent : mark ∉ piece) :
    joinWith [mark] (splitFrom [mark] limit 0 piece s) = piece.reverse ++ s ∧
      ∀ part ∈ splitFrom [mark] limit 0 piece s, mark ∉ part := by
  -- The piece that is being read is kept backwards, and holds no mark so far.
  induction s generalizing piece limit with
  | nil =>
    cases limit <;> simpa [splitFrom, joinWith] using absent
  | cons c s ih =>
    cases limit with
    | zero => contradiction
    | succ limit =>
      rw [List.length_cons] at room
      by_cases here : mark = c
      · subst here
        have cut : splitFrom [mark] (limit + 1) 0 piece (mark :: s)
            = piece.reverse :: splitFrom [mark] limit 0 [] s := by
          simp [splitFrom, startsWith, dropFront?]
        have fewer : s.length < limit := by omega
        obtain ⟨joined, solid⟩ := ih fewer (List.not_mem_nil (a := mark))
        obtain ⟨first, rest, parts⟩ := splitFrom_head [mark] limit 0 [] s
        rw [cut]
        refine ⟨?_, List.forall_mem_cons.mpr ⟨fun listed => absent (List.mem_reverse.mp listed), solid⟩⟩
        rw [joinWith_char _ _ (by rw [parts]; exact List.cons_ne_nil _ _), joined]
        rfl
      · have kept : splitFrom [mark] (limit + 1) 0 piece (c :: s)
            = splitFrom [mark] (limit + 1) 0 (c :: piece) s := by
          simp [splitFrom, startsWith, dropFront?, here]
        have outside : mark ∉ c :: piece := by
          rw [List.mem_cons, not_or]
          exact ⟨here, absent⟩
        have fewer : s.length < limit + 1 := by omega
        obtain ⟨joined, solid⟩ := ih fewer outside
        rw [kept]
        exact ⟨by rw [joined]; simp, solid⟩

/-- Pieces that do not hold the character between them are given by what they join to. -/
theorem joinWith_char_inj {mark : Char} {pieces others : List (List Char)} (nonempty : pieces ≠ [])
    (filled : others ≠ []) (solid : ∀ piece ∈ pieces, mark ∉ piece)
    (whole : ∀ piece ∈ others, mark ∉ piece)
    (same : joinWith [mark] pieces = joinWith [mark] others) : pieces = others := by
  induction pieces generalizing others with
  | nil => contradiction
  | cons first rest ih =>
    cases others with
    | nil => contradiction
    | cons other behind =>
      obtain ⟨here, there⟩ := List.forall_mem_cons.mp solid
      obtain ⟨bare, others⟩ := List.forall_mem_cons.mp whole
      cases rest with
      | nil =>
        cases behind with
        | nil => exact congrArg (fun piece => [piece]) same
        | cons next behind =>
          -- A text without the character cannot be joined of several pieces.
          simp only [joinWith] at same
          simp [same] at here
      | cons next rest =>
        cases behind with
        | nil =>
          simp only [joinWith] at same
          simp [← same] at bare
        | cons following behind =>
          rw [joinWith_char _ first (List.cons_ne_nil _ _),
            joinWith_char _ other (List.cons_ne_nil _ _)] at same
          have cut := congrArg (cutAt? [mark]) same
          simp only [cutAt?_char here, cutAt?_char bare, Option.some.injEq, Prod.mk.injEq] at cut
          obtain ⟨rfl, later⟩ := cut
          rw [ih (List.cons_ne_nil _ _) (List.cons_ne_nil _ _) there others later]

theorem Scanner.pieces_skip {scanner : Scanner α} {front rest : List Char}
    (skips : Skips scanner.run front rest) :
    scanner.pieces (front ++ rest) = front.map Piece.plain ++ scanner.pieces rest := by
  induction front with
  | nil => rfl
  | cons c front ih =>
    rw [List.cons_append, Scanner.pieces_plain skips.head, ih skips.tail]
    rfl

/-- A text that is one item. -/
theorem Scanner.pieces_whole {scanner : Scanner α} {s : List Char} {item : α}
    (present : scanner.run s = some (item, [])) : scanner.pieces s = [.found item s] := by
  have found : scanner.run (s ++ []) = some (item, []) := by rwa [List.append_nil]
  have pieces := Scanner.pieces_found found
  rwa [List.append_nil, Scanner.pieces_nil] at pieces

/-- A character that is read first and on its own. -/
theorem Scanner.plain_of_pieces {scanner : Scanner α} {c : Char} {s : List Char}
    {pieces : List (Piece α)} (read : scanner.pieces (c :: s) = .plain c :: pieces) :
    scanner.run (c :: s) = none ∧ scanner.pieces s = pieces := by
  cases recognised : scanner.run (c :: s) with
  | none =>
    rw [Scanner.pieces_plain recognised] at read
    exact ⟨rfl, (List.cons.inj read).2⟩
  | some found =>
    obtain ⟨front, shape⟩ := scanner.suffix recognised
    rw [shape] at recognised read
    rw [Scanner.pieces_found recognised] at read
    exact absurd (List.cons.inj read).1 nofun

/-- An item that is read first. -/
theorem Scanner.found_of_pieces {scanner : Scanner α} {s source : List Char} {item : α}
    {pieces : List (Piece α)} (read : scanner.pieces s = .found item source :: pieces) :
    ∃ rest, s = source ++ rest ∧ scanner.run s = some (item, rest)
      ∧ scanner.pieces rest = pieces := by
  cases recognised : scanner.run s with
  | none =>
    cases s with
    | nil =>
      rw [Scanner.pieces_nil] at read
      contradiction
    | cons c s =>
      rw [Scanner.pieces_plain recognised] at read
      exact absurd (List.cons.inj read).1 nofun
  | some found =>
    obtain ⟨other, rest⟩ := found
    obtain ⟨front, shape⟩ := scanner.suffix recognised
    rw [shape] at recognised read ⊢
    rw [Scanner.pieces_found recognised] at read
    cases read
    exact ⟨rest, rfl, rfl, rfl⟩

/-- An item among the pieces was recognised where it stands. -/
theorem Scanner.run_of_mem {scanner : Scanner α} {s source : List Char} {item : α}
    (listed : Piece.found item source ∈ scanner.pieces s) :
    ∃ rest, scanner.run (source ++ rest) = some (item, rest) := by
  induction s using scanner.induction with
  | nil =>
    rw [Scanner.pieces_nil] at listed
    contradiction
  | plain c s absent ih =>
    rw [Scanner.pieces_plain absent] at listed
    exact ih ((List.mem_cons.mp listed).resolve_left nofun)
  | found other front rest present ih =>
    rw [Scanner.pieces_found present] at listed
    rcases List.mem_cons.mp listed with here | behind
    · cases here
      exact ⟨rest, present⟩
    · exact ih behind

end StaticSite.Text
