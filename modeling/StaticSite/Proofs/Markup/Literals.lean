import StaticSite.Proofs.Json.Escapes
import StaticSite.Proofs.Markup.Comments
import StaticSite.Proofs.Markup.Protecting

/-!
# Elements in written strings

Markup may hold a string as JSON writes it. Its verbatim elements are taken out in their written
form, escapes and all, and what is left is the string with tokens in their places, written. So the
string that is read there has a token for each element, and puts back the written form of it.
-/

namespace StaticSite.Markup

open StaticSite.Text
open StaticSite.Json (spelling spelling_cons spelling_append escapeChar escapeChar_eq_or escapeLetters
  spelling_cut Spelled)

/-- A character of a string, or a part of it that is an element when the string is written. -/
inductive Part where
  | char (c : Char)
  | element (body : List Char)

namespace Part

/-- The part as it is in the string. -/
def text : Part → List Char
  | .char c => [c]
  | .element body => body

/-- The part with the written form of an element. -/
def shown : Part → List Char
  | .char c => [c]
  | .element body => spelling body

/-- What is found in the written form. -/
def pieces : Part → List (Piece Unit)
  | .char c => (escapeChar c).map .plain
  | .element body => [.found () (spelling body)]

/-- What is read in the string once the written form of an element has been taken out. -/
def piece : Part → Piece Unit
  | .char c => .plain c
  | .element body => .found () (spelling body)

theorem source_piece (part : Part) : part.piece.source = part.shown := by
  cases part <;> rfl

end Part

/-! ### Reading a written string -/

theorem run_of_anyElementFront? {source rest : List Char}
    (front : anyElementFront? verbatimTags (source ++ rest) = some rest) :
    (elements verbatimTags).run (source ++ rest) = some ((), rest) := by
  show (anyElementFront? verbatimTags (source ++ rest)).map _ = _
  rw [front]
  rfl

/-- No element begins in a text without brackets. -/
theorem pieces_front {front : List Char} (absent : '<' ∉ front) (rest : List Char) :
    (elements verbatimTags).pieces (front ++ rest)
      = front.map .plain ++ (elements verbatimTags).pieces rest := by
  refine Scanner.pieces_skip (Skips.of_not_mem (fun c rest differs => ?_) absent rest)
  exact Option.map_eq_none_iff.mpr (anyElementFront?_of_ne rest differs)

theorem escapeChar_notMem {c d : Char} (foreign : d ∉ escapeLetters) (differs : c ≠ d) :
    d ∉ escapeChar c := by
  rcases escapeChar_eq_or c with ⟨same, _⟩ | ⟨letters, same, _, all⟩
  · rw [same, List.mem_singleton]
    exact differs.symm
  · rw [same]
    exact Json.notMem_escape foreign all

/-- A written string is read part by part: an element in it begins and ends with a bracket, which
is in no escape, so its ends are ends of characters of the string. -/
theorem pieces_written (s : List Char) {close : List Char} (opens : '<' ∉ close)
    (ends : '>' ∉ close) :
    ∃ parts : List Part, parts.flatMap Part.text = s ∧
      (elements verbatimTags).pieces (spelling s ++ close)
        = parts.flatMap Part.pieces ++ close.map .plain := by
  -- The induction is on the length, since an element takes several characters at once.
  induction size : s.length using Nat.strongRecOn generalizing s with
  | ind n ih =>
    cases s with
    | nil =>
      have alone := pieces_front opens []
      rw [List.append_nil, Scanner.pieces_nil, List.append_nil] at alone
      exact ⟨[], rfl, alone⟩
    | cons c s =>
      rw [List.length_cons] at size
      cases front : anyElementFront? verbatimTags (spelling (c :: s) ++ close) with
      | none =>
        obtain ⟨parts, whole, read⟩ := ih s.length (by omega) s rfl
        refine ⟨.char c :: parts, by simp [Part.text, whole], ?_⟩
        rw [spelling_cons, List.append_assoc] at front ⊢
        have step : (elements verbatimTags).pieces (escapeChar c ++ (spelling s ++ close))
            = (escapeChar c).map .plain ++ (elements verbatimTags).pieces (spelling s ++ close) := by
          by_cases bracket : c = '<'
          · subst bracket
            exact Scanner.pieces_plain (Option.map_eq_none_iff.mpr front)
          · exact pieces_front (escapeChar_notMem (by decide) bracket) _
        rw [step, read, List.flatMap_cons, List.append_assoc]
        rfl
      | some rest =>
        obtain ⟨tag, _, element⟩ := List.exists_of_findSome?_eq_some front
        -- The last character of the element is `>`, which no escape has inside of it.
        obtain ⟨before, after, split, cut⟩ :=
          spelling_cut (by decide) ends (elementFront?_ends element)
        have shape : c :: s = (before ++ ['>']) ++ after := by
          rw [split, List.append_assoc]
          rfl
        have shorter : after.length < n := by
          have sizes := congrArg List.length split
          simp only [List.length_append, List.length_cons] at sizes
          omega
        obtain ⟨parts, whole, read⟩ := ih after.length shorter after rfl
        refine ⟨.element (before ++ ['>']) :: parts, by rw [shape, ← whole]; rfl, ?_⟩
        rw [shape, spelling_append, List.append_assoc, ← cut] at front ⊢
        rw [Scanner.pieces_found (run_of_anyElementFront? front), cut, read]
        rfl

/-! ### Taking the elements out -/

variable {store : Store}

theorem spelling_token (lettered : store.Lettered) (place : Nat) :
    spelling (store.token place) = store.token place := by
  refine Json.spelling_of_self fun c listed => ?_
  have token := Store.isTokenChar_of_mem lettered listed
  simp only [Store.isTokenChar, Bool.or_eq_true, decide_eq_true_eq] at token
  rcases token with (letter | rfl) | rfl
  · exact Json.escapeChar_of_isAlphanum letter
  · rfl
  · rfl

theorem keepPieces_map_plain (store : Store) (front : List Char) (pieces : List (Piece Unit)) :
    keepPieces store (front.map .plain ++ pieces)
      = (front ++ (keepPieces store pieces).1, (keepPieces store pieces).2) := by
  induction front with
  | nil => rfl
  | cons c front ih =>
    rw [List.map_cons, List.cons_append, keepPieces, ih]
    rfl

/-- The string in which each element has been replaced by its token, and what the store keeps. -/
def taken (store : Store) (parts : List Part) : List Char × Store :=
  keepPieces store (parts.map Part.piece)

/-- Without its elements the written string is the string without them, written. -/
theorem keepPieces_written (lettered : store.Lettered) (parts : List Part) (close : List Char) :
    keepPieces store (parts.flatMap Part.pieces ++ close.map .plain)
      = (spelling (taken store parts).1 ++ close, (taken store parts).2) := by
  induction parts generalizing store with
  | nil =>
    have alone := keepPieces_map_plain store close []
    rw [List.append_nil] at alone
    rw [List.flatMap_nil, List.nil_append, alone, keepPieces, List.append_nil]
    rfl
  | cons part parts ih =>
    rw [List.flatMap_cons, List.append_assoc]
    cases part with
    | char c =>
      rw [Part.pieces, keepPieces_map_plain, ih lettered]
      have step : taken store (.char c :: parts) = (c :: (taken store parts).1, (taken store parts).2) :=
        rfl
      rw [step, spelling_cons, List.append_assoc]
    | element body =>
      have added : (store.add (spelling body)).Lettered := lettered
      have step : taken store (.element body :: parts)
          = (store.token store.size ++ (taken (store.add (spelling body)) parts).1,
              (taken (store.add (spelling body)) parts).2) := rfl
      -- A token is written as it is, since no character of it has an escape.
      rw [step, spelling_append, spelling_token lettered, List.append_assoc]
      rw [Part.pieces, List.singleton_append, keepPieces, ih added]
      rfl

/-! ### What is put back -/

theorem sources_map_plain (front : List Char) (pieces : List (Piece Unit)) :
    Store.sources (front.map .plain ++ pieces) = Store.sources pieces := by
  induction front with
  | nil => rfl
  | cons c front ih => exact ih

theorem flatMap_source_piece (parts : List Part) :
    (parts.map Part.piece).flatMap Piece.source = parts.flatMap Part.shown := by
  rw [List.flatMap_map]
  exact congrArg (List.flatMap · parts) (funext Part.source_piece)

/-- Only the characters in elements are escaped. -/
theorem spelled_parts (parts : List Part) :
    Spelled (parts.flatMap Part.text) (parts.flatMap Part.shown) := by
  induction parts with
  | nil => exact .nil
  | cons part parts ih =>
    cases part with
    | char c => exact .plain c ih
    | element body => exact ih.spelling_append body

/-- Without its elements the string has no characters of its own but those of tokens. -/
theorem notMem_taken {c : Char} {parts : List Part} (lettered : store.Lettered)
    (token : Store.isTokenChar c = false) (escape : c ∉ escapeLetters)
    (absent : c ∉ parts.flatMap Part.text) : c ∉ (taken store parts).1 := by
  intro inside
  obtain ⟨front, back, whole⟩ := List.append_of_mem inside
  have alone : [c] <:+: (taken store parts).1 := ⟨front, back, by simp [whole]⟩
  have shown := Store.infix_of_keepPieces lettered token List.not_mem_nil alone
  rw [flatMap_source_piece] at shown
  have string := (spelled_parts parts).stands_in_text escape List.not_mem_nil shown
  exact absent (string.subset List.mem_cons_self)

/-- No token begins in what is put back if the string does not hold the nonce. -/
theorem tokenStart_notInfix_shown {parts : List Part} (lettered : store.Lettered)
    (foreign : ¬ store.nonce <:+: parts.flatMap Part.text) :
    ¬ store.tokenStart <:+: parts.flatMap Part.shown := by
  intro inside
  have nonce : '\\' ∉ store.nonce := by
    intro listed
    have letter := lettered _ listed
    contradiction
  have bare : '\\' ∉ '%' :: ("VERBATIM_".toList ++ store.nonce ++ ['_']) := by
    simp [nonce]
  rw [Store.tokenStart_eq] at inside
  have string := (spelled_parts parts).stands_in_text (by decide) bare inside
  rw [← Store.tokenStart_eq] at string
  exact foreign (store.nonce_infix_tokenStart.trans string)

theorem length_text_le_shown (parts : List Part) :
    (parts.flatMap Part.text).length ≤ (parts.flatMap Part.shown).length := by
  induction parts with
  | nil => exact Nat.le_refl 0
  | cons part parts ih =>
    have here : part.text.length ≤ part.shown.length := by
      cases part with
      | char c => exact Nat.le_refl 1
      | element body => exact Json.length_le_spelling body
    simp only [List.flatMap_cons, List.length_append]
    omega

/-- The string is put back as it was exactly if no element has an escape in its written form. -/
theorem shown_eq_text_iff (parts : List Part) (close : List Char) :
    parts.flatMap Part.shown = parts.flatMap Part.text ↔
      ∀ element ∈ Store.sources (parts.flatMap Part.pieces ++ close.map .plain),
        '\\' ∉ element := by
  induction parts with
  | nil =>
    have alone := sources_map_plain close []
    rw [List.append_nil] at alone
    simp only [List.flatMap_nil, List.nil_append, alone]
    exact ⟨fun _ => nofun, fun _ => trivial⟩
  | cons part parts ih =>
    simp only [List.flatMap_cons, List.append_assoc]
    cases part with
    | char c =>
      rw [Part.pieces, sources_map_plain, ← ih]
      exact List.cons_inj_right c
    | element body =>
      rw [Part.pieces, List.singleton_append, Store.sources, List.forall_mem_cons, ← ih,
        ← Json.spelling_eq_self_iff]
      -- Both halves can only grow, so they agree together if and only if each does.
      constructor
      · intro whole
        have sizes := congrArg List.length whole
        have element := Json.length_le_spelling body
        have others := length_text_le_shown parts
        simp only [List.length_append, Part.shown, Part.text] at sizes
        have same : (spelling body).length = body.length := by omega
        exact List.append_inj whole same
      · rintro ⟨here, there⟩
        rw [Part.shown, Part.text, here, there]

end StaticSite.Markup
