/-!
# Scanners and pieces

A scanner recognises an item at the front of a text. `Scanner.pieces` applies it at every place,
from left to right and without overlap: each piece is a plain character or an item together with
the text it was read from. The passes over markup are scanners; what differs between them is only
what they make of the pieces. `source_pieces` says that no character is lost.
-/

namespace StaticSite.Text

/-- Recognises an item at the front of a text and gives the text that follows it. An item takes
at least one character. -/
structure Scanner (α : Type) where
  run : List Char → Option (α × List Char)
  shorter : ∀ {s : List Char} {item : α} {rest : List Char},
    run s = some (item, rest) → rest.length < s.length
  suffix : ∀ {s : List Char} {item : α} {rest : List Char},
    run s = some (item, rest) → ∃ front, s = front ++ rest

/-- A character on its own, or an item with its source text. -/
inductive Piece (α : Type) where
  | plain (c : Char)
  | found (item : α) (source : List Char)

namespace Piece

variable {α : Type}

def source : Piece α → List Char
  | .plain c => [c]
  | .found _ text => text

/-- Writes `f` of an item and leaves plain characters alone. -/
def write (f : α → List Char) : Piece α → List Char
  | .plain c => [c]
  | .found item _ => f item

end Piece

namespace Scanner

variable {α : Type}

/-- Reads a text from left to right. -/
def pieces (scanner : Scanner α) : List Char → List (Piece α)
  | [] => []
  | c :: s =>
    match _recognised : scanner.run (c :: s) with
    | some (item, rest) =>
      .found item ((c :: s).take ((c :: s).length - rest.length)) :: scanner.pieces rest
    | none => .plain c :: scanner.pieces s
termination_by s => s.length
decreasing_by
  · exact scanner.shorter _recognised
  · simp

/-- Replaces every item by a text. -/
def replace (scanner : Scanner α) (f : α → List Char) (s : List Char) : List Char :=
  (scanner.pieces s).flatMap (Piece.write f)

theorem pieces_nil (scanner : Scanner α) : scanner.pieces [] = [] := by
  rw [pieces]

theorem pieces_plain {scanner : Scanner α} {c : Char} {s : List Char}
    (absent : scanner.run (c :: s) = none) :
    scanner.pieces (c :: s) = .plain c :: scanner.pieces s := by
  rw [pieces]; split <;> simp_all

theorem pieces_found {scanner : Scanner α} {front rest : List Char} {item : α}
    (present : scanner.run (front ++ rest) = some (item, rest)) :
    scanner.pieces (front ++ rest) = .found item front :: scanner.pieces rest := by
  have longer := scanner.shorter present
  match whole : front ++ rest with
  | [] => simp [whole] at longer
  | c :: s =>
    rw [pieces]
    split
    next found recognised =>
      rw [← whole, present] at recognised
      simp only [Option.some.injEq, Prod.mk.injEq] at recognised
      obtain ⟨rfl, rfl⟩ := recognised
      simp [← whole]
    next absent => rw [← whole, present] at absent; simp at absent

/-- An induction along the reading of a text: it is empty, or a character stands in front of the
rest at which nothing is recognised, or an item does. -/
theorem induction {motive : List Char → Prop} (scanner : Scanner α) (nil : motive [])
    (plain : ∀ c s, scanner.run (c :: s) = none → motive s → motive (c :: s))
    (found : ∀ item source rest, scanner.run (source ++ rest) = some (item, rest) →
      motive rest → motive (source ++ rest)) (s : List Char) : motive s := by
  induction size : s.length using Nat.strongRecOn generalizing s with
  | ind n ih =>
    cases s with
    | nil => exact nil
    | cons c s =>
      cases recognised : scanner.run (c :: s) with
      | none => exact plain c s recognised (ih s.length (size ▸ Nat.lt_succ_self _) s rfl)
      | some read =>
        obtain ⟨item, rest⟩ := read
        have shorter : rest.length < n := size ▸ scanner.shorter recognised
        obtain ⟨source, shape⟩ := scanner.suffix recognised
        rw [shape] at recognised ⊢
        exact found item source rest recognised (ih rest.length shorter rest rfl)

/-- The source texts of the pieces are the text that was read. -/
theorem source_pieces (scanner : Scanner α) (s : List Char) :
    (scanner.pieces s).flatMap Piece.source = s := by
  induction s using scanner.induction with
  | nil => rw [pieces_nil, List.flatMap_nil]
  | plain c s absent ih => rw [pieces_plain absent, List.flatMap_cons, ih, Piece.source]; rfl
  | found item source rest present ih =>
    rw [pieces_found present, List.flatMap_cons, ih, Piece.source]

end Scanner

end StaticSite.Text
