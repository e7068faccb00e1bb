import StaticSite.Text.Class

/-!
# Searching, cutting and joining texts

Texts are lists of characters. A search returns what stands before and after the first match, so
that no caller handles offsets. `dropFront?_eq_some_iff` and `cutAt?_eq_append` tie the parts to
the text they come from.
-/

namespace StaticSite.Text

/-- What follows `front` at the start of a text, if the text starts with it. -/
def dropFront? : List Char → List Char → Option (List Char)
  | [], s => some s
  | _ :: _, [] => none
  | c :: front, d :: s => if c = d then dropFront? front s else none

theorem dropFront?_eq_some_iff {front s rest : List Char} :
    dropFront? front s = some rest ↔ s = front ++ rest := by
  fun_induction dropFront? front s with
  | case1 s => simp [eq_comm]
  | case2 => simp
  | case3 c front s ih => simp [ih]
  | case4 c front d s differ => simp [Ne.symm differ]

def startsWith (front s : List Char) : Bool := (dropFront? front s).isSome

def endsWith (tail s : List Char) : Bool := startsWith tail.reverse s.reverse

/-- The text before and after the first occurrence of `mark`. -/
def cutAt? (mark : List Char) : List Char → Option (List Char × List Char)
  | [] => if mark = [] then some ([], []) else none
  | c :: s =>
    match dropFront? mark (c :: s) with
    | some after => some ([], after)
    | none => (cutAt? mark s).map fun parts => (c :: parts.1, parts.2)

theorem cutAt?_eq_append {mark s before after : List Char}
    (found : cutAt? mark s = some (before, after)) : s = before ++ mark ++ after := by
  induction s generalizing before with
  | nil =>
    simp only [cutAt?] at found
    split at found <;> simp_all
  | cons c s ih =>
    simp only [cutAt?] at found
    split at found
    next rest front =>
      simp only [Option.some.injEq, Prod.mk.injEq] at found
      obtain ⟨rfl, rfl⟩ := found
      simpa using dropFront?_eq_some_iff.mp front
    next absent =>
      simp only [Option.map_eq_some_iff, Prod.mk.injEq, Prod.exists] at found
      obtain ⟨head, tail, inner, rfl, rfl⟩ := found
      simp [ih inner]

/-- The text before and after the last occurrence of `mark`. -/
def cutAtLast? (mark s : List Char) : Option (List Char × List Char) :=
  (cutAt? mark.reverse s.reverse).map fun parts => (parts.2.reverse, parts.1.reverse)

def contains (mark s : List Char) : Bool := (cutAt? mark s).isSome

/-- The number of characters before the first occurrence of `mark`. -/
def indexOf? (mark s : List Char) : Option Nat := (cutAt? mark s).map (·.1.length)

/-- Replaces up to `limit` occurrences, left to right; `skip` characters belong to a match that
has been replaced already. -/
def replaceFrom (mark new : List Char) : (limit skip : Nat) → List Char → List Char
  | _, _, [] => []
  | limit, skip + 1, _ :: s => replaceFrom mark new limit skip s
  | 0, 0, s => s
  | limit + 1, 0, c :: s =>
    if startsWith mark (c :: s) then new ++ replaceFrom mark new limit (mark.length - 1) s
    else c :: replaceFrom mark new (limit + 1) 0 s

/-- Puts `new` before each character and at the end, at most `limit` times. -/
def interleave (new : List Char) : (limit : Nat) → List Char → List Char
  | 0, s => s
  | _ + 1, [] => new
  | limit + 1, c :: s => new ++ c :: interleave new limit s

/-- Replaces the first `limit` occurrences of `mark`. -/
def replaceUpTo (limit : Nat) (mark new s : List Char) : List Char :=
  if mark = [] then interleave new limit s else replaceFrom mark new limit 0 s

/-- Replaces every occurrence of `mark`, from left to right and without overlap. -/
def replaceAll (mark new s : List Char) : List Char := replaceUpTo (s.length + 1) mark new s

/-- Replaces the first occurrence of `mark`, if there is one. -/
def replaceFirst (mark new s : List Char) : List Char :=
  match cutAt? mark s with
  | some (before, after) => before ++ new ++ after
  | none => s

/-- Cuts at up to `limit` occurrences of a non-empty `mark`; `piece` collects, in reverse, the
piece under way. -/
def splitFrom (mark : List Char) : (limit skip : Nat) → (piece : List Char) → List Char →
    List (List Char)
  | _, _, piece, [] => [piece.reverse]
  | limit, skip + 1, piece, _ :: s => splitFrom mark limit skip piece s
  | 0, 0, piece, s => [piece.reverse ++ s]
  | limit + 1, 0, piece, c :: s =>
    if startsWith mark (c :: s) then
      piece.reverse :: splitFrom mark limit (mark.length - 1) [] s
    else splitFrom mark (limit + 1) 0 (c :: piece) s

def splitOn (mark s : List Char) : List (List Char) := splitFrom mark (s.length + 1) 0 [] s

def joinWith (mark : List Char) : List (List Char) → List Char
  | [] => []
  | [piece] => piece
  | piece :: rest => piece ++ mark ++ joinWith mark rest

/-- How often `mark` occurs without overlap. -/
def count (mark s : List Char) : Nat :=
  if mark = [] then s.length + 1 else (splitOn mark s).length - 1

def trimFrontOf (drop : Char → Bool) (s : List Char) : List Char := s.dropWhile drop

def trimBackOf (drop : Char → Bool) (s : List Char) : List Char :=
  (s.reverse.dropWhile drop).reverse

def trimOf (drop : Char → Bool) (s : List Char) : List Char := trimBackOf drop (trimFrontOf drop s)

/-- Removes blanks from both ends. -/
def trim (s : List Char) : List Char := trimOf isBlank s

/-- Cuts at runs of blanks; no piece is empty. -/
def words (s : List Char) : List (List Char) :=
  (go [] s).filter (!·.isEmpty)
where
  go (piece : List Char) : List Char → List (List Char)
    | [] => [piece.reverse]
    | c :: s => if isBlank c then piece.reverse :: go [] s else go (c :: piece) s

def padLeft (width : Nat) (c : Char) (s : List Char) : List Char :=
  List.replicate (width - s.length) c ++ s

def padRight (width : Nat) (c : Char) (s : List Char) : List Char :=
  s ++ List.replicate (width - s.length) c

/-- Line ends of either two-character or one-character form become one line feed. -/
def normalizeLines : List Char → List Char
  | [] => []
  | '\r' :: '\n' :: s => '\n' :: normalizeLines s
  | '\r' :: s => '\n' :: normalizeLines s
  | c :: s => c :: normalizeLines s

end StaticSite.Text
