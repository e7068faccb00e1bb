import StaticSite.Template.Conditional
import StaticSite.Template.Placeholder

/-!
# Loops

A loop is `@each(name in expression)…@end`. Its body ends at the first `@end`, whatever stands
before it, and only its placeholders are filled, once per element with the name bound to it.
-/

namespace StaticSite.Template

open StaticSite.Text

structure Loop where
  name : List Char
  collection : List Char
  body : List Char
  deriving Repr, DecidableEq

def eachOpening : List Char := ['@', 'e', 'a', 'c', 'h', '(']

def eachClosing : List Char := ['@', 'e', 'n', 'd']

/-- The collection and the body of a loop, from where the collection starts. The collection stands
on one line and ends at the first closing parenthesis after its first character. -/
def collectionFront? : List Char → Option ((List Char × List Char) × List Char)
  | [] => none
  | c :: s =>
    -- The first character may be a parenthesis, so the cut starts after it.
    if c = '\n' then none
    else (cutAt? [')'] s).bind fun cut =>
      if cut.1.elem '\n' then none
      else (cutAt? eachClosing cut.2).map fun body => ((c :: cut.1, body.1), body.2)

/-- Tries the collection after all blanks of a gap, then with fewer and fewer of them left out;
one blank at least belongs to the gap. -/
def afterGap? (s : List Char) : (blanks : Nat) → Option ((List Char × List Char) × List Char)
  | 0 => none
  | blanks + 1 =>
    match collectionFront? (s.drop (blanks + 1)) with
    | some found => some found
    | none => afterGap? s blanks

/-- A loop at the front of a text. -/
def loopFront? (s : List Char) : Option (Loop × List Char) :=
  (dropFront? eachOpening s).bind fun header =>
    match header.takeWhile isWord, header.dropWhile isWord with
    | [], _ => none
    | _, [] => none
    | name, blank :: rest =>
      if isBlank blank then
        (dropFront? ['i', 'n'] (rest.dropWhile isBlank)).bind fun gap =>
          (afterGap? gap (gap.takeWhile isBlank).length).map fun found =>
            (⟨name, found.1.1, found.1.2⟩, found.2)
      else none

theorem collectionFront?_suffix {s rest : List Char} {found : List Char × List Char}
    (read : collectionFront? s = some (found, rest)) : ∃ front, s = front ++ rest := by
  cases s with
  | nil => simp [collectionFront?] at read
  | cons c s =>
    simp only [collectionFront?] at read
    split at read
    · simp at read
    · simp only [Option.bind_eq_some_iff, Prod.exists] at read
      obtain ⟨before, after, cut, read⟩ := read
      split at read
      · simp at read
      · simp only [Option.map_eq_some_iff, Prod.mk.injEq, Prod.exists] at read
        obtain ⟨body, tail, closed, _, rfl⟩ := read
        refine ⟨c :: before ++ [')'] ++ body ++ eachClosing, ?_⟩
        rw [cutAt?_eq_append cut, cutAt?_eq_append closed]
        simp

theorem afterGap?_suffix {s rest : List Char} {blanks : Nat} {found : List Char × List Char}
    (read : afterGap? s blanks = some (found, rest)) : ∃ front, s = front ++ rest := by
  induction blanks with
  | zero => simp [afterGap?] at read
  | succ blanks ih =>
    simp only [afterGap?] at read
    split at read
    next taken front =>
      simp only [Option.some.injEq] at read
      obtain ⟨inner, same⟩ := collectionFront?_suffix (read ▸ front)
      exact ⟨s.take (blanks + 1) ++ inner, by
        rw [List.append_assoc, ← same, List.take_append_drop]⟩
    · exact ih read

theorem loopFront?_suffix {s rest : List Char} {loop : Loop}
    (found : loopFront? s = some (loop, rest)) : ∃ front, s = eachOpening ++ front ++ rest := by
  simp only [loopFront?, Option.bind_eq_some_iff] at found
  obtain ⟨header, opened, found⟩ := found
  split at found
  · simp at found
  · simp at found
  next blank inner after _ =>
    split at found
    · simp only [Option.bind_eq_some_iff, Option.map_eq_some_iff, Prod.mk.injEq, Prod.exists]
        at found
      obtain ⟨gap, word, taken, body, tail, read, _, rfl⟩ := found
      obtain ⟨front, same⟩ := afterGap?_suffix read
      refine ⟨header.takeWhile isWord ++ blank :: inner.takeWhile isBlank ++ ['i', 'n'] ++ front,
        ?_⟩
      rw [dropFront?_eq_some_iff.mp opened, List.append_assoc, List.append_cancel_left_eq]
      have split := List.takeWhile_append_dropWhile (p := isWord) (l := header)
      have blanks := List.takeWhile_append_dropWhile (p := isBlank) (l := inner)
      rw [dropFront?_eq_some_iff.mp word, same] at blanks
      rw [after, ← blanks] at split
      simpa using split.symm
    · simp at found

def loops : Scanner Loop where
  run := loopFront?
  shorter found := by
    obtain ⟨front, same⟩ := loopFront?_suffix found
    rw [same]
    simp [eachOpening]; omega
  suffix found := by
    obtain ⟨front, same⟩ := loopFront?_suffix found
    exact ⟨_, same⟩

/-- The elements a loop goes over; only lists and tuples have any. -/
def elements? : Value → Option (List Value)
  | .list items => some items
  | .tuple items => some items
  | _ => none

def bind (scope : Scope) (name : List Char) (item : Value) : Scope :=
  Mapping.insertName (String.ofList name) item scope

/-- The body once per element. -/
def repeatBody (mode : PlaceholderMode) (scope : Scope) (loop : Loop) :
    List Value → Except Fault (List Char)
  | [] => .ok []
  | item :: rest => do
    let first ← fillPlaceholders mode (bind scope loop.name item) loop.body
    return first ++ (← repeatBody mode scope loop rest)

def loopText (loop : Loop) : String :=
  "@each(" ++ String.ofList loop.name ++ " in " ++ String.ofList loop.collection ++ ")"

/-- The expansion of one loop. A collection that cannot be evaluated, or is no sequence, is
reported and leaves nothing. -/
def expandLoop (evaluate : Evaluator) (mode : PlaceholderMode) (scope : Scope) (loop : Loop) :
    Reported (List Char) :=
  match evaluate loop.collection scope with
  | .error fault =>
    if fault.isEvaluation then do
      .warn .templates ("Failed to evaluate " ++ loopText loop ++ ": " ++ fault.text)
      return []
    else .fail fault
  | .ok value =>
    match elements? value with
    | some items => .lift (repeatBody mode scope loop items)
    | none => do
      .warn .templates (loopText loop ++ " expected a sequence, got " ++ value.typeName)
      return []

def expandPieces (evaluate : Evaluator) (mode : PlaceholderMode) (scope : Scope) :
    List (Piece Loop) → Reported (List Char)
  | [] => pure []
  | .plain c :: pieces => do return c :: (← expandPieces evaluate mode scope pieces)
  | .found loop _ :: pieces => do
    let first ← expandLoop evaluate mode scope loop
    return first ++ (← expandPieces evaluate mode scope pieces)

/-- Expands every loop of a text. -/
def expandLoops (evaluate : Evaluator) (mode : PlaceholderMode) (scope : Scope) (s : List Char) :
    Reported (List Char) :=
  expandPieces evaluate mode scope (loops.pieces s)

end StaticSite.Template
