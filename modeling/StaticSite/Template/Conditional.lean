import StaticSite.Reported
import StaticSite.Text.Quoted
import StaticSite.Text.Scanner
import StaticSite.Text.Search
import StaticSite.Value.Basic

/-!
# Conditionals

A conditional is `@if(condition)…@else…@endif`, nested to any depth. The condition ends at the
first closing parenthesis. A walk over the markers that follow tracks the depth, so that a marker
of an inner conditional never splits or closes an outer one; the first `@else` at the outer depth
splits the branches.
-/

namespace StaticSite.Template

open StaticSite.Text

/-- The value of an expression text in a scope. -/
abbrev Evaluator := List Char → Scope → Except Fault Value

inductive Marker where
  | opening
  | otherwise
  | closing
  deriving Repr, DecidableEq

def ifOpening : List Char := ['@', 'i', 'f', '(']

def elseMarker : List Char := ['@', 'e', 'l', 's', 'e']

def ifClosing : List Char := ['@', 'e', 'n', 'd', 'i', 'f']

def Marker.text : Marker → List Char
  | .opening => ifOpening
  | .otherwise => elseMarker
  | .closing => ifClosing

def markerFront? (s : List Char) : Option (Marker × List Char) :=
  [Marker.opening, .otherwise, .closing].findSome? fun marker =>
    (dropFront? marker.text s).map fun rest => (marker, rest)

theorem markerFront?_eq_append {s rest : List Char} {marker : Marker}
    (found : markerFront? s = some (marker, rest)) : s = marker.text ++ rest := by
  obtain ⟨candidate, _, read⟩ := List.exists_of_findSome?_eq_some found
  simp only [Option.map_eq_some_iff, Prod.mk.injEq] at read
  obtain ⟨tail, front, rfl, rfl⟩ := read
  exact dropFront?_eq_some_iff.mp front

def markers : Scanner Marker where
  run := markerFront?
  shorter {s item rest} found := by
    rw [markerFront?_eq_append found]
    cases item <;> simp [Marker.text, ifOpening, elseMarker, ifClosing] <;> omega
  suffix found := ⟨_, markerFront?_eq_append found⟩

/-- The two branches of the conditional that the pieces start inside of, and the pieces after it.
`depth` counts the inner conditionals that are open, `split` says that `@else` has been met. -/
def branches (depth : Nat) (split : Bool) :
    List (Piece Marker) → Option (List Char × List Char × List (Piece Marker))
  | [] => none
  | piece :: pieces =>
    match piece, depth with
    -- The marker that closes the conditional belongs to neither branch.
    | .found .closing _, 0 => some ([], [], pieces)
    | .found .closing _, inner + 1 => (branches inner split pieces).map (keep piece)
    | .found .opening _, depth => (branches (depth + 1) split pieces).map (keep piece)
    | .found .otherwise _, 0 =>
      -- A second `@else` at the outer depth is text of the second branch.
      if split then (branches 0 true pieces).map (keep piece) else branches 0 true pieces
    | piece, depth => (branches depth split pieces).map (keep piece)
where
  /-- Puts a piece in front of the branch it stands in. -/
  keep (piece : Piece Marker) (found : List Char × List Char × List (Piece Marker)) :
      List Char × List Char × List (Piece Marker) :=
    if split then (found.1, piece.source ++ found.2.1, found.2.2)
    else (piece.source ++ found.1, found.2.1, found.2.2)

/-- A conditional: its condition without surrounding blanks, and its branches. -/
structure Conditional where
  condition : List Char
  whenTrue : List Char
  whenFalse : List Char
  deriving Repr, DecidableEq

def sourceOf (pieces : List (Piece Marker)) : List Char := pieces.flatMap Piece.source

/-- The conditional whose opening marker has just been read, and the text after it. -/
def conditional? (s : List Char) : Option (Conditional × List Char) :=
  (cutAt? [')'] s).bind fun cut =>
    (branches 0 false (markers.pieces cut.2)).map fun found =>
      (⟨trim cut.1, found.1, found.2.1⟩, sourceOf found.2.2)

theorem branches_length {depth : Nat} {split : Bool} {pieces after : List (Piece Marker)}
    {first second : List Char} (found : branches depth split pieces = some (first, second, after)) :
    first.length + second.length + (sourceOf after).length ≤ (sourceOf pieces).length := by
  induction pieces generalizing depth split first second after with
  | nil => simp [branches] at found
  | cons piece pieces ih =>
    -- What is kept is moved from the pieces into one of the two branches.
    have kept {inside : Nat} {met : Bool}
        (inner : (branches inside met pieces).map (branches.keep split piece)
          = some (first, second, after)) :
        first.length + second.length + (sourceOf after).length
          ≤ (sourceOf (piece :: pieces)).length := by
      simp only [Option.map_eq_some_iff, Prod.exists] at inner
      obtain ⟨a, b, rest, read, same⟩ := inner
      have bound := ih read
      unfold branches.keep at same
      split at same <;>
        (simp only [Prod.mk.injEq] at same
         obtain ⟨rfl, rfl, rfl⟩ := same
         simp only [sourceOf, List.flatMap_cons, List.length_append] at bound ⊢
         omega)
    simp only [branches] at found
    split at found
    · simp only [Option.some.injEq, Prod.mk.injEq] at found
      obtain ⟨rfl, rfl, rfl⟩ := found
      simp [sourceOf]
    · exact kept found
    · exact kept found
    · split at found
      · exact kept found
      · have bound := ih found
        simp only [sourceOf, List.flatMap_cons, List.length_append] at bound ⊢
        omega
    · exact kept found

theorem conditional?_length {s rest : List Char} {block : Conditional}
    (found : conditional? s = some (block, rest)) :
    block.whenTrue.length + block.whenFalse.length + rest.length < s.length := by
  simp only [conditional?, Option.bind_eq_some_iff, Option.map_eq_some_iff, Prod.mk.injEq,
    Prod.exists] at found
  obtain ⟨condition, body, cut, first, second, after, read, rfl, rfl⟩ := found
  have bound := branches_length read
  have whole : sourceOf (markers.pieces body) = body := markers.source_pieces body
  rw [whole] at bound
  rw [cutAt?_eq_append cut]
  simp only [List.length_append, List.length_cons, List.length_nil] at bound ⊢
  omega

/-- The truth of a condition; one that cannot be evaluated is reported and false. -/
def holds (evaluate : Evaluator) (condition : List Char) (scope : Scope) : Reported Bool :=
  match evaluate condition scope with
  | .ok value => pure value.isTrue
  | .error fault =>
    if fault.isEvaluation then do
      .warn .templates ("Invalid condition " ++ String.ofList (quoted condition)
        ++ " treated as false: " ++ fault.text)
      return false
    else .fail fault

def unclosedText (place : Nat) : String :=
  "Unclosed @if at offset " ++ toString place ++ "; left unrendered."

/-- Resolves every conditional of a text; `place` counts the characters before it. -/
def resolveFrom (evaluate : Evaluator) (scope : Scope) (place : Nat) (s : List Char) :
    Reported (List Char) :=
  match _cut : cutAt? ifOpening s with
  | none => pure s
  | some (before, after) =>
    match _block : conditional? after with
    | none => do
      .warn .templates (unclosedText (place + before.length))
      return s
    | some (block, rest) => do
      -- Only the branch that is taken is looked at; offsets in it count from its own start.
      let branch ←
        if ← holds evaluate block.condition scope then
          resolveFrom evaluate scope 0 block.whenTrue
        else resolveFrom evaluate scope 0 block.whenFalse
      let tail ← resolveFrom evaluate scope (place + s.length - rest.length) rest
      return before ++ branch ++ tail
termination_by s.length
decreasing_by
  all_goals
    have inner := conditional?_length _block
    have whole := congrArg List.length (cutAt?_eq_append _cut)
    simp only [List.length_append] at whole
    omega

/-- Resolves every conditional of a text. -/
def resolveConditionals (evaluate : Evaluator) (scope : Scope) (s : List Char) :
    Reported (List Char) :=
  resolveFrom evaluate scope 0 s

/-- A place counted from the start, or from the end if negative. -/
def placeOf (length : Nat) (index : Int) : Nat :=
  if index < 0 then (index + length).toNat else index.toNat

/-- The conditional whose opening marker starts at an index, and the place where it ends. The
marker itself is not looked at. -/
def conditionalAt? (s : List Char) (start : Int) : Option (Conditional × Nat) :=
  let body := start + ifOpening.length
  (conditional? (s.drop (placeOf s.length body))).map fun found =>
    (found.1, s.length - found.2.length)

end StaticSite.Template
