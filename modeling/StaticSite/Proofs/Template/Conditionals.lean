import StaticSite.Proofs.Template.Grammar
import StaticSite.Proofs.Text.Skipping

/-!
# Conditionals of a printed template

The walk over the markers of a printed template keeps the depth at which it started, so it finds
the branches that were printed, however deep the conditionals are nested. Resolving the
conditionals of a printed template therefore prints the branches that are taken.
-/

namespace StaticSite.Template

open StaticSite.Text

variable {α : Type}

/-! ### What searches for markers pass over -/

section

variable {recognise : List Char → Option α}

theorem skips_leaf (needs : ∀ c rest, c ≠ '@' → recognise (c :: rest) = none)
    (slot : ∀ rest, recognise ('@' :: '[' :: rest) = none) (leaf : Leaf) (rest : List Char) :
    Skips recognise leaf.print rest := by
  cases leaf with
  | text s => exact Skips.of_not_mem needs s.unmarked rest
  | placeholder path =>
    apply Skips.cons (slot _)
    refine Skips.of_not_mem needs ?_ rest
    have unmarked := path.unmarked
    simp_all

theorem skips_leaves (needs : ∀ c rest, c ≠ '@' → recognise (c :: rest) = none)
    (slot : ∀ rest, recognise ('@' :: '[' :: rest) = none) (leaves : List Leaf)
    (rest : List Char) : Skips recognise (printLeaves leaves) rest := by
  induction leaves with
  | nil => exact Skips.nil recognise rest
  | cons leaf leaves ih => exact (skips_leaf needs slot leaf _).append ih

theorem isWord_at : isWord '@' = false := by decide

theorem LoopHeader.name_unmarked (header : LoopHeader) : '@' ∉ header.name := by
  intro inside
  have word := header.word '@' inside
  rw [isWord_at] at word
  contradiction

theorem skips_loop (needs : ∀ c rest, c ≠ '@' → recognise (c :: rest) = none)
    (slot : ∀ rest, recognise ('@' :: '[' :: rest) = none)
    (opens : ∀ rest, recognise (eachOpening ++ rest) = none) (header : LoopHeader)
    (body : List Leaf) {rest : List Char} (ends : recognise (eachClosing ++ rest) = none) :
    Skips recognise (Simple.loop header body).print rest := by
  have closing : Skips recognise eachClosing rest :=
    Skips.cons ends (Skips.of_not_mem needs (by decide) rest)
  refine Skips.append (Skips.append ?_ (skips_leaves needs slot body _)) closing
  have first := opens (header.name ++ [' ', 'i', 'n', ' '] ++ header.collection ++ [')']
    ++ (printLeaves body ++ (eachClosing ++ rest)))
  refine Skips.cons (by simpa [eachOpening] using first) (Skips.of_not_mem needs ?_ _)
  have name := header.name_unmarked
  have collection := header.unmarked
  simp_all

end

/-! ### Markers -/

theorem markerFront?_plain (c : Char) (rest : List Char) (plain : c ≠ '@') :
    markerFront? (c :: rest) = none := by
  simp [markerFront?, Marker.text, ifOpening, elseMarker, ifClosing,
    dropFront?_cons_ne _ _ plain]

theorem markerFront?_slot (rest : List Char) : markerFront? ('@' :: '[' :: rest) = none := by
  simp [markerFront?, Marker.text, ifOpening, elseMarker, ifClosing, dropFront?]

theorem markerFront?_each (rest : List Char) : markerFront? (eachOpening ++ rest) = none := by
  simp [markerFront?, Marker.text, ifOpening, elseMarker, ifClosing, eachOpening, dropFront?]

theorem markerFront?_end {rest : List Char} (apart : joinsEnd rest = false) :
    markerFront? (eachClosing ++ rest) = none := by
  have absent : dropFront? ['i', 'f'] rest = none := by
    simpa [joinsEnd, startsWith] using apart
  simp [markerFront?, Marker.text, ifOpening, elseMarker, ifClosing, eachClosing, dropFront?, absent]

theorem pieces_marker (marker : Marker) (rest : List Char) :
    markers.pieces (marker.text ++ rest) = .found marker marker.text :: markers.pieces rest := by
  refine Scanner.pieces_found ?_
  show markerFront? (marker.text ++ rest) = _
  cases marker <;> simp [markerFront?, Marker.text, ifOpening, elseMarker, ifClosing, dropFront?]

/-- Puts text in front of the branch that is being read. -/
def keepText (split : Bool) (text : List Char)
    (found : List Char × List Char × List (Piece Marker)) :
    List Char × List Char × List (Piece Marker) :=
  if split then (found.1, text ++ found.2.1, found.2.2) else (text ++ found.1, found.2.1, found.2.2)

theorem keepText_nil (split : Bool) (found : List Char × List Char × List (Piece Marker)) :
    keepText split [] found = found := by
  unfold keepText
  split <;> rfl

theorem keepText_keepText (split : Bool) (front back : List Char) :
    keepText split front ∘ keepText split back = keepText split (front ++ back) := by
  funext found
  unfold keepText
  cases split <;> simp

theorem branches_cons_plain (depth : Nat) (split : Bool) (c : Char) (pieces : List (Piece Marker)) :
    branches depth split (.plain c :: pieces)
      = (branches depth split pieces).map (branches.keep split (.plain c)) := by
  cases depth <;> rfl

theorem branches_plain (depth : Nat) (split : Bool) (s : List Char)
    (pieces : List (Piece Marker)) :
    branches depth split (s.map Piece.plain ++ pieces)
      = (branches depth split pieces).map (keepText split s) := by
  induction s with
  | nil =>
    have same : keepText split [] = id := funext (keepText_nil split)
    simp [same]
  | cons c s ih =>
    rw [List.map_cons, List.cons_append, branches_cons_plain, ih, Option.map_map]
    have step : branches.keep split (.plain c) ∘ keepText split s = keepText split (c :: s) :=
      keepText_keepText split [c] s
    rw [step]

theorem branches_skip {depth : Nat} {split : Bool} {s rest : List Char}
    (skips : Skips markerFront? s rest) :
    branches depth split (markers.pieces (s ++ rest))
      = (branches depth split (markers.pieces rest)).map (keepText split s) := by
  have pieces : markers.pieces (s ++ rest) = s.map Piece.plain ++ markers.pieces rest :=
    Scanner.pieces_skip skips
  rw [pieces, branches_plain]

theorem branches_open (depth : Nat) (split : Bool) (rest : List Char) :
    branches depth split (markers.pieces (ifOpening ++ rest))
      = (branches (depth + 1) split (markers.pieces rest)).map (keepText split ifOpening) := by
  have piece := pieces_marker .opening rest
  simp only [Marker.text] at piece
  rw [piece, branches]
  rfl

theorem branches_close (depth : Nat) (split : Bool) (rest : List Char) :
    branches (depth + 1) split (markers.pieces (ifClosing ++ rest))
      = (branches depth split (markers.pieces rest)).map (keepText split ifClosing) := by
  have piece := pieces_marker .closing rest
  simp only [Marker.text] at piece
  rw [piece, branches]
  rfl

theorem branches_otherwise (depth : Nat) (split : Bool) (rest : List Char) :
    branches (depth + 1) split (markers.pieces (elseMarker ++ rest))
      = (branches (depth + 1) split (markers.pieces rest)).map (keepText split elseMarker) := by
  have piece := pieces_marker .otherwise rest
  simp only [Marker.text] at piece
  rw [piece]
  rfl

/-! ### The walk over a printed template -/

/-- What can follow a template inside of a text: nothing, or another marker. -/
def Follows (rest : List Char) : Prop := rest = [] ∨ ∃ after, rest = '@' :: after

theorem joinsEnd_append {s rest : List Char} (follows : Follows rest)
    (apart : joinsEnd s = false) : joinsEnd (s ++ rest) = false := by
  rcases follows with rfl | ⟨after, rfl⟩
  · simpa using apart
  · match s with
    | [] => simp [joinsEnd, startsWith, dropFront?]
    | [c] => by_cases same : c = 'i' <;> simp_all [joinsEnd, startsWith, dropFront?, eq_comm]
    | c :: d :: s => simpa [joinsEnd, startsWith, dropFront?] using apart

theorem skips_condition (condition : ConditionText) (rest : List Char) :
    Skips markerFront? (condition.chars ++ [')']) rest := by
  refine Skips.of_not_mem markerFront?_plain ?_ rest
  have unmarked := condition.unmarked
  simp_all

/-- A whole template is kept where it stands: it leaves the depth as it was. -/
theorem branches_print {tree : Tree} {depth : Nat} {split : Bool} {rest : List Char}
    (apart : tree.EndsApart) (follows : Follows rest) :
    branches depth split (markers.pieces (tree.print ++ rest))
      = (branches depth split (markers.pieces rest)).map (keepText split tree.print) := by
  -- A template inside is followed by a marker, so that the hypothesis holds of it too.
  induction tree generalizing depth rest with
  | done =>
    have same : keepText split [] = id := funext (keepText_nil split)
    simp [Tree.print, same]
  | simple part after ih =>
    have front : Skips markerFront? part.print (after.print ++ rest) := by
      cases part with
      | leaf part => exact skips_leaf markerFront?_plain markerFront?_slot part _
      | loop header body =>
        exact skips_loop markerFront?_plain markerFront?_slot markerFront?_each header body
          (markerFront?_end (joinsEnd_append follows apart.1))
    have inner : after.EndsApart := by
      cases part with
      | leaf part => exact apart
      | loop header body => exact apart.2
    rw [Tree.print, List.append_assoc, branches_skip front, ih inner follows, Option.map_map,
      keepText_keepText]
  | conditional condition whenTrue after inner outer =>
    obtain ⟨insideApart, afterApart⟩ := apart
    have closes : Follows (ifClosing ++ (after.print ++ rest)) := .inr ⟨_, rfl⟩
    have shape : (Tree.conditional condition whenTrue after).print ++ rest
        = ifOpening ++ ((condition.chars ++ [')'])
          ++ (whenTrue.print ++ (ifClosing ++ (after.print ++ rest)))) := by
      simp [Tree.print]
    rw [shape, branches_open, branches_skip (skips_condition condition _),
      inner insideApart closes, branches_close, outer afterApart follows]
    simp only [Option.map_map, keepText_keepText]
    simp [Tree.print]
  | choice condition whenTrue whenFalse after first second outer =>
    obtain ⟨firstApart, secondApart, afterApart⟩ := apart
    have closes : Follows (ifClosing ++ (after.print ++ rest)) := .inr ⟨_, rfl⟩
    have turns : Follows (elseMarker ++ (whenFalse.print ++ (ifClosing ++ (after.print ++ rest)))) :=
      .inr ⟨_, rfl⟩
    have shape : (Tree.choice condition whenTrue whenFalse after).print ++ rest
        = ifOpening ++ ((condition.chars ++ [')']) ++ (whenTrue.print
          ++ (elseMarker ++ (whenFalse.print ++ (ifClosing ++ (after.print ++ rest)))))) := by
      simp [Tree.print]
    rw [shape, branches_open, branches_skip (skips_condition condition _),
      first firstApart turns, branches_otherwise, second secondApart closes, branches_close,
      outer afterApart follows]
    simp only [Option.map_map, keepText_keepText]
    simp [Tree.print]

/-! ### The branches of a printed conditional -/

theorem branches_closed (split : Bool) (rest : List Char) :
    branches 0 split (markers.pieces (ifClosing ++ rest)) = some ([], [], markers.pieces rest) := by
  have piece := pieces_marker .closing rest
  simp only [Marker.text] at piece
  rw [piece, branches]

theorem branches_turned (rest : List Char) :
    branches 0 false (markers.pieces (elseMarker ++ rest))
      = branches 0 true (markers.pieces rest) := by
  have piece := pieces_marker .otherwise rest
  simp only [Marker.text] at piece
  rw [piece, branches]
  rfl

theorem conditional?_print {whenTrue : Tree} (condition : ConditionText) (rest : List Char)
    (apart : whenTrue.EndsApart) :
    conditional? (condition.chars ++ ')' :: (whenTrue.print ++ (ifClosing ++ rest)))
      = some (⟨trim condition.chars, whenTrue.print, []⟩, rest) := by
  have walk : branches 0 false (markers.pieces (whenTrue.print ++ (ifClosing ++ rest)))
      = some (whenTrue.print, [], markers.pieces rest) := by
    have closes : Follows (ifClosing ++ rest) := .inr ⟨_, rfl⟩
    rw [branches_print apart closes, branches_closed]
    simp [keepText]
  have whole : sourceOf (markers.pieces rest) = rest := markers.source_pieces rest
  simp [conditional?, cutAt?_char condition.closed, walk, whole]

theorem conditional?_print_choice {whenTrue whenFalse : Tree} (condition : ConditionText)
    (rest : List Char) (first : whenTrue.EndsApart) (second : whenFalse.EndsApart) :
    conditional? (condition.chars ++ ')' :: (whenTrue.print
        ++ (elseMarker ++ (whenFalse.print ++ (ifClosing ++ rest)))))
      = some (⟨trim condition.chars, whenTrue.print, whenFalse.print⟩, rest) := by
  have walk : branches 0 false (markers.pieces (whenTrue.print
      ++ (elseMarker ++ (whenFalse.print ++ (ifClosing ++ rest)))))
      = some (whenTrue.print, whenFalse.print, markers.pieces rest) := by
    have turns : Follows (elseMarker ++ (whenFalse.print ++ (ifClosing ++ rest))) := .inr ⟨_, rfl⟩
    have closes : Follows (ifClosing ++ rest) := .inr ⟨_, rfl⟩
    rw [branches_print first turns, branches_turned, branches_print second closes,
      branches_closed]
    simp [keepText]
  have whole : sourceOf (markers.pieces rest) = rest := markers.source_pieces rest
  simp [conditional?, cutAt?_char condition.closed, walk, whole]

/-! ### Resolving a printed template -/

variable {evaluate : Evaluator} {scope : Scope}

theorem resolveFrom_whole {s : List Char} (place : Nat) (absent : cutAt? ifOpening s = none) :
    resolveFrom evaluate scope place s = pure s := by
  rw [resolveFrom]
  split <;> simp_all

theorem resolveFrom_unclosed {s before after : List Char} (place : Nat)
    (cut : cutAt? ifOpening s = some (before, after)) (unclosed : conditional? after = none) :
    resolveFrom evaluate scope place s = (do
      .warn .templates (unclosedText (place + before.length))
      return s) := by
  rw [resolveFrom]
  split
  · simp_all
  next _ _ found =>
    rw [cut] at found
    cases found
    split
    · rfl
    next _ _ closed => rw [unclosed] at closed; contradiction

theorem resolveFrom_closed {s before after rest : List Char} {block : Conditional} (place : Nat)
    (cut : cutAt? ifOpening s = some (before, after))
    (closed : conditional? after = some (block, rest)) :
    resolveFrom evaluate scope place s = (do
      let branch ←
        if ← holds evaluate block.condition scope then resolveFrom evaluate scope 0 block.whenTrue
        else resolveFrom evaluate scope 0 block.whenFalse
      let tail ← resolveFrom evaluate scope (place + s.length - rest.length) rest
      return before ++ branch ++ tail) := by
  rw [resolveFrom]
  split
  next absent => rw [cut] at absent; contradiction
  next _ _ found =>
    rw [cut] at found
    cases found
    split
    next unclosed => rw [closed] at unclosed; contradiction
    next _ _ found =>
      rw [closed] at found
      cases found
      rfl

/-- Text in front of the conditionals is left alone. -/
theorem resolveFrom_append {front s : List Char} (place : Nat)
    (skips : Skips (dropFront? ifOpening) front s) :
    (resolveFrom evaluate scope place (front ++ s)).value?
      = (resolveFrom evaluate scope (place + front.length) s).value?.map (front ++ ·) := by
  have skipped := cutAt?_skip skips
  cases cut : cutAt? ifOpening s with
  | none =>
    rw [cut] at skipped
    rw [resolveFrom_whole _ skipped, resolveFrom_whole _ cut]
    simp
  | some parts =>
    obtain ⟨before, after⟩ := parts
    rw [cut] at skipped
    cases closed : conditional? after with
    | none =>
      rw [resolveFrom_unclosed _ skipped closed, resolveFrom_unclosed _ cut closed]
      simp only [Reported.value?_bind, Reported.value?_warn, Reported.value?_pure,
        Option.bind_some, Option.map_some]
    | some found =>
      obtain ⟨block, rest⟩ := found
      have shorter : rest.length ≤ s.length := by
        have inner := conditional?_length closed
        have whole := congrArg List.length (cutAt?_eq_append cut)
        simp only [List.length_append] at whole
        omega
      -- What follows the block has one place, whether the front is counted before or with it.
      have same : place + (front ++ s).length - rest.length
          = place + front.length + s.length - rest.length := by
        simp only [List.length_append]
        omega
      rw [resolveFrom_closed _ skipped closed, resolveFrom_closed _ cut closed, same]
      simp only [Reported.value?_bind, Option.map_bind]
      congr 1
      funext taken
      cases taken <;>
        simp only [Function.comp_def, Bool.false_eq_true, ite_true, ite_false,
          Reported.value?_bind, Reported.value?_pure, Option.map_bind, Option.map_some,
          List.append_assoc]

theorem value?_holds (condition : List Char) :
    (holds evaluate (trim condition) scope).value? = truth? evaluate scope condition := by
  unfold holds truth?
  cases evaluate (trim condition) scope with
  | ok value => rfl
  | error fault =>
    by_cases survived : fault.isEvaluation = true
    · simp only [survived, if_true, Reported.value?_bind, Reported.value?_warn,
        Reported.value?_pure, Option.bind_some]
    · simp only [survived]
      rfl

/-- The parts of a template that its conditionals let through. -/
def Tree.chosen (evaluate : Evaluator) (scope : Scope) : Tree → Option (List Simple)
  | .done => some []
  | .simple part rest => do return part :: (← rest.chosen evaluate scope)
  | .conditional condition whenTrue rest => do
    let branch ← if ← truth? evaluate scope condition.chars then whenTrue.chosen evaluate scope
      else some []
    return branch ++ (← rest.chosen evaluate scope)
  | .choice condition whenTrue whenFalse rest => do
    let branch ← if ← truth? evaluate scope condition.chars then whenTrue.chosen evaluate scope
      else whenFalse.chosen evaluate scope
    return branch ++ (← rest.chosen evaluate scope)

theorem skips_opening (part : Simple) (rest : List Char) :
    Skips (dropFront? ifOpening) part.print rest := by
  have needs : ∀ c rest, c ≠ '@' → dropFront? ifOpening (c :: rest) = none :=
    fun c rest plain => dropFront?_cons_ne _ _ plain
  have slot : ∀ rest, dropFront? ifOpening ('@' :: '[' :: rest) = none := fun rest => by
    simp [ifOpening, dropFront?]
  cases part with
  | leaf part => exact skips_leaf needs slot part rest
  | loop header body =>
    refine skips_loop needs slot (fun rest => ?_) header body ?_
    · simp [ifOpening, eachOpening, dropFront?]
    · simp [ifOpening, eachClosing, dropFront?]

theorem cutAt?_opening (rest : List Char) :
    cutAt? ifOpening (ifOpening ++ rest) = some ([], rest) := by
  have skips : Skips (dropFront? ifOpening) [] (ifOpening ++ rest) := Skips.nil _ _
  exact cutAt?_append (List.cons_ne_nil _ _) skips

theorem value?_resolveFrom_nil : (resolveFrom evaluate scope 0 []).value? = some [] := by
  rw [resolveFrom_whole 0 rfl]
  rfl

/-- An induction along the conditionals of a text: none begins in it, the first one is not closed, or
it is, and then its branches and the text behind it come first. -/
theorem conditionals_induction {motive : List Char → Prop}
    (whole : ∀ s, cutAt? ifOpening s = none → motive s)
    (unclosed : ∀ s before after, cutAt? ifOpening s = some (before, after) →
      conditional? after = none → motive s)
    (closed : ∀ s before after block rest, cutAt? ifOpening s = some (before, after) →
      conditional? after = some (block, rest) → motive block.whenTrue → motive block.whenFalse →
      motive rest → motive s) (s : List Char) : motive s := by
  induction size : s.length using Nat.strongRecOn generalizing s with
  | ind n ih =>
    cases cut : cutAt? ifOpening s with
    | none => exact whole s cut
    | some parts =>
      obtain ⟨before, after⟩ := parts
      cases found : conditional? after with
      | none => exact unclosed s before after cut found
      | some read =>
        obtain ⟨block, rest⟩ := read
        have inner := conditional?_length found
        have length := congrArg List.length (cutAt?_eq_append cut)
        simp only [List.length_append] at length
        have first := ih block.whenTrue.length (by omega) _ rfl
        have second := ih block.whenFalse.length (by omega) _ rfl
        have last := ih rest.length (by omega) _ rfl
        exact closed s before after block rest cut found first second last

/-- The place of a text decides what is reported, not what is written. -/
theorem value?_resolveFrom (place : Nat) (s : List Char) :
    (resolveFrom evaluate scope place s).value? = (resolveFrom evaluate scope 0 s).value? := by
  induction s using conditionals_induction generalizing place with
  | whole s absent => rw [resolveFrom_whole place absent, resolveFrom_whole 0 absent]
  | unclosed s before after cut missing =>
    rw [resolveFrom_unclosed place cut missing, resolveFrom_unclosed 0 cut missing]
    rfl
  | closed s before after block rest cut found first second last =>
    have tails := last (place + s.length - rest.length)
    have others := last (0 + s.length - rest.length)
    rw [resolveFrom_closed place cut found, resolveFrom_closed 0 cut found]
    simp only [Reported.value?_bind]
    congr 1
    funext taken
    cases taken <;>
      simp only [Bool.false_eq_true, ite_true, ite_false, Reported.value?_bind, tails, others]

/-- A printed template is resolved apart from what follows it: its conditionals let through the
parts that are printed. -/
theorem resolveFrom_print_append {tree : Tree} (place : Nat) (apart : tree.EndsApart)
    (after : List Char) :
    (resolveFrom evaluate scope place (tree.print ++ after)).value?
      = joined ((tree.chosen evaluate scope).map printParts)
          (resolveFrom evaluate scope 0 after).value? := by
  induction tree generalizing place after with
  | done =>
    rw [Tree.print, List.nil_append, value?_resolveFrom, Tree.chosen]
    simp [printParts]
  | simple part rest ih =>
    have inner : rest.EndsApart := by
      cases part with
      | leaf part => exact apart
      | loop header body => exact apart.2
    rw [Tree.print, List.append_assoc, resolveFrom_append place (skips_opening part _), ih _ inner,
      Tree.chosen]
    cases rest.chosen evaluate scope <;> cases (resolveFrom evaluate scope 0 after).value? <;>
      simp [printParts]
  | conditional condition whenTrue rest inner outer =>
    obtain ⟨insideApart, restApart⟩ := apart
    have shape : (Tree.conditional condition whenTrue rest).print ++ after
        = ifOpening
          ++ (condition.chars ++ ')' :: (whenTrue.print ++ (ifClosing ++ (rest.print ++ after)))) := by
      simp [Tree.print]
    -- A branch is resolved as a text of its own, with nothing behind it.
    have branch := inner 0 insideApart []
    rw [List.append_nil, value?_resolveFrom_nil] at branch
    rw [shape, resolveFrom_closed place (cutAt?_opening _)
      (conditional?_print condition (rest.print ++ after) insideApart)]
    simp only [Reported.value?_bind, value?_holds, Tree.chosen]
    cases truth? evaluate scope condition.chars with
    | none => rfl
    | some taken =>
      cases taken <;>
        simp only [Option.bind_some, Bool.false_eq_true, ite_true, ite_false,
          Reported.value?_bind, Reported.value?_pure, value?_resolveFrom_nil, branch,
          outer _ restApart]
      · cases rest.chosen evaluate scope <;>
          cases (resolveFrom evaluate scope 0 after).value? <;> simp
      · cases whenTrue.chosen evaluate scope <;> cases rest.chosen evaluate scope <;>
          cases (resolveFrom evaluate scope 0 after).value? <;> simp [printParts]
  | choice condition whenTrue whenFalse rest first second outer =>
    obtain ⟨firstApart, secondApart, restApart⟩ := apart
    have shape : (Tree.choice condition whenTrue whenFalse rest).print ++ after
        = ifOpening ++ (condition.chars ++ ')' :: (whenTrue.print
          ++ (elseMarker ++ (whenFalse.print ++ (ifClosing ++ (rest.print ++ after)))))) := by
      simp [Tree.print]
    -- Both branches are, of which the one that is not taken is left out.
    have whenTrue' := first 0 firstApart []
    have whenFalse' := second 0 secondApart []
    rw [List.append_nil, value?_resolveFrom_nil] at whenTrue' whenFalse'
    rw [shape, resolveFrom_closed place (cutAt?_opening _)
      (conditional?_print_choice condition (rest.print ++ after) firstApart secondApart)]
    simp only [Reported.value?_bind, value?_holds, Tree.chosen]
    cases truth? evaluate scope condition.chars with
    | none => rfl
    | some taken =>
      cases taken <;>
        simp only [Option.bind_some, Bool.false_eq_true, ite_true, ite_false,
          Reported.value?_bind, Reported.value?_pure, whenTrue', whenFalse', outer _ restApart]
      · cases whenFalse.chosen evaluate scope <;> cases rest.chosen evaluate scope <;>
          cases (resolveFrom evaluate scope 0 after).value? <;> simp [printParts]
      · cases whenTrue.chosen evaluate scope <;> cases rest.chosen evaluate scope <;>
          cases (resolveFrom evaluate scope 0 after).value? <;> simp [printParts]

/-- Resolving a printed template prints the parts that its conditionals let through. -/
theorem resolveFrom_print {tree : Tree} (place : Nat) (apart : tree.EndsApart) :
    (resolveFrom evaluate scope place tree.print).value?
      = (tree.chosen evaluate scope).map printParts := by
  rw [← List.append_nil tree.print, resolveFrom_print_append place apart, value?_resolveFrom_nil]
  cases tree.chosen evaluate scope <;> simp

end StaticSite.Template
