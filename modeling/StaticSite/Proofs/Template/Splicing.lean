import StaticSite.Proofs.Template.Meaning

/-!
# Text between templates

The template pass runs over the whole of a text, so what stands between two templates is read by it
as well. Text in which no marker begins is left as it is, and then the templates on both sides are
rendered as if they stood alone. The three steps of the pass are taken one after the other: each
leaves the text in its place and hands it on to the next.
-/

namespace StaticSite.Template

open StaticSite.Text

/-- Text in which no marker of a template begins, whatever comes after it. -/
def Inert (text : List Char) : Prop :=
  ∀ marker ∈ [ifOpening, eachOpening, placeholderOpening], ∀ rest,
    Skips (dropFront? marker) text rest

namespace Inert

variable {text : List Char}

theorem conditionals (inert : Inert text) (rest : List Char) :
    Skips (dropFront? ifOpening) text rest :=
  inert ifOpening List.mem_cons_self rest

theorem loops (inert : Inert text) (rest : List Char) : Skips loops.run text rest := by
  intro tail inside nonempty
  have absent : dropFront? eachOpening (tail ++ rest) = none :=
    inert eachOpening (by simp) rest tail inside nonempty
  show loopFront? _ = none
  rw [loopFront?, absent, Option.bind_none]

theorem placeholders (inert : Inert text) (rest : List Char) :
    Skips placeholders.run text rest := by
  intro tail inside nonempty
  have absent : dropFront? placeholderOpening (tail ++ rest) = none :=
    inert placeholderOpening (by simp) rest tail inside nonempty
  show placeholderFront? _ = none
  rw [placeholderFront?, absent]

end Inert

/-- No placeholder that begins in a text is left open at its end. -/
def Closed (text : List Char) : Prop :=
  ∀ rest, placeholders.pieces (text ++ rest) = placeholders.pieces text ++ placeholders.pieces rest

namespace Closed

theorem of_skips {text : List Char} (skips : ∀ rest, Skips placeholders.run text rest) :
    Closed text := by
  intro rest
  have alone := Scanner.pieces_skip (skips [])
  rw [List.append_nil, Scanner.pieces_nil, List.append_nil] at alone
  rw [Scanner.pieces_skip (skips rest), alone]

theorem append {front back : List Char} (first : Closed front) (second : Closed back) :
    Closed (front ++ back) := by
  intro rest
  rw [List.append_assoc, first, second, first, List.append_assoc]

theorem of_not_mem {text : List Char} (plain : '@' ∉ text) : Closed text :=
  of_skips fun rest => Skips.of_not_mem placeholderFront?_plain plain rest

theorem leaf (leaf : Leaf) : Closed leaf.print := by
  cases leaf with
  | text s => exact of_not_mem s.unmarked
  | placeholder path =>
    intro rest
    have piece (after : List Char) : placeholders.pieces ((Leaf.placeholder path).print ++ after)
        = .found path.chars (Leaf.placeholder path).print :: placeholders.pieces after :=
      Scanner.pieces_found (placeholderFront?_print path after)
    have alone := piece []
    rw [List.append_nil, Scanner.pieces_nil] at alone
    rw [piece rest, alone]
    rfl

end Closed

/-- What a template writes before its placeholders are filled leaves none open. -/
def Tree.Closes (evaluate : Evaluator) (mode : PlaceholderMode) (scope : Scope) (tree : Tree) :
    Prop :=
  ∀ text, tree.unfilled evaluate mode scope = some text → Closed text

/-- A search whose mark is no marker of templates passes over a printed template. -/
theorem skips_tree {α : Type} {recognise : List Char → Option α}
    (needs : ∀ c rest, c ≠ '@' → recognise (c :: rest) = none)
    (slot : ∀ rest, recognise ('@' :: '[' :: rest) = none)
    (word : ∀ c ∈ ['i', 'e'], ∀ rest, recognise ('@' :: c :: rest) = none) (tree : Tree)
    (rest : List Char) : Skips recognise tree.print rest := by
  have marker {c : Char} {s : List Char} (letter : c ∈ ['i', 'e']) (plain : '@' ∉ c :: s)
      (after : List Char) : Skips recognise ('@' :: c :: s) after :=
    Skips.cons (word c letter (s ++ after)) (Skips.of_not_mem needs plain after)
  -- The condition is plain text up to its parenthesis, so only the marker itself matters.
  have header (condition : ConditionText) (after : List Char) :
      Skips recognise (ifOpening ++ condition.chars ++ [')']) after := by
    refine Skips.append (Skips.append (marker (by decide) (by decide) _) ?_) ?_
    · exact Skips.of_not_mem needs condition.unmarked _
    · exact Skips.of_not_mem needs (by decide) _
  induction tree generalizing rest with
  | done => exact Skips.nil recognise rest
  | simple part after ih =>
    refine Skips.append ?_ (ih rest)
    cases part with
    | leaf part => exact skips_leaf needs slot part _
    | loop header body =>
      exact skips_loop needs slot (fun _ => word 'e' (by decide) _) header body (word 'e' (by decide) _)
  | conditional condition whenTrue after inner outer =>
    refine Skips.append (Skips.append (Skips.append ?_ (inner _)) ?_) (outer rest)
    · exact header condition _
    · exact marker (by decide) (by decide) _
  | choice condition whenTrue whenFalse after first second outer =>
    refine Skips.append (Skips.append (Skips.append (Skips.append (Skips.append ?_ (first _)) ?_)
      (second _)) ?_) (outer rest)
    · exact header condition _
    · exact marker (by decide) (by decide) _
    · exact marker (by decide) (by decide) _

variable {evaluate : Evaluator} {mode : PlaceholderMode} {scope : Scope}

/-- Only a loop can leave a placeholder open. -/
theorem closes_of_loopsInert {tree : Tree} (inert : tree.LoopsInert evaluate mode scope) :
    tree.Closes evaluate mode scope := by
  intro text unfilled
  unfold Tree.unfilled at unfilled
  -- A leaf is closed in itself and a loop writes no mark; the rest is put together of them.
  induction tree generalizing text with
  | done =>
    cases unfilled
    exact Closed.of_not_mem nofun
  | simple part after ih =>
    cases part with
    | leaf part =>
      obtain ⟨_, back, ⟨⟩, read, rfl⟩ := joined_eq_some_iff.mp unfilled
      exact (Closed.leaf part).append (ih inert back read)
    | loop header body =>
      obtain ⟨front, back, loop, read, rfl⟩ := joined_eq_some_iff.mp unfilled
      exact (Closed.of_not_mem (inert.1 front loop)).append (ih inert.2 back read)
  | conditional condition whenTrue after inner outer =>
    obtain ⟨front, back, chosen, read, rfl⟩ := joined_eq_some_iff.mp unfilled
    obtain ⟨taken, holds, branch⟩ := Option.bind_eq_some_iff.mp chosen
    refine Closed.append ?_ (outer inert.2 back read)
    cases taken with
    | false =>
      cases branch
      exact Closed.of_not_mem nofun
    | true => exact inner (inert.1 holds) front branch
  | choice condition whenTrue whenFalse after first second outer =>
    obtain ⟨front, back, chosen, read, rfl⟩ := joined_eq_some_iff.mp unfilled
    obtain ⟨taken, holds, branch⟩ := Option.bind_eq_some_iff.mp chosen
    refine Closed.append ?_ (outer inert.2.2 back read)
    cases taken with
    | false => exact second (inert.2.1 holds) front branch
    | true => exact first (inert.1 holds) front branch

/-- The first two steps of the pass leave the text between two unfilled texts. -/
theorem value?_expanded_between {a b : Tree} {text : List Char} (first : a.EndsApart)
    (second : b.EndsApart) (inert : Inert text) :
    (resolveConditionals evaluate scope (a.print ++ (text ++ b.print))
        >>= expandLoops evaluate mode scope).value?
      = joined (a.unfilled evaluate mode scope)
          ((b.unfilled evaluate mode scope).map (text ++ ·)) := by
  have parts (tree : Tree) : tree.unfilled evaluate mode scope
      = (tree.chosen evaluate scope).bind (concat (Simple.unfilled evaluate mode scope)) :=
    textWith_eq_chosen evaluate mode scope (fun leaf => some leaf.print)
      (Simple.unfilled evaluate mode scope) (fun _ => rfl) (fun _ _ => rfl) tree
  -- The first step leaves the text where it is, as no conditional begins in it.
  have resolved : (resolveConditionals evaluate scope (a.print ++ (text ++ b.print))).value?
      = joined ((a.chosen evaluate scope).map printParts)
          (((b.chosen evaluate scope).map printParts).map (text ++ ·)) := by
    rw [resolveConditionals, resolveFrom_print_append 0 first,
      resolveFrom_append 0 (inert.conditionals _), resolveFrom_print _ second]
  have between (s : List Char) : (expandLoops evaluate mode scope (text ++ s)).value?
      = (expandLoops evaluate mode scope s).value?.map (text ++ ·) := by
    rw [expandLoops, Scanner.pieces_skip (inert.loops s), expandPieces_plain]
    rfl
  rw [Reported.value?_bind, resolved, parts a, parts b]
  cases a.chosen evaluate scope with
  | none => simp
  | some front =>
    cases b.chosen evaluate scope with
    | none => simp
    | some back =>
      simp only [Option.map_some, joined_some, Option.bind_some]
      rw [expandLoops_print_append, between, expandLoops_print]

theorem value?_render (s : List Char) : (render evaluate mode scope s).value?
    = (resolveConditionals evaluate scope s >>= expandLoops evaluate mode scope).value?.bind
        fun unfilled => (fillPlaceholders mode scope unfilled).toOption := by
  rw [render]
  simp only [Reported.value?_bind, Reported.value?_lift, Option.bind_assoc]

theorem fillPieces_append (front back : List (Piece (List Char))) :
    (fillPieces mode scope (front ++ back)).toOption
      = joined (fillPieces mode scope front).toOption (fillPieces mode scope back).toOption := by
  induction front with
  | nil => simp [fillPieces, Except.toOption]
  | cons piece front ih =>
    cases piece with
    | plain c =>
      have step (pieces : List (Piece (List Char))) :
          (fillPieces mode scope (.plain c :: pieces)).toOption
            = joined (some [c]) (fillPieces mode scope pieces).toOption := by
        rw [fillPieces]
        cases fillPieces mode scope pieces <;> rfl
      rw [List.cons_append, step, step, ih, joined_assoc]
    | found path source =>
      rw [List.cons_append, fillPieces_found, fillPieces_found, ih, joined_assoc]

/-- The last step leaves the text alone as well, unless a placeholder is open in front of it. -/
theorem value?_render_between {a b : Tree} {text : List Char} (first : a.EndsApart)
    (second : b.EndsApart) (closed : a.Closes evaluate mode scope) (inert : Inert text) :
    (render evaluate mode scope (a.print ++ (text ++ b.print))).value?
      = joined (render evaluate mode scope a.print).value?
          ((render evaluate mode scope b.print).value?.map (text ++ ·)) := by
  have between (s : List Char) : (fillPlaceholders mode scope (text ++ s)).toOption
      = (fillPlaceholders mode scope s).toOption.map (text ++ ·) := by
    rw [fillPlaceholders, Scanner.pieces_skip (inert.placeholders s), fillPieces_plain]
    rfl
  rw [value?_render, value?_render, value?_render, value?_expanded_between first second inert,
    value?_expanded first, value?_expanded second]
  cases written : a.unfilled evaluate mode scope with
  | none => simp
  | some front =>
    cases b.unfilled evaluate mode scope with
    | none => simp
    | some back =>
      -- No placeholder is open at the end of the front, so the pass begins anew behind it.
      have apart : (fillPlaceholders mode scope (front ++ (text ++ back))).toOption
          = joined (fillPlaceholders mode scope front).toOption
              (fillPlaceholders mode scope (text ++ back)).toOption := by
        rw [fillPlaceholders, closed front written, fillPieces_append]
        rfl
      simp only [Option.map_some, joined_some, Option.bind_some]
      rw [apart, between]

/-- Between two templates, text in which no marker begins stays as it is. -/
theorem render_between {a b : Tree} {text front back : List Char} (first : a.EndsApart)
    (second : b.EndsApart) (closed : a.Closes evaluate mode scope) (inert : Inert text)
    (before : (render evaluate mode scope a.print).outcome = .ok front)
    (after : (render evaluate mode scope b.print).outcome = .ok back) :
    (render evaluate mode scope (a.print ++ (text ++ b.print))).outcome
      = .ok (front ++ (text ++ back)) := by
  apply Reported.outcome_eq_ok_of_value?
  rw [value?_render_between first second closed inert, Reported.value?_of_outcome before,
    Reported.value?_of_outcome after]
  rfl

end StaticSite.Template
