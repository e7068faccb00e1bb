import Mathlib
import StaticSite.Expression.Program
import StaticSite.Proofs.Template.Conditionals

/-!
# The meaning of a printed template

Rendering a printed template gives the placeholder pass over its unfilled text, because
placeholders are filled last and over the whole text. Where no loop writes a character that can
begin a placeholder, that pass finds the placeholders of the template and no others, so rendering
gives the meaning of the tree.
-/

namespace StaticSite.Template

open StaticSite.Text

variable {evaluate : Evaluator} {mode : PlaceholderMode} {scope : Scope}

/-! ### Placeholders -/

theorem placeholderFront?_plain (c : Char) (rest : List Char) (plain : c ≠ '@') :
    placeholderFront? (c :: rest) = none := by
  simp [placeholderFront?, placeholderOpening, dropFront?_cons_ne _ _ plain]

theorem placeholderFront?_text {path : List Char} (nonempty : path ≠ []) (closed : ']' ∉ path.tail)
    (oneLine : '\n' ∉ path) (rest : List Char) :
    placeholderFront? (placeholderOpening ++ path ++ [']'] ++ rest) = some (path, rest) := by
  obtain ⟨c, tail, rfl⟩ := List.exists_cons_of_ne_nil nonempty
  simp only [List.mem_cons, not_or] at oneLine
  have cut : cutAt? [']'] (tail ++ ']' :: rest) = some (tail, rest) := cutAt?_char closed
  simp [placeholderFront?, placeholderOpening, dropFront?, cut, Ne.symm oneLine.1, oneLine.2]

theorem placeholderFront?_print (path : PathText) (rest : List Char) :
    placeholderFront? (placeholderOpening ++ path.chars ++ [']'] ++ rest)
      = some (path.chars, rest) :=
  placeholderFront?_text path.nonempty (fun inside => path.closed (List.mem_of_mem_tail inside))
    path.oneLine rest

theorem toOption_placeholderText (path : PathText) :
    (placeholderText mode scope path.chars).toOption
      = Leaf.meaning mode scope (.placeholder path) := by
  simp only [placeholderText, Leaf.meaning]
  cases resolvePath scope path.chars with
  | error fault => rfl
  | ok found =>
    cases found with
    | none => cases mode <;> rfl
    | some value => rfl

theorem fillPieces_text (s : List Char) (pieces : List (Piece (List Char))) :
    fillPieces mode scope (s.map Piece.plain ++ pieces)
      = (fillPieces mode scope pieces).map (s ++ ·) := by
  induction s with
  | nil =>
    rw [List.map_nil, List.nil_append]
    cases fillPieces mode scope pieces <;> rfl
  | cons c s ih =>
    rw [List.map_cons, List.cons_append, fillPieces, ih]
    cases fillPieces mode scope pieces <;> rfl

theorem fillPieces_plain (s : List Char) (pieces : List (Piece (List Char))) :
    (fillPieces mode scope (s.map Piece.plain ++ pieces)).toOption
      = (fillPieces mode scope pieces).toOption.map (s ++ ·) := by
  rw [fillPieces_text]
  cases fillPieces mode scope pieces <;> rfl

theorem fillPieces_found (path source : List Char) (pieces : List (Piece (List Char))) :
    (fillPieces mode scope (.found path source :: pieces)).toOption
      = joined (placeholderText mode scope path).toOption
          (fillPieces mode scope pieces).toOption := by
  rw [fillPieces]
  cases placeholderText mode scope path with
  | error fault => rfl
  | ok text => cases fillPieces mode scope pieces <;> rfl

/-- Text that holds no marker is left alone. -/
theorem fillPlaceholders_plain {s : List Char} (plain : '@' ∉ s) (rest : List Char) :
    (fillPlaceholders mode scope (s ++ rest)).toOption
      = (fillPlaceholders mode scope rest).toOption.map (s ++ ·) := by
  have skips : Skips placeholders.run s rest :=
    Skips.of_not_mem placeholderFront?_plain plain rest
  rw [fillPlaceholders, Scanner.pieces_skip skips, fillPieces_plain]
  rfl

theorem fillPlaceholders_leaf (leaf : Leaf) (rest : List Char) :
    (fillPlaceholders mode scope (leaf.print ++ rest)).toOption
      = joined (leaf.meaning mode scope) (fillPlaceholders mode scope rest).toOption := by
  cases leaf with
  | text s =>
    rw [Leaf.print, fillPlaceholders_plain s.unmarked]
    rfl
  | placeholder path =>
    have piece : placeholders.pieces (placeholderOpening ++ path.chars ++ [']'] ++ rest)
        = .found path.chars (placeholderOpening ++ path.chars ++ [']'])
          :: placeholders.pieces rest :=
      Scanner.pieces_found (placeholderFront?_print path rest)
    rw [Leaf.print, fillPlaceholders, piece, fillPieces, ← toOption_placeholderText, fillPlaceholders]
    cases placeholderText mode scope path.chars with
    | error fault => rfl
    | ok text => cases fillPieces mode scope (placeholders.pieces rest) <;> rfl

theorem fillPlaceholders_nil : fillPlaceholders mode scope [] = .ok [] := by
  rw [fillPlaceholders, Scanner.pieces_nil]
  rfl

theorem fillPlaceholders_leaves (leaves : List Leaf) :
    (fillPlaceholders mode scope (printLeaves leaves)).toOption
      = concat (Leaf.meaning mode scope) leaves := by
  induction leaves with
  | nil => exact congrArg Except.toOption fillPlaceholders_nil
  | cons leaf leaves ih =>
    rw [printLeaves, List.flatMap_cons, fillPlaceholders_leaf, concat, ← ih]
    rfl

/-! ### Loops -/

theorem loopFront?_plain (c : Char) (rest : List Char) (plain : c ≠ '@') :
    loopFront? (c :: rest) = none := by
  simp [loopFront?, eachOpening, dropFront?_cons_ne _ _ plain]

theorem loopFront?_slot (rest : List Char) : loopFront? ('@' :: '[' :: rest) = none := by
  simp [loopFront?, eachOpening, dropFront?]

section

variable {name collection body : List Char}

theorem collectionFront?_text (nonempty : collection ≠ []) (closed : ')' ∉ collection)
    (oneLine : '\n' ∉ collection) {rest : List Char}
    (ends : Skips (dropFront? eachClosing) body (eachClosing ++ rest)) :
    collectionFront? (collection ++ ')' :: (body ++ (eachClosing ++ rest)))
      = some ((collection, body), rest) := by
  obtain ⟨c, tail, rfl⟩ := List.exists_cons_of_ne_nil nonempty
  simp only [List.mem_cons, not_or] at closed oneLine
  have header : cutAt? [')'] (tail ++ ')' :: (body ++ (eachClosing ++ rest)))
      = some (tail, body ++ (eachClosing ++ rest)) := cutAt?_char closed.2
  have whole : cutAt? eachClosing (body ++ (eachClosing ++ rest)) = some (body, rest) :=
    cutAt?_append (List.cons_ne_nil _ _) ends
  simp [collectionFront?, header, whole, Ne.symm oneLine.1, oneLine.2]

/-- One blank stands before the collection, and none belongs to it. -/
theorem afterGap?_text (starts : ∃ c rest, collection = c :: rest ∧ isBlank c = false)
    (closed : ')' ∉ collection) (oneLine : '\n' ∉ collection) {rest : List Char}
    (ends : Skips (dropFront? eachClosing) body (eachClosing ++ rest)) :
    let gap := ' ' :: (collection ++ ')' :: (body ++ (eachClosing ++ rest)))
    afterGap? gap (gap.takeWhile isBlank).length = some ((collection, body), rest) := by
  intro gap
  obtain ⟨c, tail, shape, solid⟩ := starts
  have nonempty : collection ≠ [] := shape ▸ List.cons_ne_nil c tail
  have blanks : (gap.takeWhile isBlank).length = 1 := by
    have space : isBlank ' ' = true := by decide
    simp [gap, shape, solid, space]
  rw [blanks, afterGap?]
  simp [gap, collectionFront?_text nonempty closed oneLine ends]

/-- A loop is read up to the first closing marker behind its header. -/
theorem loopFront?_text (named : name ≠ []) (word : ∀ c ∈ name, isWord c = true)
    (starts : ∃ c rest, collection = c :: rest ∧ isBlank c = false) (closed : ')' ∉ collection)
    (oneLine : '\n' ∉ collection) {rest : List Char}
    (ends : Skips (dropFront? eachClosing) body (eachClosing ++ rest)) :
    loopFront? (eachOpening ++ name ++ [' ', 'i', 'n', ' '] ++ collection ++ [')'] ++ body
        ++ eachClosing ++ rest)
      = some (⟨name, collection, body⟩, rest) := by
  have shape : eachOpening ++ name ++ [' ', 'i', 'n', ' '] ++ collection ++ [')'] ++ body
        ++ eachClosing ++ rest
      = eachOpening ++ (name ++ ' ' :: 'i' :: 'n' :: ' ' :: (collection
        ++ ')' :: (body ++ (eachClosing ++ rest)))) := by
    simp
  have space : isWord ' ' = false := by decide
  have taken (after : List Char) : (name ++ ' ' :: after).takeWhile isWord = name := by
    rw [List.takeWhile_append_of_pos word, List.takeWhile_cons_of_neg (by simp [space])]
    simp
  have left (after : List Char) : (name ++ ' ' :: after).dropWhile isWord = ' ' :: after := by
    rw [List.dropWhile_append_of_pos word, List.dropWhile_cons_of_neg (by simp [space])]
  have blank : isBlank ' ' = true := by decide
  have letter : isBlank 'i' = false := by decide
  have gap := afterGap?_text starts closed oneLine ends
  obtain ⟨c, tail, nonempty⟩ := List.exists_cons_of_ne_nil named
  rw [shape, loopFront?, dropFront?_append, Option.bind_some, taken, left]
  rw [nonempty]
  have begins (after : List Char) : ('i' :: after).dropWhile isBlank = 'i' :: after :=
    List.dropWhile_cons_of_neg (by simp [letter])
  simp only [blank, if_true, begins, dropFront?, Option.bind_some, gap, Option.map_some, ← nonempty]

end

theorem loopFront?_print (header : LoopHeader) (body : List Leaf) (rest : List Char) :
    loopFront? ((Simple.loop header body).print ++ rest)
      = some (⟨header.name, header.collection, printLeaves body⟩, rest) := by
  have needs : ∀ c rest, c ≠ '@' → dropFront? eachClosing (c :: rest) = none :=
    fun c rest plain => dropFront?_cons_ne _ _ plain
  have slot : ∀ rest, dropFront? eachClosing ('@' :: '[' :: rest) = none := fun rest => by
    simp [eachClosing, dropFront?]
  exact loopFront?_text header.named header.word header.starts header.closed header.oneLine
    (skips_leaves needs slot body _)

theorem toOption_repeatBody (header : LoopHeader) (body : List Leaf) (items : List Value) :
    (repeatBody mode scope ⟨header.name, header.collection, printLeaves body⟩ items).toOption
      = concat (fun item => concat (Leaf.meaning mode (bind scope header.name item)) body)
          items := by
  induction items with
  | nil => rfl
  | cons item items ih =>
    rw [repeatBody, concat, ← ih, ← fillPlaceholders_leaves]
    cases fillPlaceholders mode (bind scope header.name item) (printLeaves body) with
    | error fault => rfl
    | ok first =>
      cases repeatBody mode scope ⟨header.name, header.collection, printLeaves body⟩ items <;> rfl

theorem value?_expandLoop (header : LoopHeader) (body : List Leaf) :
    (expandLoop evaluate mode scope ⟨header.name, header.collection, printLeaves body⟩).value?
      = loopMeaning evaluate mode scope header body := by
  unfold expandLoop loopMeaning items?
  cases evaluate header.collection scope with
  | error fault =>
    by_cases survived : fault.isEvaluation = true
    · simp only [survived, if_true, Reported.value?_bind, Reported.value?_warn]
      rfl
    · simp only [survived]
      rfl
  | ok value =>
    cases value with
    | list items => exact toOption_repeatBody header body items
    | tuple items => exact toOption_repeatBody header body items
    | _ => rfl

theorem expandPieces_text (s : List Char) (pieces : List (Piece Loop)) :
    (expandPieces evaluate mode scope (s.map Piece.plain ++ pieces)).outcome
      = (expandPieces evaluate mode scope pieces).outcome.map (s ++ ·) := by
  induction s with
  | nil =>
    rw [List.map_nil, List.nil_append]
    cases (expandPieces evaluate mode scope pieces).outcome <;> rfl
  | cons c s ih =>
    rw [List.map_cons, List.cons_append, expandPieces, Reported.outcome_bind, ih]
    cases (expandPieces evaluate mode scope pieces).outcome <;> rfl

theorem expandPieces_plain (s : List Char) (pieces : List (Piece Loop)) :
    (expandPieces evaluate mode scope (s.map Piece.plain ++ pieces)).value?
      = (expandPieces evaluate mode scope pieces).value?.map (s ++ ·) := by
  rw [Reported.value?, Reported.value?, expandPieces_text]
  cases (expandPieces evaluate mode scope pieces).outcome <;> rfl

theorem expandPieces_found (loop : Loop) (source : List Char) (pieces : List (Piece Loop)) :
    (expandPieces evaluate mode scope (.found loop source :: pieces)).value?
      = joined (expandLoop evaluate mode scope loop).value?
          (expandPieces evaluate mode scope pieces).value? := by
  rw [expandPieces, Reported.value?_bind]
  cases (expandLoop evaluate mode scope loop).value? with
  | none => rfl
  | some text =>
    rw [joined_some, Option.bind_some, Reported.value?_bind]
    cases (expandPieces evaluate mode scope pieces).value? <;> rfl

/-- The text that a part without conditionals becomes before placeholders are filled. -/
def Simple.unfilled (evaluate : Evaluator) (mode : PlaceholderMode) (scope : Scope) :
    Simple → Option (List Char)
  | .leaf part => some part.print
  | .loop header body => loopMeaning evaluate mode scope header body

/-- Printed parts are expanded apart from what follows them. -/
theorem expandLoops_print_append (parts : List Simple) (after : List Char) :
    (expandLoops evaluate mode scope (printParts parts ++ after)).value?
      = joined (concat (Simple.unfilled evaluate mode scope) parts)
          (expandLoops evaluate mode scope after).value? := by
  induction parts with
  | nil => simp [printParts, concat]
  | cons part parts ih =>
    rw [printParts, List.flatMap_cons, List.append_assoc, concat, joined_assoc, ← ih]
    -- The scanner skips a part without a loop, and takes one with a loop as a whole.
    cases part with
    | leaf part =>
      have skips : Skips loops.run part.print (printParts parts ++ after) :=
        skips_leaf loopFront?_plain loopFront?_slot part _
      show (expandLoops evaluate mode scope (part.print ++ (printParts parts ++ after))).value? = _
      rw [expandLoops, Scanner.pieces_skip skips, expandPieces_plain, expandLoops]
      rfl
    | loop header body =>
      have piece : loops.pieces ((Simple.loop header body).print ++ (printParts parts ++ after))
          = .found ⟨header.name, header.collection, printLeaves body⟩
              (Simple.loop header body).print :: loops.pieces (printParts parts ++ after) :=
        Scanner.pieces_found (loopFront?_print header body _)
      show (expandLoops evaluate mode scope
        ((Simple.loop header body).print ++ (printParts parts ++ after))).value? = _
      rw [expandLoops, piece, expandPieces_found, value?_expandLoop]
      rfl

theorem expandLoops_print (parts : List Simple) :
    (expandLoops evaluate mode scope (printParts parts)).value?
      = concat (Simple.unfilled evaluate mode scope) parts := by
  have nothing : (expandLoops evaluate mode scope []).value? = some [] := by
    rw [expandLoops, Scanner.pieces_nil]
    rfl
  rw [← List.append_nil (printParts parts), expandLoops_print_append, nothing]
  cases concat (Simple.unfilled evaluate mode scope) parts <;> simp

theorem concat_append {α : Type} (text : α → Option (List Char)) (front back : List α) :
    concat text (front ++ back) = joined (concat text front) (concat text back) := by
  induction front with
  | nil => simp [concat]
  | cons item front ih => rw [List.cons_append, concat, ih, concat, joined_assoc]

/-! ### Whole templates -/

/-- The text of a tree is the text of the parts that its conditionals let through. -/
theorem textWith_eq_chosen (evaluate : Evaluator) (mode : PlaceholderMode) (scope : Scope)
    (leafText : Leaf → Option (List Char)) (partText : Simple → Option (List Char))
    (leaves : ∀ part, partText (.leaf part) = leafText part)
    (loops : ∀ header body,
      partText (.loop header body) = loopMeaning evaluate mode scope header body) (tree : Tree) :
    tree.textWith evaluate mode scope leafText
      = (tree.chosen evaluate scope).bind (concat partText) := by
  -- Both walk through the tree in one way, so every case is a regrouping of joined texts.
  induction tree with
  | done => rfl
  | simple part rest ih =>
    cases part with
    | leaf part =>
      rw [Tree.textWith, ih, ← leaves, Tree.chosen]
      cases rest.chosen evaluate scope <;> cases text : partText (.leaf part) <;>
        simp [concat, text]
    | loop header body =>
      rw [Tree.textWith, ih, ← loops, Tree.chosen]
      cases rest.chosen evaluate scope <;> cases text : partText (.loop header body) <;>
        simp [concat, text]
  | conditional condition whenTrue rest inner outer =>
    rw [Tree.textWith, Tree.chosen, inner, outer]
    cases truth? evaluate scope condition.chars with
    | none => rfl
    | some taken =>
      cases taken <;> cases whenTrue.chosen evaluate scope <;> cases rest.chosen evaluate scope <;>
        simp [concat_append]
  | choice condition whenTrue whenFalse rest first second outer =>
    rw [Tree.textWith, Tree.chosen, first, second, outer]
    cases truth? evaluate scope condition.chars with
    | none => rfl
    | some taken =>
      cases taken <;> cases whenTrue.chosen evaluate scope <;>
        cases whenFalse.chosen evaluate scope <;> cases rest.chosen evaluate scope <;>
        simp [concat_append]

theorem unfilled_of_meaning {tree : Tree} {text : List Char}
    (means : tree.meaning evaluate mode scope = some text) :
    ∃ unfilled, tree.unfilled evaluate mode scope = some unfilled := by
  unfold Tree.meaning at means
  unfold Tree.unfilled
  -- A placeholder is the only part that may lack a text, and unfilled it is never read.
  induction tree generalizing text with
  | done => exact ⟨[], rfl⟩
  | simple part rest ih =>
    cases part with
    | leaf part =>
      obtain ⟨_, back, _, read, _⟩ := joined_eq_some_iff.mp means
      obtain ⟨after, unfilled⟩ := ih read
      exact ⟨part.print ++ after, by rw [Tree.textWith, unfilled]; rfl⟩
    | loop header body =>
      obtain ⟨front, back, loop, read, _⟩ := joined_eq_some_iff.mp means
      obtain ⟨after, unfilled⟩ := ih read
      exact ⟨front ++ after, by rw [Tree.textWith, loop, unfilled]; rfl⟩
  | conditional condition whenTrue rest inner outer =>
    obtain ⟨_, _, chosen, read, _⟩ := joined_eq_some_iff.mp means
    obtain ⟨taken, holds, branch⟩ := Option.bind_eq_some_iff.mp chosen
    obtain ⟨after, unfilled⟩ := outer read
    rw [Tree.textWith, holds, unfilled]
    cases taken with
    | false => exact ⟨after, rfl⟩
    | true =>
      obtain ⟨front, inside⟩ := inner branch
      exact ⟨front ++ after, by simp [inside]⟩
  | choice condition whenTrue whenFalse rest first second outer =>
    obtain ⟨_, _, chosen, read, _⟩ := joined_eq_some_iff.mp means
    obtain ⟨taken, holds, branch⟩ := Option.bind_eq_some_iff.mp chosen
    obtain ⟨after, unfilled⟩ := outer read
    rw [Tree.textWith, holds, unfilled]
    cases taken with
    | false =>
      obtain ⟨front, inside⟩ := second branch
      exact ⟨front ++ after, by simp [inside]⟩
    | true =>
      obtain ⟨front, inside⟩ := first branch
      exact ⟨front ++ after, by simp [inside]⟩

/-- The placeholder pass reads the unfilled text of a tree as the tree was written, unless a loop
has written something that can begin a placeholder. -/
theorem fillPlaceholders_unfilled {tree : Tree} {text : List Char}
    (inert : tree.LoopsInert evaluate mode scope)
    (unfilled : tree.unfilled evaluate mode scope = some text) (rest : List Char) :
    (fillPlaceholders mode scope (text ++ rest)).toOption
      = joined (tree.meaning evaluate mode scope) (fillPlaceholders mode scope rest).toOption := by
  unfold Tree.unfilled at unfilled
  unfold Tree.meaning
  -- The rest is general, since a branch is followed by what stands behind its conditional.
  induction tree generalizing text rest with
  | done =>
    cases unfilled
    simp [Tree.textWith]
  | simple part after ih =>
    cases part with
    | leaf part =>
      obtain ⟨front, back, leaf, read, rfl⟩ := joined_eq_some_iff.mp unfilled
      cases leaf
      rw [List.append_assoc, fillPlaceholders_leaf, ih inert read, Tree.textWith, joined_assoc]
    | loop header body =>
      obtain ⟨plain, inner⟩ := inert
      obtain ⟨front, back, loop, read, rfl⟩ := joined_eq_some_iff.mp unfilled
      rw [List.append_assoc, fillPlaceholders_plain (plain front loop), ih inner read,
        Tree.textWith, loop, joined_assoc, joined_some]
  | conditional condition whenTrue after inner outer =>
    obtain ⟨insideInert, afterInert⟩ := inert
    obtain ⟨front, back, chosen, read, rfl⟩ := joined_eq_some_iff.mp unfilled
    obtain ⟨taken, holds, branch⟩ := Option.bind_eq_some_iff.mp chosen
    rw [List.append_assoc, Tree.textWith, joined_assoc, holds, Option.bind_some]
    cases taken with
    | false =>
      cases branch
      rw [List.nil_append, outer afterInert read]
      simp
    | true => exact (inner (insideInert holds) branch _).trans (by rw [outer afterInert read]; rfl)
  | choice condition whenTrue whenFalse after first second outer =>
    obtain ⟨firstInert, secondInert, afterInert⟩ := inert
    obtain ⟨front, back, chosen, read, rfl⟩ := joined_eq_some_iff.mp unfilled
    obtain ⟨taken, holds, branch⟩ := Option.bind_eq_some_iff.mp chosen
    rw [List.append_assoc, Tree.textWith, joined_assoc, holds, Option.bind_some]
    cases taken with
    | false => exact (second (secondInert holds) branch _).trans (by rw [outer afterInert read]; rfl)
    | true => exact (first (firstInert holds) branch _).trans (by rw [outer afterInert read]; rfl)

/-- Before placeholders are filled, rendering a printed template has written its unfilled text. -/
theorem value?_expanded {tree : Tree} (apart : tree.EndsApart) :
    (resolveConditionals evaluate scope tree.print >>= expandLoops evaluate mode scope).value?
      = tree.unfilled evaluate mode scope := by
  have parts := textWith_eq_chosen evaluate mode scope (fun leaf => some leaf.print)
    (Simple.unfilled evaluate mode scope) (fun _ => rfl) (fun _ _ => rfl) tree
  rw [Tree.unfilled, parts, Reported.value?_bind, resolveConditionals, resolveFrom_print 0 apart]
  cases tree.chosen evaluate scope with
  | none => rfl
  | some chosen => exact expandLoops_print chosen

/-- Rendering a printed template fills the placeholders of its unfilled text. Where no loop writes
an `@`, that gives what the template stands for. -/
theorem render_print (evaluate : Evaluator) (mode : PlaceholderMode) (scope : Scope) (tree : Tree)
    (apart : tree.EndsApart) :
    (∀ unfilled text, tree.unfilled evaluate mode scope = some unfilled →
        fillPlaceholders mode scope unfilled = .ok text →
        (render evaluate mode scope tree.print).outcome = .ok text)
      ∧ (tree.LoopsInert evaluate mode scope →
        ∀ text, tree.meaning evaluate mode scope = some text →
        (render evaluate mode scope tree.print).outcome = .ok text) := by
  -- Two passes write the unfilled text, and the third one fills in whatever it reads there.
  have passes : (render evaluate mode scope tree.print).value?
      = (tree.unfilled evaluate mode scope).bind fun unfilled =>
          (fillPlaceholders mode scope unfilled).toOption := by
    rw [← value?_expanded apart, render]
    simp only [Reported.value?_bind, Reported.value?_lift, Option.bind_assoc]
  constructor
  · intro unfilled text written filled
    apply Reported.outcome_eq_ok_of_value?
    rw [passes, written, Option.bind_some, filled]
    rfl
  · intro inert text means
    apply Reported.outcome_eq_ok_of_value?
    -- Where loops write no mark, the third pass finds the placeholders of the tree alone.
    obtain ⟨unfilled, written⟩ := unfilled_of_meaning means
    have filled := fillPlaceholders_unfilled inert written []
    rw [List.append_nil, means, fillPlaceholders_nil] at filled
    rw [passes, written, Option.bind_some, filled]
    simp [Except.toOption]

/-- A loop that writes each of the tags. -/
def tagsLoop : Simple :=
  .loop
    { name := ['t'], collection := ['t', 'a', 'g', 's'], named := by decide,
      word := List.all_eq_true.mp rfl, starts := ⟨'t', ['a', 'g', 's'], rfl, rfl⟩,
      closed := by decide, oneLine := by decide, unmarked := by decide }
    [.placeholder ⟨['t'], by decide, by decide, by decide, by decide⟩]

/-- Two conditionals, one inside of the other, around a loop. -/
def nestedTemplate : Tree :=
  .conditional ⟨['a'], by decide, by decide⟩
    (.choice ⟨['b'], by decide, by decide⟩ (.simple (.leaf (.text ⟨['p'], by decide⟩)) .done)
      (.simple tagsLoop .done) .done)
    (.simple (.leaf (.placeholder ⟨['x'], by decide, by decide, by decide, by decide⟩)) .done)

def nestedScope : Scope :=
  [(.str "a", .bool true), (.str "b", .bool false), (.str "tags", .list [.str "q", .str "r"]),
    (.str "x", .str "s")]

theorem render_print_nested :
    nestedTemplate.print = "@if(a)@if(b)p@else@each(t in tags)@[t]@end@endif@endif@[x]".toList
      ∧ nestedTemplate.EndsApart
      ∧ nestedTemplate.LoopsInert Expression.evaluate .silent nestedScope
      ∧ nestedTemplate.meaning Expression.evaluate .silent nestedScope = some ['q', 'r', 's']
      ∧ (render Expression.evaluate .silent nestedScope nestedTemplate.print).outcome
        = .ok ['q', 'r', 's'] := by
  have printed : nestedTemplate.print
      = "@if(a)@if(b)p@else@each(t in tags)@[t]@end@endif@endif@[x]".toList := by decide
  have apart : nestedTemplate.EndsApart := by
    simp [nestedTemplate, tagsLoop, Tree.EndsApart, Tree.print, joinsEnd, startsWith, dropFront?]
  have inert : nestedTemplate.LoopsInert Expression.evaluate .silent nestedScope := by
    have written : tagsLoop.unfilled Expression.evaluate .silent nestedScope = some ['q', 'r'] := by
      cbv
    refine ⟨fun _ => ⟨fun _ => trivial, fun _ => ⟨fun text loop => ?_, trivial⟩, trivial⟩, trivial⟩
    have same : some ['q', 'r'] = some text := written.symm.trans loop
    cases same
    decide
  have means : nestedTemplate.meaning Expression.evaluate .silent nestedScope
      = some ['q', 'r', 's'] := by cbv
  exact ⟨printed, apart, inert, means,
    (render_print Expression.evaluate .silent nestedScope nestedTemplate apart).2 inert _ means⟩

/-- What a loop writes is read again: an element that spells a placeholder is replaced. -/
theorem render_print_element_read_again :
    let tree := Tree.simple tagsLoop .done
    let scope : Scope := [(.str "tags", .list [.str "@[x]"]), (.str "x", .str "boom")]
    tree.print = "@each(t in tags)@[t]@end".toList ∧ tree.EndsApart
      ∧ tree.meaning Expression.evaluate .silent scope = some "@[x]".toList
      ∧ (render Expression.evaluate .silent scope tree.print).outcome = .ok "boom".toList := by
  intro tree scope
  refine ⟨by decide, ⟨by decide, trivial⟩, ?_, ?_⟩
  · cbv
  · cbv

end StaticSite.Template
