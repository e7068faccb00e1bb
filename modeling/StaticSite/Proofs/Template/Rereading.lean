import StaticSite.Expression.Program
import StaticSite.Proofs.Template.Balance
import StaticSite.Proofs.Template.Meaning

/-!
# What a loop writes is read once more

A loop writes its body once per element, each placeholder replaced by the text of its path. The
placeholder pass comes after the loops and goes over all of the text, so it reads what a loop has
written as well: a placeholder that an element spells, or that it completes together with the text
around it, is replaced by a value of the outer scope. Where none is spelled, what a loop writes
stays as it is, whatever characters its elements are made of.
-/

namespace StaticSite.Template

open StaticSite.Text

/-! ### Loops as they are written -/

/-- The path of a placeholder inside of a loop. It does not hold the end of the loop. Behind its
first character, whatever that is, the next bracket closes it. -/
structure SlotPath where
  chars : List Char
  nonempty : chars ≠ []
  closed : ']' ∉ chars.tail
  oneLine : '\n' ∉ chars
  inside : ¬ eachClosing <:+: chars

inductive BodyPart where
  | text (s : PlainText)
  | slot (path : SlotPath)

/-- A loop over any expression that its header can hold. -/
structure LoopText where
  name : List Char
  collection : List Char
  body : List BodyPart
  named : name ≠ []
  word : ∀ c ∈ name, isWord c = true
  starts : ∃ c rest, collection = c :: rest ∧ isBlank c = false
  closed : ')' ∉ collection
  oneLine : '\n' ∉ collection

def BodyPart.print : BodyPart → List Char
  | .text s => s.chars
  | .slot path => placeholderOpening ++ path.chars ++ [']']

def printBody (body : List BodyPart) : List Char := body.flatMap BodyPart.print

def LoopText.header (loop : LoopText) : List Char :=
  eachOpening ++ loop.name ++ [' ', 'i', 'n', ' '] ++ loop.collection

def LoopText.print (loop : LoopText) : List Char :=
  loop.header ++ [')'] ++ printBody loop.body ++ eachClosing

/-- A body with each placeholder replaced by the text of its path. -/
def filled (mode : PlaceholderMode) (scope : Scope) : List BodyPart → Except Fault (List Char)
  | [] => .ok []
  | .text s :: rest => (filled mode scope rest).map (s.chars ++ ·)
  | .slot path :: rest => do
    let first ← placeholderText mode scope path.chars
    return first ++ (← filled mode scope rest)

/-- The filled body, element after element, each bound over the names of the scope. -/
def LoopText.expansion (loop : LoopText) (mode : PlaceholderMode) (scope : Scope) :
    List Value → Except Fault (List Char)
  | [] => .ok []
  | item :: rest => do
    let first ← filled mode (bind scope loop.name item) loop.body
    return first ++ (← loop.expansion mode scope rest)

/-- Somewhere in a text stands a placeholder. -/
def Spells (text : List Char) : Prop :=
  ∃ front path back, text = front ++ (placeholderOpening ++ path ++ [']'] ++ back)
    ∧ path ≠ [] ∧ '\n' ∉ path

variable {evaluate : Evaluator} {mode : PlaceholderMode} {scope : Scope}

/-! ### The conditionals -/

/-- A conditional that is closed has its closing marker behind the end of its condition. -/
theorem outcome_resolveConditionals {s : List Char}
    (unclosed : ∀ rest, ')' :: rest <:+ s → ¬ ifClosing <:+: rest) :
    (resolveConditionals evaluate scope s).outcome = .ok s := by
  rw [resolveConditionals]
  cases cut : cutAt? ifOpening s with
  | none =>
    rw [resolveFrom_whole 0 cut]
    rfl
  | some parts =>
    obtain ⟨before, after⟩ := parts
    have missing : conditional? after = none := by
      rw [Option.eq_none_iff_forall_not_mem]
      rintro ⟨block, rest⟩ found
      obtain ⟨condition, inner, encloses⟩ := conditional?_encloses found
      -- A closed conditional has its closing marker behind a parenthesis of the text.
      have behind : ')' :: (inner ++ (ifClosing ++ rest)) <:+ s := by
        rw [cutAt?_eq_append cut, encloses.text]
        exact ⟨before ++ ifOpening ++ condition, by simp⟩
      exact unclosed _ behind ⟨inner, rest, List.append_assoc _ _ _⟩
    rw [resolveFrom_unclosed 0 cut missing]
    rfl

/-- The closing marker of a loop does not begin another marker when nothing follows it. -/
theorem ifClosing_notInfix {body : List Char}
    (ends : Skips (dropFront? eachClosing) body eachClosing) :
    ¬ ifClosing <:+: body ++ eachClosing := by
  rintro ⟨front, back, shape⟩
  -- The marker of a conditional is the longer one, so it is no end of the other.
  have longer (tail : List Char) : eachClosing ≠ tail ++ (ifClosing ++ back) := by
    intro same
    have lengths := congrArg List.length same
    simp only [eachClosing, ifClosing, List.length_append, List.length_cons] at lengths
    omega
  rw [List.append_assoc] at shape
  rcases List.append_eq_append_iff.mp shape with ⟨tail, split, rest⟩ | ⟨tail, -, rest⟩
  · have nonempty : tail ≠ [] := by
      rintro rfl
      exact longer [] rest.symm
    have absent := ends tail ⟨front, split.symm⟩ nonempty
    have begins : tail ++ eachClosing = eachClosing ++ (['i', 'f'] ++ back) := by
      rw [← rest]
      rfl
    rw [begins, dropFront?_append] at absent
    contradiction
  · exact longer tail rest

/-! ### The loop -/

theorem skips_printedSlot (path : SlotPath) (rest : List Char) :
    Skips (dropFront? eachClosing) (BodyPart.slot path).print rest := by
  have bracket : ']' ∉ eachClosing := by decide
  have needs : ∀ c after, c ≠ '@' → dropFront? eachClosing (c :: after) = none :=
    fun c after plain => dropFront?_cons_ne _ _ plain
  have inner : Skips (dropFront? eachClosing) path.chars (']' :: rest) := by
    intro tail inside _
    rw [Option.eq_none_iff_forall_not_mem]
    intro after found
    have begins : eachClosing <+: tail ++ ']' :: rest :=
      ⟨after, (dropFront?_eq_some_iff.mp found).symm⟩
    exact path.inside ((prefix_of_notMem bracket begins).isInfix.trans inside.isInfix)
  refine Skips.append (Skips.append (Skips.cons ?_ ?_) ?_) (Skips.of_not_mem needs (by decide) rest)
  · simp [eachClosing, dropFront?]
  · exact Skips.of_not_mem needs (by decide) _
  · exact inner

theorem skips_body (body : List BodyPart) (rest : List Char) :
    Skips (dropFront? eachClosing) (printBody body) rest := by
  induction body with
  | nil => exact Skips.nil _ rest
  | cons part body ih =>
    refine Skips.append ?_ ih
    cases part with
    | text s =>
      exact Skips.of_not_mem (fun c after plain => dropFront?_cons_ne _ _ plain) s.unmarked _
    | slot path => exact skips_printedSlot path _

theorem LoopText.header_open (loop : LoopText) : ')' ∉ loop.header := by
  have letter : isWord ')' = false := by decide
  have name : ')' ∉ loop.name := by
    intro inside
    rw [loop.word ')' inside] at letter
    contradiction
  have collection := loop.closed
  simp_all [header, eachOpening]

/-- No conditional is closed in a loop, so all of it is left to the next step. -/
theorem LoopText.resolve (loop : LoopText) :
    (resolveConditionals evaluate scope loop.print).outcome = .ok loop.print := by
  refine outcome_resolveConditionals fun rest behind closing => ?_
  have ends : rest <:+ printBody loop.body ++ eachClosing := by
    rw [print, List.append_assoc, List.append_assoc] at behind
    rcases List.suffix_cons_iff.mp (suffix_of_notMem loop.header_open behind) with same | later
    · rw [(List.cons.inj same).2]
      exact List.suffix_refl _
    · exact (List.suffix_cons ')' rest).trans later
  exact ifClosing_notInfix (skips_body loop.body eachClosing) (closing.trans ends.isInfix)

theorem LoopText.pieces (loop : LoopText) :
    loops.pieces loop.print
      = [.found ⟨loop.name, loop.collection, printBody loop.body⟩ loop.print] := by
  have front : loops.run (loop.print ++ [])
      = some (⟨loop.name, loop.collection, printBody loop.body⟩, []) :=
    loopFront?_text loop.named loop.word loop.starts loop.closed loop.oneLine
      (skips_body loop.body _)
  rw [List.append_nil] at front
  exact Scanner.pieces_whole front

theorem fillPlaceholders_body (body : List BodyPart) :
    fillPlaceholders mode scope (printBody body) = filled mode scope body := by
  induction body with
  | nil => exact fillPlaceholders_nil
  | cons part body ih =>
    rw [fillPlaceholders] at ih
    rw [printBody, List.flatMap_cons, fillPlaceholders]
    cases part with
    | text s =>
      have skips : Skips placeholders.run s.chars (printBody body) :=
        Skips.of_not_mem placeholderFront?_plain s.unmarked _
      rw [BodyPart.print, ← printBody, Scanner.pieces_skip skips, fillPieces_text, ih, filled]
    | slot path =>
      have front : placeholders.run ((BodyPart.slot path).print ++ printBody body)
          = some (path.chars, printBody body) :=
        placeholderFront?_text path.nonempty path.closed path.oneLine _
      rw [← printBody, Scanner.pieces_found front, fillPieces, ih, filled]

theorem repeatBody_eq (loop : LoopText) (items : List Value) :
    repeatBody mode scope ⟨loop.name, loop.collection, printBody loop.body⟩ items
      = loop.expansion mode scope items := by
  induction items with
  | nil => rfl
  | cons item items ih => rw [repeatBody, fillPlaceholders_body, ih, LoopText.expansion]

theorem LoopText.expand (loop : LoopText) {v : Value} {items : List Value}
    (gives : evaluate loop.collection scope = .ok v) (sequence : elements? v = some items) :
    (expandLoops evaluate mode scope loop.print).outcome = loop.expansion mode scope items := by
  have expanded : expandLoop evaluate mode scope
        ⟨loop.name, loop.collection, printBody loop.body⟩
      = .lift (loop.expansion mode scope items) := by
    simp only [expandLoop, gives, sequence, repeatBody_eq]
  rw [expandLoops, loop.pieces, expandPieces, expanded, Reported.outcome_bind]
  show (loop.expansion mode scope items).bind (fun first => .ok (first ++ [])) = _
  cases loop.expansion mode scope items with
  | error fault => rfl
  | ok text => exact congrArg Except.ok (List.append_nil text)

/-! ### The placeholders -/

theorem spells_of_front {s rest path : List Char}
    (found : placeholderFront? s = some (path, rest)) :
    s = placeholderOpening ++ path ++ [']'] ++ rest ∧ path ≠ [] ∧ '\n' ∉ path := by
  refine ⟨placeholderFront?_eq_append found, ?_⟩
  unfold placeholderFront? at found
  split at found
  next c body _ =>
    split at found
    · contradiction
    next first =>
      obtain ⟨cut, -, found⟩ := Option.bind_eq_some_iff.mp found
      split at found
      · contradiction
      next others =>
        cases found
        exact ⟨List.cons_ne_nil _ _, by simpa [Ne.symm first] using others⟩
  next => contradiction

/-- Text that spells no placeholder is left alone. -/
theorem fillPlaceholders_unspelled {text : List Char} (plain : ¬ Spells text) :
    fillPlaceholders mode scope text = .ok text := by
  have skips : Skips placeholders.run text [] := by
    intro tail inside _
    show placeholderFront? (tail ++ []) = none
    rw [Option.eq_none_iff_forall_not_mem]
    rintro ⟨path, back⟩ found
    obtain ⟨shape, nonempty, oneLine⟩ := spells_of_front found
    obtain ⟨front, whole⟩ := inside
    rw [List.append_nil] at shape
    exact plain ⟨front, path, back, by rw [← whole, shape], nonempty, oneLine⟩
  have pieces := Scanner.pieces_skip skips
  rw [List.append_nil, Scanner.pieces_nil] at pieces
  rw [fillPlaceholders, pieces, fillPieces_text]
  exact congrArg Except.ok (List.append_nil text)

/-- Rendering a loop gives its expansion with the placeholders that this spells replaced. Where it
spells none, it is given as it is. -/
theorem render_loop (mode : PlaceholderMode) (loop : LoopText) {v : Value} {items : List Value}
    (gives : evaluate loop.collection scope = .ok v) (sequence : elements? v = some items) :
    (render evaluate mode scope loop.print).outcome
        = loop.expansion mode scope items >>= fillPlaceholders mode scope
      ∧ ∀ text, loop.expansion mode scope items = .ok text → ¬ Spells text →
        (render evaluate mode scope loop.print).outcome = .ok text := by
  -- The markup has no conditional, and the loop is all that its second pass expands.
  have passes : (render evaluate mode scope loop.print).outcome
      = loop.expansion mode scope items >>= fillPlaceholders mode scope := by
    rw [render, Reported.outcome_bind, loop.resolve]
    show (expandLoops evaluate mode scope loop.print >>= _).outcome = _
    rw [Reported.outcome_bind, loop.expand gives sequence]
    rfl
  refine ⟨passes, fun text expanded plain => ?_⟩
  rw [passes, expanded]
  exact fillPlaceholders_unspelled plain

/-- A loop that writes each of the tags between two texts. -/
def tagsText : LoopText where
  name := "tag".toList
  collection := "tags".toList
  body := [.text ⟨"<i>".toList, by decide⟩,
    .slot ⟨"tag".toList, by decide, by decide, by decide, by decide⟩,
    .text ⟨"</i>".toList, by decide⟩]
  named := by decide
  word := List.all_eq_true.mp rfl
  starts := ⟨'t', "ags".toList, rfl, rfl⟩
  closed := by decide
  oneLine := by decide

/-- Brackets and markers of elements that spell no placeholder stay as they are. -/
theorem render_loop_brackets :
    let scope : Scope := [(.str "tags", .list [.str "@each(", .str "[x]@"])]
    Expression.evaluate "tags".toList scope = .ok (.list [.str "@each(", .str "[x]@"])
      ∧ tagsText.print = "@each(tag in tags)<i>@[tag]</i>@end".toList
      ∧ (render Expression.evaluate .silent scope tagsText.print).outcome
        = .ok "<i>@each(</i><i>[x]@</i>".toList := by
  intro scope
  have gives : Expression.evaluate "tags".toList scope
      = .ok (.list [.str "@each(", .str "[x]@"]) := by cbv
  have expanded : tagsText.expansion .silent scope [.str "@each(", .str "[x]@"]
      = .ok "<i>@each(</i><i>[x]@</i>".toList := by cbv
  have plain : ¬ Spells "<i>@each(</i><i>[x]@</i>".toList := by
    rintro ⟨front, path, back, shape, -, -⟩
    have absent : ¬ placeholderOpening <:+: "<i>@each(</i><i>[x]@</i>".toList := by decide
    exact absent ⟨front, path ++ [']'] ++ back, by simp [shape]⟩
  exact ⟨gives, by decide, (render_loop .silent tagsText gives rfl).2 _ expanded plain⟩

/-- An element that spells a placeholder is replaced by a value of the outer scope. -/
theorem render_loop_secret :
    let scope : Scope := [(.str "tags", .list [.str "@[secret]"]), (.str "secret", .str "s3cret")]
    Expression.evaluate "tags".toList scope = .ok (.list [.str "@[secret]"])
      ∧ tagsText.print = "@each(tag in tags)<i>@[tag]</i>@end".toList
      ∧ tagsText.expansion .silent scope [.str "@[secret]"] = .ok "<i>@[secret]</i>".toList
      ∧ (render Expression.evaluate .silent scope tagsText.print).outcome
        = .ok "<i>s3cret</i>".toList := by
  intro scope
  refine ⟨?_, by decide, ?_, ?_⟩
  · cbv
  · cbv
  · cbv

end StaticSite.Template
