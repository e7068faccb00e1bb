import StaticSite.Proofs.Component.Mentions
import StaticSite.Proofs.Component.Dependencies
import StaticSite.Proofs.Component.Steps
import StaticSite.Proofs.Template.Splicing

/-!
# Components inside of components

The markup of a component is read again by the template pass of the component around it: references
are replaced and the slot of a base is filled before that pass runs. Markup in which no marker of a
template begins comes out of it as it went in, with what the templates on both sides become around
it.
-/

namespace StaticSite.Renderer

open StaticSite.Registry StaticSite.Component
open StaticSite.Text hiding interleave

variable {renderer : Renderer}

/-! ### The end of a render -/

/-- A component without a base ends with its template pass. -/
theorem finish_eq_of_expanded {engine : Engine} {room : Nat} {chain : List Entry}
    {component : Component} {inner markup expanded rendered : List Char} {names : Scope}
    {pieces : List (Piece Reference)} {pass next : Pass} (topmost : component.base? = none)
    (read : Reference.pieces markup = pure pieces)
    (replaced : renderer.expand (fun nested data =>
      renderOn renderer engine room chain nested data []) pieces pass = (.ok expanded, next))
    (ran : (engine names (fillSlot inner expanded)).outcome = .ok rendered) :
    renderer.finish engine room chain component inner (markup, names) pass
      = (.ok (Markup.substituteEnvironment renderer.env rendered),
          (Pass.report (engine names (fillSlot inner expanded)) next).2) := by
  have reported : Pass.report (engine names (fillSlot inner expanded)) next
      = (.ok rendered, (Pass.report (engine names (fillSlot inner expanded)) next).2) := by
    rw [← ran]
    rfl
  rw [finish, read, Action.bind_of_ok (report_pure pieces pass), Action.bind_of_ok replaced,
    Action.bind_of_ok reported, wrap, topmost]
  rfl

theorem finish_of_expanded {engine : Engine} {room : Nat} {chain : List Entry}
    {component : Component} {inner markup expanded rendered : List Char} {names : Scope}
    {pieces : List (Piece Reference)} {pass next : Pass} (topmost : component.base? = none)
    (read : Reference.pieces markup = pure pieces)
    (replaced : renderer.expand (fun nested data =>
      renderOn renderer engine room chain nested data []) pieces pass = (.ok expanded, next))
    (ran : (engine names (fillSlot inner expanded)).outcome = .ok rendered) :
    (renderer.finish engine room chain component inner (markup, names) pass).1
      = .ok (Markup.substituteEnvironment renderer.env rendered) :=
  congrArg Prod.fst (finish_eq_of_expanded topmost read replaced ran)

/-- Text around a reference stays around what the reference comes to. -/
theorem expand_reference {follow : Entry → Scope → Action Pass (List Char)}
    {reference : Reference} {nested : Entry} {text : List Char} {pass next : Pass}
    (known : renderer.registry.find? (String.ofList reference.name) = some nested)
    (followed : follow nested reference.data pass = (.ok text, next))
    (front back source : List Char) :
    renderer.expand follow
        (front.map Piece.plain ++ .found reference source :: back.map Piece.plain) pass
      = (.ok (front ++ (text ++ back)), next) := by
  have inner : renderer.expand follow (.found reference source :: back.map Piece.plain) pass
      = (.ok (text ++ back), next) := by
    rw [expand, known, expand_text]
    exact Action.bind_of_ok followed
  rw [expand_plain, ← bind_pure_comp]
  exact Action.bind_of_ok inner

/-! ### The markup around -/

/-- No reference begins in a text that a search for references passes over. -/
def Gap.ofSkips {text : List Char} (skips : Skips (dropFront? Reference.opening) text []) :
    Gap where
  text := text
  plain := by
    rintro ⟨front, back, shape⟩
    have tail : Reference.opening ++ back <:+ text := ⟨front, by rw [← shape, List.append_assoc]⟩
    have absent := skips _ tail (List.append_ne_nil_of_left_ne_nil (List.cons_ne_nil _ _) back)
    rw [List.append_nil, dropFront?_append] at absent
    contradiction

theorem opening_plain (c : Char) (rest : List Char) (differs : c ≠ '@') :
    dropFront? Reference.opening (c :: rest) = none := dropFront?_cons_ne _ _ differs

theorem skips_opening_tree (tree : Template.Tree) (rest : List Char) :
    Skips (dropFront? Reference.opening) tree.print rest := by
  refine Template.skips_tree opening_plain (fun rest => ?_) (fun c letter rest => ?_) tree rest
  · exact rfl
  · simp only [List.mem_cons, List.not_mem_nil, or_false] at letter
    rcases letter with rfl | rfl <;> rfl

/-- The slot of a base is filled where it stands, if no other one stands before it. -/
theorem fillSlot_between {front back inner : List Char} (filled : inner ≠ [])
    (first : ¬ contentSlot <:+: front) :
    fillSlot inner (front ++ (contentSlot ++ back)) = front ++ (inner ++ back) := by
  have skips : Skips (dropFront? contentSlot) front (contentSlot ++ back) := by
    intro tail inside nonempty
    rw [Option.eq_none_iff_forall_not_mem]
    intro rest found
    have shape : tail ++ (contentSlot ++ back) = contentSlot ++ rest :=
      dropFront?_eq_some_iff.mp found
    rcases List.append_eq_append_iff.mp shape with ⟨more, slot, same⟩ | ⟨more, whole, _⟩
    · cases more with
      | nil =>
        rw [List.append_nil] at slot
        exact first (slot ▸ inside.isInfix)
      | cons c more =>
        -- The slot would begin inside of itself, but its first character comes only once.
        obtain ⟨d, tail, rfl⟩ := List.exists_cons_of_ne_nil nonempty
        have starts : '@' = c := (List.cons.inj same).1
        have later : contentSlot.tail = tail ++ c :: more := congrArg List.tail slot
        have inside : '@' ∈ contentSlot.tail := by
          rw [later, starts]
          exact List.mem_append_right _ List.mem_cons_self
        exact absurd inside (by decide)
    · exact first (List.IsInfix.trans ⟨[], more, whole.symm⟩ inside.isInfix)
  have present : inner.isEmpty = false := by
    rw [List.isEmpty_eq_false_iff]
    exact filled
  have cut : cutAt? contentSlot (front ++ (contentSlot ++ back)) = some (front, back) :=
    cutAt?_append (List.cons_ne_nil _ _) skips
  rw [fillSlot, present, replaceFirst, cut]
  simp

/-! ### Opaque markup -/

/-- Between two templates, what a reference comes to, or the markup that a base is rendered around,
stands in the result as it is, if no marker of a template begins in it. -/
theorem renderOn_around {room : Nat} {chain : List Entry} {entry : Entry} {given names : Scope}
    {a b : Template.Tree} {front back text : List Char} {pass next : Pass}
    (fresh : repeats chain entry = false) (topmost : entry.component.base? = none)
    (first : a.EndsApart) (second : b.EndsApart)
    (closed : a.Closes renderer.evaluate renderer.mode names)
    (before : (renderer.engine names a.print).outcome = .ok front)
    (after : (renderer.engine names b.print).outcome = .ok back) (inert : Template.Inert text) :
    (∀ (mention : Mention) (nested : Entry) (last : Pass),
      renderer.start entry given pass = (.ok (a.print ++ (mention.text ++ b.print), names), next) →
      renderer.registry.find? (String.ofList mention.name) = some nested →
      renderer.renderOn renderer.engine room (chain ++ [entry]) nested mention.reference.data []
        next = (.ok text, last) →
      (renderer.renderOn renderer.engine (room + 1) chain entry given [] pass).1
        = .ok (Markup.substituteEnvironment renderer.env (front ++ (text ++ back))))
    ∧ (renderer.start entry given pass = (.ok (a.print ++ (contentSlot ++ b.print), names), next) →
      text ≠ [] → ¬ contentSlot <:+: a.print →
      (renderer.renderOn renderer.engine (room + 1) chain entry given text pass).1
        = .ok (Markup.substituteEnvironment renderer.env (front ++ (text ++ back)))) := by
  -- Both parts end in one run of the engine over the same text.
  have rendered : (renderer.engine names (a.print ++ (text ++ b.print))).outcome
      = .ok (front ++ (text ++ back)) :=
    Template.render_between first second closed inert before after
  constructor
  · intro mention nested last started known followed
    have gaps : a.print ++ (mention.text ++ b.print)
        = interleave [(Gap.ofSkips (skips_opening_tree a []), mention)]
          (Gap.ofSkips (skips_opening_tree b [])) := rfl
    have pieces : Reference.pieces (a.print ++ (mention.text ++ b.print))
        = pure (a.print.map Piece.plain
          ++ .found mention.reference mention.text :: b.print.map Piece.plain) := by
      rw [Reference.pieces, gaps, reportAll_interleave, pure_bind, interleave,
        pieces_interleave_cons, interleave, pieces_gap]
      rfl
    -- Of the pieces of the text only the reference is followed.
    have replaced : renderer.expand (fun nested data =>
        renderOn renderer renderer.engine room (chain ++ [entry]) nested data [])
        (a.print.map Piece.plain
          ++ .found mention.reference mention.text :: b.print.map Piece.plain) next
        = (.ok (a.print ++ (text ++ b.print)), last) := by
      apply expand_reference
      · exact known
      · exact followed
    rw [renderOn_eq fresh, Action.bind_of_ok started]
    exact finish_of_expanded topmost pieces replaced rendered
  · intro started filled sole
    -- The slot itself has no reference in it, so the whole text is plain.
    have skips : Skips (dropFront? Reference.opening) (a.print ++ (contentSlot ++ b.print)) [] := by
      refine (skips_opening_tree a _).append (Skips.append ?_ (skips_opening_tree b []))
      exact Skips.cons rfl (Skips.of_not_mem opening_plain (by decide) _)
    have pieces : Reference.pieces (a.print ++ (contentSlot ++ b.print))
        = pure ((a.print ++ (contentSlot ++ b.print)).map Piece.plain) := by
      have quiet := reportAll_interleave [] (Gap.ofSkips skips)
      have plain := pieces_gap (Gap.ofSkips skips)
      rw [interleave] at quiet
      rw [Reference.pieces]
      show (do
        Reference.reportAll (Reference.scanner.pieces (Gap.ofSkips skips).text)
        return Reference.scanner.pieces (Gap.ofSkips skips).text) = _
      rw [quiet, plain, pure_bind]
      rfl
    have replaced : renderer.expand (fun nested data =>
        renderOn renderer renderer.engine room (chain ++ [entry]) nested data [])
        ((a.print ++ (contentSlot ++ b.print)).map Piece.plain) next
        = (.ok (a.print ++ (contentSlot ++ b.print)), next) := by
      rw [expand_text]
      rfl
    rw [renderOn_eq fresh, Action.bind_of_ok started]
    rw [← fillSlot_between filled sole] at rendered
    exact finish_of_expanded topmost pieces replaced rendered

/-- A page `Home` with the given markup, and `Card`, whose markup `@[v]` shows a given value. -/
def cardRenderer (markup : List UInt8) (v : String) : Renderer where
  disk := ⟨.folder [("c", .folder [("m", .file [64, 91, 118, 93])]),
    ("h", .folder [("m", .file markup)])], []⟩
  registry := ⟨[{ inFolder "Card" "c" with config := [(.str "v", .str v)] },
    { inFolder "Home" "h" with config := [(.str "x", .str "boom")] }]⟩
  env := ['d', 'e', 'v']
  evaluate := Expression.evaluate
  mode := .silent
  maxDepth := 10
  loader? := none

def cardEntry (v : String) : Entry :=
  ⟨0, { inFolder "Card" "c" with config := [(.str "v", .str v)] }⟩

def homeEntry : Entry := ⟨1, { inFolder "Home" "h" with config := [(.str "x", .str "boom")] }⟩

def cardMention : Mention where
  name := ['C', 'a', 'r', 'd']
  data? := none
  text := "@\x7bCard\x7d".toList
  named := by decide
  letters := List.all_eq_true.mp (by cbv)
  exact := nofun
  written := rfl

/-- `@[x]` in front of a reference, and `!` after it. -/
theorem renderOn_around_card :
    let renderer := cardRenderer [64, 91, 120, 93, 64, 123, 67, 97, 114, 100, 125, 33] "a@b"
    (renderer.renderOn renderer.engine 10 [] homeEntry [] [] ⟨.empty ['n'], .start⟩).1
      = .ok "booma@b!".toList := by
  intro renderer
  have path : ']' ∉ ['x'] ∧ '\n' ∉ ['x'] ∧ '@' ∉ ['x'] := by decide
  have mark : '@' ∉ ['!'] := by decide
  let a : Template.Tree := .simple (.leaf (.placeholder
    ⟨['x'], List.cons_ne_nil _ _, path.1, path.2.1, path.2.2⟩)) .done
  -- The path of `@[x]` ends at its own bracket, and the text behind it opens nothing.
  let b : Template.Tree := .simple (.leaf (.text ⟨['!'], mark⟩)) .done
  have inert : Template.Inert ['a', '@', 'b'] := by
    intro marker listed rest
    simp only [List.mem_cons, List.not_mem_nil, or_false] at listed
    rcases listed with rfl | rfl | rfl <;>
      exact Skips.cons rfl (Skips.cons rfl (Skips.cons rfl (Skips.nil _ _)))
  have closed : a.Closes Expression.evaluate renderer.mode [(.str "x", .str "boom")] :=
    Template.closes_of_loopsInert trivial
  have started : renderer.start homeEntry [] ⟨.empty ['n'], .start⟩
      = (.ok (a.print ++ (cardMention.text ++ b.print), [(.str "x", .str "boom")]),
        ⟨.empty ['n'], .start⟩) := by cbv
  have known : renderer.registry.find? (String.ofList cardMention.name)
      = some (cardEntry "a@b") := by cbv
  have followed : renderer.renderOn renderer.engine 9 ([] ++ [homeEntry]) (cardEntry "a@b")
      cardMention.reference.data [] ⟨.empty ['n'], .start⟩
      = (.ok ['a', '@', 'b'], ⟨.empty ['n'], .start⟩) := by cbv
  have before : (renderer.engine [(.str "x", .str "boom")] a.print).outcome
      = .ok ['b', 'o', 'o', 'm'] := by cbv
  have after : (renderer.engine [(.str "x", .str "boom")] b.print).outcome = .ok ['!'] := by cbv
  have topmost : homeEntry.component.base? = none := by cbv
  have apart : a.EndsApart ∧ b.EndsApart := ⟨trivial, trivial⟩
  exact (renderOn_around rfl topmost apart.1 apart.2 closed before after inert).1
    cardMention (cardEntry "a@b") _ started known followed

/-- What a component writes is read again as a template of the component around it. -/
theorem renderOn_read_again :
    let renderer := cardRenderer [64, 123, 67, 97, 114, 100, 125] "@[x]"
    (renderer.start homeEntry [] ⟨.empty ['n'], .start⟩).1
        = .ok ([] ++ cardMention.text ++ [], [(.str "x", .str "boom")])
      ∧ homeEntry.component.base? = none ∧ (cardEntry "@[x]").component.base? = none
      ∧ renderer.registry.find? (String.ofList cardMention.name) = some (cardEntry "@[x]")
      ∧ (renderer.render ['n'] (cardEntry "@[x]") [] [] .start).1 = .ok "@[x]".toList
      ∧ (renderer.engine [(.str "x", .str "boom")] []).outcome = .ok []
      ∧ (renderer.render ['n'] homeEntry [] [] .start).1 = .ok "boom".toList
      ∧ (renderer.render ['n'] homeEntry [] [] .start).1 ≠ .ok "@[x]".toList := by
  intro renderer
  have page : (renderer.render ['n'] homeEntry [] [] .start).1 = .ok "boom".toList := by cbv
  refine ⟨by cbv, by cbv, by cbv, by cbv, by cbv, by cbv, page, ?_⟩
  rw [page]
  intro same
  exact absurd (Except.ok.inj same) (by decide)

end StaticSite.Renderer
