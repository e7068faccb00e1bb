import StaticSite.Proofs.Component.Bases
import StaticSite.Proofs.Markup.Literals

/-!
# Data written into a reference

A parent can hand a component its data in the reference itself, written as JSON. The verbatim
elements of a markup are taken out before that data is read, so an element inside of a string is
kept in its written form and put back in it: the string arrives as it was written down exactly if no
such element needs an escape.
-/

namespace StaticSite.Renderer

open StaticSite.Registry StaticSite.Component
open StaticSite.Text hiding interleave
open StaticSite.Json (spelling)
open StaticSite.Markup (Part taken)

variable {renderer : Renderer}

/-! ### The reference -/

/-- What stands in front of the string in a reference that hands it over under the name `k`. -/
def handingFront (name : List Char) : List Char :=
  Reference.opening ++ name ++ ": \x7b\"k\": \"".toList

/-- What stands behind it. -/
def handingEnd : List Char := ['"', '\x7d', '\x7d']

theorem stringify_handed (v : List Char) :
    Template.stringify (.mapping [(.str "k", .str (String.ofList v))])
      = .ok ("\x7b\"k\": \"".toList ++ spelling v ++ ['"', '\x7d']) := by
  have key : Json.writeString "k".toList = ['"', 'k', '"'] := by decide
  have members : Json.writeMembers Json.lenientStyle 1 [(.str "k", .str (String.ofList v))]
      = .ok [(.str "k", "\"k\": ".toList ++ Json.writeString v)] := by
    rw [Json.writeMembers, Json.write, Json.writeMembers, Json.keyText]
    show Except.ok [(Value.str "k", Json.writeString "k".toList ++ ':' :: ' ' :: _)] = _
    rw [key, String.toList_ofList]
    rfl
  rw [Template.stringify, Json.write, members]
  show Except.ok (Json.bracketed Json.lenientStyle 0 _ _ _) = _
  rw [Json.bracketed_flat rfl]
  simp [joinWith, Json.writeString, spelling]

/-- A reference that hands a string over. -/
def handing (name v : List Char) (named : name ≠ [])
    (letters : ∀ c ∈ name, Reference.isNameChar c = true) : Mention where
  name := name
  data? := some [(.str "k", .str (String.ofList v))]
  text := handingFront name ++ (spelling v ++ handingEnd)
  named := named
  letters := letters
  exact entries given := by
    cases given
    have whole : Json.Exact (.mapping (Json.named [("k", .str (String.ofList v))])) := by
      refine .mapping (List.nodup_singleton _) fun member inside => ?_
      cases List.mem_singleton.mp inside
      exact .str _
    exact whole
  written := by
    rw [mentionText, stringify_handed]
    simp [handingFront, handingEnd, Bind.bind, Except.bind, Pure.pure, Except.pure]

theorem pieces_mention (mention : Mention) :
    Reference.pieces mention.text = pure [.found mention.reference mention.text] := by
  let gap : Gap := Gap.ofSkips (Skips.nil _ _)
  have alone : interleave [(gap, mention)] gap = mention.text := List.append_nil _
  have quiet := reportAll_interleave [(gap, mention)] gap
  have pieces : Reference.scanner.pieces (interleave [(gap, mention)] gap)
      = [.found mention.reference mention.text] := by
    rw [interleave, pieces_interleave_cons, interleave, pieces_gap]
    rfl
  rw [alone] at quiet pieces
  rw [Reference.pieces, quiet, pure_bind, pieces]

/-! ### Taking the elements of the string out -/

section

variable {store : Markup.Store} {name v : List Char}

theorem bracket_notMem_front (letters : ∀ c ∈ name, Reference.isNameChar c = true) :
    '<' ∉ handingFront name := by
  intro listed
  rw [handingFront, List.append_assoc, List.mem_append, List.mem_append] at listed
  rcases listed with opening | inside | behind
  · exact absurd opening (by decide)
  · have letter := letters _ inside
    contradiction
  · exact absurd behind (by decide)

/-- The reference is left with the string in which each element is a token. -/
theorem protect_handing (store : Markup.Store) (lettered : store.Lettered)
    (letters : ∀ c ∈ name, Reference.isNameChar c = true) (v : List Char) :
    ∃ parts : List Part, parts.flatMap Part.text = v ∧
      (Markup.elements Markup.verbatimTags).pieces (handingFront name ++ (spelling v ++ handingEnd))
        = (handingFront name).map .plain ++ (parts.flatMap Part.pieces ++ handingEnd.map .plain) ∧
      Markup.protect (handingFront name ++ (spelling v ++ handingEnd)) store
        = (handingFront name ++ (spelling (taken store parts).1 ++ handingEnd),
            (taken store parts).2) := by
  obtain ⟨parts, whole, read⟩ :=
    Markup.pieces_written v (by decide : '<' ∉ handingEnd) (by decide)
  have found : (Markup.elements Markup.verbatimTags).pieces
      (handingFront name ++ (spelling v ++ handingEnd))
        = (handingFront name).map .plain ++ (parts.flatMap Part.pieces ++ handingEnd.map .plain) := by
    rw [Markup.pieces_front (bracket_notMem_front letters), read]
  refine ⟨parts, whole, found, ?_⟩
  rw [Markup.protect, Markup.protectElements, found, Markup.keepPieces_map_plain,
    Markup.keepPieces_written lettered]

/-- No comment begins in what is left, if none begins in the string. -/
theorem stripComments_handing (lettered : store.Lettered)
    (letters : ∀ c ∈ name, Reference.isNameChar c = true)
    (uncommented : ¬ Markup.commentOpening <:+: v) :
    Markup.stripComments (Markup.protect (handingFront name ++ (spelling v ++ handingEnd)) store).1
      = (Markup.protect (handingFront name ++ (spelling v ++ handingEnd)) store).1 := by
  refine Markup.stripComments_of_absent fun inside => uncommented ?_
  have markup := Markup.Store.infix_of_keepPieces lettered (by decide) (by decide) inside
  rw [Scanner.source_pieces] at markup
  have written := infix_of_notMem (bracket_notMem_front letters) markup
  have spelled := Json.Spelled.spelling_append v (.refl handingEnd)
  have behind := spelled.stands_in_text (by decide) (by decide) written
  -- The opening mark has no quotes, so it does not go on behind the string.
  rcases infix_or_of_notMem (by decide : '"' ∉ _) behind with string | rest
  · exact string
  · exact absurd rest (by decide)

end

/-! ### Rendering -/

theorem engine_leaves {names : Scope} {leaves : List Template.Leaf} {s : List Char}
    (means : Template.concat (Template.Leaf.meaning renderer.mode names) leaves = some s) :
    (renderer.engine names (Template.printLeaves leaves)).outcome = .ok s := by
  apply Reported.outcome_eq_ok_of_value?
  rw [engine, Template.value?_render_leaves, means]

theorem engine_plain {s : List Char} (names : Scope) (plain : '@' ∉ s) :
    (renderer.engine names s).outcome = .ok s := by
  have printed : Template.printLeaves [.text ⟨s, plain⟩] = s := List.append_nil s
  have means : Template.concat (Template.Leaf.meaning renderer.mode names) [.text ⟨s, plain⟩]
      = some s := congrArg some (List.append_nil s)
  have ran := engine_leaves means
  rwa [printed] at ran

/-- The markup of a component that shows what it is given under the name `k`. -/
def slotMarkup : List Char := ['@', '[', 'k', ']']

def slotLeaf : Template.Leaf :=
  .placeholder ⟨['k'], by decide, by decide, by decide, by decide⟩

theorem slotLeaf_meaning {names : Scope} {s : List Char}
    (looked : Mapping.get? "k" names = some (.str (String.ofList s))) :
    Template.concat (Template.Leaf.meaning renderer.mode names) [slotLeaf] = some s := by
  have segments : Template.segments ['k'] = [['k']] := by decide
  have found : Template.resolvePath names ['k'] = .ok (some (.str (String.ofList s))) := by
    have name : String.ofList ['k'] = "k" := rfl
    rw [Template.resolvePath, segments, Template.walk, Template.child?, name, looked]
    rfl
  have meaning : Template.Leaf.meaning renderer.mode names slotLeaf = some s := by
    simp only [slotLeaf, Template.Leaf.meaning, found]
    exact congrArg some String.toList_ofList
  rw [Template.concat, meaning, Template.concat]
  simp

/-- A string that a component is given is shown as it is. -/
theorem renderOn_slot (room : Nat) {chain : List Entry} {child : Entry} {s : List Char} {pass : Pass}
    (fresh : repeats chain child = false) (topmost : child.component.base? = none)
    (read : child.component.readMarkup renderer.disk = .ok slotMarkup)
    (loads : (renderer.loadData child pass.session).1 = .ok ()) (plain : '@' ∉ s) :
    ∃ next : Pass, next.store = pass.store ∧
      renderer.renderOn renderer.engine (room + 1) chain child
        [(.str "k", .str (String.ofList s))] [] pass = (.ok s, next) := by
  have looked : Mapping.get? "k" (child.component.scope (renderer.loaded pass.session child)
      [(.str "k", .str (String.ofList s))]) = some (.str (String.ofList s)) := by
    have once : (Mapping.names [(.str "k", .str (String.ofList s))]).Nodup :=
      List.nodup_singleton "k"
    rw [Component.scope, Mapping.get?_merge once, Mapping.get?_cons]
    rfl
  have markup : renderer.Plain child slotMarkup := ⟨read, by cbv, by cbv⟩
  have skips : Skips (dropFront? Reference.opening) slotMarkup [] :=
    Skips.cons rfl (Skips.of_not_mem opening_plain (by decide) _)
  have unfilled : fillSlot [] slotMarkup = slotMarkup := rfl
  obtain ⟨next, store, -, rendered⟩ := renderOn_level room fresh markup loads rfl skips unfilled
    (engine_leaves (slotLeaf_meaning looked))
  refine ⟨next, store, ?_⟩
  rw [rendered, wrap, topmost, pure_bind, substituteEnvironment_plain plain]
  rfl

/-- What a reference comes to is all that is left of a parent without other markup. -/
theorem renderOn_mention (room : Nat) {chain : List Entry} {parent child : Entry} {given : Scope}
    {mention : Mention} {s : List Char} {pass opened last : Pass}
    (fresh : repeats chain parent = false) (topmost : parent.component.base? = none)
    (read : renderer.readMarkup parent.component pass = (.ok mention.text, opened))
    (loads : (renderer.loadData parent opened.session).1 = .ok ())
    (known : renderer.registry.find? (String.ofList mention.name) = some child)
    (followed : renderer.renderOn renderer.engine room (chain ++ [parent]) child
      mention.reference.data []
      { opened with session := (renderer.loadData parent opened.session).2 } = (.ok s, last))
    (plain : '@' ∉ s) :
    ∃ next : Pass, next.store = last.store ∧
      renderer.renderOn renderer.engine (room + 1) chain parent given [] pass = (.ok s, next) := by
  let middle : Pass := { opened with session := (renderer.loadData parent opened.session).2 }
  -- The parent is one reference, with no text in front of it or behind it.
  have replaced : renderer.expand (fun nested data =>
      renderOn renderer renderer.engine room (chain ++ [parent]) nested data [])
      ([].map Piece.plain ++ .found mention.reference mention.text :: [].map Piece.plain) middle
      = (.ok ([] ++ (s ++ [])), last) := by
    apply expand_reference
    · exact known
    · exact followed
  rw [List.append_nil, List.nil_append] at replaced
  let names := parent.component.scope (renderer.loaded opened.session parent) given
  have ran : (renderer.engine names (fillSlot [] s)).outcome = .ok s := engine_plain names plain
  have finished : renderer.finish renderer.engine room (chain ++ [parent]) parent.component []
      (mention.text, names) middle = (.ok (Markup.substituteEnvironment renderer.env s),
        (Pass.report (renderer.engine names (fillSlot [] s)) last).2) :=
    finish_eq_of_expanded topmost (pieces_mention mention) replaced ran
  refine ⟨(Pass.report (renderer.engine names (fillSlot [] s)) last).2, rfl, ?_⟩
  rw [renderOn_eq fresh, Action.bind_of_ok (start_of_read read loads), finished,
    substituteEnvironment_plain plain]

/-- The markup of a parent is one reference, which hands a string to a component that shows it.
Neither of them has a base, and the data of both can be loaded. -/
structure Handover (renderer : Renderer) (session : Session) (parent child : Entry)
    (name markup : List Char) (v : String) : Prop where
  named : name ≠ []
  letters : ∀ c ∈ name, Reference.isNameChar c = true
  written : mentionText name (some [(.str "k", .str v)]) = .ok markup
  parentMarkup : parent.component.readMarkup renderer.disk = .ok markup
  childMarkup : child.component.readMarkup renderer.disk = .ok slotMarkup
  parentTop : parent.component.base? = none
  childTop : child.component.base? = none
  known : renderer.registry.find? (String.ofList name) = some child
  apart : child.place ≠ parent.place
  parentLoads : (renderer.loadData parent session).1 = .ok ()
  childLoads : (renderer.loadData child session).1 = .ok ()

namespace Handover

variable {session : Session} {parent child : Entry} {name markup : List Char} {v : String}

theorem markup_eq (site : Handover renderer session parent child name markup v) :
    markup = handingFront name ++ (spelling v.toList ++ handingEnd) := by
  have whole := (handing name v.toList site.named site.letters).written
  have same : String.ofList v.toList = v := String.ofList_toList
  have written : mentionText name (some [(.str "k", .str (String.ofList v.toList))]) = .ok markup := by
    rw [same]
    exact site.written
  exact Except.ok.inj (written.symm.trans whole)

/-- The parent comes to the string without its elements, which its store keeps. -/
theorem renderOn_parts (site : Handover renderer session parent child name markup v)
    (given : Scope) {store : Markup.Store} (lettered : store.Lettered) (unmarked : '@' ∉ v.toList)
    (uncommented : ¬ Markup.commentOpening <:+: v.toList) (room : Nat) :
    ∃ parts : List Part, ∃ next : Pass, parts.flatMap Part.text = v.toList ∧
      (Markup.elements Markup.verbatimTags).pieces markup
        = (handingFront name).map .plain ++ (parts.flatMap Part.pieces ++ handingEnd.map .plain) ∧
      next.store = (taken store parts).2 ∧
      renderer.renderOn renderer.engine (room + 2) [] parent given [] ⟨store, session⟩
        = (.ok (taken store parts).1, next) := by
  have shape := site.markup_eq
  obtain ⟨parts, whole, found, left⟩ := protect_handing store lettered site.letters v.toList
  have stripped := stripComments_handing lettered site.letters uncommented
  rw [← shape] at found left stripped
  rw [← whole] at unmarked
  have plain := Markup.notMem_taken lettered (by decide) (by decide) unmarked
  let mention := handing name (taken store parts).1 site.named site.letters
  have read : renderer.readMarkup parent.component ⟨store, session⟩
      = (.ok mention.text, ⟨(taken store parts).2, session⟩) := by
    have given : (Action.lift (parent.component.readMarkup renderer.disk) : Action Pass _)
        ⟨store, session⟩ = (.ok markup, ⟨store, session⟩) := by
      rw [site.parentMarkup]
      rfl
    have kept : Pass.inStore (Markup.protect markup) ⟨store, session⟩
        = (.ok mention.text, ⟨(taken store parts).2, session⟩) := by
      rw [Pass.inStore, left]
      rfl
    rw [left] at stripped
    rw [readMarkup, Action.bind_of_ok given, Action.bind_of_ok kept]
    exact congrArg (fun text => (Except.ok text, _)) stripped
  -- Loading the data of the parent leaves that of the child as it is.
  have others : (renderer.loadData parent session).2.data child.place = session.data child.place :=
    loadData_other parent session site.apart
  have loads : (renderer.loadData child (renderer.loadData parent session).2).1 = .ok () :=
    (loadData_congr others).1.trans site.childLoads
  have fresh : repeats ([] ++ [parent]) child = false := by
    simp [repeats, site.apart.symm]
  let middle : Pass := ⟨(taken store parts).2, (renderer.loadData parent session).2⟩
  have childLoads : (renderer.loadData child middle.session).1 = .ok () := loads
  obtain ⟨last, same, followed⟩ :=
    renderOn_slot room fresh site.childTop site.childMarkup childLoads plain
  obtain ⟨next, kept, rendered⟩ :=
    renderOn_mention (room + 1) rfl site.parentTop read site.parentLoads site.known followed plain
  exact ⟨parts, next, whole, found, kept.trans same, rendered⟩

end Handover

/-- A parent hands a string to a component that shows it. Each element that the written string has
comes out in its written form, all else as it is, so the string arrives as it was exactly if no
element is written with an escape. -/
theorem render_handing {session : Session} {parent child : Entry} {name nonce markup : List Char}
    {v : String} (site : Handover renderer session parent child name markup v) (given : Scope)
    (deep : 2 ≤ renderer.maxDepth) (lettered : ∀ c ∈ nonce, c.isAlphanum = true)
    (unmarked : '@' ∉ v.toList) (uncommented : ¬ Markup.commentOpening <:+: v.toList)
    (foreign : ¬ nonce <:+: v.toList) :
    ∃ parts : List Part, parts.flatMap Part.text = v.toList ∧
      (Markup.elements Markup.verbatimTags).pieces markup
        = (handingFront name).map .plain ++ (parts.flatMap Part.pieces ++ handingEnd.map .plain) ∧
      (renderer.render nonce parent given [] session).1 = .ok (parts.flatMap Part.shown) ∧
      ((renderer.render nonce parent given [] session).1 = .ok v.toList ↔
        ∀ element ∈ Markup.verbatimElements markup, '\\' ∉ element) := by
  obtain ⟨room, deep⟩ : ∃ room, renderer.maxDepth.toNat = room + 2 :=
    ⟨renderer.maxDepth.toNat - 2, by omega⟩
  let store : Markup.Store := .empty nonce
  have lettered : store.Lettered := lettered
  obtain ⟨parts, next, whole, found, kept, rendered⟩ :=
    site.renderOn_parts given lettered unmarked uncommented room
  have percent : '%' ∉ nonce := by
    intro listed
    have letter := lettered _ listed
    contradiction
  -- No token of the store is written in the result, so that restoring finds the kept ones only.
  have grown : Markup.Store.Extends store next.store := kept ▸ Markup.Store.keepPieces_extends _ _
  have absent : ¬ next.store.tokenStart <:+: parts.flatMap Part.shown := by
    rw [Markup.Store.tokenStart_congr grown.nonce]
    rw [← whole] at foreign
    exact Markup.tokenStart_notInfix_shown lettered foreign
  have restored : Markup.restore (taken store parts).1 next.store
      = .ok (parts.flatMap Part.shown) := by
    rw [← Markup.flatMap_source_piece] at absent ⊢
    exact Markup.Store.restore_keepPieces percent (kept ▸ .refl _) absent
  have root : (renderer.render nonce parent given [] session).1 = .ok (parts.flatMap Part.shown) := by
    show (renderer.renderRoot parent given [] ⟨store, session⟩).1 = _
    rw [renderRoot_eq, renderPart, deep, rendered]
    exact restored
  refine ⟨parts, whole, found, root, ?_⟩
  have elements : Markup.verbatimElements markup
      = Markup.Store.sources (parts.flatMap Part.pieces ++ handingEnd.map .plain) := by
    rw [Markup.verbatimElements, found, Markup.sources_map_plain]
  rw [root, elements, ← Markup.shown_eq_text_iff, whole]
  exact ⟨Except.ok.inj, congrArg Except.ok⟩

/-- A page `Home` whose markup hands a string to `C`, and `C`, which shows it. -/
def handingRenderer (v : List Char) : Renderer where
  disk := ⟨.folder [("c", .folder [("m", .file (encodeUtf8 slotMarkup))]),
    ("h", .folder [("m", .file (encodeUtf8
      (handingFront ['C'] ++ (spelling v ++ handingEnd))))])], []⟩
  registry := ⟨[{ inFolder "C" "c" with config := [(.str "extends", .null)] },
    { inFolder "Home" "h" with config := [(.str "extends", .null)] }]⟩
  env := ['d', 'e', 'v']
  evaluate := Expression.evaluate
  mode := .silent
  maxDepth := 2
  loader? := none

def shownEntry : Entry := ⟨0, { inFolder "C" "c" with config := [(.str "extends", .null)] }⟩

def handingEntry : Entry := ⟨1, { inFolder "Home" "h" with config := [(.str "extends", .null)] }⟩

/-- A string with a quote in front of an element and one in it. -/
def quotes : String := "\"<pre>\"</pre>"

theorem handover_quotes :
    Handover (handingRenderer quotes.toList) .start handingEntry shownEntry ['C']
      "@\x7bC: \x7b\"k\": \"\\\"<pre>\\\"</pre>\"\x7d\x7d".toList quotes where
  named := by decide
  letters := List.all_eq_true.mp (by cbv)
  written := by cbv
  parentMarkup := by cbv
  childMarkup := by cbv
  parentTop := by cbv
  childTop := by cbv
  known := by cbv
  apart := by decide
  parentLoads := rfl
  childLoads := rfl

/-- With the quote in the element the string does not arrive as it is. -/
theorem render_handing_quotes :
    '@' ∉ quotes.toList ∧ ¬ Markup.commentOpening <:+: quotes.toList
      ∧ ¬ ['n'] <:+: quotes.toList
      ∧ ((handingRenderer quotes.toList).render ['n'] handingEntry [] [] .start).1
        ≠ .ok quotes.toList := by
  have deep : 2 ≤ (handingRenderer quotes.toList).maxDepth := Int.le_of_eq rfl
  have letters : ∀ c ∈ ['n'], c.isAlphanum = true := List.all_eq_true.mp rfl
  have unmarked : '@' ∉ quotes.toList := by decide
  have uncommented : ¬ Markup.commentOpening <:+: quotes.toList := by decide
  have foreign : ¬ ['n'] <:+: quotes.toList := by decide
  obtain ⟨parts, -, -, -, arrives⟩ :=
    render_handing handover_quotes [] deep letters unmarked uncommented foreign
  refine ⟨unmarked, uncommented, foreign, fun same => ?_⟩
  exact absurd (arrives.mp same) (by decide +kernel)

end StaticSite.Renderer
