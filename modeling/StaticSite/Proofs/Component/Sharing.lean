import StaticSite.Proofs.Component.Independence
import StaticSite.Proofs.Component.Matching
import StaticSite.Proofs.Component.Verbatim
import StaticSite.Proofs.Template.Matching

/-!
# Renders in a shared store

A component that is rendered as part of a greater render finds a store in which others have left
their verbatim elements. Its own elements then have other tokens than in a store that is empty, and
the texts that it works on differ in all of them. But at every stage they match, its references lead
to the same components, and it ends in the same fault if it ends in one. So what is restored is what
a render of its own comes to.
-/

namespace StaticSite.Renderer

open StaticSite.Registry StaticSite.Component StaticSite.Markup
open StaticSite.Text hiding interleave
open StaticSite.Markup.Store (Matched Cuts)

variable {renderer : Renderer} {first second : Store} {pass other : Pass}

/-! ### Passes side by side -/

/-- Two passes with the same data, in stores that have grown from two others. -/
structure Beside (first second : Store) (pass other : Pass) : Prop where
  one : first.Extends pass.store
  two : second.Extends other.store
  data : pass.session.data = other.session.data

theorem Beside.trans {later behind : Pass} (outer : Beside first second pass other)
    (inner : Beside pass.store other.store later behind) : Beside first second later behind :=
  ⟨outer.one.trans inner.one, outer.two.trans inner.two, inner.data⟩

theorem Beside.refl (data : pass.session.data = other.session.data) :
    Beside pass.store other.store pass other := ⟨.refl _, .refl _, data⟩

/-- Two actions on passes come to results that are related in the stores they leave. -/
def Alongside {α β : Type} (related : α → β → Store → Store → Prop) (action : Action Pass α)
    (again : Action Pass β) (pass other : Pass) : Prop :=
  Action.Abreast (fun a b pass other => related a b pass.store other.store)
    (Beside pass.store other.store) (action pass) (again other)

/-- Texts that match in two stores. -/
abbrev Matches (s t : List Char) (first second : Store) : Prop := Matched first second s t

namespace Alongside

variable {α β γ δ : Type} {related : α → β → Store → Store → Prop}
  {made : γ → δ → Store → Store → Prop}

theorem pure {a : α} {b : β} (data : pass.session.data = other.session.data)
    (holds : related a b pass.store other.store) :
    Alongside related (Pure.pure a) (Pure.pure b) pass other :=
  Action.Abreast.pure (.refl data) holds

theorem bind {action : Action Pass α} {again : Action Pass β} {f : α → Action Pass γ}
    {g : β → Action Pass δ} (alongside : Alongside related action again pass other)
    (next : ∀ {a b later behind}, action pass = (.ok a, later) → again other = (.ok b, behind) →
      Beside pass.store other.store later behind → related a b later.store behind.store →
      Alongside made (f a) (g b) later behind) :
    Alongside made (action >>= f) (again >>= g) pass other :=
  Action.Abreast.bind alongside fun one two beside holds =>
    (next one two beside holds).mono fun _ _ => beside.trans

/-- Reports leave the stores and the data alone. -/
theorem report {result : Reported α} {again : Reported β}
    (data : pass.session.data = other.session.data)
    (agree : Agree (fun a b => related a b pass.store other.store) result.outcome again.outcome) :
    Alongside related (Pass.report result) (Pass.report again) pass other :=
  ⟨⟨.refl _, .refl _, data⟩, agree⟩

/-- What holds of the two stores holds still after a notice. -/
theorem notice {holds : Store → Store → Prop} (notice : Reported Unit)
    (data : pass.session.data = other.session.data) (here : holds pass.store other.store) :
    Alongside (fun _ _ => holds) (Pass.report notice) (Pass.report notice) pass other :=
  .report data (.refl _ fun _ _ => here)

end Alongside

/-! ### The start of a visit -/

/-- What loading data comes to depends on the data that is there. -/
theorem loadData_alike (renderer : Renderer) (entry : Entry) {session again : Session}
    (same : session.data = again.data) :
    (renderer.loadData entry session).1 = (renderer.loadData entry again).1
      ∧ (renderer.loadData entry session).2.data = (renderer.loadData entry again).2.data := by
  unfold loadData
  cases renderer.loader? with
  | none => exact ⟨rfl, same⟩
  | some loader =>
    dsimp only
    rw [← same]
    split
    · exact ⟨rfl, same⟩
    · cases (loader entry.component (session.data entry.place)).outcome with
      | error fault => simp [Session.setData, Session.record, same]
      | ok => simp [Session.setData, Session.record, same]

theorem readMarkup_alongside {component : Component}
    (data : pass.session.data = other.session.data)
    (inside : ∀ raw, component.readMarkup renderer.disk = .ok raw → PercentInside raw)
    (one : pass.store.Lettered) (two : other.store.Lettered) :
    Alongside Matches (renderer.readMarkup component) (renderer.readMarkup component) pass
      other := by
  have lifted : Alongside
      (fun raw again _ _ => raw = again ∧ component.readMarkup renderer.disk = .ok raw)
      (.lift (component.readMarkup renderer.disk)) (.lift (component.readMarkup renderer.disk))
      pass other := ⟨.refl data, .refl _ fun _ read => ⟨rfl, read⟩⟩
  refine lifted.bind fun {raw _ later behind} _ _ beside known => ?_
  obtain ⟨rfl, read⟩ := known
  have matched := protect_matched later.store behind.store (inside raw read)
  have kept : Alongside Matches (Pass.inStore (protect raw)) (Pass.inStore (protect raw)) later
      behind :=
    ⟨⟨protect_extends raw later.store, protect_extends raw behind.store, beside.data⟩, .ok matched⟩
  refine kept.bind fun _ _ shielded matched => .pure shielded.data ?_
  have grown := beside.trans shielded
  exact matched.stripComments (grown.one.lettered one) (grown.two.lettered two)

theorem start_alongside {entry : Entry} {given : Scope}
    (data : pass.session.data = other.session.data)
    (inside : ∀ raw, entry.component.readMarkup renderer.disk = .ok raw → PercentInside raw)
    (one : pass.store.Lettered) (two : other.store.Lettered) :
    Alongside (fun a b first second => Matched first second a.1 b.1 ∧ a.2 = b.2)
      (renderer.start entry given) (renderer.start entry given) pass other := by
  refine (readMarkup_alongside data inside one two).bind
    fun {markup copy later behind} _ _ beside matched => ?_
  obtain ⟨ended, data⟩ := loadData_alike renderer entry beside.data
  have loaded : Alongside (fun _ _ first second => Matched first second markup copy)
      (Pass.inSession (renderer.loadData entry)) (Pass.inSession (renderer.loadData entry)) later
      behind := by
    refine ⟨⟨.refl _, .refl _, data⟩, ?_⟩
    show Agree _ (renderer.loadData entry later.session).1
      (renderer.loadData entry behind.session).1
    rw [← ended]
    exact .refl _ fun _ _ => matched
  refine loaded.bind fun {_ _ later behind} _ _ beside matched => ?_
  -- The names come from the data, which is the same in both.
  have looked : Alongside (fun names again first second =>
      Matched first second markup copy ∧ names = again) (Pass.inSession (.read (scope entry given)))
      (Pass.inSession (.read (scope entry given))) later behind := by
    refine ⟨.refl beside.data, .ok ⟨matched, ?_⟩⟩
    rw [scope, scope, beside.data]
  exact looked.bind fun _ _ beside known => .pure beside.data known

/-! ### References -/

theorem expand_alongside {follow again : Entry → Scope → Action Pass (List Char)}
    {pieces copies : List (Piece Reference)}
    (cuts : Cuts first second (fun reference _ other _ => reference = other) pieces copies)
    (beside : Beside first second pass other)
    (follows : ∀ {reference entry later behind}, Meets renderer follow pieces pass reference later →
      renderer.registry.find? (String.ofList reference.name) = some entry →
      Beside first second later behind →
      Alongside Matches (follow entry reference.data) (again entry reference.data) later behind) :
    Alongside Matches (renderer.expand follow pieces) (renderer.expand again copies) pass
      other := by
  induction cuts generalizing pass other with
  | nil => exact .pure beside.data .nil
  | @text s t pieces copies matched _ ih =>
    rw [expand_plain, expand_plain, ← bind_pure_comp, ← bind_pure_comp]
    have rest := ih beside fun meets => follows (meets.behind s)
    refine rest.bind fun _ _ further rest => .pure further.data ?_
    have grown := beside.trans further
    exact (matched.mono grown.one grown.two).append rest
  | @found reference link source text pieces copies same _ ih =>
    subst same
    have single : Alongside Matches (renderer.expand follow [.found reference source])
        (renderer.expand again [.found reference text]) pass other := by
      rw [expand, expand]
      cases known : renderer.registry.find? (String.ofList reference.name) with
      | some entry =>
        simp only [known, expand, pure_bind, List.append_nil, bind_pure]
        exact follows .here known beside
      | none =>
        simp only [known, expand, pure_bind, List.append_nil, bind_pure]
        -- The name leads nowhere, and that is reported in both.
        have none : Matched pass.store other.store [] [] := .nil
        exact (Alongside.notice _ beside.data none).bind
          fun _ _ beside nothing => .pure beside.data nothing
    rw [expand_found reference source pieces, expand_found reference text copies]
    refine single.bind fun first _ further front => ?_
    have rest := ih (beside.trans further) fun meets => follows (.later first meets)
    refine rest.bind fun _ _ last rest => .pure last.data ?_
    exact (front.mono last.one last.two).append rest

/-! ### Visits -/

theorem fillSlot_matched {s t inner around : List Char} (matched : Matched first second s t)
    (inside : Matched first second inner around) (one : first.Lettered) (two : second.Lettered) :
    Matched first second (fillSlot inner s) (fillSlot around t) := by
  rw [fillSlot, fillSlot, ← inside.isEmpty_eq]
  split
  · exact matched
  · exact matched.replaceFirst one two (by decide) inside

theorem wrap_alongside {follow again : Entry → List Char → Action Pass (List Char)}
    {component : Component} {s t : List Char} (data : pass.session.data = other.session.data)
    (matched : Matched pass.store other.store s t)
    (follows : ∀ {name base}, component.base? = some name →
      renderer.registry.find? name = some base →
      Alongside Matches (follow base s) (again base t) pass other) :
    Alongside Matches (renderer.wrap follow component s) (renderer.wrap again component t) pass
      other := by
  unfold wrap
  cases named : component.base? with
  | none => exact .pure data matched
  | some name =>
    dsimp only
    cases known : renderer.registry.find? name with
    | some base => exact follows named known
    | none =>
      dsimp only
      exact (Alongside.notice _ data matched).bind
        fun _ _ beside matched => .pure beside.data matched

/-- The tokens of the store, and those of another one, make no difference to a visit: no name that
its templates can use holds one, and no verbatim element stands where its token would be read, in
the data of a reference, in a condition or in the collection of a loop. -/
structure Visit.Indifferent (renderer : Renderer) (tokens : Store) (visit : Visit) (before : Pass) :
    Prop where
  names : ∀ markup names pass, visit.Opens renderer before markup names pass →
    Template.TokenFreeNames before.store names ∧ Template.TokenFreeNames tokens names
  data : ∀ markup names pass, visit.Opens renderer before markup names pass →
    ∀ reference source, Piece.found reference source ∈ Reference.scanner.pieces markup →
      reference.PercentFreeData source
  conditions : ∀ names expanded pass, visit.Expands renderer before names expanded pass →
    Template.PercentFreeConditions (fillSlot visit.inner expanded)
  collections : ∀ names expanded pass, visit.Expands renderer before names expanded pass →
    ∀ resolved, (Template.resolveConditionals renderer.evaluate names
      (fillSlot visit.inner expanded)).outcome = .ok resolved →
      Template.PercentFreeCollections resolved

/-- The visit with other markup to be rendered around. -/
def Visit.around (visit : Visit) (inner : List Char) : Visit := { visit with inner := inner }

/-- A visit comes to the same in another store, rendered around matching markup. -/
def Visit.Alike (renderer : Renderer) (tokens : Store) (visit : Visit) (before : Pass) : Prop :=
  ∀ (after : Pass) (inner : List Char), before.session.data = after.session.data →
    before.store.Lettered → after.store.Lettered → tokens.Extends after.store →
    Matched before.store after.store visit.inner inner →
    Alongside Matches (visit.run renderer) ((visit.around inner).run renderer) before after

/-- Two runs of a visit in different stores, and what keeps them together. -/
structure Paired (renderer : Renderer) (tokens : Store) (visit : Visit) (before after : Pass)
    (inner : List Char) : Prop where
  plain : '%' ∉ renderer.env
  data : before.session.data = after.session.data
  free : visit.PercentFree renderer before
  indifferent : visit.Indifferent renderer tokens before
  alike : ∀ next pass, Leads renderer (visit, before) (next, pass) →
    next.Alike renderer tokens pass
  one : before.store.Lettered
  two : after.store.Lettered
  grown : tokens.Extends after.store
  inside : Matched before.store after.store visit.inner inner

namespace Paired

variable {tokens : Store} {visit : Visit} {before after : Pass} {inner s t : List Char}
  {names : Scope} {pieces copies : List (Piece Reference)}

/-- Whatever the visit leads to is run in the stores that both runs have come to. -/
theorem leads (paired : Paired renderer tokens visit before after inner)
    (beside : Beside before.store after.store pass other) {next : Visit} {around : List Char}
    (leads : Leads renderer (visit, before) (next, pass))
    (matched : Matched pass.store other.store next.inner around) :
    Alongside Matches (next.run renderer) ((next.around around).run renderer) pass other :=
  paired.alike next pass leads other around beside.data (beside.one.lettered paired.one)
    (beside.two.lettered paired.two) (paired.grown.trans beside.two) matched

theorem refers (paired : Paired renderer tokens visit before after inner)
    (beside : Beside before.store after.store pass other)
    (opens : visit.Opens renderer before s names pass)
    (matched : Matched pass.store other.store s t) :
    Alongside (fun pieces copies first second =>
        Cuts first second (fun reference _ other _ => reference = other) pieces copies)
      (Pass.report (Reference.pieces s)) (Pass.report (Reference.pieces t)) pass other :=
  .report beside.data (Reference.pieces_matched matched (beside.one.lettered paired.one)
    (beside.two.lettered paired.two) (paired.indifferent.data s names pass opens))

theorem expands (paired : Paired renderer tokens visit before after inner)
    (beside : Beside before.store after.store pass other)
    (refers : visit.Refers renderer before names pieces pass)
    (cuts : Cuts pass.store other.store (fun reference _ other _ => reference = other) pieces
      copies) :
    Alongside Matches (renderer.expand (visit.follow renderer) pieces)
      (renderer.expand ((visit.around inner).follow renderer) copies) pass other := by
  apply expand_alongside cuts (.refl beside.data)
  intro reference entry later behind meets known met
  -- A nested component is rendered around nothing.
  exact paired.leads (beside.trans met) (.nested refers meets known) .nil

theorem renders (paired : Paired renderer tokens visit before after inner)
    (beside : Beside before.store after.store pass other)
    (expands : visit.Expands renderer before names s pass)
    (matched : Matched pass.store other.store s t) :
    Alongside Matches (Pass.report (renderer.engine names (fillSlot visit.inner s)))
      (Pass.report (renderer.engine names (fillSlot inner t))) pass other := by
  have one := beside.one.lettered paired.one
  have two := beside.two.lettered paired.two
  have filled := fillSlot_matched matched (paired.inside.mono beside.one beside.two) one two
  have source := expands
  obtain ⟨_, _, ⟨markup, opened, opens, _⟩, _⟩ := source
  obtain ⟨apart, others⟩ := paired.indifferent.names markup names opened opens
  refine .report beside.data ?_
  refine Template.render_matched filled (paired.free.scope markup names opened opens)
    (paired.indifferent.conditions names s pass expands) (fun resolved first => ?_) one two
    (apart.mono beside.one) (others.mono (paired.grown.trans beside.two))
  constructor
  · exact paired.indifferent.collections names s pass expands resolved first
  · exact paired.free.results names s pass expands resolved first

theorem wraps (paired : Paired renderer tokens visit before after inner)
    (beside : Beside before.store after.store pass other)
    (renders : visit.Renders renderer before names s pass)
    (matched : Matched pass.store other.store s t) :
    Alongside Matches
      (renderer.wrap (fun base text => (visit.next base names text).run renderer)
        visit.entry.component s)
      (renderer.wrap (fun base text => ((visit.around inner).next base names text).run renderer)
        visit.entry.component t) pass other := by
  apply wrap_alongside beside.data matched
  intro name base named known
  exact paired.leads beside (.base renders named known) matched

/-- The runs stay together from the start of the visit to its end. -/
theorem run (paired : Paired renderer tokens visit before after inner) :
    Alongside Matches (visit.run renderer) ((visit.around inner).run renderer) before after := by
  by_cases joins : visit.room ≠ 0 ∧ repeats visit.chain visit.entry = false
  · obtain ⟨room, fresh⟩ := joins
    have reads (raw : List Char) (read : visit.entry.component.readMarkup renderer.disk = .ok raw) :
        PercentInside raw := paired.free.markup raw ⟨room, fresh, read⟩
    rw [visit.run_open room fresh, (visit.around inner).run_open room fresh]
    refine (start_alongside paired.data reads paired.one paired.two).bind
      fun {opened again pass other} started _ beside known => ?_
    obtain ⟨markup, names⟩ := opened
    obtain ⟨copy, _⟩ := again
    obtain ⟨matched, rfl⟩ := known
    -- The markup is read in one run as in the other, but for the tokens.
    have opens : visit.Opens renderer before markup names pass := ⟨room, fresh, started⟩
    refine (paired.refers beside opens matched).bind
      fun {pieces copies passed behind} reported _ further cuts => ?_
    replace beside := beside.trans further
    have refers : visit.Refers renderer before names pieces passed := ⟨markup, pass, opens, reported⟩
    refine (paired.expands beside refers cuts).bind
      fun {expanded copy pass other} replaced _ further matched => ?_
    replace beside := beside.trans further
    have expands : visit.Expands renderer before names expanded pass :=
      ⟨pieces, passed, refers, replaced⟩
    refine (paired.renders beside expands matched).bind
      fun {rendered copy passed behind} ran _ further matched => ?_
    replace beside := beside.trans further
    have renders : visit.Renders renderer before names rendered passed :=
      ⟨expanded, pass, expands, ran⟩
    refine (paired.wraps beside renders matched).bind fun _ _ further matched => ?_
    replace beside := beside.trans further
    exact .pure beside.data (matched.substituteEnvironment (beside.one.lettered paired.one)
      (beside.two.lettered paired.two) paired.plain)
  · rw [visit.run_closed joins, (visit.around inner).run_closed joins]
    exact ⟨.refl paired.data, .error _⟩

end Paired

/-! ### Whole renders -/

theorem alike_of_reached {tokens : Store} {visit : Visit} {before : Pass}
    (plain : '%' ∉ renderer.env)
    (free : ∀ next pass, Reached renderer (visit, before) (next, pass) →
      next.PercentFree renderer pass)
    (indifferent : ∀ next pass, Reached renderer (visit, before) (next, pass) →
      next.Indifferent renderer tokens pass) : visit.Alike renderer tokens before := by
  induction size : visit.room using Nat.strongRecOn generalizing visit before with
  | ind n ih =>
    intro after inner data one two grown inside
    -- What this visit leads to has less room, and all its visits are among those of this one.
    have alike : ∀ next pass, Leads renderer (visit, before) (next, pass) →
        next.Alike renderer tokens pass := by
      intro next pass leads
      refine ih next.room (size ▸ leads.room_lt) ?_ ?_ rfl
      · intro other later reached
        exact free other later (.head leads reached)
      · intro other later reached
        exact indifferent other later (.head leads reached)
    have paired : Paired renderer tokens visit before after inner :=
      { plain, data, alike, one, two, grown, inside, free := free visit before .refl,
        indifferent := indifferent visit before .refl }
    exact paired.run

/-- Matching texts are restored to the same text, each from its own store. -/
theorem restore_eq_of_agree {fresh shared : Except Fault (List Char)}
    (agree : Agree (Matched first second) fresh shared) :
    (shared.bind fun text => restore text second) = fresh.bind fun text => restore text first := by
  cases agree with
  | error fault => rfl
  | ok matched =>
    obtain ⟨text, one, two⟩ := matched.restores
    exact two.restore.trans one.restore.symm

/-- What a component comes to does not depend on what the store held before: if it is rendered as a
part in a store with any fragments, and its elements are then put back, the result is that of a
render of its own, or the same fault. Both leave the same data behind. -/
theorem renderPart_restored {store : Store} {nonce : List Char} {entry : Entry} {given : Scope}
    {inner : List Char} {session : Session} (letters : store.Lettered)
    (lettered : ∀ c ∈ nonce, c.isAlphanum = true) (plain : '%' ∉ renderer.env)
    (around : '%' ∉ inner)
    (free : ∀ visit before,
      Reached renderer (renderer.rootVisit nonce entry given inner session) (visit, before) →
        visit.PercentFree renderer before)
    (indifferent : ∀ visit before,
      Reached renderer (renderer.rootVisit nonce entry given inner session) (visit, before) →
        visit.Indifferent renderer store before) :
    let part := renderer.renderPart entry given inner ⟨store, session⟩
    let whole := renderer.render nonce entry given inner session
    (part.1.bind fun text => restore text part.2.store) = whole.1
      ∧ part.2.session.data = whole.2.data := by
  intro part whole
  have alike := alike_of_reached plain free indifferent
  -- The two runs go side by side, with tokens of one store here and of the other there.
  have alongside : Alongside Matches (renderer.renderPart entry given inner)
      (renderer.renderPart entry given inner) ⟨.empty nonce, session⟩ ⟨store, session⟩ :=
    alike ⟨store, session⟩ inner rfl lettered letters (.refl _) (.of_notMem around)
  obtain ⟨beside, results⟩ := alongside
  have rooted : whole = (_, _) := congrArg (fun run => (run.1, run.2.session))
    (renderRoot_eq entry given inner ⟨.empty nonce, session⟩)
  rw [rooted]
  exact ⟨restore_eq_of_agree results, beside.data.symm⟩

/-! ### A page with a verbatim element in a store with another one -/

theorem Visit.Goes.indifferent {tokens : Store} {visit : Visit} {before opened later : Pass}
    {names : Scope} {pieces : List (Piece Reference)} {expanded resolved : List Char}
    (goes : visit.Goes renderer before names pieces opened expanded later)
    (apart : Template.TokenFreeNames before.store names)
    (others : Template.TokenFreeNames tokens names)
    (data : ∀ reference source, Piece.found reference source ∈ pieces →
      reference.PercentFreeData source)
    (unconditional : ¬ Template.ifOpening <:+: fillSlot visit.inner expanded)
    (first : (Template.resolveConditionals renderer.evaluate names
      (fillSlot visit.inner expanded)).outcome = .ok resolved)
    (flat : ∀ loop source, Piece.found loop source ∉ Template.loops.pieces resolved) :
    visit.Indifferent renderer tokens before := by
  -- A visit goes one way, so all that is asked about is about this markup and this text.
  obtain ⟨markup, started, quiet⟩ := goes.started
  constructor
  · rintro again scope pass ⟨_, _, ended⟩
    cases started.symm.trans ended
    exact ⟨apart, others⟩
  · rintro again scope pass ⟨_, _, ended⟩ reference source listed
    cases started.symm.trans ended
    have found := congrArg Reported.outcome quiet
    rw [Reference.pieces, Reported.outcome_bind] at found
    obtain ⟨_, _, same⟩ := Fault.bind_eq_ok found
    cases same
    exact data reference source listed
  · intro scope full pass expands before header after shape
    obtain ⟨rfl, rfl⟩ := goes.expands expands
    exact absurd ⟨before, header ++ ')' :: after, by simp [shape]⟩ unconditional
  · intro scope full pass expands text ended loop source listed
    obtain ⟨rfl, rfl⟩ := goes.expands expands
    cases first.symm.trans ended
    exact absurd listed (flat loop source)

/-- A store in which another component has left its element. -/
def codeShared : Store := ⟨['m'], ["<code>a</code>".toList]⟩

theorem preHome_indifferent :
    (preRenderer.rootVisit ['n'] homeEntry [] [] .start).1.Indifferent preRenderer codeShared
      ⟨.empty ['n'], .start⟩ := by
  have first : (Template.resolveConditionals Expression.evaluate [(.str "x", .str "boom")]
      (preToken ++ ['a'])).outcome = .ok (preToken ++ ['a']) := by cbv
  have flat : Template.loops.pieces (preToken ++ ['a'])
      = (preToken ++ ['a']).map Piece.plain := by cbv
  refine preHome_goes.indifferent ?_ ?_ ?_ (by decide) first ?_
  · exact .of_nonce (by decide)
  · exact .of_nonce (by decide)
  · intro reference source listed _
    obtain ⟨_, rfl⟩ : reference = cardMention.reference ∧ source = cardMention.text := by
      simpa using listed
    decide
  · simp [flat]

theorem preCard_indifferent : preCard.Indifferent preRenderer codeShared preKept := by
  have first : (Template.resolveConditionals Expression.evaluate [(.str "v", .str "a")]
      "@[v]".toList).outcome = .ok "@[v]".toList := by cbv
  have flat : Template.loops.pieces "@[v]".toList = "@[v]".toList.map .plain := by cbv
  refine preCard_goes.indifferent ?_ ?_ ?_ (by decide) first ?_
  · exact .of_nonce (by decide)
  · exact .of_nonce (by decide)
  · simp
  · intro loop source
    rw [flat]
    simp

theorem indifferent_of_preReached {visit : Visit} {before : Pass}
    (reached : Reached preRenderer (preRenderer.rootVisit ['n'] homeEntry [] [] .start)
      (visit, before)) : visit.Indifferent preRenderer codeShared before := by
  rcases preReached_cases reached with same | same
  · cases same
    exact preHome_indifferent
  · cases same
    exact preCard_indifferent

/-- The page has the number one among the elements of the store, and comes to what it comes to in
a store of its own. -/
theorem renderPart_restored_pre :
    let part := preRenderer.renderPart homeEntry [] [] ⟨codeShared, .start⟩
    (part.1.bind fun text => restore text part.2.store) = .ok (preElement ++ ['a'])
      ∧ (preRenderer.render ['n'] homeEntry [] [] .start).1 = .ok (preElement ++ ['a']) := by
  have letters : codeShared.Lettered := List.all_eq_true.mp rfl
  have lettered : ∀ c ∈ ['n'], c.isAlphanum = true := List.all_eq_true.mp rfl
  have env : '%' ∉ preRenderer.env := by decide
  have free : ∀ visit before,
      Reached preRenderer (preRenderer.rootVisit ['n'] homeEntry [] [] .start) (visit, before) →
        visit.PercentFree preRenderer before := fun _ _ reached => percentFree_of_preReached reached
  have indifferent : ∀ visit before,
      Reached preRenderer (preRenderer.rootVisit ['n'] homeEntry [] [] .start) (visit, before) →
        visit.Indifferent preRenderer codeShared before :=
    fun _ _ reached => indifferent_of_preReached reached
  obtain ⟨restored, -⟩ :=
    renderPart_restored letters lettered env List.not_mem_nil free indifferent
  have kept : preKept.store.fragments[0]? = some preElement := rfl
  have page : preKept.store.Restores (preKept.store.token 0 ++ ['a']) (preElement ++ ['a']) :=
    .token kept (.plain (by decide) .nil)
  have whole : (preRenderer.render ['n'] homeEntry [] [] .start).1 = .ok (preElement ++ ['a']) := by
    show (preRenderer.renderRoot homeEntry [] [] ⟨.empty ['n'], .start⟩).1 = _
    rw [renderRoot_eq, preHome_run]
    exact page.restore
  exact ⟨restored.trans whole, whole⟩

end StaticSite.Renderer
