import StaticSite.Proofs.Component.Visits
import StaticSite.Proofs.Template.Tokens

/-!
# Tokens in a visit

A visit works on markup with tokens from its start on: it replaces references by the markup of other
components, fills its slot, runs the template pass, is wrapped in its base and has its environment
tokens replaced. Every one of these stages keeps the markup intact if the visits it leads to do, and
if no percent sign comes from elsewhere.
-/

namespace StaticSite

open StaticSite.Text

/-! ### References in intact markup -/

theorem Component.Reference.pieces_intact {store : Markup.Store} {s : List Char}
    (lettered : store.Lettered) (whole : store.Intact s) :
    store.Cut (fun _ _ => True) (Component.Reference.scanner.pieces s) := by
  refine whole.pieces lettered Component.Reference.steady.needs (by decide)
    fun {front rest reference} whole found => ?_
  obtain ⟨body, shape⟩ := Component.Reference.front?_closed found
  rw [← shape] at whole
  exact ⟨trivial, (whole.split lettered (by decide)).2⟩

namespace Renderer

open StaticSite.Registry StaticSite.Component StaticSite.Markup

/-- What a visit needs to keep its tokens whole: no percent sign stands in its markup outside of
the verbatim elements, in a value of its scope or in a collection of its loops. -/
structure Visit.PercentFree (renderer : Renderer) (visit : Visit) (before : Pass) : Prop where
  markup : ∀ raw, visit.Reads renderer raw → PercentInside raw
  scope : ∀ markup names pass, visit.Opens renderer before markup names pass →
    Template.PercentFreeScope names
  results : ∀ names expanded pass, visit.Expands renderer before names expanded pass →
    ∀ resolved, (Template.resolveConditionals renderer.evaluate names
      (fillSlot visit.inner expanded)).outcome = .ok resolved →
      Template.PercentFreeResults renderer.evaluate names resolved

/-! ### Steps that leave the markup intact -/

/-- What a step leaves behind: intact markup, and a later store that has a property. -/
structure Leaves (inv : Store → Prop) (store later : Store) (text : List Char) : Prop where
  grown : store.Extends later
  holds : inv later
  whole : later.Intact text

variable {renderer : Renderer} {inv : Store → Prop} {store later : Store}
  {follow : Entry → Scope → Action Pass (List Char)} {pieces : List (Piece Reference)}
  {pass next : Pass} {text : List Char}

theorem expand_found (reference : Reference) (source : List Char)
    (pieces : List (Piece Reference)) :
    renderer.expand follow (.found reference source :: pieces) = (do
      let text ← renderer.expand follow [.found reference source]
      return text ++ (← renderer.expand follow pieces)) := by
  rw [expand, expand]
  cases renderer.registry.find? (String.ofList reference.name) <;> simp [expand]

/-- A reference is replaced by what its component comes to, or by nothing. -/
theorem expand_single {reference : Reference} {source : List Char}
    (replaced : renderer.expand follow [.found reference source] pass = (.ok text, next)) :
    (∃ entry, renderer.registry.find? (String.ofList reference.name) = some entry
        ∧ follow entry reference.data pass = (.ok text, next))
      ∨ (text = [] ∧ next.store = pass.store) := by
  rw [expand] at replaced
  cases known : renderer.registry.find? (String.ofList reference.name) with
  | some entry =>
    simp only [known, expand, pure_bind, List.append_nil, bind_pure] at replaced
    exact .inl ⟨entry, rfl, replaced⟩
  | none =>
    simp only [known, expand, pure_bind, List.append_nil, bind_pure] at replaced
    obtain ⟨_, middle, warned, replaced⟩ := Action.bind_eq_ok.mp replaced
    cases replaced
    exact .inr ⟨rfl, (report_eq_ok warned).2⟩

theorem Meets.behind {reference : Reference} (s : List Char)
    (meets : Meets renderer follow pieces pass reference next) :
    Meets renderer follow (s.map Piece.plain ++ pieces) pass reference next := by
  induction s with
  | nil => exact meets
  | cons c s ih => exact .plain ih

/-- Whenever references lead to a component, it leaves intact markup. -/
def Follows (renderer : Renderer) (inv : Store → Prop) (store : Store)
    (follow : Entry → Scope → Action Pass (List Char)) (pieces : List (Piece Reference))
    (pass : Pass) : Prop :=
  ∀ {reference : Reference} {middle : Pass} {entry : Entry},
    Meets renderer follow pieces pass reference middle →
    renderer.registry.find? (String.ofList reference.name) = some entry →
    store.Extends middle.store → inv middle.store →
    ∀ {text : List Char} {later : Pass}, follow entry reference.data middle = (.ok text, later) →
      Leaves inv middle.store later.store text

theorem single_leaves {reference : Reference} {source : List Char}
    (grown : store.Extends pass.store) (holds : inv pass.store)
    (reliable : Follows renderer inv store follow (.found reference source :: pieces) pass)
    (replaced : renderer.expand follow [.found reference source] pass = (.ok text, next)) :
    Leaves inv pass.store next.store text := by
  rcases expand_single replaced with ⟨entry, known, followed⟩ | ⟨rfl, same⟩
  · exact reliable .here known grown holds followed
  · rw [same]
    exact ⟨.refl _, holds, .nil⟩

/-- Replacing the references of intact markup leaves intact markup. -/
theorem expand_leaves (parts : store.Cut (fun _ _ => True) pieces)
    (grown : store.Extends pass.store) (holds : inv pass.store)
    (reliable : Follows renderer inv store follow pieces pass)
    (replaced : renderer.expand follow pieces pass = (.ok text, next)) :
    Leaves inv pass.store next.store text := by
  induction parts generalizing pass text with
  | nil =>
    rw [expand] at replaced
    cases replaced
    exact ⟨.refl _, holds, .nil⟩
  | @text s pieces whole _ ih =>
    rw [expand_plain, ← bind_pure_comp] at replaced
    obtain ⟨rest, middle, replaced, same⟩ := Action.bind_eq_ok.mp replaced
    cases same
    -- The text was intact in the first store, and the store has only grown.
    have later := ih grown holds (fun meets => reliable (meets.behind s)) replaced
    exact ⟨later.grown, later.holds, (whole.mono (grown.trans later.grown)).append later.whole⟩
  | @found reference source pieces _ _ ih =>
    rw [expand_found] at replaced
    obtain ⟨front, middle, first, replaced⟩ := Action.bind_eq_ok.mp replaced
    obtain ⟨rest, last, replaced, same⟩ := Action.bind_eq_ok.mp replaced
    cases same
    have here := single_leaves grown holds reliable first
    -- The references behind are replaced in the store that this one has left.
    have later := ih (grown.trans here.grown) here.holds
      (fun meets => reliable (.later first meets)) replaced
    exact ⟨here.grown.trans later.grown, later.holds,
      (here.whole.mono later.grown).append later.whole⟩

theorem Meets.leaves {reference : Reference}
    (meets : Meets renderer follow pieces pass reference next)
    (grown : store.Extends pass.store) (holds : inv pass.store)
    (reliable : Follows renderer inv store follow pieces pass) :
    store.Extends next.store ∧ inv next.store := by
  induction meets with
  | here => exact ⟨grown, holds⟩
  | plain _ ih => exact ih grown holds fun meets => reliable (.plain meets)
  | later replaced _ ih =>
    have first := single_leaves grown holds reliable replaced
    exact ih (grown.trans first.grown) first.holds fun meets => reliable (.later replaced meets)

/-! ### Visits that leave their markup intact -/

theorem Leaves.trans {middle : Store} {front : List Char} (first : Leaves inv store middle front)
    (second : Leaves inv middle later text) : Leaves inv store later text :=
  ⟨first.grown.trans second.grown, second.holds, second.whole⟩

/-- Other markup is left in the same store. -/
theorem Leaves.other {s : List Char} (left : Leaves inv store later s) (whole : later.Intact text) :
    Leaves inv store later text := ⟨left.grown, left.holds, whole⟩

/-- If a visit ends, it leaves intact markup; what it is rendered around has to be intact. -/
def Reliable (renderer : Renderer) (inv : Store → Prop) (visit : Visit) (before : Pass) : Prop :=
  before.store.Lettered → inv before.store → before.store.Intact visit.inner →
    ∀ text later, visit.run renderer before = (.ok text, later) →
      Leaves inv before.store later.store text

/-- What lets a visit keep its markup intact at every stage. -/
structure Safe (renderer : Renderer) (inv : Store → Prop) (visit : Visit) (before : Pass) :
    Prop where
  lettered : before.store.Lettered
  holds : inv before.store
  inner : before.store.Intact visit.inner
  free : visit.PercentFree renderer before
  adds : ∀ raw, visit.Reads renderer raw → inv (protect raw before.store).2
  reliable : ∀ other pass, Leads renderer (visit, before) (other, pass) →
    Reliable renderer inv other pass

namespace Safe

variable {visit : Visit} {before : Pass} {scope : Scope} {full : List Char}

theorem shielded (safe : Safe renderer inv visit before) {raw : List Char}
    (reads : visit.Reads renderer raw) :
    Leaves inv before.store (protect raw before.store).2 (protect raw before.store).1 :=
  ⟨protect_extends raw before.store, safe.adds raw reads,
    protect_intact before.store (safe.free.markup raw reads)⟩

theorem bare (safe : Safe renderer inv visit before) {raw : List Char}
    (reads : visit.Reads renderer raw) :
    Leaves inv before.store (protect raw before.store).2
      (stripComments (protect raw before.store).1) := by
  have left := safe.shielded reads
  exact left.other (left.whole.stripComments (left.grown.lettered safe.lettered))

/-- The references of a visit stand in intact markup, and the visits that they lead to are
reliable. -/
theorem refers (safe : Safe renderer inv visit before)
    (refers : visit.Refers renderer before scope pieces pass) :
    before.store.Extends pass.store ∧ inv pass.store
      ∧ pass.store.Cut (fun _ _ => True) pieces
      ∧ Follows renderer inv pass.store (visit.follow renderer) pieces pass := by
  have source := refers
  obtain ⟨markup, opened, opens, found⟩ := source
  obtain ⟨raw, reads, rfl, same⟩ := opens.reads
  obtain ⟨pieced, stays⟩ := report_eq_ok found
  have left := safe.bare reads
  rw [← same, ← stays] at left
  have lettered := left.grown.lettered safe.lettered
  rw [Reference.pieces, Reported.outcome_bind] at pieced
  obtain ⟨_, _, pieced⟩ := Fault.bind_eq_ok pieced
  cases pieced
  refine ⟨left.grown, left.holds, Reference.pieces_intact lettered left.whole, ?_⟩
  -- A nested component is rendered around nothing.
  intro reference middle nested meets known grown holds text later followed
  have leads := Leads.nested refers meets known
  exact safe.reliable _ _ leads (grown.lettered lettered) holds .nil text later followed

theorem expanded (safe : Safe renderer inv visit before)
    (expands : visit.Expands renderer before scope full pass) :
    Leaves inv before.store pass.store full := by
  obtain ⟨pieces, opened, refers, replaced⟩ := expands
  obtain ⟨grown, holds, parts, follows⟩ := safe.refers refers
  have left := expand_leaves parts (.refl _) holds follows replaced
  exact ⟨grown.trans left.grown, left.holds, left.whole⟩

theorem filled (safe : Safe renderer inv visit before)
    (expands : visit.Expands renderer before scope full pass) :
    Leaves inv before.store pass.store (fillSlot visit.inner full) := by
  have left := safe.expanded expands
  refine left.other ?_
  unfold fillSlot
  split
  · exact left.whole
  · exact left.whole.replaceFirst (left.grown.lettered safe.lettered) (by decide)
      (safe.inner.mono left.grown)

theorem resolved (safe : Safe renderer inv visit before)
    (expands : visit.Expands renderer before scope full pass) {resolved : List Char}
    (first : (Template.resolveConditionals renderer.evaluate scope
      (fillSlot visit.inner full)).outcome = .ok resolved) :
    Leaves inv before.store pass.store resolved := by
  have left := safe.filled expands
  exact left.other (Template.resolveFrom_intact (left.grown.lettered safe.lettered) left.whole
    (Reported.value?_of_outcome first))

/-- No value that the templates of a visit are in sight of holds a percent sign. -/
theorem scope_percentFree (safe : Safe renderer inv visit before)
    (expands : visit.Expands renderer before scope full pass) :
    Template.PercentFreeScope scope := by
  obtain ⟨_, _, ⟨markup, opened, opens, _⟩, _⟩ := expands
  exact safe.free.scope markup scope opened opens

theorem looped (safe : Safe renderer inv visit before)
    (expands : visit.Expands renderer before scope full pass) {resolved looped : List Char}
    (first : (Template.resolveConditionals renderer.evaluate scope
      (fillSlot visit.inner full)).outcome = .ok resolved)
    (second : (Template.expandLoops renderer.evaluate renderer.mode scope resolved).outcome
      = .ok looped) : Leaves inv before.store pass.store looped := by
  have left := safe.resolved expands first
  have results := safe.free.results scope full pass expands resolved first
  exact left.other (Template.expandLoops_intact (safe.scope_percentFree expands) results
    (left.grown.lettered safe.lettered) left.whole (Reported.value?_of_outcome second))

theorem rendered (safe : Safe renderer inv visit before) {rendered : List Char}
    (renders : visit.Renders renderer before scope rendered pass) :
    Leaves inv before.store pass.store rendered := by
  obtain ⟨full, middle, expands, ran⟩ := renders
  obtain ⟨outcome, same⟩ := report_eq_ok ran
  obtain ⟨resolved, looped, first, second, third⟩ := Template.render_eq_ok outcome
  have left := safe.looped expands first second
  have filled : (Template.fillPlaceholders renderer.mode scope looped).toOption
      = some rendered := by
    rw [third]
    rfl
  rw [same]
  exact left.other (Template.fillPlaceholders_intact (safe.scope_percentFree expands)
    (left.grown.lettered safe.lettered) left.whole filled)

theorem wrapped (safe : Safe renderer inv visit before) {wrapped : List Char}
    (wraps : visit.Wraps renderer before wrapped pass) :
    Leaves inv before.store pass.store wrapped := by
  obtain ⟨scope, rendered, middle, renders, based⟩ := wraps
  have left := safe.rendered renders
  rw [wrap] at based
  cases named : visit.entry.component.base? with
  | none =>
    simp only [named] at based
    cases based
    exact left
  | some name =>
    simp only [named] at based
    cases known : renderer.registry.find? name with
    | some base =>
      simp only [known] at based
      -- The rendered markup is what the base is rendered around.
      have leads := Leads.base renders named known
      exact left.trans (safe.reliable _ _ leads (left.grown.lettered safe.lettered) left.holds
        left.whole wrapped pass based)
    | none =>
      simp only [known] at based
      obtain ⟨_, _, warned, based⟩ := Action.bind_eq_ok.mp based
      cases based
      rw [(report_eq_ok warned).2]
      exact left

theorem substituted (safe : Safe renderer inv visit before) (plain : '%' ∉ renderer.env)
    {wrapped : List Char} (wraps : visit.Wraps renderer before wrapped pass) :
    Leaves inv before.store pass.store (substituteEnvironment renderer.env wrapped) := by
  have left := safe.wrapped wraps
  exact left.other (left.whole.substituteEnvironment (left.grown.lettered safe.lettered) plain)

/-- Every stage of a safe visit has intact markup. -/
theorem works (safe : Safe renderer inv visit before) (plain : '%' ∉ renderer.env)
    (works : visit.Works renderer before later text) : Leaves inv before.store later text := by
  cases works with
  | shielded reads => exact safe.shielded reads
  | bare reads => exact safe.bare reads
  | expanded expands => exact safe.expanded expands
  | filled expands => exact safe.filled expands
  | resolved expands first => exact safe.resolved expands first
  | looped expands first second => exact safe.looped expands first second
  | rendered renders => exact safe.rendered renders
  | wrapped wraps => exact safe.wrapped wraps
  | substituted wraps => exact safe.substituted plain wraps

/-- What a safe visit leads to starts with intact markup as well. -/
theorem leads (safe : Safe renderer inv visit before) {other : Visit}
    (leads : Leads renderer (visit, before) (other, pass)) :
    Leaves inv before.store pass.store other.inner := by
  cases leads with
  | nested refers meets known =>
    obtain ⟨grown, holds, parts, follows⟩ := safe.refers refers
    obtain ⟨further, held⟩ := meets.leaves (.refl _) holds follows
    exact ⟨grown.trans further, held, .nil⟩
  | base renders named known => exact safe.rendered renders

end Safe

end Renderer

end StaticSite
