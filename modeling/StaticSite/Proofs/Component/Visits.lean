import Mathlib.Logic.Relation
import StaticSite.Proofs.Component.Steps

/-!
# The visits of a render

A render goes from component to component: a reference leads to the component it names, and a
component with a base leads to the base. Each such visit goes through the same stages, some of which
are visits of other components. The stages of a visit are stated one by one, so that what holds of
every stage can be said of renders that fault as well.
-/

namespace StaticSite.Renderer

open StaticSite.Registry StaticSite.Component StaticSite.Markup
open StaticSite.Text

/-- The store is out of reach for what goes on in the session. -/
theorem inSession_store {α : Type} {action : Action Session α} {pass later : Pass}
    {outcome : Except Fault α} (ended : Pass.inSession action pass = (outcome, later)) :
    later.store = pass.store := (congrArg (fun result => result.2.store) ended).symm

theorem report_eq_ok {α : Type} {result : Reported α} {a : α} {pass later : Pass}
    (ended : Pass.report result pass = (.ok a, later)) :
    result.outcome = .ok a ∧ later.store = pass.store :=
  ⟨congrArg Prod.fst ended, inSession_store ended⟩

/-! ### Visits -/

/-- The render of one component within a render. -/
structure Visit where
  /-- How many components the chain may still be longer by. -/
  room : Nat
  chain : List Entry
  entry : Entry
  given : Scope
  inner : List Char

namespace Visit

def run (renderer : Renderer) (visit : Visit) : Action Pass (List Char) :=
  renderer.renderOn renderer.engine visit.room visit.chain visit.entry visit.given visit.inner

/-- The visit of a component that is nested in the visited one or wrapped around it. -/
def next (visit : Visit) (entry : Entry) (given : Scope) (inner : List Char) : Visit :=
  ⟨visit.room - 1, visit.chain ++ [visit.entry], entry, given, inner⟩

/-- The markup that a visit reads, if the component may join the chain. -/
def Reads (renderer : Renderer) (visit : Visit) (raw : List Char) : Prop :=
  visit.room ≠ 0 ∧ repeats visit.chain visit.entry = false
    ∧ visit.entry.component.readMarkup renderer.disk = .ok raw

/-- The markup and the names that a visit starts with. -/
def Opens (renderer : Renderer) (visit : Visit) (before : Pass) (markup : List Char)
    (names : Scope) (pass : Pass) : Prop :=
  visit.room ≠ 0 ∧ repeats visit.chain visit.entry = false
    ∧ renderer.start visit.entry visit.given before = (.ok (markup, names), pass)

def follow (renderer : Renderer) (visit : Visit) (nested : Entry) (data : Scope) :
    Action Pass (List Char) := (visit.next nested data []).run renderer

/-- The references of a visit, found in its markup. -/
def Refers (renderer : Renderer) (visit : Visit) (before : Pass) (names : Scope)
    (pieces : List (Piece Reference)) (pass : Pass) : Prop :=
  ∃ markup opened, visit.Opens renderer before markup names opened
    ∧ Pass.report (Reference.pieces markup) opened = (.ok pieces, pass)

/-- The markup of a visit with its references replaced. -/
def Expands (renderer : Renderer) (visit : Visit) (before : Pass) (names : Scope)
    (expanded : List Char) (pass : Pass) : Prop :=
  ∃ pieces opened, visit.Refers renderer before names pieces opened
    ∧ renderer.expand (visit.follow renderer) pieces opened = (.ok expanded, pass)

/-- What the templates of a visit come to. -/
def Renders (renderer : Renderer) (visit : Visit) (before : Pass) (names : Scope)
    (rendered : List Char) (pass : Pass) : Prop :=
  ∃ expanded middle, visit.Expands renderer before names expanded middle
    ∧ Pass.report (renderer.engine names (fillSlot visit.inner expanded)) middle
      = (.ok rendered, pass)

/-- What a visit comes to with its base. -/
def Wraps (renderer : Renderer) (visit : Visit) (before : Pass) (wrapped : List Char)
    (pass : Pass) : Prop :=
  ∃ names rendered middle, visit.Renders renderer before names rendered middle
    ∧ renderer.wrap (fun base text => (visit.next base names text).run renderer)
      visit.entry.component rendered middle = (.ok wrapped, pass)

variable {renderer : Renderer} {visit : Visit} {before after : Pass} {text : List Char}

/-- The steps of a visit whose component may join the chain. -/
theorem run_open (visit : Visit) (room : visit.room ≠ 0)
    (fresh : repeats visit.chain visit.entry = false) : visit.run renderer = (do
      let opened ← renderer.start visit.entry visit.given
      let pieces ← Pass.report (Reference.pieces opened.1)
      let expanded ← renderer.expand (visit.follow renderer) pieces
      let rendered ← Pass.report (renderer.engine opened.2 (fillSlot visit.inner expanded))
      let wrapped ← renderer.wrap (fun base text => (visit.next base opened.2 text).run renderer)
        visit.entry.component rendered
      return substituteEnvironment renderer.env wrapped) := by
  obtain ⟨left, chain, entry, given, inner⟩ := visit
  cases left with
  | zero => exact absurd rfl room
  | succ left => exact renderOn_eq fresh given inner

theorem run_closed (visit : Visit)
    (joins : ¬ (visit.room ≠ 0 ∧ repeats visit.chain visit.entry = false)) :
    visit.run renderer = .fail (renderer.chainFault visit.chain visit.entry) := by
  obtain ⟨room, chain, entry, given, inner⟩ := visit
  cases room with
  | zero => rfl
  | succ room =>
    cases fresh : repeats chain entry with
    | false => exact absurd ⟨Nat.succ_ne_zero room, fresh⟩ joins
    | true => simp only [run, renderOn, fresh, if_true]

/-- A visit that ends has gone through all its steps. -/
theorem run_eq_ok (ended : visit.run renderer before = (.ok text, after)) :
    ∃ wrapped, visit.Wraps renderer before wrapped after
      ∧ text = substituteEnvironment renderer.env wrapped := by
  by_cases joins : visit.room ≠ 0 ∧ repeats visit.chain visit.entry = false
  · obtain ⟨room, fresh⟩ := joins
    rw [visit.run_open room fresh] at ended
    obtain ⟨⟨markup, names⟩, opened, started, ended⟩ := Action.bind_eq_ok.mp ended
    obtain ⟨pieces, reported, found, ended⟩ := Action.bind_eq_ok.mp ended
    obtain ⟨expanded, middle, replaced, ended⟩ := Action.bind_eq_ok.mp ended
    obtain ⟨rendered, later, ran, ended⟩ := Action.bind_eq_ok.mp ended
    obtain ⟨wrapped, last, based, ended⟩ := Action.bind_eq_ok.mp ended
    cases ended
    have opens : visit.Opens renderer before markup names opened := ⟨room, fresh, started⟩
    exact ⟨wrapped, ⟨names, rendered, later,
      ⟨expanded, middle, ⟨pieces, reported, ⟨markup, opened, opens, found⟩, replaced⟩, ran⟩,
      based⟩, rfl⟩
  · rw [visit.run_closed joins] at ended
    cases ended

theorem Opens.reads {names : Scope} {markup : List Char} {pass : Pass}
    (opens : visit.Opens renderer before markup names pass) :
    ∃ raw, visit.Reads renderer raw
      ∧ markup = stripComments (protect raw before.store).1
      ∧ pass.store = (protect raw before.store).2 := by
  obtain ⟨room, fresh, started⟩ := opens
  rw [start] at started
  obtain ⟨bare, read, first, started⟩ := Action.bind_eq_ok.mp started
  obtain ⟨_, loaded, second, started⟩ := Action.bind_eq_ok.mp started
  obtain ⟨looked, last, third, started⟩ := Action.bind_eq_ok.mp started
  cases started
  rw [readMarkup] at first
  obtain ⟨raw, same, text, first⟩ := Action.bind_eq_ok.mp first
  obtain ⟨ended, rfl⟩ := Action.lift_eq_ok.mp text
  obtain ⟨kept, held, protects, first⟩ := Action.bind_eq_ok.mp first
  cases protects
  cases first
  exact ⟨raw, ⟨room, fresh, ended⟩, rfl, (inSession_store third).trans (inSession_store second)⟩

end Visit

/-! ### Visits that lead to others -/

/-- Replacing references comes to a reference, with what those before it have left behind. -/
inductive Meets (renderer : Renderer) (follow : Entry → Scope → Action Pass (List Char)) :
    List (Piece Reference) → Pass → Reference → Pass → Prop where
  | here {reference : Reference} {source : List Char} {pieces : List (Piece Reference)}
      {pass : Pass} : Meets renderer follow (.found reference source :: pieces) pass reference pass
  | plain {c : Char} {pieces : List (Piece Reference)} {reference : Reference} {pass later : Pass}
      (rest : Meets renderer follow pieces pass reference later) :
      Meets renderer follow (.plain c :: pieces) pass reference later
  | later {first reference : Reference} {source text : List Char}
      {pieces : List (Piece Reference)} {pass middle later : Pass}
      (replaced : renderer.expand follow [.found first source] pass = (.ok text, middle))
      (rest : Meets renderer follow pieces middle reference later) :
      Meets renderer follow (.found first source :: pieces) pass reference later

/-- A visit leads to the visits of the components that its references name, each when the reference
is replaced, and to the visit of its base. -/
inductive Leads (renderer : Renderer) : Visit × Pass → Visit × Pass → Prop where
  | nested {visit : Visit} {before opened pass : Pass} {names : Scope}
      {pieces : List (Piece Reference)} {reference : Reference} {entry : Entry}
      (refers : visit.Refers renderer before names pieces opened)
      (meets : Meets renderer (visit.follow renderer) pieces opened reference pass)
      (known : renderer.registry.find? (String.ofList reference.name) = some entry) :
      Leads renderer (visit, before) (visit.next entry reference.data [], pass)
  | base {visit : Visit} {before pass : Pass} {names : Scope} {rendered : List Char}
      {name : String} {entry : Entry}
      (renders : visit.Renders renderer before names rendered pass)
      (named : visit.entry.component.base? = some name)
      (known : renderer.registry.find? name = some entry) :
      Leads renderer (visit, before) (visit.next entry names rendered, pass)

/-- The visits of a whole render, from that of its root. -/
abbrev Reached (renderer : Renderer) : Visit × Pass → Visit × Pass → Prop :=
  Relation.ReflTransGen renderer.Leads

/-- The markup that a visit works on, at any of its stages, and the store at that stage. -/
inductive Visit.Works (renderer : Renderer) (visit : Visit) (before : Pass) :
    Store → List Char → Prop where
  | shielded {raw : List Char} (reads : visit.Reads renderer raw) :
      visit.Works renderer before (protect raw before.store).2 (protect raw before.store).1
  | bare {raw : List Char} (reads : visit.Reads renderer raw) :
      visit.Works renderer before (protect raw before.store).2
        (stripComments (protect raw before.store).1)
  | expanded {names : Scope} {expanded : List Char} {pass : Pass}
      (expands : visit.Expands renderer before names expanded pass) :
      visit.Works renderer before pass.store expanded
  | filled {names : Scope} {expanded : List Char} {pass : Pass}
      (expands : visit.Expands renderer before names expanded pass) :
      visit.Works renderer before pass.store (fillSlot visit.inner expanded)
  | resolved {names : Scope} {expanded resolved : List Char} {pass : Pass}
      (expands : visit.Expands renderer before names expanded pass)
      (first : (Template.resolveConditionals renderer.evaluate names
        (fillSlot visit.inner expanded)).outcome = .ok resolved) :
      visit.Works renderer before pass.store resolved
  | looped {names : Scope} {expanded resolved looped : List Char} {pass : Pass}
      (expands : visit.Expands renderer before names expanded pass)
      (first : (Template.resolveConditionals renderer.evaluate names
        (fillSlot visit.inner expanded)).outcome = .ok resolved)
      (second : (Template.expandLoops renderer.evaluate renderer.mode names resolved).outcome
        = .ok looped) :
      visit.Works renderer before pass.store looped
  | rendered {names : Scope} {rendered : List Char} {pass : Pass}
      (renders : visit.Renders renderer before names rendered pass) :
      visit.Works renderer before pass.store rendered
  | wrapped {wrapped : List Char} {pass : Pass} (wraps : visit.Wraps renderer before wrapped pass) :
      visit.Works renderer before pass.store wrapped
  | substituted {wrapped : List Char} {pass : Pass}
      (wraps : visit.Wraps renderer before wrapped pass) :
      visit.Works renderer before pass.store (substituteEnvironment renderer.env wrapped)

end StaticSite.Renderer
