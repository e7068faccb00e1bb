import StaticSite.Proofs.Api.Loading
import StaticSite.Proofs.Component.Dependencies
import StaticSite.Proofs.Expression.Caching

/-!
# Pages do not influence each other

Renders share a session: what has been loaded for each component stays. The data of a component is
fresh, or is what loading it for the first time gives, or was left behind by loading that failed
and fails again in the same way. From any two sessions of this kind the same render gives the same
result, because a component's names are looked up only after its data has been loaded. What is
compared are two runs with one store, taken through the steps of a render side by side.

Expressions are functions of their text and the data, so nothing is said here of evaluators that
change data in place. Nor are renders with different tokens compared, which a page shows when one of
its expressions works on a token as on any other text.
-/

namespace StaticSite

open StaticSite.Text StaticSite.Registry

/-! ### Data that a session can hold -/

/-- The loaders on which pages can rely: none at all, one that takes its data from a source with
fixed answers, and one that always loads a component of which nothing has been loaded. -/
inductive Dependable : Option Loader → Prop where
  | none : Dependable none
  | api (source : Api.Source) : Dependable (some source.loader)
  | unfailing {loader : Loader}
      (loads : ∀ component, (loader component .fresh).outcome = .ok ()) : Dependable (some loader)

/-- How loading a component ends, and which data it has once it is loaded. -/
def firstLoading (component : Component) : Option Loader → Except Fault Unit × Component.Data
  | none => (.ok (), .fresh)
  | some loader =>
    let loading := loader component .fresh
    (loading.outcome, { loading.data with isLoaded := true })

/-- A component that cannot be loaded with a loader, however often it is tried. -/
def Fails (loader : Loader) (component : Component) (fault : Fault) : Prop :=
  ∀ data : Component.Data, data.isLoaded = false →
    (loader component data).outcome = .error fault
      ∧ (loader component data).data.isLoaded = false

/-- The data that a component can come to have. -/
inductive Reached (component : Component) : Option Loader → Component.Data → Prop where
  | fresh (loader? : Option Loader) : Reached component loader? .fresh
  | loaded {loader : Loader} (loads : (loader component .fresh).outcome = .ok ()) :
      Reached component (some loader) (firstLoading component (some loader)).2
  | failed {loader : Loader} {data : Component.Data} {fault : Fault}
      (unloaded : data.isLoaded = false) (fails : Fails loader component fault) :
      Reached component (some loader) data

/-- With a dependable loader a component can be loaded at once, or never. -/
theorem Dependable.loads_or_fails {loader : Loader} (dependable : Dependable (some loader))
    (component : Component) :
    (loader component .fresh).outcome = .ok () ∨ ∃ fault, Fails loader component fault := by
  cases dependable with
  | unfailing loads => exact .inl (loads component)
  | api source =>
    cases ended : (source.loader component .fresh).outcome with
    | ok => exact .inl rfl
    | error fault =>
      refine .inr ⟨fault, fun data unloaded => ⟨?_, source.loader_unloaded component unloaded⟩⟩
      rw [source.loader_outcome component data .fresh, ended]

namespace Renderer

variable {renderer : Renderer}

/-- Loading ends as it does for the first time. If it succeeds, the component has the data that it
then has, whatever it had before. -/
theorem loadData_reached (dependable : Dependable renderer.loader?) {entry : Entry}
    {session : Session}
    (reached : Reached entry.component renderer.loader? (session.data entry.place)) :
    (renderer.loadData entry session).1 = (firstLoading entry.component renderer.loader?).1
      ∧ Reached entry.component renderer.loader?
        ((renderer.loadData entry session).2.data entry.place)
      ∧ ((renderer.loadData entry session).1 = .ok () →
        (renderer.loadData entry session).2.data entry.place
          = (firstLoading entry.component renderer.loader?).2) := by
  unfold loadData
  cases present : renderer.loader? with
  | none =>
    rw [present] at reached
    -- Without a loader there is nothing but fresh data.
    refine ⟨rfl, reached, fun _ => ?_⟩
    generalize session.data entry.place = data at reached ⊢
    cases reached
    rfl
  | some loader =>
    rw [present] at reached dependable
    simp only
    generalize held : session.data entry.place = data at reached ⊢
    cases reached with
    | loaded loads =>
      have again : (firstLoading entry.component (some loader)).2.isLoaded = true := rfl
      rw [if_pos again]
      exact ⟨loads.symm, held ▸ .loaded loads, fun _ => held⟩
    | failed unloaded fails =>
      obtain ⟨ended, left⟩ := fails data unloaded
      have first : (firstLoading entry.component (some loader)).1 = _ := (fails .fresh rfl).1
      simp only [unloaded, Bool.false_eq_true, if_false, ended]
      refine ⟨first.symm, ?_, nofun⟩
      simp only [Session.setData, if_true]
      exact .failed left fails
    | fresh =>
      have unloaded : Component.Data.fresh.isLoaded = false := rfl
      simp only [unloaded, Bool.false_eq_true, if_false]
      rcases dependable.loads_or_fails entry.component with loads | ⟨fault, fails⟩
      · simp only [loads, Session.setData, if_true]
        exact ⟨loads.symm, .loaded loads, fun _ => rfl⟩
      · obtain ⟨ended, left⟩ := fails .fresh rfl
        simp only [ended, Session.setData, if_true]
        exact ⟨ended.symm, .failed left fails, nofun⟩

/-! ### Two runs side by side -/

/-- A session in which every component has data that it can have; `owner` says which component
stands at each place. -/
def Sound (renderer : Renderer) (owner : Nat → Component) (session : Session) : Prop :=
  ∀ place, Reached (owner place) renderer.loader? (session.data place)

theorem sound_start (owner : Nat → Component) : renderer.Sound owner .start :=
  fun _ => .fresh renderer.loader?

/-- Two runs of a part of a render that start with one store end in the same way, with one store,
whatever their sessions hold. -/
structure Agrees {α : Type} (renderer : Renderer) (owner : Nat → Component)
    (action : Action Pass α) : Prop where
  keeps : ∀ pass : Pass, renderer.Sound owner pass.session →
    renderer.Sound owner (action pass).2.session
  same : ∀ {first second : Pass}, first.store = second.store →
    renderer.Sound owner first.session → renderer.Sound owner second.session →
    (action first).1 = (action second).1 ∧ (action first).2.store = (action second).2.store

namespace Agrees

variable {owner : Nat → Component} {α β : Type}

theorem pure (a : α) : renderer.Agrees owner (Pure.pure a : Action Pass α) :=
  ⟨fun _ here => here, fun stores _ _ => ⟨rfl, stores⟩⟩

theorem fail (fault : Fault) : renderer.Agrees owner (Action.fail fault : Action Pass α) :=
  ⟨fun _ here => here, fun stores _ _ => ⟨rfl, stores⟩⟩

theorem lift (outcome : Except Fault α) :
    renderer.Agrees owner (Action.lift outcome : Action Pass α) :=
  ⟨fun _ here => here, fun stores _ _ => ⟨rfl, stores⟩⟩

theorem inStore (step : Markup.Store → α × Markup.Store) :
    renderer.Agrees owner (Pass.inStore step) := by
  refine ⟨fun _ here => here, fun {first second} stores _ _ => ?_⟩
  show Except.ok (step first.store).1 = Except.ok (step second.store).1
    ∧ (step first.store).2 = (step second.store).2
  rw [stores]
  exact ⟨rfl, rfl⟩

theorem report (result : Reported α) : renderer.Agrees owner (Pass.report result) :=
  ⟨fun _ here => here, fun stores _ _ => ⟨rfl, stores⟩⟩

theorem bind {action : Action Pass α} {next : α → Action Pass β}
    (first : renderer.Agrees owner action) (rest : ∀ a, renderer.Agrees owner (next a)) :
    renderer.Agrees owner (action >>= next) := by
  constructor
  · -- One run: what the first action keeps is what the second one starts from.
    intro pass here
    have kept := first.keeps pass here
    rcases run : action pass with ⟨outcome, after⟩
    rw [run] at kept
    cases outcome with
    | error fault =>
      rw [Action.bind_of_error run]
      exact kept
    | ok a =>
      rw [Action.bind_of_ok run]
      exact (rest a).keeps after kept
  · -- Two runs: the first actions end alike, so that the second ones start from alike passes.
    intro one two stores here there
    obtain ⟨same, left⟩ := first.same stores here there
    have kept := first.keeps one here
    have held := first.keeps two there
    rcases run : action one with ⟨outcome, after⟩
    rcases other : action two with ⟨outcome', after'⟩
    rw [run, other] at same left
    rw [run] at kept
    rw [other] at held
    cases same
    cases outcome with
    | error fault =>
      rw [Action.bind_of_error run, Action.bind_of_error other]
      exact ⟨rfl, left⟩
    | ok a =>
      rw [Action.bind_of_ok run, Action.bind_of_ok other]
      exact (rest a).same left kept held

end Agrees

variable {owner : Nat → Component}

theorem agrees_readMarkup (component : Component) :
    renderer.Agrees owner (renderer.readMarkup component) :=
  (Agrees.lift _).bind fun _ => (Agrees.inStore _).bind fun _ => .pure _

/-- The names of a component, looked up after its data has been loaded. -/
def names (renderer : Renderer) (entry : Entry) (given : Scope) : Action Session Scope := do
  renderer.loadData entry
  .read (scope entry given)

theorem names_run (entry : Entry) (given : Scope) (session : Session) :
    renderer.names entry given session
      = ((renderer.loadData entry session).1.map fun _ =>
          scope entry given (renderer.loadData entry session).2,
        (renderer.loadData entry session).2) := by
  rcases run : renderer.loadData entry session with ⟨outcome, after⟩
  cases outcome with
  | error fault => exact Action.bind_of_error run
  | ok a => exact Action.bind_of_ok run

theorem inSession_bind {α β : Type} (action : Action Session α) (next : α → Action Session β) :
    Pass.inSession (action >>= next)
      = Pass.inSession action >>= fun a => Pass.inSession (next a) := by
  funext pass
  rcases run : action pass.session with ⟨outcome, after⟩
  have inside : Pass.inSession action pass = (outcome, { pass with session := after }) := by
    rw [Pass.inSession, Action.within, run]
  cases outcome with
  | error fault =>
    rw [Action.bind_of_error inside, Pass.inSession, Action.within, Action.bind_of_error run]
  | ok a =>
    rw [Action.bind_of_ok inside, Pass.inSession, Action.within, Action.bind_of_ok run]
    rfl

theorem loadData_other (entry : Entry) (session : Session) {place : Nat}
    (other : place ≠ entry.place) :
    (renderer.loadData entry session).2.data place = session.data place := by
  unfold loadData
  split
  · rfl
  · split
    · rfl
    · simp only
      split <;> simp only [Session.setData, if_neg other] <;> rfl

theorem agrees_names (dependable : Dependable renderer.loader?) {entry : Entry}
    (owned : entry.component = owner entry.place) (given : Scope) :
    renderer.Agrees owner (Pass.inSession (renderer.names entry given)) := by
  have loaded (session : Session) (sound : renderer.Sound owner session) :=
    loadData_reached dependable (owned ▸ sound entry.place)
  constructor
  · intro pass sound place
    show Reached _ _ ((renderer.names entry given pass.session).2.data place)
    rw [names_run]
    -- Only the slot of this component can have changed, and it holds its own first loading.
    by_cases here : place = entry.place
    · rw [here, ← owned]
      exact (loaded pass.session sound).2.1
    · rw [loadData_other entry pass.session here]
      exact sound place
  · -- Both sessions give what a first loading would give, whatever was loaded before.
    intro first second stores here there
    refine ⟨?_, stores⟩
    show (renderer.names entry given first.session).1 = (renderer.names entry given second.session).1
    obtain ⟨ended, -, settled⟩ := loaded first.session here
    obtain ⟨ended', -, settled'⟩ := loaded second.session there
    rw [names_run, names_run]
    cases outcome : (firstLoading entry.component renderer.loader?).1 with
    | error fault =>
      rw [ended, ended', outcome]
      rfl
    | ok =>
      rw [ended, ended', outcome]
      show Except.ok (scope entry given _) = Except.ok (scope entry given _)
      rw [scope, scope, settled (ended.trans outcome), settled' (ended'.trans outcome)]

theorem agrees_expand {follow : Entry → Scope → Action Pass (List Char)}
    (followed : ∀ entry ∈ renderer.registry.entries, ∀ data,
      renderer.Agrees owner (follow entry data))
    (pieces : List (Piece Component.Reference)) :
    renderer.Agrees owner (renderer.expand follow pieces) := by
  induction pieces with
  | nil => exact .pure _
  | cons piece pieces ih =>
    cases piece with
    | plain c => exact ih.bind fun _ => .pure _
    | found reference source =>
      have after (text : List Char) : renderer.Agrees owner (do
          return text ++ (← renderer.expand follow pieces)) := ih.bind fun _ => .pure _
      rw [expand]
      split
      next entry found =>
        exact (followed entry (List.mem_of_find?_eq_some found) _).bind after
      next => exact (Agrees.report _).bind fun _ => (Agrees.pure []).bind after

theorem agrees_wrap {follow : Entry → List Char → Action Pass (List Char)}
    (followed : ∀ entry ∈ renderer.registry.entries, ∀ text,
      renderer.Agrees owner (follow entry text))
    (component : Component) (s : List Char) :
    renderer.Agrees owner (renderer.wrap follow component s) := by
  unfold wrap
  split
  · exact .pure _
  · split
    next base found => exact followed base (List.mem_of_find?_eq_some found) _
    next => exact (Agrees.report _).bind fun _ => .pure _

/-- By induction on the room of the chain: every step agrees, and the components that are nested or
wrapped around have less room. -/
theorem agrees_renderOn (dependable : Dependable renderer.loader?)
    (listed : ∀ entry ∈ renderer.registry.entries, entry.component = owner entry.place)
    (engine : Engine) (room : Nat) (chain : List Entry) {entry : Entry}
    (owned : entry.component = owner entry.place) (given : Scope) (inner : List Char) :
    renderer.Agrees owner (renderer.renderOn engine room chain entry given inner) := by
  induction room generalizing chain entry given inner with
  | zero => exact .fail _
  | succ room ih =>
    rw [renderOn]
    split
    · exact .fail _
    · refine (agrees_readMarkup _).bind fun markup => ?_
      -- Loading alone leaves different sessions; what is looked up after it is the same.
      have looked := agrees_names dependable owned given
      rw [names, inSession_bind] at looked
      rw [← bind_assoc]
      refine looked.bind fun names => ?_
      refine (Agrees.report _).bind fun pieces => ?_
      refine Agrees.bind (agrees_expand (fun nested inside data => ?_) pieces) fun expanded => ?_
      · exact ih _ (listed nested inside) data []
      refine (Agrees.report _).bind fun rendered => Agrees.bind ?_ fun _ => .pure _
      exact agrees_wrap (fun base inside text => ih _ (listed base inside) names text) _ _

/-! ### Calls -/

/-- A call of a renderer: the place of the component, the data and the markup that are given, and
the store to use, if it is not to be a new one. -/
structure Call where
  nonce : List Char
  place : Nat
  given : Scope
  inner : List Char
  isRoot : Bool
  store? : Option Markup.Store

/-- Makes a call. What becomes of its store is left to the caller. -/
def perform (renderer : Renderer) (owner : Nat → Component) (call : Call) :
    Action Session (List Char) := fun session =>
  let (outcome, _, next) := renderer.renderIn call.nonce ⟨call.place, owner call.place⟩ call.given
    call.inner call.isRoot (call.store?, session)
  (outcome, next)

/-- The session after calls, whatever they end in. -/
def afterCalls (renderer : Renderer) (owner : Nat → Component) (calls : List Call)
    (session : Session) : Session :=
  calls.foldl (fun session call => (renderer.perform owner call session).2) session

/-- A root differs from a part in what it makes of the text and of the store at the end. -/
theorem renderRoot_eq (entry : Entry) (given : Scope) (inner : List Char) (pass : Pass) :
    renderer.renderRoot entry given inner pass
      = ((renderer.renderPart entry given inner pass).1.bind fun text =>
          Markup.restore text (renderer.renderPart entry given inner pass).2.store,
        (renderer.renderPart entry given inner pass).2) := by
  rcases run : renderer.renderPart entry given inner pass with ⟨outcome, after⟩
  cases outcome with
  | error fault => exact Action.bind_of_error run
  | ok text => exact Action.bind_of_ok run

theorem agrees_renderRoot (dependable : Dependable renderer.loader?)
    (listed : ∀ entry ∈ renderer.registry.entries, entry.component = owner entry.place)
    {entry : Entry} (owned : entry.component = owner entry.place) (given : Scope)
    (inner : List Char) : renderer.Agrees owner (renderer.renderRoot entry given inner) := by
  have part : renderer.Agrees owner (renderer.renderPart entry given inner) :=
    agrees_renderOn dependable listed _ _ _ owned given inner
  constructor
  · intro pass sound
    rw [renderRoot_eq]
    exact part.keeps pass sound
  · intro first second stores here there
    obtain ⟨same, left⟩ := part.same stores here there
    rw [renderRoot_eq, renderRoot_eq, same, left]
    exact ⟨rfl, rfl⟩

theorem perform_sound (dependable : Dependable renderer.loader?)
    (listed : ∀ entry ∈ renderer.registry.entries, entry.component = owner entry.place)
    (call : Call) {session : Session} (sound : renderer.Sound owner session) :
    renderer.Sound owner (renderer.perform owner call session).2 := by
  -- A call is a whole render, a part of one or nothing; the first two keep sessions sound.
  have root : renderer.Agrees owner
      (renderer.renderRoot ⟨call.place, owner call.place⟩ call.given call.inner) :=
    agrees_renderRoot dependable listed rfl _ _
  have part : renderer.Agrees owner
      (renderer.renderPart ⟨call.place, owner call.place⟩ call.given call.inner) :=
    agrees_renderOn dependable listed _ _ _ rfl _ _
  obtain ⟨nonce, place, given, inner, isRoot, store?⟩ := call
  cases store? with
  | none =>
    cases isRoot with
    | true => exact root.keeps ⟨.empty nonce, session⟩ sound
    | false => exact sound
  | some store =>
    cases isRoot with
    | true => exact root.keeps ⟨store, session⟩ sound
    | false => exact part.keeps ⟨store, session⟩ sound

theorem afterCalls_sound (dependable : Dependable renderer.loader?)
    (listed : ∀ entry ∈ renderer.registry.entries, entry.component = owner entry.place)
    (calls : List Call) {session : Session} (sound : renderer.Sound owner session) :
    renderer.Sound owner (renderer.afterCalls owner calls session) := by
  induction calls generalizing session with
  | nil => exact sound
  | cons call calls ih => exact ih (perform_sound dependable listed call sound)

/-- Rendering a page gives the same markup or the same fault after any calls as it does when
nothing has been rendered. Nor does it make a difference, if expressions are compiled, which of them
were evaluated before and are kept in a cache. -/
theorem render_afterCalls (renderer : Renderer) (owner : Nat → Component)
    (dependable : Dependable renderer.loader?)
    (listed : ∀ entry ∈ renderer.registry.entries, entry.component = owner entry.place)
    (calls : List Call) (nonce : List Char) (page : Entry)
    (owned : page.component = owner page.place) (given : Scope) (inner : List Char) :
    (renderer.render nonce page given inner (renderer.afterCalls owner calls .start)).1
        = (renderer.render nonce page given inner .start).1
      ∧ ∀ compiler : Expression.Compiler, renderer.evaluate = compiler.evaluate →
        ∀ evaluations : List (List Char × Scope),
          let cache := (Expression.Cache.empty : Expression.Cache compiler).afterEvaluations evaluations
          Template.render (fun s scope => (cache.evaluate s scope).1) renderer.mode
            = renderer.engine := by
  constructor
  · -- Every reachable session is sound, as the first one is, and sound sessions render alike.
    have used := afterCalls_sound dependable listed calls (renderer.sound_start owner)
    have agrees := agrees_renderRoot dependable listed owned given inner
    have stores : (⟨.empty nonce, renderer.afterCalls owner calls .start⟩ : Pass).store
        = (⟨.empty nonce, .start⟩ : Pass).store := rfl
    exact (agrees.same stores used (renderer.sound_start owner)).1
  · intro compiler compiled evaluations cache
    -- A cache holds only what compiling gives, so that evaluating never shows what it holds.
    have faithful : cache.Faithful := Expression.Cache.afterEvaluations_faithful
      Expression.Cache.faithful_empty evaluations
    have same : (fun s scope => (cache.evaluate s scope).1) = renderer.evaluate := by
      funext s scope
      rw [compiled]
      exact (Expression.Cache.evaluate_faithful faithful s scope).1
    rw [same]
    rfl

/-- Loads the same value for every component, and records the name of the component. -/
def valueLoader : Loader := fun component data =>
  ⟨{ data with fetched := [(.str "v", .str "1")] }, ⟨[], [], [component.name]⟩, .ok ()⟩

/-- Two components, `@[v]` and one that refers to itself. -/
def loadingRenderer : Renderer where
  disk := ⟨.folder [("a", .folder [("m", .file [64, 91, 118, 93])]),
    ("b", .folder [("m", .file [64, 123, 66, 125])])], []⟩
  registry := ⟨[inFolder "A" "a", inFolder "B" "b"]⟩
  env := ['d', 'e', 'v']
  evaluate := Expression.evaluate
  mode := .silent
  maxDepth := 10
  loader? := some valueLoader

def loadingOwner (place : Nat) : Component :=
  if place = 0 then inFolder "A" "a" else inFolder "B" "b"

/-- A call that failed and one that has loaded the page with other data make no difference. -/
example : (loadingRenderer.render ['n'] ⟨0, loadingOwner 0⟩ [] [] (loadingRenderer.afterCalls
    loadingOwner [⟨['m'], 1, [], [], true, none⟩,
      ⟨['k'], 0, [(.str "v", .str "2")], [], true, none⟩] .start)).1 = .ok ['1'] := by
  cbv

end Renderer

end StaticSite
