import StaticSite.Proofs.Component.Dependencies
import StaticSite.Proofs.Component.Steps

/-!
# Renders that keep a record

A recorded render does what a render does, and notes which components join its chain, for which of
them the loader is called, and in what data the names of a component are looked up. When the record
is left out it is the render itself.
-/

namespace StaticSite.Renderer

open StaticSite.Registry StaticSite.Component
open StaticSite.Text

/-- What a render does with a component. -/
inductive Event where
  | enter (entry : Entry)
  | load (entry : Entry)
  | look (entry : Entry) (data : Data)

structure Record where
  pass : Pass
  events : List Event

namespace Record

def onPass {α : Type} (action : Action Pass α) : Action Record α :=
  action.within Record.pass fun pass record => { record with pass := pass }

/-- Notes what happens in a state. -/
def note (event : Pass → Event) : Action Record Unit :=
  .modify fun record => { record with events := record.events ++ [event record.pass] }

end Record

variable {renderer : Renderer}

/-! ### The steps of a recorded render -/

/-- The renderer with a loader that always fails, if it has one. -/
def failing (renderer : Renderer) : Renderer :=
  { renderer with loader? := renderer.loader?.map fun _ _ data => ⟨data, .empty, .error .wrongType⟩ }

/-- Whether loading calls the loader: a loader that fails would make it fail. -/
def callsLoader (renderer : Renderer) (entry : Entry) (session : Session) : Bool :=
  match (renderer.failing.loadData entry session).1 with
  | .ok _ => false
  | .error _ => true

/-- Loads the data of a component, and notes it if the loader is called. -/
def recordLoad (renderer : Renderer) (entry : Entry) : Action Record Unit := fun record =>
  -- Whether the loader is called depends on the session before the call.
  let calls := if renderer.callsLoader entry record.pass.session then [.load entry] else []
  Record.onPass (Pass.inSession (renderer.loadData entry))
    { record with events := record.events ++ calls }

def recordExpand (renderer : Renderer)
    (follow : Entry → Scope → Action Record (List Char)) :
    List (Piece Reference) → Action Record (List Char)
  | [] => pure []
  | .plain c :: pieces => do return c :: (← recordExpand renderer follow pieces)
  | .found reference _ :: pieces => do
    let name := String.ofList reference.name
    let text ← match renderer.registry.find? name with
      | some entry => follow entry reference.data
      | none => do
        Record.onPass (Pass.report (.warn .rendering ("Component \"" ++ name ++ "\" not found.")))
        pure []
    return text ++ (← recordExpand renderer follow pieces)

def recordWrap (renderer : Renderer) (follow : Entry → List Char → Action Record (List Char))
    (component : Component) (s : List Char) : Action Record (List Char) :=
  match component.base? with
  | none => pure s
  | some name => match renderer.registry.find? name with
    | some base => follow base s
    | none => do
      Record.onPass (Pass.report (.warn .rendering
        ("Base component \"" ++ name ++ "\" for \"" ++ component.name ++ "\" not found.")))
      return s

/-- Reads the markup of a component, loads its data and looks up its names. -/
def recordStart (renderer : Renderer) (entry : Entry) (given : Scope) :
    Action Record (List Char × Scope) := do
  Record.note fun _ => .enter entry
  let markup ← Record.onPass (renderer.readMarkup entry.component)
  renderer.recordLoad entry
  Record.note fun pass => .look entry (pass.session.data entry.place)
  let names ← Record.onPass (Pass.inSession (.read (scope entry given)))
  return (markup, names)

/-- A render that keeps a record. -/
def recordOn (renderer : Renderer) (engine : Engine) : (room : Nat) →
    (chain : List Entry) → Entry → (given : Scope) → (inner : List Char) →
    Action Record (List Char)
  | 0, chain, entry, _, _ => .fail (renderer.chainFault chain entry)
  | room + 1, chain, entry, given, inner =>
    if repeats chain entry then .fail (renderer.chainFault chain entry) else do
    let opened ← renderer.recordStart entry given
    let pieces ← Record.onPass (Pass.report (Reference.pieces opened.1))
    let expanded ← renderer.recordExpand (fun nested data =>
      recordOn renderer engine room (chain ++ [entry]) nested data []) pieces
    let rendered ← Record.onPass (Pass.report (engine opened.2 (fillSlot inner expanded)))
    let wrapped ← renderer.recordWrap (fun base text =>
      recordOn renderer engine room (chain ++ [entry]) base opened.2 text) entry.component rendered
    return Markup.substituteEnvironment renderer.env wrapped

/-! ### The record left out -/

/-- Without its record an action is another one. -/
def Erases {α : Type} (recorded : Action Record α) (action : Action Pass α) : Prop :=
  ∀ record, (recorded record).1 = (action record.pass).1
    ∧ (recorded record).2.pass = (action record.pass).2

namespace Erases

variable {α β : Type}

theorem onPass (action : Action Pass α) : Erases (Record.onPass action) action :=
  fun _ => ⟨rfl, rfl⟩

theorem pure (a : α) : Erases (Pure.pure a) (Pure.pure a) := fun _ => ⟨rfl, rfl⟩

theorem fail (fault : Fault) : Erases (Action.fail fault : Action Record α) (.fail fault) :=
  fun _ => ⟨rfl, rfl⟩

theorem bind {recorded : Action Record α} {action : Action Pass α}
    {later : α → Action Record β} {next : α → Action Pass β} (first : Erases recorded action)
    (second : ∀ a, Erases (later a) (next a)) : Erases (recorded >>= later) (action >>= next) := by
  intro record
  obtain ⟨same, left⟩ := first record
  rcases run : recorded record with ⟨outcome, after⟩
  rcases plain : action record.pass with ⟨ending, pass⟩
  rw [run, plain] at same left
  obtain rfl : outcome = ending := same
  obtain rfl : after.pass = pass := left
  cases outcome with
  | error fault =>
    rw [Action.bind_of_error run, Action.bind_of_error plain]
    exact ⟨rfl, rfl⟩
  | ok a =>
    rw [Action.bind_of_ok run, Action.bind_of_ok plain]
    exact second a after

/-- Notes leave nothing behind. -/
theorem note {later : Unit → Action Record β} {next : Action Pass β} (event : Pass → Event)
    (second : Erases (later ()) next) : Erases (Record.note event >>= later) next :=
  fun record => second { record with events := record.events ++ [event record.pass] }

end Erases

theorem recordStart_erases (entry : Entry) (given : Scope) :
    Erases (renderer.recordStart entry given) (renderer.start entry given) := by
  apply Erases.note
  apply Erases.bind (Erases.onPass _)
  intro markup
  apply Erases.bind (fun _ => ⟨rfl, rfl⟩)
  intro _
  apply Erases.note
  apply Erases.bind (Erases.onPass _)
  intro names
  exact Erases.pure _

theorem recordExpand_erases {recorded : Entry → Scope → Action Record (List Char)}
    {follow : Entry → Scope → Action Pass (List Char)}
    (followed : ∀ entry data, Erases (recorded entry data) (follow entry data))
    (pieces : List (Piece Reference)) :
    Erases (renderer.recordExpand recorded pieces) (renderer.expand follow pieces) := by
  induction pieces with
  | nil => exact Erases.pure _
  | cons piece pieces ih =>
    cases piece with
    | plain c => exact ih.bind fun _ => Erases.pure _
    | found reference source =>
      have after (text : List Char) :
          Erases (do return text ++ (← renderer.recordExpand recorded pieces))
            (do return text ++ (← renderer.expand follow pieces)) :=
        ih.bind fun _ => Erases.pure _
      rw [recordExpand, expand]
      cases renderer.registry.find? (String.ofList reference.name) with
      | some entry => exact (followed entry reference.data).bind after
      | none => exact (Erases.onPass _).bind fun _ => (Erases.pure []).bind after

theorem recordWrap_erases {recorded : Entry → List Char → Action Record (List Char)}
    {follow : Entry → List Char → Action Pass (List Char)}
    (followed : ∀ entry text, Erases (recorded entry text) (follow entry text))
    (component : Component) (s : List Char) :
    Erases (renderer.recordWrap recorded component s) (renderer.wrap follow component s) := by
  unfold recordWrap wrap
  cases component.base? with
  | none => exact Erases.pure _
  | some name =>
    cases found : renderer.registry.find? name with
    | some base =>
      simp only [found]
      exact followed base s
    | none =>
      simp only [found]
      exact (Erases.onPass _).bind fun _ => Erases.pure _

/-- A recorded render is the render. -/
theorem recordOn_erases (engine : Engine) (room : Nat) (chain : List Entry) (entry : Entry)
    (given : Scope) (inner : List Char) :
    Erases (renderer.recordOn engine room chain entry given inner)
      (renderer.renderOn engine room chain entry given inner) := by
  induction room generalizing chain entry given inner with
  | zero => exact Erases.fail _
  | succ room ih =>
    cases fresh : repeats chain entry with
    | true =>
      rw [recordOn, renderOn, fresh]
      exact Erases.fail _
    | false =>
      rw [renderOn_eq fresh, recordOn, fresh]
      -- Step by step; what is nested or wrapped around has less room.
      apply Erases.bind (recordStart_erases entry given)
      intro opened
      apply Erases.bind (Erases.onPass _)
      intro pieces
      apply Erases.bind
      · exact recordExpand_erases (fun nested data => ih _ nested data []) pieces
      intro expanded
      apply Erases.bind (Erases.onPass _)
      intro rendered
      apply Erases.bind
      · exact recordWrap_erases (fun base text => ih _ base opened.2 text) _ _
      · exact fun _ => Erases.pure _

end StaticSite.Renderer
