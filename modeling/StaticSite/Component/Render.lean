import StaticSite.Component.Reference
import StaticSite.Component.Registry
import StaticSite.Journal
import StaticSite.Markup.Comment
import StaticSite.Markup.Environment
import StaticSite.Markup.Verbatim
import StaticSite.Template.Engine

/-!
# Rendering components

A component is rendered in steps: its markup is read, its verbatim elements are taken out and its
comments removed; its data is loaded, once per session; its references are replaced by the
components they name; the markup handed to it fills its slot; the template pass runs; its base is
rendered around the result; the environment tokens are replaced. The root of a render puts the
verbatim elements back at the end.

A render follows references and bases down a chain of components. No component may come twice on a
chain, and no chain may be longer than the renderer allows, which is why rendering ends.
-/

namespace StaticSite

open StaticSite.Text

/-- What loading the data of a component comes to. -/
structure Loading where
  data : Component.Data
  journal : Journal
  outcome : Except Fault Unit

/-- Loads data for a component, given what has been loaded before. -/
abbrev Loader := Component → Component.Data → Loading

/-- What stays between renders: the data of each component by its place, and the journal. -/
structure Session where
  data : Nat → Component.Data
  journal : Journal

namespace Session

def start : Session := ⟨fun _ => .fresh, .empty⟩

instance : Inhabited Session := ⟨start⟩

def setData (place : Nat) (data : Component.Data) (session : Session) : Session :=
  { session with data := fun other => if other = place then data else session.data other }

/-- Forgets everything that has been loaded. -/
def resetData (session : Session) : Session := { session with data := fun _ => .fresh }

def record (journal : Journal) (session : Session) : Session :=
  { session with journal := session.journal ++ journal }

/-- Keeps the notices of a computation. -/
def report {α : Type} (result : Reported α) : Action Session α := fun session =>
  (result.outcome, session.record (.ofNotices result.notices))

end Session

/-- The state of one render. -/
structure Pass where
  store : Markup.Store
  session : Session

namespace Pass

def inSession {α : Type} (action : Action Session α) : Action Pass α :=
  action.within Pass.session fun session pass => { pass with session := session }

def inStore {α : Type} (step : Markup.Store → α × Markup.Store) : Action Pass α := fun pass =>
  let (a, store) := step pass.store
  (.ok a, { pass with store := store })

def report {α : Type} (result : Reported α) : Action Pass α := inSession (Session.report result)

end Pass

structure Renderer where
  disk : Disk
  registry : Registry
  env : List Char
  /-- What evaluates the expressions of templates. -/
  evaluate : Template.Evaluator
  mode : Template.PlaceholderMode
  /-- How many components a chain may have. -/
  maxDepth : Int
  loader? : Option Loader

namespace Renderer

/-- Where a base shows what it wraps. -/
def contentSlot : List Char := ['@', '[', 'c', 'o', 'n', 't', 'e', 'n', 't', ']']

/-- Whether a component stands on a chain already. -/
def repeats (chain : List Registry.Entry) (entry : Registry.Entry) : Bool :=
  chain.any fun link => link.place = entry.place

/-- The fault of a chain that a component cannot join. -/
def chainFault (renderer : Renderer) (chain : List Registry.Entry) (entry : Registry.Entry) :
    Fault :=
  let names := (chain ++ [entry]).map fun link => link.component.name
  if repeats chain entry then .cycle names else .depth renderer.maxDepth names

/-- The markup of a component, verbatim elements taken out and comments removed. -/
def readMarkup (renderer : Renderer) (component : Component) : Action Pass (List Char) := do
  let text ← .lift (component.readMarkup renderer.disk)
  let bare ← Pass.inStore (Markup.protect text)
  return Markup.stripComments bare

/-- Loads the data of a component unless that has been done in this session. -/
def loadData (renderer : Renderer) (entry : Registry.Entry) : Action Session Unit := fun session =>
  match renderer.loader? with
  | none => (.ok (), session)
  | some loader =>
    if (session.data entry.place).isLoaded then (.ok (), session)
    else
      -- What was gathered before a fault stays, but does not count as loaded.
      let loading := loader entry.component (session.data entry.place)
      let next := session.record loading.journal
      match loading.outcome with
      | .ok () => (.ok (), next.setData entry.place { loading.data with isLoaded := true })
      | .error fault => (.error fault, next.setData entry.place loading.data)

/-- The names a component's templates can use in this session. -/
def scope (entry : Registry.Entry) (given : Scope) (session : Session) : Scope :=
  entry.component.scope (session.data entry.place) given

/-- Replaces references by what `follow` gives for them; an unknown name leaves nothing. -/
def expand (renderer : Renderer) (follow : Registry.Entry → Scope → Action Pass (List Char)) :
    List (Piece Component.Reference) → Action Pass (List Char)
  | [] => pure []
  | .plain c :: pieces => do return c :: (← expand renderer follow pieces)
  | .found reference _ :: pieces => do
    let name := String.ofList reference.name
    let text ← match renderer.registry.find? name with
      | some entry => follow entry reference.data
      | none => do
        Pass.report (.warn .rendering ("Component \"" ++ name ++ "\" not found."))
        pure []
    return text ++ (← expand renderer follow pieces)

/-- Puts markup into the first slot of a base; empty markup leaves the slot to the templates. -/
def fillSlot (inner s : List Char) : List Char :=
  if inner.isEmpty then s else replaceFirst contentSlot inner s

/-- Wraps markup in the base of its component, if there is one. -/
def wrap (renderer : Renderer) (follow : Registry.Entry → List Char → Action Pass (List Char))
    (component : Component) (s : List Char) : Action Pass (List Char) :=
  match component.base? with
  | none => pure s
  | some name => match renderer.registry.find? name with
    | some base => follow base s
    | none => do
      Pass.report (.warn .rendering
        ("Base component \"" ++ name ++ "\" for \"" ++ component.name ++ "\" not found."))
      return s

/-- What runs the templates of a component, its references replaced, in its scope. -/
abbrev Engine := Scope → List Char → Reported (List Char)

/-- The template pass with the renderer's placeholders. -/
def engine (renderer : Renderer) : Engine := Template.render renderer.evaluate renderer.mode

/-- Renders a component at the end of a chain that has `room` for that many more components.
Verbatim elements stay out of the result. -/
def renderOn (renderer : Renderer) (engine : Engine) : (room : Nat) →
    (chain : List Registry.Entry) → Registry.Entry → (given : Scope) → (inner : List Char) →
    Action Pass (List Char)
  | 0, chain, entry, _, _ => .fail (renderer.chainFault chain entry)
  | room + 1, chain, entry, given, inner => do
    if repeats chain entry then .fail (renderer.chainFault chain entry) else
    let chain := chain ++ [entry]
    -- Data is loaded before the names are looked up: what was fetched is among them.
    let markup ← renderer.readMarkup entry.component
    Pass.inSession (renderer.loadData entry)
    let scope ← Pass.inSession (.read (scope entry given))
    let pieces ← Pass.report (Component.Reference.pieces markup)
    let expanded ← renderer.expand
      (fun nested data => renderOn renderer engine room chain nested data []) pieces
    -- The slot is filled before the template pass, so the filled markup is read by it again.
    let filled := fillSlot inner expanded
    let rendered ← Pass.report (engine scope filled)
    let wrapped ← renderer.wrap
      (fun base text => renderOn renderer engine room chain base scope text) entry.component
      rendered
    return Markup.substituteEnvironment renderer.env wrapped

/-- Renders a component as part of a render whose store is given. -/
def renderPart (renderer : Renderer) (entry : Registry.Entry) (given : Scope)
    (inner : List Char) : Action Pass (List Char) :=
  renderer.renderOn renderer.engine renderer.maxDepth.toNat [] entry given inner

/-- Renders a component as the root of a render, and puts the verbatim elements back. -/
def renderRoot (renderer : Renderer) (entry : Registry.Entry) (given : Scope)
    (inner : List Char) : Action Pass (List Char) := do
  let text ← renderer.renderPart entry given inner
  let pass ← .get
  .lift (Markup.restore text pass.store)

/-- Renders a component with a store of its own. -/
def render (renderer : Renderer) (nonce : List Char) (entry : Registry.Entry) (given : Scope)
    (inner : List Char) : Action Session (List Char) := fun session =>
  let (outcome, pass) := renderer.renderRoot entry given inner ⟨.empty nonce, session⟩
  (outcome, pass.session)

/-- Renders a component in the store that is there, as a root or as a part of a greater render.
Without a store only a root can be rendered; it has a store of its own. -/
def renderIn (renderer : Renderer) (nonce : List Char) (entry : Registry.Entry) (given : Scope)
    (inner : List Char) (isRoot : Bool) : Action (Option Markup.Store × Session) (List Char)
  | (none, session) =>
    if isRoot then
      let (outcome, next) := renderer.render nonce entry given inner session
      (outcome, none, next)
    else (.error .storeMissing, none, session)
  | (some store, session) =>
    let action := if isRoot then renderer.renderRoot else renderer.renderPart
    let (outcome, pass) := action entry given inner ⟨store, session⟩
    (outcome, some pass.store, pass.session)

end Renderer

end StaticSite
