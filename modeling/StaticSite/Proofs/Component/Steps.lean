import StaticSite.Component.Render
import StaticSite.Proofs.Ending

/-!
# The steps of a render

A render of a component that may join its chain is its start, which reads the markup, loads the data
and looks up the names, and what is made of the markup then. Replacing references leaves the text
between them alone.
-/

namespace StaticSite.Renderer

open StaticSite.Registry StaticSite.Component
open StaticSite.Text

variable {renderer : Renderer}

/-- The markup of a component, and the names of its templates. -/
def start (renderer : Renderer) (entry : Entry) (given : Scope) :
    Action Pass (List Char × Scope) := do
  let markup ← renderer.readMarkup entry.component
  Pass.inSession (renderer.loadData entry)
  let names ← Pass.inSession (.read (scope entry given))
  return (markup, names)

/-- What is made of the markup of a component at the end of a chain. -/
def finish (renderer : Renderer) (engine : Engine) (room : Nat) (chain : List Entry)
    (component : Component) (inner : List Char) (opened : List Char × Scope) :
    Action Pass (List Char) := do
  let pieces ← Pass.report (Reference.pieces opened.1)
  let expanded ← renderer.expand (fun nested data =>
    renderOn renderer engine room chain nested data []) pieces
  let rendered ← Pass.report (engine opened.2 (fillSlot inner expanded))
  let wrapped ← renderer.wrap (fun base text =>
    renderOn renderer engine room chain base opened.2 text) component rendered
  return Markup.substituteEnvironment renderer.env wrapped

theorem renderOn_eq {engine : Engine} {room : Nat} {chain : List Entry} {entry : Entry}
    (fresh : repeats chain entry = false) (given : Scope) (inner : List Char) :
    renderer.renderOn engine (room + 1) chain entry given inner
      = renderer.start entry given
        >>= renderer.finish engine room (chain ++ [entry]) entry.component inner := by
  rw [renderOn, fresh]
  simp only [start, finish, bind_assoc, pure_bind, Bool.false_eq_true, if_false]

theorem report_pure {α : Type} (a : α) (pass : Pass) :
    Pass.report (pure a) pass = (.ok a, pass) := by
  obtain ⟨store, ⟨data, ⟨notices, requests, loads⟩⟩⟩ := pass
  show (Except.ok a,
    (⟨store, Session.record (.ofNotices []) ⟨data, ⟨notices, requests, loads⟩⟩⟩ : Pass)) = _
  have same : (⟨notices, requests, loads⟩ : Journal) ++ Journal.ofNotices []
      = ⟨notices, requests, loads⟩ := by
    show Journal.append _ _ = _
    simp [Journal.append, Journal.ofNotices, Journal.empty]
  rw [Session.record, same]

theorem expand_plain (follow : Entry → Scope → Action Pass (List Char)) (s : List Char)
    (pieces : List (Piece Reference)) :
    renderer.expand follow (s.map Piece.plain ++ pieces)
      = (s ++ ·) <$> renderer.expand follow pieces := by
  induction s with
  | nil => simp
  | cons c s ih =>
    rw [List.map_cons, List.cons_append, expand, ih]
    simp only [bind_pure_comp, Functor.map_map, List.cons_append]

theorem expand_text (follow : Entry → Scope → Action Pass (List Char)) (s : List Char) :
    renderer.expand follow (s.map Piece.plain) = pure s := by
  rw [← List.append_nil (s.map Piece.plain), expand_plain, expand, map_pure, List.append_nil]

end StaticSite.Renderer
