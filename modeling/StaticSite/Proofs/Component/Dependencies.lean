import Mathlib
import StaticSite.Component.Render
import StaticSite.Expression.Program
import StaticSite.Proofs.Component.References
import StaticSite.Proofs.Ending

/-!
# The graph of dependencies

A component depends on the components that its references name and on its base, whatever data it is
rendered with. A render follows these edges depth first, from left to right, and ends with the
first path that it cannot follow: one that comes to a component for a second time, one that is too
long, or one whose last component refers to data that is refused.

A path is written as the positions of its steps among the successors, so that depth-first order is
the lexicographic order.
-/

namespace StaticSite.Renderer

open StaticSite.Text StaticSite.Registry

/-! ### Edges and paths -/

/-- The items among pieces. -/
def items {α : Type} : List (Piece α) → List α
  | [] => []
  | .plain _ :: pieces => items pieces
  | .found item _ :: pieces => item :: items pieces

/-- The markup of a component without comments, its verbatim elements replaced by tokens. -/
def bareMarkup (renderer : Renderer) (nonce : List Char) (entry : Entry) : List Char :=
  match entry.component.readMarkup renderer.disk with
  | .ok text => Markup.stripComments (Markup.protect text (.empty nonce)).1
  | .error _ => []

def references (renderer : Renderer) (nonce : List Char) (entry : Entry) :
    List Component.Reference :=
  items (Component.Reference.scanner.pieces (renderer.bareMarkup nonce entry))

/-- The component that a reference names. -/
def target? (renderer : Renderer) (reference : Component.Reference) : Option Entry :=
  renderer.registry.find? (String.ofList reference.name)

def base? (renderer : Renderer) (entry : Entry) : Option Entry :=
  entry.component.base?.bind renderer.registry.find?

/-- The components that a component depends on: those it refers to, in order, and its base. -/
def successors (renderer : Renderer) (nonce : List Char) (entry : Entry) : List Entry :=
  (renderer.references nonce entry).filterMap renderer.target? ++ (renderer.base? entry).toList

/-- The path that some steps lead along: what comes before its last component, and that. -/
def follow (renderer : Renderer) (nonce : List Char) :
    Entry → List Nat → Option (List Entry × Entry)
  | entry, [] => some ([], entry)
  | entry, step :: steps => do
    let next ← (renderer.successors nonce entry)[step]?
    let (chain, last) ← follow renderer nonce next steps
    return (entry :: chain, last)

/-- The first data of a component's references that is refused. -/
def refusal? (renderer : Renderer) (nonce : List Char) (entry : Entry) : Option Fault :=
  (renderer.references nonce entry).findSome? fun reference => reference.inline.refusal?

/-- Why a path cannot be followed beyond its last component. -/
def stop? (renderer : Renderer) (nonce : List Char) (chain : List Entry) (last : Entry) :
    Option Fault :=
  if repeats chain last = true ∨ renderer.maxDepth < chain.length + 1 then
    some (renderer.chainFault chain last)
  else renderer.refusal? nonce last

/-- The fault of the first path that cannot be followed, searched depth first. -/
def firstStop (renderer : Renderer) (nonce : List Char) :
    (room : Nat) → (chain : List Entry) → Entry → Option Fault
  | 0, chain, entry => some (renderer.chainFault chain entry)
  | room + 1, chain, entry =>
    if repeats chain entry = true then some (renderer.chainFault chain entry)
    else (renderer.refusal? nonce entry).or
      ((renderer.successors nonce entry).findSome? (firstStop renderer nonce room (chain ++ [entry])))

/-! ### What references come to -/

theorem items_plain {α : Type} (k : List Char) (pieces : List (Piece α)) :
    items (k.map Piece.plain ++ pieces) = items pieces := by
  induction k with
  | nil => rfl
  | cons c k ih => exact ih

theorem items_alike {α : Type} {related : α → α → Prop} {p q : List (Piece α)}
    (alike : PiecesAlike related p q) : List.Forall₂ related (items p) (items q) := by
  induction alike with
  | nil => exact .nil
  | plain _ _ ih => exact ih
  | found same _ ih => exact .cons same ih
  | @number m n p q _ _ _ ih =>
    show List.Forall₂ related (items (m.map Piece.plain ++ .plain '%' :: p))
      (items (n.map Piece.plain ++ .plain '%' :: q))
    rw [items_plain, items_plain]
    exact ih

/-- References are reported in order, up to the first whose data is refused. -/
theorem outcome_reportAll (pieces : List (Piece Component.Reference)) :
    (Component.Reference.reportAll pieces).outcome
      = match (items pieces).findSome? fun reference => reference.inline.refusal? with
        | some fault => .error fault
        | none => .ok () := by
  induction pieces with
  | nil => rfl
  | cons piece pieces ih =>
    cases piece with
    | plain c => exact ih
    | found reference source =>
      obtain ⟨name, inline⟩ := reference
      rw [Component.Reference.reportAll, Reported.outcome_bind, ih, items, List.findSome?_cons]
      cases inline <;> rfl

variable {renderer : Renderer} {nonce : List Char}

/-- A render whose tokens carry a nonce. -/
def Carries (nonce : List Char) (pass : Pass) : Prop := pass.store.nonce = nonce

/-- Pieces of markup that refers to the same components as the markup of a component. -/
def Refers (renderer : Renderer) (nonce : List Char) (entry : Entry)
    (pieces : List (Piece Component.Reference)) : Prop :=
  List.Forall₂ Component.Reference.SameLink (renderer.references nonce entry) (items pieces)

theorem refusals_eq {first second : List Component.Reference}
    (same : List.Forall₂ Component.Reference.SameLink first second) :
    (first.findSome? fun reference => reference.inline.refusal?)
      = second.findSome? fun reference => reference.inline.refusal? := by
  induction same with
  | nil => rfl
  | cons same _ ih => rw [List.findSome?_cons, List.findSome?_cons, ih, same.2]

theorem targets_eq {first second : List Component.Reference}
    (same : List.Forall₂ Component.Reference.SameLink first second) :
    first.filterMap renderer.target? = second.filterMap renderer.target? := by
  induction same with
  | nil => rfl
  | @cons one other _ _ same _ ih =>
    have target : renderer.target? one = renderer.target? other := by
      rw [target?, target?, same.1]
    rw [List.filterMap_cons, List.filterMap_cons, ih, target]

/-! ### The steps of a render -/

open StaticSite.Action (Ends)

/-- How a part of a render ends, whatever text or data it gives. -/
abbrev Stops {α : Type} (nonce : List Char) (action : Action Pass α) (fault? : Option Fault) :
    Prop :=
  Ends (Carries nonce) (fun _ => True) action fault?

theorem ends_report {α : Type} {post : α → Prop} {result : Reported α} {a : α}
    (ended : result.outcome = .ok a) (holds : post a) :
    Ends (Carries nonce) post (Pass.report result) none := by
  intro pass here
  refine ⟨here, ?_⟩
  show Action.Results post result.outcome none
  rw [ended]
  exact ⟨rfl, holds⟩

theorem ends_readMarkup {entry : Entry}
    (readable : ∃ text, entry.component.readMarkup renderer.disk = .ok text) :
    Ends (Carries nonce) (Renumbered (renderer.bareMarkup nonce entry))
      (renderer.readMarkup entry.component) none := by
  obtain ⟨text, read⟩ := readable
  have bare : renderer.bareMarkup nonce entry
      = Markup.stripComments (Markup.protect text (.empty nonce)).1 := by rw [bareMarkup, read]
  have given : Ends (Carries nonce) (· = text)
      (.lift (entry.component.readMarkup renderer.disk)) none := Ends.lift read rfl
  refine given.bind_none fun kept same => ?_
  subst same
  intro pass here
  refine ⟨(Markup.protect_nonce kept pass.store).trans here, rfl, ?_⟩
  rw [bare]
  have carried : (Markup.Store.empty nonce).nonce = pass.store.nonce := Eq.symm here
  exact Markup.protect_alike carried kept

theorem ends_loadData {entry : Entry} (loads : ∀ loader, renderer.loader? = some loader →
      ∀ component data, (loader component data).outcome = .ok ()) :
    Ends (Carries nonce) (fun _ => True) (Pass.inSession (renderer.loadData entry)) none := by
  have ran (session : Session) : (renderer.loadData entry session).1 = .ok () := by
    cases present : renderer.loader? with
    | none => simp only [loadData, present]
    | some loader =>
      have loaded := loads loader present entry.component (session.data entry.place)
      by_cases again : (session.data entry.place).isLoaded = true <;>
        simp only [loadData, present, again, loaded, if_true]
      rfl
  refine Ends.within (fun session _ => ⟨trivial, ?_⟩) fun _ _ here => here
  rw [ran]
  exact ⟨rfl, trivial⟩

theorem ends_pieces {entry : Entry} {markup : List Char}
    (alike : Renumbered (renderer.bareMarkup nonce entry) markup) :
    Ends (Carries nonce) (Refers renderer nonce entry)
      (Pass.report (Component.Reference.pieces markup)) (renderer.refusal? nonce entry) := by
  have refers : Refers renderer nonce entry (Component.Reference.scanner.pieces markup) :=
    items_alike (Component.Reference.steady.pieces alike)
  have same : _ = renderer.refusal? nonce entry := (refusals_eq refers).symm
  intro pass here
  refine ⟨here, ?_⟩
  show Action.Results _ (Component.Reference.pieces markup).outcome _
  rw [Component.Reference.pieces, Reported.outcome_bind, outcome_reportAll, same]
  cases renderer.refusal? nonce entry with
  | some fault => exact rfl
  | none => exact ⟨rfl, refers⟩

theorem ends_expand {enter : Entry → Scope → Action Pass (List Char)}
    {stops : Entry → Option Fault} {pieces : List (Piece Component.Reference)}
    (entered : ∀ entry ∈ (items pieces).filterMap renderer.target?, ∀ data,
      Stops nonce (enter entry data) (stops entry)) :
    Stops nonce (renderer.expand enter pieces)
      (((items pieces).filterMap renderer.target?).findSome? stops) := by
  induction pieces with
  | nil => exact Ends.pure trivial
  | cons piece pieces ih =>
    cases piece with
    -- Only a reference to a listed component can stop the page: text and unknown names go on.
    | plain c => exact (ih entered).map fun _ _ => trivial
    | found reference source =>
      rw [items, List.filterMap_cons] at entered ⊢
      rw [expand]
      cases named : renderer.target? reference with
      | none =>
        have unknown : renderer.registry.find? (String.ofList reference.name) = none := named
        rw [named] at entered
        have warned : Stops nonce (Pass.report (.warn .rendering
            ("Component \"" ++ String.ofList reference.name ++ "\" not found."))) none :=
          ends_report rfl trivial
        have nothing : Stops nonce (do
            Pass.report (.warn .rendering
              ("Component \"" ++ String.ofList reference.name ++ "\" not found."))
            pure ([] : List Char)) none :=
          warned.map fun _ _ => trivial
        rw [unknown]
        exact nothing.bind_none fun _ _ => (ih entered).map fun _ _ => trivial
      | some entry =>
        have known : renderer.registry.find? (String.ofList reference.name) = some entry := named
        rw [named] at entered
        have first := entered entry List.mem_cons_self reference.data
        have rest := ih fun other inside => entered other (List.mem_cons_of_mem entry inside)
        have next (text : List Char) : Stops nonce (do
            return text ++ (← renderer.expand enter pieces))
            (((items pieces).filterMap renderer.target?).findSome? stops) :=
          rest.map fun _ _ => trivial
        have both := first.bind fun text _ => next text
        rw [known, List.findSome?_cons]
        -- The first stop of the whole text is that of this reference, or else that of the rest.
        cases stop : stops entry with
        | none =>
          rw [stop] at both
          exact both
        | some fault =>
          rw [stop] at both
          exact both

theorem ends_wrap {enter : Entry → List Char → Action Pass (List Char)}
    {stops : Entry → Option Fault} {entry : Entry} {s : List Char}
    (entered : ∀ base, renderer.base? entry = some base → ∀ text,
      Stops nonce (enter base text) (stops base)) :
    Stops nonce (renderer.wrap enter entry.component s)
      ((renderer.base? entry).toList.findSome? stops) := by
  unfold wrap
  unfold base? at entered ⊢
  cases named : entry.component.base? with
  | none => exact Ends.pure trivial
  | some name =>
    rw [named] at entered
    cases found : renderer.registry.find? name with
    | none =>
      -- A base that is not found is reported, which stops nothing.
      have warned : Stops nonce (Pass.report (.warn .rendering ("Base component \"" ++ name
          ++ "\" for \"" ++ entry.component.name ++ "\" not found."))) none :=
        ends_report rfl trivial
      simp only [Option.bind_some, found]
      exact warned.map fun _ _ => trivial
    | some base =>
      have inner := entered base found s
      simp only [Option.bind_some, found, Option.toList_some, List.findSome?_cons,
        List.findSome?_nil]
      cases stop : stops base with
      | none => rwa [stop] at inner
      | some fault => rwa [stop] at inner

/-! ### Renders and paths -/

/-- Whether the markup of a component can be read. -/
def Readable (renderer : Renderer) (entry : Entry) : Prop :=
  ∃ text, entry.component.readMarkup renderer.disk = .ok text

theorem readable_of_find? (listed : ∀ entry ∈ renderer.registry.entries, renderer.Readable entry)
    {name : String} {entry : Entry} (found : renderer.registry.find? name = some entry) :
    renderer.Readable entry := listed entry (List.mem_of_find?_eq_some found)

/-- A render ends with the first path that cannot be followed, and with markup if there is none. -/
theorem ends_renderOn {engine : Engine}
    (listed : ∀ entry ∈ renderer.registry.entries, renderer.Readable entry)
    (loads : ∀ loader, renderer.loader? = some loader →
      ∀ component data, (loader component data).outcome = .ok ())
    (total : ∀ scope s, ∃ text, (engine scope s).outcome = .ok text) (room : Nat)
    (chain : List Entry) {entry : Entry} (readable : renderer.Readable entry) (given : Scope)
    (inner : List Char) :
    Stops nonce (renderer.renderOn engine room chain entry given inner)
      (renderer.firstStop nonce room chain entry) := by
  induction room generalizing chain entry given inner with
  -- The induction is on the room that is left, as in `firstStop`: both read one level per step.
  | zero => exact Ends.fail _
  | succ room ih =>
    rw [renderOn, firstStop]
    by_cases repeated : repeats chain entry = true
    · rw [if_pos repeated, if_pos repeated]
      exact Ends.fail _
    rw [if_neg repeated, if_neg repeated]
    refine (ends_readMarkup readable).bind_none fun markup alike => ?_
    refine (ends_loadData loads).bind_none fun _ _ => ?_
    have looked : Stops nonce (Pass.inSession (.read (scope entry given))) none :=
      Ends.within (fun _ _ => ⟨trivial, rfl, trivial⟩) fun _ _ here => here
    refine looked.bind_none fun names _ => ?_
    refine (ends_pieces alike).bind fun pieces refers => ?_
    -- The texts differ in the numbers of tokens alone, so they refer to the same components.
    have targets : (items pieces).filterMap renderer.target?
        = (renderer.references nonce entry).filterMap renderer.target? := (targets_eq refers).symm
    rw [successors, List.findSome?_append, ← targets]
    refine Ends.bind (ends_expand fun nested inside data => ?_) fun expanded _ => ?_
    · obtain ⟨reference, _, found⟩ := List.mem_filterMap.mp inside
      exact ih (chain ++ [entry]) (readable_of_find? listed found) data []
    obtain ⟨text, rendered⟩ := total names (fillSlot inner expanded)
    have ran : Stops nonce (Pass.report (engine names (fillSlot inner expanded))) none :=
      ends_report rendered trivial
    -- The base comes last, so that its stop counts only where nothing inside stopped.
    refine ran.bind_none fun text _ => Ends.map (ends_wrap fun base found text => ?_) fun _ _ => trivial
    obtain ⟨name, _, found⟩ := Option.bind_eq_some_iff.mp found
    exact ih (chain ++ [entry]) (readable_of_find? listed found) names text

theorem follow_cons {entry last : Entry} {step : Nat} {steps : List Nat} {chain : List Entry} :
    renderer.follow nonce entry (step :: steps) = some (chain, last)
      ↔ ∃ next before, (renderer.successors nonce entry)[step]? = some next
        ∧ renderer.follow nonce next steps = some (before, last) ∧ chain = entry :: before := by
  show ((renderer.successors nonce entry)[step]?.bind fun next =>
    (renderer.follow nonce next steps).bind fun path => some (entry :: path.1, path.2)) = _ ↔ _
  simp only [Option.bind_eq_some_iff, Prod.exists, Option.some.injEq, Prod.mk.injEq]
  constructor
  · rintro ⟨next, found, before, _, walked, rfl, rfl⟩
    exact ⟨next, before, found, walked, rfl⟩
  · rintro ⟨next, before, found, walked, rfl⟩
    exact ⟨next, found, before, last, walked, rfl, rfl⟩

/-- The first path from a component that cannot be followed, after a chain that leads there. -/
def FirstStop (renderer : Renderer) (nonce : List Char) (chain : List Entry) (entry : Entry)
    (steps : List Nat) (fault : Fault) : Prop :=
  (∃ before last, renderer.follow nonce entry steps = some (before, last)
      ∧ renderer.stop? nonce (chain ++ before) last = some fault)
    ∧ ∀ earlier < steps, ∀ before last, renderer.follow nonce entry earlier = some (before, last) →
      renderer.stop? nonce (chain ++ before) last = none

theorem stop?_of_full {chain : List Entry} (entry : Entry)
    (full : chain.length = renderer.maxDepth.toNat) :
    renderer.stop? nonce chain entry = some (renderer.chainFault chain entry) := by
  have long : renderer.maxDepth < chain.length + 1 := by omega
  rw [stop?, if_pos (.inr long)]

theorem stop?_of_room {room : Nat} {chain : List Entry} {entry : Entry}
    (fits : chain.length + (room + 1) = renderer.maxDepth.toNat)
    (fresh : ¬ repeats chain entry = true) :
    renderer.stop? nonce chain entry = renderer.refusal? nonce entry := by
  have short : ¬ renderer.maxDepth < chain.length + 1 := by omega
  rw [stop?, if_neg (not_or.mpr ⟨fresh, short⟩)]

theorem fits_succ {room : Nat} {chain : List Entry} {entry : Entry}
    (fits : chain.length + (room + 1) = renderer.maxDepth.toNat) :
    (chain ++ [entry]).length + room = renderer.maxDepth.toNat := by
  rw [List.length_append, ← fits, List.length_singleton]
  omega

theorem stop?_of_firstStop_none {room : Nat} {chain : List Entry} {entry : Entry}
    (fits : chain.length + room = renderer.maxDepth.toNat)
    (free : renderer.firstStop nonce room chain entry = none) (steps : List Nat)
    (before : List Entry) (last : Entry)
    (walked : renderer.follow nonce entry steps = some (before, last)) :
    renderer.stop? nonce (chain ++ before) last = none := by
  -- The room grows less as the chain grows longer, so that `fits` holds at every step.
  induction room generalizing chain entry steps before with
  | zero => contradiction
  | succ room ih =>
    rw [firstStop] at free
    by_cases repeated : repeats chain entry = true
    · rw [if_pos repeated] at free
      contradiction
    rw [if_neg repeated, Option.or_eq_none_iff] at free
    obtain ⟨read, free⟩ := free
    cases steps with
    | nil =>
      cases walked
      rw [List.append_nil, stop?_of_room fits repeated, read]
    | cons step steps =>
      obtain ⟨next, after, found, onward, rfl⟩ := follow_cons.mp walked
      have inside := List.mem_of_getElem? found
      have inner := List.findSome?_eq_none_iff.mp free next inside
      have stopped := ih (fits_succ fits) inner steps after onward
      rwa [List.append_assoc, List.singleton_append] at stopped

theorem firstStop_here {chain : List Entry} {entry : Entry} {fault : Fault}
    (stopped : renderer.stop? nonce chain entry = some fault) :
    ∃ steps, FirstStop renderer nonce chain entry steps fault := by
  refine ⟨[], ⟨[], entry, rfl, ?_⟩, fun earlier less => ?_⟩
  · rwa [List.append_nil]
  · exact absurd less (List.not_lt_nil earlier)

/-- A path that goes on from a successor is the first, if those before the successor are free. -/
theorem firstStop_step {room : Nat} {chain front back : List Entry} {entry next : Entry}
    {steps : List Nat} {fault : Fault}
    (fits : (chain ++ [entry]).length + room = renderer.maxDepth.toNat)
    (entered : renderer.stop? nonce chain entry = none)
    (split : renderer.successors nonce entry = front ++ next :: back)
    (free : ∀ other ∈ front, renderer.firstStop nonce room (chain ++ [entry]) other = none)
    (first : FirstStop renderer nonce (chain ++ [entry]) next steps fault) :
    FirstStop renderer nonce chain entry (front.length :: steps) fault := by
  obtain ⟨⟨before, last, walked, stopped⟩, least⟩ := first
  have here : (renderer.successors nonce entry)[front.length]? = some next := by simp [split]
  have joined (before : List Entry) : chain ++ entry :: before = chain ++ [entry] ++ before := by simp
  constructor
  · exact ⟨entry :: before, last, follow_cons.mpr ⟨next, before, here, walked, rfl⟩, by
      rw [joined, stopped]⟩
  · intro earlier less before last walked
    cases earlier with
    | nil =>
      cases walked
      rwa [List.append_nil]
    | cons step earlier =>
      obtain ⟨other, after, found, onward, rfl⟩ := follow_cons.mp walked
      rw [joined]
      -- A smaller path leads to an earlier successor, or to this one and is smaller behind it.
      rcases List.cons_lt_cons_iff.mp less with sooner | ⟨rfl, later⟩
      · rw [split, List.getElem?_append_left sooner] at found
        exact stop?_of_firstStop_none fits (free other (List.mem_of_getElem? found)) earlier after
          last onward
      · rw [here] at found
        cases found
        exact least earlier later after last onward

theorem firstStop_some {room : Nat} {chain : List Entry} {entry : Entry} {fault : Fault}
    (fits : chain.length + room = renderer.maxDepth.toNat)
    (stopped : renderer.firstStop nonce room chain entry = some fault) :
    ∃ steps, FirstStop renderer nonce chain entry steps fault := by
  induction room generalizing chain entry with
  | zero => exact firstStop_here ((stop?_of_full entry fits).trans stopped)
  | succ room ih =>
    rw [firstStop] at stopped
    by_cases repeated : repeats chain entry = true
    · rw [if_pos repeated] at stopped
      apply firstStop_here
      rw [stop?, if_pos (.inl repeated)]
      exact stopped
    rw [if_neg repeated] at stopped
    -- With room left a component stops here only if it repeats one or is refused.
    have only : renderer.stop? nonce chain entry = renderer.refusal? nonce entry :=
      stop?_of_room fits repeated
    cases refused : renderer.refusal? nonce entry with
    | some other =>
      rw [refused, Option.some_or] at stopped
      exact firstStop_here ((only.trans refused).trans stopped)
    | none =>
      rw [refused, Option.none_or] at stopped
      obtain ⟨front, next, back, split, inner, free⟩ := List.findSome?_eq_some_iff.mp stopped
      obtain ⟨steps, first⟩ := ih (fits_succ fits) inner
      exact ⟨_, firstStop_step (fits_succ fits) (only.trans refused) split free first⟩

/-- There is at most one first path that cannot be followed. -/
theorem FirstStop.unique {chain : List Entry} {entry : Entry} {steps others : List Nat}
    {fault other : Fault} (first : FirstStop renderer nonce chain entry steps fault)
    (second : FirstStop renderer nonce chain entry others other) : fault = other := by
  obtain ⟨⟨before, last, walked, stopped⟩, least⟩ := first
  obtain ⟨⟨before', last', walked', stopped'⟩, least'⟩ := second
  rcases lt_trichotomy steps others with less | rfl | greater
  · rw [least' steps less before last walked] at stopped
    contradiction
  · rw [walked] at walked'
    cases walked'
    rw [stopped] at stopped'
    exact Option.some.inj stopped'
  · rw [least others greater before' last' walked'] at stopped'
    contradiction

/-! ### What a path can be followed for -/

theorem follow_snoc {entry last : Entry} {steps : List Nat} {step : Nat} {chain : List Entry}
    (walked : renderer.follow nonce entry (steps ++ [step]) = some (chain, last)) :
    ∃ before previous, renderer.follow nonce entry steps = some (before, previous)
      ∧ chain = before ++ [previous] := by
  induction steps generalizing entry chain with
  | nil =>
    obtain ⟨next, before, _, onward, rfl⟩ := follow_cons.mp walked
    cases onward
    exact ⟨[], entry, rfl, rfl⟩
  | cons first steps ih =>
    obtain ⟨next, before, found, onward, rfl⟩ := follow_cons.mp walked
    obtain ⟨front, previous, inner, rfl⟩ := ih onward
    exact ⟨entry :: front, previous, follow_cons.mpr ⟨next, front, found, inner, rfl⟩, rfl⟩

theorem repeats_iff {chain : List Entry} {entry : Entry} :
    repeats chain entry = true ↔ entry.place ∈ chain.map Entry.place := by
  simp [repeats]

theorem stop?_eq_none_iff {chain : List Entry} {entry : Entry} :
    renderer.stop? nonce chain entry = none ↔ repeats chain entry = false
      ∧ (chain.length : Int) + 1 ≤ renderer.maxDepth ∧ renderer.refusal? nonce entry = none := by
  unfold stop?
  by_cases stopped : repeats chain entry = true ∨ renderer.maxDepth < chain.length + 1
  · rw [if_pos stopped]
    refine iff_of_false (Option.some_ne_none _) fun ⟨fresh, short, _⟩ => ?_
    rcases stopped with repeated | long
    · rw [fresh] at repeated
      contradiction
    · omega
  · rw [if_neg stopped]
    rw [not_or, Bool.not_eq_true] at stopped
    exact ⟨fun read => ⟨stopped.1, Int.not_lt.mp stopped.2, read⟩, fun ⟨_, _, read⟩ => read⟩

theorem not_repeats_of_nodup {chain : List Entry} {entry : Entry}
    (distinct : ((chain ++ [entry]).map Entry.place).Nodup) : repeats chain entry = false := by
  rw [List.map_append, List.nodup_append] at distinct
  rw [Bool.eq_false_iff]
  intro repeated
  exact distinct.2.2 entry.place (repeats_iff.mp repeated) entry.place List.mem_cons_self rfl

/-- A component comes twice on a path only if it ends a path that it stands on already. -/
theorem nodup_of_fresh {root : Entry} (fresh : ∀ steps before last,
      renderer.follow nonce root steps = some (before, last) → repeats before last = false)
    (steps : List Nat) (before : List Entry) (last : Entry)
    (walked : renderer.follow nonce root steps = some (before, last)) :
    ((before ++ [last]).map Entry.place).Nodup := by
  induction steps using List.reverseRecOn generalizing before last with
  | nil =>
    cases walked
    exact List.nodup_cons.mpr ⟨List.not_mem_nil, List.nodup_nil⟩
  | append_singleton steps step ih =>
    have new := fresh _ before last walked
    obtain ⟨front, previous, inner, rfl⟩ := follow_snoc walked
    have absent : last.place ∉ (front ++ [previous]).map Entry.place := fun inside => by
      rw [repeats_iff.mpr inside] at new
      contradiction
    rw [List.map_append, List.map_singleton]
    refine List.nodup_append.mpr ⟨ih front previous inner,
      List.nodup_cons.mpr ⟨List.not_mem_nil, List.nodup_nil⟩, fun place here other there same => ?_⟩
    rw [same, List.mem_singleton.mp there] at here
    exact absent here

/-! ### Whole renders -/

/-- An engine that writes nothing where another one raises. -/
def quiet (engine : Engine) : Engine := fun scope s =>
  match (engine scope s).outcome with
  | .ok _ => engine scope s
  | .error _ => pure []

/-- A render that nothing but the graph can end: all markup can be read, the loader does not fail,
no template pass that is run raises, and every token in the result is one of the store's. -/
structure Undisturbed (renderer : Renderer) (nonce : List Char) (root : Entry) (given : Scope)
    (inner : List Char) (session : Session) : Prop where
  listed : ∀ entry ∈ renderer.registry.entries, renderer.Readable entry
  readable : renderer.Readable root
  loads : ∀ loader, renderer.loader? = some loader →
    ∀ component data, (loader component data).outcome = .ok ()
  templates : renderer.renderPart root given inner ⟨.empty nonce, session⟩
    = renderer.renderOn (quiet renderer.engine) renderer.maxDepth.toNat [] root given inner
      ⟨.empty nonce, session⟩
  tokens : ∀ text pass, renderer.renderPart root given inner ⟨.empty nonce, session⟩
    = (.ok text, pass) → ∃ whole, Markup.restore text pass.store = .ok whole

theorem render_eq_firstStop {root : Entry} {given : Scope} {inner : List Char} {session : Session}
    (settled : renderer.Undisturbed nonce root given inner session) :
    Action.Results (fun _ => True) (renderer.render nonce root given inner session).1
      (renderer.firstStop nonce renderer.maxDepth.toNat [] root) := by
  have total (scope : Scope) (s : List Char) :
      ∃ text, (quiet renderer.engine scope s).outcome = .ok text := by
    unfold quiet
    cases ended : (renderer.engine scope s).outcome with
    | ok text => exact ⟨text, ended⟩
    | error fault => exact ⟨[], rfl⟩
  -- The page is rendered as by an engine that cannot fail, which ends as the graph says.
  have part := ends_renderOn settled.listed settled.loads total renderer.maxDepth.toNat []
    settled.readable given inner ⟨.empty nonce, session⟩ rfl
  rw [← settled.templates] at part
  cases run : renderer.renderPart root given inner ⟨.empty nonce, session⟩ with
  | mk outcome pass =>
    rw [run] at part
    have whole : renderer.render nonce root given inner session
        = ((renderer.renderRoot root given inner ⟨.empty nonce, session⟩).1,
          (renderer.renderRoot root given inner ⟨.empty nonce, session⟩).2.session) := rfl
    rw [whole, renderRoot]
    cases outcome with
    | error fault =>
      rw [Action.bind_of_error run]
      exact part.2
    | ok text =>
      -- Putting the kept elements back is the one step after it, and it cannot fail here.
      obtain ⟨restored, back⟩ := settled.tokens text pass run
      rw [Action.bind_of_ok run]
      show Action.Results _ (Markup.restore text pass.store) _
      rw [back]
      exact ⟨part.2.1, trivial⟩

/-- A render gives markup if no path of the graph comes to a component twice, is too long or ends
at data that is refused. Otherwise it ends in the fault of the first such path. -/
theorem render_outcome (renderer : Renderer) (nonce : List Char) (root : Entry) (given : Scope)
    (inner : List Char) (session : Session)
    (settled : renderer.Undisturbed nonce root given inner session) :
    ((∃ text, (renderer.render nonce root given inner session).1 = .ok text)
        ↔ ∀ steps before last, renderer.follow nonce root steps = some (before, last) →
          ((before ++ [last]).map Entry.place).Nodup
            ∧ ((before ++ [last]).length : Int) ≤ renderer.maxDepth
            ∧ renderer.refusal? nonce last = none)
      ∧ ∀ fault, (renderer.render nonce root given inner session).1 = .error fault
        ↔ ∃ steps, FirstStop renderer nonce [] root steps fault := by
  have fits : ([] : List Entry).length + renderer.maxDepth.toNat = renderer.maxDepth.toNat :=
    Nat.zero_add _
  -- Both sides are read off the first stop of the search, which is unique.
  have ended := render_eq_firstStop settled
  cases stopped : renderer.firstStop nonce renderer.maxDepth.toNat [] root with
  | none =>
    have free := stop?_of_firstStop_none fits stopped
    have fresh : ∀ steps before last, renderer.follow nonce root steps = some (before, last) →
        repeats before last = false :=
      fun steps before last walked => (stop?_eq_none_iff.mp (free steps before last walked)).1
    rw [stopped] at ended
    cases outcome : (renderer.render nonce root given inner session).1 with
    | error fault =>
      rw [outcome] at ended
      contradiction
    | ok text =>
      refine ⟨iff_of_true ⟨text, rfl⟩ fun steps before last walked => ?_,
        fun fault => iff_of_false nofun ?_⟩
      · obtain ⟨_, short, read⟩ := stop?_eq_none_iff.mp (free steps before last walked)
        refine ⟨nodup_of_fresh fresh steps before last walked, ?_, read⟩
        rw [List.length_append]
        exact short
      · rintro ⟨steps, ⟨before, last, walked, found⟩, _⟩
        rw [free steps before last walked] at found
        contradiction
  | some fault =>
    obtain ⟨steps, first⟩ := firstStop_some fits stopped
    rw [stopped] at ended
    cases outcome : (renderer.render nonce root given inner session).1 with
    | ok text =>
      rw [outcome] at ended
      exact nomatch ended.1
    | error other =>
      rw [outcome] at ended
      have same : fault = other := Option.some.inj ended
      refine ⟨iff_of_false nofun fun sound => ?_, fun third => ⟨?_, ?_⟩⟩
      · -- The path that stops repeats a component, is too long or is refused.
        obtain ⟨⟨before, last, walked, found⟩, _⟩ := first
        obtain ⟨distinct, short, read⟩ := sound steps before last walked
        rw [List.length_append] at short
        have free := stop?_eq_none_iff.mpr ⟨not_repeats_of_nodup distinct, short, read⟩
        rw [List.nil_append, free] at found
        contradiction
      · rintro ⟨⟩
        exact ⟨steps, same ▸ first⟩
      · rintro ⟨others, second⟩
        rw [← same, first.unique second]

/-- A component whose markup is the file `m` of a folder. -/
def inFolder (name folder : String) : Component :=
  ⟨name, .ofSegments [folder], "m", .ofSegments [folder, "m"], []⟩

/-- Two components, `x@{B}` and `@{A}`, that refer to each other. -/
def mutualRenderer : Renderer where
  disk := ⟨.folder [("a", .folder [("m", .file [120, 64, 123, 66, 125])]),
    ("b", .folder [("m", .file [64, 123, 65, 125])])], []⟩
  registry := ⟨[inFolder "A" "a", inFolder "B" "b"]⟩
  env := ['d', 'e', 'v']
  evaluate := Expression.evaluate
  mode := .silent
  maxDepth := 10
  loader? := none

theorem lt_zeros {steps : List Nat} (less : steps < [0, 0]) : steps = [] ∨ steps = [0] := by
  cases steps with
  | nil => exact .inl rfl
  | cons step steps =>
    rcases List.cons_lt_cons_iff.mp less with lower | ⟨rfl, rest⟩
    · exact absurd lower (Nat.not_lt_zero step)
    cases steps with
    | nil => exact .inr rfl
    | cons step steps =>
      rcases List.cons_lt_cons_iff.mp rest with lower | ⟨rfl, none⟩
      · exact absurd lower (Nat.not_lt_zero step)
      · exact absurd none (List.not_lt_nil steps)

theorem render_outcome_mutual :
    mutualRenderer.Undisturbed ['n'] ⟨0, inFolder "A" "a"⟩ [] [] .start
      ∧ (mutualRenderer.render ['n'] ⟨0, inFolder "A" "a"⟩ [] [] .start).1
        = .error (.cycle ["A", "B", "A"]) := by
  have first : mutualRenderer.Readable ⟨0, inFolder "A" "a"⟩ :=
    ⟨['x', '@', '\x7b', 'B', '\x7d'], by cbv⟩
  have second : mutualRenderer.Readable ⟨1, inFolder "B" "b"⟩ :=
    ⟨['@', '\x7b', 'A', '\x7d'], by cbv⟩
  have ended : (mutualRenderer.renderPart ⟨0, inFolder "A" "a"⟩ [] [] ⟨.empty ['n'], .start⟩).1
      = .error (.cycle ["A", "B", "A"]) := by cbv
  have settled : mutualRenderer.Undisturbed ['n'] ⟨0, inFolder "A" "a"⟩ [] [] .start := by
    have unloaded : mutualRenderer.loader? = none := rfl
    refine ⟨fun entry listed => ?_, first, fun loader known => ?_, by cbv, fun text pass run => ?_⟩
    · have entries : mutualRenderer.registry.entries
          = [⟨0, inFolder "A" "a"⟩, ⟨1, inFolder "B" "b"⟩] := rfl
      rw [entries, List.mem_cons, List.mem_singleton] at listed
      rcases listed with rfl | rfl
      · exact first
      · exact second
    · rw [unloaded] at known
      contradiction
    · rw [run] at ended
      contradiction
  have around : mutualRenderer.follow ['n'] ⟨0, inFolder "A" "a"⟩ [0, 0]
      = some ([⟨0, inFolder "A" "a"⟩, ⟨1, inFolder "B" "b"⟩], ⟨0, inFolder "A" "a"⟩) := by cbv
  have once : mutualRenderer.follow ['n'] ⟨0, inFolder "A" "a"⟩ [0]
      = some ([⟨0, inFolder "A" "a"⟩], ⟨1, inFolder "B" "b"⟩) := by cbv
  have stops : FirstStop mutualRenderer ['n'] [] ⟨0, inFolder "A" "a"⟩ [0, 0]
      (.cycle ["A", "B", "A"]) := by
    -- Every smaller path is free: there are two of them, of no and of one step.
    refine ⟨⟨_, _, around, by cbv⟩, fun earlier less before last walked => ?_⟩
    rcases lt_zeros less with rfl | rfl
    · cases walked
      cbv
    · rw [once] at walked
      cases walked
      cbv
  exact ⟨settled, ((render_outcome mutualRenderer ['n'] ⟨0, inFolder "A" "a"⟩ [] [] .start
    settled).2 _).mpr ⟨[0, 0], stops⟩⟩

end StaticSite.Renderer
