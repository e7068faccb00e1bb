import StaticSite.Proofs.Component.Independence
import StaticSite.Proofs.Component.Opacity
import StaticSite.Proofs.Markup.Protecting
import StaticSite.Proofs.Value.Lookup

/-!
# Chains of bases

A page is rendered inside of its base, that inside of the base's base, and so on outward. Each level
looks up its own names under those of the level below: what is given comes first, then what the page
has, then what its bases have, from the page outward. The markup that a level is handed goes through
the template pass of the level again, which leaves text without an `@` as it is.
-/

namespace StaticSite

open StaticSite.Registry StaticSite.Component
open StaticSite.Text hiding interleave

namespace Template

variable {evaluate : Evaluator} {mode : PlaceholderMode} {scope : Scope}

/-! ### Texts and placeholders alone -/

def ofLeaves : List Leaf → Tree
  | [] => .done
  | leaf :: leaves => .simple (.leaf leaf) (ofLeaves leaves)

theorem print_ofLeaves (leaves : List Leaf) : (ofLeaves leaves).print = printLeaves leaves := by
  induction leaves with
  | nil => rfl
  | cons leaf leaves ih => exact congrArg (leaf.print ++ ·) ih

theorem endsApart_ofLeaves (leaves : List Leaf) : (ofLeaves leaves).EndsApart := by
  induction leaves with
  | nil => trivial
  | cons leaf leaves ih => exact ih

theorem unfilled_ofLeaves (leaves : List Leaf) :
    (ofLeaves leaves).unfilled evaluate mode scope = some (printLeaves leaves) := by
  induction leaves with
  | nil => rfl
  | cons leaf leaves ih =>
    have step : (ofLeaves (leaf :: leaves)).unfilled evaluate mode scope
        = joined (some leaf.print) ((ofLeaves leaves).unfilled evaluate mode scope) := rfl
    rw [step, ih]
    rfl

/-- The template pass fills the placeholders and does nothing else. -/
theorem value?_render_leaves (leaves : List Leaf) :
    (render evaluate mode scope (printLeaves leaves)).value?
      = concat (Leaf.meaning mode scope) leaves := by
  rw [value?_render, ← print_ofLeaves, value?_expanded (endsApart_ofLeaves leaves),
    unfilled_ofLeaves, Option.bind_some, fillPlaceholders_leaves]

/-- A placeholder that is the slot of a base. -/
def Leaf.IsSlot : Leaf → Prop
  | .text _ => False
  | .placeholder path => path.chars = "content".toList

theorem skips_slot {leaf : Leaf} (other : ¬ leaf.IsSlot) (rest : List Char) :
    Skips (dropFront? Renderer.contentSlot) leaf.print rest := by
  have needs : ∀ c rest, c ≠ '@' → dropFront? Renderer.contentSlot (c :: rest) = none :=
    fun _ _ differs => dropFront?_cons_ne _ _ differs
  cases leaf with
  | text s => exact Skips.of_not_mem needs s.unmarked rest
  | placeholder path =>
    apply Skips.cons
    · rw [Option.eq_none_iff_forall_not_mem]
      intro after found
      have shape : path.chars ++ ']' :: rest = "content".toList ++ ']' :: after := by
        simpa [Renderer.contentSlot] using dropFront?_eq_some_iff.mp found
      -- Both names end at the first closing bracket.
      have first : cutAt? [']'] (path.chars ++ ']' :: rest) = some (path.chars, rest) :=
        cutAt?_char path.closed
      rw [shape, cutAt?_char (by decide)] at first
      exact other (congrArg Prod.fst (Option.some.inj first)).symm
    · apply Skips.of_not_mem needs
      simpa using path.unmarked

theorem slot_absent {leaves : List Leaf} (others : ∀ leaf ∈ leaves, ¬ leaf.IsSlot) :
    ¬ Renderer.contentSlot <:+: printLeaves leaves := by
  have skips : Skips (dropFront? Renderer.contentSlot) (printLeaves leaves) [] := by
    induction leaves with
    | nil => exact Skips.nil _ _
    | cons leaf leaves ih =>
      obtain ⟨other, others⟩ := List.forall_mem_cons.mp others
      exact (skips_slot other _).append (ih others)
  rintro ⟨front, back, shape⟩
  have tail : Renderer.contentSlot ++ back <:+ printLeaves leaves :=
    ⟨front, by rw [← shape, List.append_assoc]⟩
  have absent := skips _ tail (List.append_ne_nil_of_left_ne_nil (List.cons_ne_nil _ _) back)
  rw [List.append_nil, dropFront?_append] at absent
  contradiction

end Template

namespace Component

/-! ### Names -/

/-- The names of a component: what is given, what was fetched, its configuration. -/
theorem get?_scope {component : Component} {data : Data} {given : Scope}
    (fetched : (Mapping.names data.fetched).Nodup) (distinct : (Mapping.names given).Nodup)
    (name : String) :
    Mapping.get? name (component.scope data given)
      = [given, data.fetched, component.config].findSome? (Mapping.get? name) := by
  rw [scope, Mapping.get?_merge distinct, Mapping.get?_merge fetched]
  simp only [List.findSome?_cons, List.findSome?_nil]
  cases Mapping.get? name given <;> cases Mapping.get? name data.fetched <;>
    cases Mapping.get? name component.config <;> rfl

end Component

namespace Renderer

variable {renderer : Renderer}

/-! ### The names along a chain -/

/-- The data that a component has once it is loaded. -/
def loaded (renderer : Renderer) (session : Session) (entry : Entry) : Data :=
  (renderer.loadData entry session).2.data entry.place

/-- The names of the last component of a chain, each component of which is the base of the one
before it. -/
def namesAlong (renderer : Renderer) (session : Session) (given : Scope) (chain : List Entry) :
    Scope :=
  chain.foldl (fun names entry => entry.component.scope (renderer.loaded session entry) names) given

/-- Where the components of a chain find their names, apart from what is given. -/
def layers (renderer : Renderer) (session : Session) (chain : List Entry) : List Mapping.Entries :=
  chain.flatMap fun entry => [(renderer.loaded session entry).fetched, entry.component.config]

theorem namesAlong_snoc (session : Session) (given : Scope) (chain : List Entry) (entry : Entry) :
    renderer.namesAlong session given (chain ++ [entry])
      = entry.component.scope (renderer.loaded session entry)
          (renderer.namesAlong session given chain) := by
  rw [namesAlong, List.foldl_append]
  rfl

/-- No mapping that a component brings along has a name twice. -/
def NamesOnce (renderer : Renderer) (session : Session) (entry : Entry) : Prop :=
  (Mapping.names (renderer.loaded session entry).fetched).Nodup
    ∧ (Mapping.names entry.component.config).Nodup

/-- A name stands for what is given, else for what the first component of the chain that has the
name has fetched or is configured with. -/
theorem get?_namesAlong {session : Session} {given : Scope} {chain : List Entry}
    (distinct : (Mapping.names given).Nodup)
    (once : ∀ entry ∈ chain, renderer.NamesOnce session entry) (name : String) :
    Mapping.get? name (renderer.namesAlong session given chain)
      = (given :: renderer.layers session chain).findSome? (Mapping.get? name) := by
  induction chain generalizing given with
  | nil => simp [namesAlong, layers]
  | cons entry chain ih =>
    obtain ⟨⟨fetched, config⟩, others⟩ := List.forall_mem_cons.mp once
    have names : (Mapping.names
        (entry.component.scope (renderer.loaded session entry) given)).Nodup :=
      Mapping.nodup_names_merge _ (Mapping.nodup_names_merge _ config)
    -- The component takes what is given so far for what is given to the next one.
    have step : renderer.namesAlong session given (entry :: chain)
        = renderer.namesAlong session
            (entry.component.scope (renderer.loaded session entry) given) chain := rfl
    have split : given :: renderer.layers session (entry :: chain)
        = [given, (renderer.loaded session entry).fetched, entry.component.config]
          ++ renderer.layers session chain := rfl
    rw [step, ih names others, split, List.findSome?_append, List.findSome?_cons,
      get?_scope fetched distinct]
    cases List.findSome? (Mapping.get? name)
      [given, (renderer.loaded session entry).fetched, entry.component.config] <;> rfl

/-! ### One level -/

/-- The markup of a component, without verbatim elements and comments. -/
structure Plain (renderer : Renderer) (entry : Entry) (text : List Char) : Prop where
  read : entry.component.readMarkup renderer.disk = .ok text
  bare : Markup.verbatimElements text = []
  uncommented : Markup.stripComments text = text

theorem loadData_congr {entry : Entry} {first second : Session}
    (same : first.data entry.place = second.data entry.place) :
    (renderer.loadData entry first).1 = (renderer.loadData entry second).1
      ∧ renderer.loaded first entry = renderer.loaded second entry := by
  unfold loaded loadData
  cases renderer.loader? with
  | none => exact ⟨rfl, same⟩
  | some loader =>
    simp only [same]
    split
    · exact ⟨rfl, same⟩
    · split <;> simp [Session.setData]

/-- What a render starts with once its markup has been read. -/
theorem start_of_read {entry : Entry} {text : List Char} {given : Scope} {pass next : Pass}
    (taken : renderer.readMarkup entry.component pass = (.ok text, next))
    (loads : (renderer.loadData entry next.session).1 = .ok ()) :
    renderer.start entry given pass
      = (.ok (text, entry.component.scope (renderer.loaded next.session entry) given),
        { next with session := (renderer.loadData entry next.session).2 }) := by
  have fetched : Pass.inSession (renderer.loadData entry) next
      = (.ok (), { next with session := (renderer.loadData entry next.session).2 }) := by
    rw [← loads]
    rfl
  rw [start, Action.bind_of_ok taken, Action.bind_of_ok fetched]
  rfl

theorem start_plain {entry : Entry} {text : List Char} {given : Scope} {pass : Pass}
    (plain : renderer.Plain entry text)
    (loads : (renderer.loadData entry pass.session).1 = .ok ()) :
    renderer.start entry given pass
      = (.ok (text, entry.component.scope (renderer.loaded pass.session entry) given),
        { pass with session := (renderer.loadData entry pass.session).2 }) := by
  have taken : renderer.readMarkup entry.component pass = (.ok text, pass) := by
    have given : (Action.lift (entry.component.readMarkup renderer.disk) : Action Pass _) pass
        = (.ok text, pass) := by rw [plain.read]; rfl
    have kept : Pass.inStore (Markup.protect text) pass = (.ok text, pass) := by
      rw [Pass.inStore, Markup.protect_of_no_elements pass.store plain.bare]
    rw [readMarkup, Action.bind_of_ok given, Action.bind_of_ok kept, plain.uncommented]
    rfl
  exact start_of_read taken loads

theorem pieces_of_skips {text : List Char}
    (skips : Skips (dropFront? Reference.opening) text []) :
    Reference.pieces text = pure (text.map Piece.plain) := by
  have quiet := reportAll_interleave [] (Gap.ofSkips skips)
  have plain := pieces_gap (Gap.ofSkips skips)
  rw [interleave] at quiet
  show (do
    Reference.reportAll (Reference.scanner.pieces (Gap.ofSkips skips).text)
    return Reference.scanner.pieces (Gap.ofSkips skips).text) = _
  rw [quiet, plain, pure_bind]
  rfl

/-- Markup without references goes through the template pass and is wrapped in the base. -/
theorem finish_plain (room : Nat) (chain : List Entry) (component : Component) (pass : Pass)
    {inner text filled rendered : List Char} {names : Scope}
    (skips : Skips (dropFront? Reference.opening) text [])
    (slot : fillSlot inner text = filled)
    (ran : (renderer.engine names filled).outcome = .ok rendered) :
    ∃ next : Pass, next.store = pass.store ∧ next.session.data = pass.session.data ∧
      renderer.finish renderer.engine room chain component inner (text, names) pass
        = (renderer.wrap (fun base s =>
            renderer.renderOn renderer.engine room chain base names s) component rendered
          >>= fun wrapped => pure (Markup.substituteEnvironment renderer.env wrapped)) next := by
  have replaced : renderer.expand (fun nested data =>
      renderOn renderer renderer.engine room chain nested data []) (text.map Piece.plain) pass
      = (.ok text, pass) := by
    rw [expand_text]
    rfl
  have reported : Pass.report (renderer.engine names filled) pass
      = (.ok rendered, (Pass.report (renderer.engine names filled) pass).2) := by
    rw [← ran]
    rfl
  refine ⟨(Pass.report (renderer.engine names filled) pass).2, rfl, rfl, ?_⟩
  rw [finish, pieces_of_skips skips, Action.bind_of_ok (report_pure _ pass),
    Action.bind_of_ok replaced, slot, Action.bind_of_ok reported]

theorem substituteEnvironment_plain {env s : List Char} (plain : '@' ∉ s) :
    Markup.substituteEnvironment env s = s := by
  have kept (mark new : List Char) : replaceAll ('@' :: mark) new s = s := by
    have absent : ¬ '@' :: mark <:+: s := fun inside => plain (inside.subset List.mem_cons_self)
    exact (Replaced.of_absent absent).replaceAll_eq (List.cons_ne_nil _ _)
  rw [Markup.substituteEnvironment, Markup.environmentToken, kept, Markup.assetsToken, kept]

/-- A level reads its markup, fills the slot, runs its templates and is wrapped in its base. -/
theorem renderOn_level (room : Nat) {chain : List Entry} {entry : Entry} {given names : Scope}
    {inner text filled rendered : List Char} {pass : Pass}
    (fresh : repeats chain entry = false) (plain : renderer.Plain entry text)
    (loads : (renderer.loadData entry pass.session).1 = .ok ())
    (looked : entry.component.scope (renderer.loaded pass.session entry) given = names)
    (skips : Skips (dropFront? Reference.opening) text []) (slot : fillSlot inner text = filled)
    (ran : (renderer.engine names filled).outcome = .ok rendered) :
    ∃ next : Pass, next.store = pass.store ∧
      (∀ place ≠ entry.place, next.session.data place = pass.session.data place) ∧
      renderer.renderOn renderer.engine (room + 1) chain entry given inner pass
        = (renderer.wrap (fun base s =>
            renderer.renderOn renderer.engine room (chain ++ [entry]) base names s)
            entry.component rendered
          >>= fun wrapped => pure (Markup.substituteEnvironment renderer.env wrapped)) next := by
  subst looked
  let opened : Pass := { pass with session := (renderer.loadData entry pass.session).2 }
  obtain ⟨next, store, data, finished⟩ :=
    finish_plain room (chain ++ [entry]) entry.component opened skips slot ran
  refine ⟨next, store, fun place other => ?_, ?_⟩
  · rw [data]
    exact loadData_other entry pass.session other
  · rw [renderOn_eq fresh, Action.bind_of_ok (start_plain plain loads)]
    exact finished

theorem wrap_of_base {entry base : Entry} (found : renderer.base? entry = some base)
    (follow : Entry → List Char → Action Pass (List Char)) (s : List Char) :
    renderer.wrap follow entry.component s = follow base s := by
  obtain ⟨name, named, known⟩ := Option.bind_eq_some_iff.mp found
  rw [wrap, named]
  simp only [known]

/-- A component without a base, or with one that is not found, is the end of its chain. -/
theorem wrap_of_topmost {entry : Entry} (topmost : renderer.base? entry = none)
    (follow : Entry → List Char → Action Pass (List Char)) (s : List Char) (pass : Pass) :
    ∃ next : Pass, next.store = pass.store ∧
      renderer.wrap follow entry.component s pass = (.ok s, next) := by
  cases named : entry.component.base? with
  | none =>
    have bare : renderer.wrap follow entry.component s = pure s := by rw [wrap, named]
    exact ⟨pass, rfl, by rw [bare]; rfl⟩
  | some name =>
    have unknown : renderer.registry.find? name = none := by
      rw [base?, named] at topmost
      exact topmost
    -- A base that is not found is reported, and the component stays as it is.
    let warning : Reported Unit := .warn .rendering ("Base component \"" ++ name ++ "\" for \""
      ++ entry.component.name ++ "\" not found.")
    have reported : renderer.wrap follow entry.component s
        = (Pass.report warning >>= fun _ => pure s) := by
      rw [wrap, named]
      simp only [unknown]
      rfl
    refine ⟨(Pass.report warning pass).2, rfl, ?_⟩
    rw [reported]
    rfl

/-! ### All levels -/

/-- A base whose markup has texts and placeholders on both sides of its slot. -/
structure Base where
  entry : Entry
  front : List Template.Leaf
  back : List Template.Leaf

def Base.markup (base : Base) : List Char :=
  Template.printLeaves base.front ++ (contentSlot ++ Template.printLeaves base.back)

/-- Each component has the next one as its base, and the last one has none. -/
def Linked (renderer : Renderer) : Entry → List Base → Prop
  | last, [] => renderer.base? last = none
  | entry, base :: bases =>
    renderer.base? entry = some base.entry ∧ renderer.Linked base.entry bases

/-- A page and its bases, outward: different components that can be read and loaded. -/
structure Chain (renderer : Renderer) (session : Session) (page : Entry) (bases : List Base) :
    Prop where
  linked : renderer.Linked page bases
  plain : ∀ base ∈ bases, renderer.Plain base.entry base.markup
  slotless : ∀ base ∈ bases, ∀ leaf ∈ base.front, ¬ leaf.IsSlot
  apart : ((page :: bases.map Base.entry).map Entry.place).Nodup
  loads : ∀ entry ∈ page :: bases.map Base.entry, (renderer.loadData entry session).1 = .ok ()

/-- What the bases put before and after the markup of a chain, each level in its own names. -/
def around (renderer : Renderer) (session : Session) (given : Scope) :
    (chain : List Entry) → List Base → Option (List Char × List Char)
  | _, [] => some ([], [])
  | chain, base :: bases => do
    let names := renderer.namesAlong session given (chain ++ [base.entry])
    let front ← Template.concat (Template.Leaf.meaning renderer.mode names) base.front
    let back ← Template.concat (Template.Leaf.meaning renderer.mode names) base.back
    let (before, after) ← renderer.around session given (chain ++ [base.entry]) bases
    return (before ++ front, back ++ after)

theorem Chain.place_ne {session : Session} {page : Entry} {bases : List Base}
    (chain : renderer.Chain session page bases) {base : Base} (listed : base ∈ bases) :
    page.place ≠ base.entry.place := by
  intro same
  refine (List.nodup_cons.mp chain.apart).1 ?_
  rw [same]
  exact List.mem_map_of_mem (List.mem_map_of_mem listed)

theorem Chain.tail {session : Session} {page : Entry} {base : Base} {bases : List Base}
    (chain : renderer.Chain session page (base :: bases)) :
    renderer.Chain session base.entry bases where
  linked := chain.linked.2
  plain inner listed := chain.plain inner (List.mem_cons_of_mem _ listed)
  slotless inner listed := chain.slotless inner (List.mem_cons_of_mem _ listed)
  apart := (List.nodup_cons.mp chain.apart).2
  loads entry listed := chain.loads entry (List.mem_cons_of_mem _ listed)

/-- A level puts the texts of its parts around the markup that fills its slot. -/
theorem engine_level {names : Scope} {base : Base} {front back text : List Char}
    (before : Template.concat (Template.Leaf.meaning renderer.mode names) base.front = some front)
    (after : Template.concat (Template.Leaf.meaning renderer.mode names) base.back = some back)
    (plain : '@' ∉ text) :
    (renderer.engine names
      (Template.printLeaves base.front ++ (text ++ Template.printLeaves base.back))).outcome
      = .ok (front ++ (text ++ back)) := by
  let leaves := base.front ++ .text ⟨text, plain⟩ :: base.back
  have printed : Template.printLeaves base.front ++ (text ++ Template.printLeaves base.back)
      = Template.printLeaves leaves := by
    simp [leaves, Template.printLeaves, Template.Leaf.print]
  have means : Template.concat (Template.Leaf.meaning renderer.mode names) leaves
      = some (front ++ (text ++ back)) := by
    rw [Template.concat_append, before, Template.concat, after]
    rfl
  apply Reported.outcome_eq_ok_of_value?
  rw [printed, engine, Template.value?_render_leaves, means]

theorem skips_level (base : Base) : Skips (dropFront? Reference.opening) base.markup [] := by
  have slot (rest : List Char) :
      dropFront? Reference.opening ('@' :: '[' :: rest) = none := rfl
  refine Skips.append (Template.skips_leaves opening_plain slot base.front _) ?_
  refine Skips.append ?_ (Template.skips_leaves opening_plain slot base.back _)
  exact Skips.cons rfl (Skips.of_not_mem opening_plain (by decide) _)

/-- A base renders the markup that fills its slot, in the names that come down its chain. -/
theorem renderOn_base (room : Nat) {session : Session} {given : Scope} {chain : List Entry}
    {base : Base} {front back text : List Char} {pass : Pass}
    (fresh : repeats chain base.entry = false) (plain : renderer.Plain base.entry base.markup)
    (slotless : ∀ leaf ∈ base.front, ¬ leaf.IsSlot)
    (loads : (renderer.loadData base.entry session).1 = .ok ())
    (held : pass.session.data base.entry.place = session.data base.entry.place)
    (before : Template.concat (Template.Leaf.meaning renderer.mode
      (renderer.namesAlong session given (chain ++ [base.entry]))) base.front = some front)
    (after : Template.concat (Template.Leaf.meaning renderer.mode
      (renderer.namesAlong session given (chain ++ [base.entry]))) base.back = some back)
    (unmarked : '@' ∉ text) (filled : text ≠ []) :
    ∃ next : Pass, next.store = pass.store ∧
      (∀ place ≠ base.entry.place, next.session.data place = pass.session.data place) ∧
      renderer.renderOn renderer.engine (room + 1) chain base.entry
          (renderer.namesAlong session given chain) text pass
        = (renderer.wrap (fun outer s =>
            renderer.renderOn renderer.engine room (chain ++ [base.entry]) outer
              (renderer.namesAlong session given (chain ++ [base.entry])) s)
            base.entry.component (front ++ (text ++ back))
          >>= fun wrapped => pure (Markup.substituteEnvironment renderer.env wrapped)) next := by
  have loading : _ ∧ renderer.loaded pass.session base.entry = _ := loadData_congr held
  have names : base.entry.component.scope (renderer.loaded pass.session base.entry)
      (renderer.namesAlong session given chain)
      = renderer.namesAlong session given (chain ++ [base.entry]) := by
    rw [namesAlong_snoc, loading.2]
  have slot : fillSlot text base.markup
      = Template.printLeaves base.front ++ (text ++ Template.printLeaves base.back) :=
    fillSlot_between filled (Template.slot_absent slotless)
  exact renderOn_level room fresh plain (loading.1.trans loads) names (skips_level base) slot
    (engine_level before after unmarked)

/-- The bases of a chain wrap a text one after the other, by induction on the bases: what the first
one makes of the text is what the others wrap. -/
theorem wrap_bases {session : Session} {given : Scope} {bases : List Base} {chain : List Entry}
    {last : Entry} {room : Nat} {text before after : List Char} {pass : Pass}
    (stack : renderer.Chain session last bases)
    (outside : ∀ entry ∈ chain, ∀ base ∈ bases, entry.place ≠ base.entry.place)
    (fits : bases.length ≤ room)
    (held : ∀ base ∈ bases, pass.session.data base.entry.place = session.data base.entry.place)
    (surround : renderer.around session given chain bases = some (before, after))
    (plain : '@' ∉ before ++ (text ++ after)) (filled : text ≠ []) :
    ∃ next : Pass, next.store = pass.store ∧
      renderer.wrap (fun base s => renderer.renderOn renderer.engine room chain base
        (renderer.namesAlong session given chain) s) last.component text pass
        = (.ok (before ++ (text ++ after)), next) := by
  induction bases generalizing chain last room text before after pass with
  | nil =>
    cases surround
    obtain ⟨next, store, wrapped⟩ := wrap_of_topmost stack.linked _ text pass
    rw [List.nil_append, List.append_nil]
    exact ⟨next, store, wrapped⟩
  | cons base bases ih =>
    obtain ⟨room, rfl⟩ : ∃ more, room = more + 1 := ⟨room - 1, by simp at fits; omega⟩
    obtain ⟨here, others⟩ := List.forall_mem_cons.mp held
    have fresh : repeats chain base.entry = false := by
      rw [repeats, List.any_eq_false]
      intro link listed same
      exact outside link listed base List.mem_cons_self (of_decide_eq_true same)
    simp only [around, Option.bind_eq_bind, Option.bind_eq_some_iff] at surround
    obtain ⟨front, frontMeans, back, backMeans, ⟨outer, rest⟩, surround, same⟩ := surround
    cases same
    -- What this level makes of the text is what the outer levels wrap.
    have whole : (outer ++ front) ++ (text ++ (back ++ rest))
        = outer ++ ((front ++ (text ++ back)) ++ rest) := by simp
    rw [whole] at plain ⊢
    have unmarked : '@' ∉ text := fun inside =>
      plain (List.mem_append_right _ (List.mem_append_left _
        (List.mem_append_right _ (List.mem_append_left _ inside))))
    obtain ⟨next, store, data, rendered⟩ := renderOn_base room fresh
      (stack.plain base List.mem_cons_self) (stack.slotless base List.mem_cons_self)
      (stack.loads _ (List.mem_cons_of_mem _ List.mem_cons_self)) here frontMeans backMeans
      unmarked filled
    have inside : ∀ entry ∈ chain ++ [base.entry], ∀ base ∈ bases,
        entry.place ≠ base.entry.place := by
      intro entry listed other later
      rcases List.mem_append.mp listed with before | own
      · exact outside entry before other (List.mem_cons_of_mem _ later)
      · rw [List.mem_singleton.mp own]
        exact stack.tail.place_ne later
    have left : ∀ base ∈ bases, next.session.data base.entry.place
        = session.data base.entry.place := by
      intro other later
      rw [data _ (stack.tail.place_ne later).symm]
      exact others other later
    have some : front ++ (text ++ back) ≠ [] := by simp [filled]
    have fewer : bases.length ≤ room := Nat.le_of_succ_le_succ fits
    obtain ⟨final, kept, wrapped⟩ := ih stack.tail inside fewer left surround plain some
    refine ⟨final, kept.trans store, ?_⟩
    rw [wrap_of_base stack.linked.1, rendered, Action.bind_of_ok wrapped,
      substituteEnvironment_plain plain]
    rfl

/-- A page stands inside of what its bases put around it, innermost first, and each level looks its
names up in what is given, then in the page, then in the bases from the page outward: in each of
them first what was fetched, then its configuration. -/
theorem render_bases {session : Session} {page : Entry} {bases : List Base} {given : Scope}
    {leaves : List Template.Leaf} {text before after : List Char}
    (chain : renderer.Chain session page bases) (fits : bases.length + 1 ≤ renderer.maxDepth)
    (plain : renderer.Plain page (Template.printLeaves leaves))
    (own : Template.concat
      (Template.Leaf.meaning renderer.mode (renderer.namesAlong session given [page])) leaves
        = some text)
    (surround : renderer.around session given [page] bases = some (before, after))
    (unmarked : '@' ∉ before ++ (text ++ after)) (nonempty : text ≠ []) (nonce : List Char) :
    (renderer.render nonce page given [] session).1 = .ok (before ++ (text ++ after))
      ∧ ((Mapping.names given).Nodup →
        (∀ entry ∈ page :: bases.map Base.entry, renderer.NamesOnce session entry) →
        ∀ level ≤ bases.length, ∀ name,
          let levels := page :: (bases.take level).map Base.entry
          Mapping.get? name (renderer.namesAlong session given levels)
            = (given :: renderer.layers session levels).findSome? (Mapping.get? name)) := by
  constructor
  · obtain ⟨room, deep⟩ : ∃ room, renderer.maxDepth.toNat = room + 1 :=
      ⟨renderer.maxDepth.toNat - 1, by omega⟩
    have slot (rest : List Char) : dropFront? Reference.opening ('@' :: '[' :: rest) = none := rfl
    have ran : (renderer.engine (renderer.namesAlong session given [page])
        (Template.printLeaves leaves)).outcome = .ok text := by
      apply Reported.outcome_eq_ok_of_value?
      rw [engine, Template.value?_render_leaves, own]
    let pass : Pass := ⟨.empty nonce, session⟩
    have loads : (renderer.loadData page pass.session).1 = .ok () :=
      chain.loads page List.mem_cons_self
    have fresh : repeats [] page = false := rfl
    have looked : page.component.scope (renderer.loaded pass.session page) given
        = renderer.namesAlong session given [page] := rfl
    have unfilled : fillSlot [] (Template.printLeaves leaves) = Template.printLeaves leaves := rfl
    obtain ⟨next, store, data, rendered⟩ := renderOn_level room fresh plain loads looked
      (Template.skips_leaves opening_plain slot leaves []) unfilled ran
    have outside : ∀ entry ∈ [page], ∀ base ∈ bases, entry.place ≠ base.entry.place := by
      intro entry listed base inside
      rw [List.mem_singleton.mp listed]
      exact chain.place_ne inside
    have held : ∀ base ∈ bases, next.session.data base.entry.place
        = session.data base.entry.place :=
      fun base inside => data _ (chain.place_ne inside).symm
    have fewer : bases.length ≤ room := by omega
    obtain ⟨last, kept, wrapped⟩ :=
      wrap_bases chain outside fewer held surround unmarked nonempty
    have part : renderer.renderPart page given [] pass
        = (.ok (before ++ (text ++ after)), last) := by
      rw [renderPart, deep, rendered]
      rw [List.nil_append, Action.bind_of_ok wrapped, substituteEnvironment_plain unmarked]
      rfl
    -- Nothing was taken out on the way, so the root has nothing to put back.
    have empty : last.store.fragments = [] := by
      rw [kept, store]
      rfl
    show (renderer.renderRoot page given [] pass).1 = _
    rw [renderRoot_eq, part]
    show Markup.restore _ last.store = _
    rw [Markup.restore, empty]
    rfl
  · intro distinct once level _ name levels
    refine get?_namesAlong distinct (fun entry listed => once entry ?_) name
    rcases List.mem_cons.mp listed with rfl | later
    · exact List.mem_cons_self
    · obtain ⟨base, inside, rfl⟩ := List.mem_map.mp later
      exact List.mem_cons_of_mem _ (List.mem_map_of_mem (List.mem_of_mem_take inside))

/-- A page `@[x]` in a base `<@[content]@[y]>` in a base `(@[content]@[v])`. -/
def stackedPage : Entry :=
  ⟨0, { inFolder "Home" "h" with config := [(.str "extends", .str "Inner"), (.str "x", .str "a")] }⟩

def stackedInner : Base where
  entry := ⟨1, { inFolder "Inner" "i" with
    config := [(.str "extends", .str "Outer"), (.str "x", .str "no"), (.str "y", .str "b")] }⟩
  front := [.text ⟨['<'], by decide⟩]
  back := [.placeholder ⟨['y'], by decide, by decide, by decide, by decide⟩,
    .text ⟨['>'], by decide⟩]

def stackedOuter : Base where
  entry := ⟨2, { inFolder "Outer" "o" with config := [(.str "extends", .null)] }⟩
  front := [.text ⟨['('], by decide⟩]
  back := [.placeholder ⟨['v'], by decide, by decide, by decide, by decide⟩,
    .text ⟨[')'], by decide⟩]

def stackedRenderer : Renderer where
  disk := ⟨.folder [("h", .folder [("m", .file (encodeUtf8 "@[x]".toList))]),
    ("i", .folder [("m", .file (encodeUtf8 "<@[content]@[y]>".toList))]),
    ("o", .folder [("m", .file (encodeUtf8 "(@[content]@[v])".toList))])], []⟩
  registry := ⟨[stackedPage.component, stackedInner.entry.component, stackedOuter.entry.component]⟩
  env := ['d', 'e', 'v']
  evaluate := Expression.evaluate
  mode := .silent
  maxDepth := 3
  loader? := some valueLoader

/-- The name `x` of the page hides that of its base, and the outer base sees what was fetched. -/
theorem render_bases_two :
    (stackedRenderer.render ['n'] stackedPage [] [] .start).1 = .ok "(<ab>1)".toList
      ∧ Mapping.get? "x" (stackedRenderer.namesAlong .start []
          [stackedPage, stackedInner.entry, stackedOuter.entry]) = some (.str "a") := by
  let leaves : List Template.Leaf :=
    [.placeholder ⟨['x'], by decide, by decide, by decide, by decide⟩]
  -- Every hypothesis is settled by running the three small components.
  have chain : stackedRenderer.Chain .start stackedPage [stackedInner, stackedOuter] := by
    refine ⟨⟨by cbv, by cbv, by cbv⟩, ?_, ?_, by decide, ?_⟩
    · intro base listed
      simp only [List.mem_cons, List.not_mem_nil, or_false] at listed
      rcases listed with rfl | rfl
      · exact ⟨by cbv, by cbv, by cbv⟩
      · exact ⟨by cbv, by cbv, by cbv⟩
    · intro base listed leaf part
      simp only [List.mem_cons, List.not_mem_nil, or_false] at listed
      rcases listed with rfl | rfl
      · rw [List.mem_singleton.mp part]
        exact id
      · rw [List.mem_singleton.mp part]
        exact id
    · intro entry listed
      simp only [List.map_cons, List.map_nil, List.mem_cons, List.not_mem_nil, or_false] at listed
      rcases listed with rfl | rfl | rfl
      · rfl
      · rfl
      · rfl
  have plain : stackedRenderer.Plain stackedPage (Template.printLeaves leaves) :=
    ⟨by cbv, by cbv, by cbv⟩
  have own : Template.concat (Template.Leaf.meaning stackedRenderer.mode
      (stackedRenderer.namesAlong .start [] [stackedPage])) leaves = some ['a'] := by cbv
  have surround : stackedRenderer.around .start [] [stackedPage] [stackedInner, stackedOuter]
      = some (['(', '<'], ['b', '>', '1', ')']) := by cbv
  have once : ∀ entry ∈ [stackedPage, stackedInner.entry, stackedOuter.entry],
      stackedRenderer.NamesOnce .start entry := by
    intro entry listed
    simp only [List.mem_cons, List.not_mem_nil, or_false] at listed
    rcases listed with rfl | rfl | rfl
    · exact ⟨by decide, by decide⟩
    · exact ⟨by decide, by decide⟩
    · exact ⟨by decide, by decide⟩
  obtain ⟨rendered, names⟩ :=
    render_bases chain (by decide) plain own surround (by decide) (by decide) ['n']
  exact ⟨rendered, (names List.nodup_nil once 2 (Nat.le_refl 2) "x").trans (by cbv)⟩

end Renderer

end StaticSite
