import StaticSite.Proofs.Component.Tracking

/-!
# The order in which components are entered

A render comes to components depth first: to a component, then to those it refers to from left to
right, then to its base. With a loader that always succeeds, what it does to the data of components
and what it calls the loader for follow from the components it has entered, as long as it returns or
ends with a chain that cannot go on.
-/

namespace StaticSite.Renderer

open StaticSite.Registry StaticSite.Component
open StaticSite.Text

variable {renderer : Renderer} {loader : Loader} {nonce : List Char}

/-! ### The order of a render -/

/-- The components that a render comes to, depth first. A chain does not go on without room, nor at
a component that it has already. -/
def visitOrder (renderer : Renderer) (nonce : List Char) :
    (room : Nat) → (chain : List Entry) → Entry → List Entry
  | 0, _, _ => []
  | room + 1, chain, entry =>
    if repeats chain entry then []
    else entry :: (renderer.successors nonce entry).flatMap
      (visitOrder renderer nonce room (chain ++ [entry]))

theorem visitOrder_succ (room : Nat) (chain : List Entry) (entry : Entry) :
    renderer.visitOrder nonce (room + 1) chain entry
      = if repeats chain entry then []
        else entry :: (renderer.successors nonce entry).flatMap
          (renderer.visitOrder nonce room (chain ++ [entry])) := rfl

/-- The data of all components after one of them has been entered. -/
def afterEntering (loader : Loader) (held : Nat → Data) (entry : Entry) : Nat → Data :=
  if (held entry.place).isLoaded then held
  else fun place =>
    if place = entry.place then
      { (loader entry.component (held entry.place)).data with isLoaded := true }
    else held place

def afterAll (loader : Loader) (held : Nat → Data) (entries : List Entry) : Nat → Data :=
  entries.foldl (afterEntering loader) held

/-- What is noted when components are entered one after the other. -/
def script (loader : Loader) : (held : Nat → Data) → List Entry → List Event
  | _, [] => []
  | held, entry :: entries =>
    let next := afterEntering loader held entry
    .enter entry :: ((if (held entry.place).isLoaded then [] else [.load entry])
      ++ .look entry (next entry.place) :: script loader next entries)

/-- What the loader leaves in the journal when components are entered one after the other. -/
def footprint (loader : Loader) : (held : Nat → Data) → List Entry → Journal
  | _, [] => .empty
  | held, entry :: entries =>
    (if (held entry.place).isLoaded then .empty
      else (loader entry.component (held entry.place)).journal.unnoticed)
    ++ footprint loader (afterEntering loader held entry) entries

theorem afterAll_cons (held : Nat → Data) (entry : Entry) (entries : List Entry) :
    afterAll loader held (entry :: entries)
      = afterAll loader (afterEntering loader held entry) entries := rfl

theorem script_append (held : Nat → Data) (front back : List Entry) :
    script loader held (front ++ back)
      = script loader held front ++ script loader (afterAll loader held front) back := by
  induction front generalizing held with
  | nil => rfl
  | cons entry front ih =>
    rw [List.cons_append, script, script, ih, afterAll_cons]
    simp

theorem footprint_append (held : Nat → Data) (front back : List Entry) :
    footprint loader held (front ++ back)
      = footprint loader held front ++ footprint loader (afterAll loader held front) back := by
  induction front generalizing held with
  | nil => rfl
  | cons entry front ih =>
    rw [List.cons_append, footprint, footprint, ih, afterAll_cons, Journal.append_assoc]

theorem afterAll_append (held : Nat → Data) (front back : List Entry) :
    afterAll loader held (front ++ back) = afterAll loader (afterAll loader held front) back :=
  List.foldl_append

/-! ### How a render can end -/

/-- A fault of a chain that cannot go on. -/
def IsChainFault : Fault → Prop
  | .cycle _ | .depth .. => True
  | _ => False

/-- A render returns, or its chain cannot go on. -/
def Settled {α : Type} : Except Fault α → Prop
  | .ok _ => True
  | .error fault => IsChainFault fault

theorem follow_fault {root : Node} {place : Location} {segments : List String} {fault : Fault}
    (failed : Disk.follow root place segments = .error fault) : ¬ IsChainFault fault := by
  induction segments generalizing place with
  | nil => contradiction
  | cons segment segments ih =>
    rw [Disk.follow] at failed
    split at failed
    · cases failed
      exact id
    · cases failed
      exact id
    · exact ih failed

theorem node_fault {disk : Disk} {path : Path} {fault : Fault}
    (failed : disk.node path = .error fault) : ¬ IsChainFault fault := by
  -- Either the way to the file fails or the file is missing there.
  cases located : disk.locate path with
  | error stopped =>
    have same : disk.node path = .error stopped := by
      rw [Disk.node, located]
      rfl
    cases failed.symm.trans same
    rw [Disk.locate] at located
    split at located
    · cases located
      exact id
    · exact follow_fault located
  | ok place =>
    rw [Disk.node, located] at failed
    dsimp only [bind, Except.bind] at failed
    split at failed
    · contradiction
    · cases failed
      exact id

/-- Markup that cannot be read is not a matter of chains. -/
theorem readMarkup_fault {component : Component} {disk : Disk} {fault : Fault}
    (failed : component.readMarkup disk = .error fault) : ¬ IsChainFault fault := by
  rw [Component.readMarkup, Disk.readText] at failed
  cases found : disk.node component.entryPath with
  | error stopped =>
    rw [found] at failed
    cases failed
    exact node_fault found
  | ok node =>
    rw [found] at failed
    have failed : node.text = .error fault := failed
    unfold Node.text at failed
    split at failed
    · cases failed
      exact id
    · split at failed
      · contradiction
      · cases failed
        exact id

/-! ### Parts of a recorded render -/

/-- What entering components makes of a session: their data is loaded, and nothing but that leaves
traces other than notices in the journal. -/
structure Enters (loader : Loader) (before after : Session) (entries : List Entry) : Prop where
  data : after.data = afterAll loader before.data entries
  journal : after.journal.unnoticed
    = before.journal.unnoticed ++ footprint loader before.data entries

namespace Enters

variable {before middle after : Session} {front back : List Entry}

theorem none (data : after.data = before.data)
    (journal : after.journal.unnoticed = before.journal.unnoticed) :
    Enters loader before after [] :=
  ⟨data, journal.trans (Journal.append_empty _).symm⟩

/-- A report leaves notices. -/
theorem report {α : Type} (result : Reported α) (pass : Pass) :
    Enters loader pass.session (Pass.report result pass).2.session [] := by
  refine .none rfl ?_
  show (pass.session.journal ++ .ofNotices result.notices).unnoticed = pass.session.journal.unnoticed
  rw [Journal.unnoticed_append, Journal.unnoticed_ofNotices, Journal.append_empty]

theorem append (first : Enters loader before middle front)
    (second : Enters loader middle after back) : Enters loader before after (front ++ back) where
  data := by rw [second.data, first.data, afterAll_append]
  journal := by
    rw [second.journal, first.journal, first.data, footprint_append, Journal.append_assoc]

end Enters

/-- A part of a recorded render enters components in an order. If it is settled, its record and what
it makes of the session are those of the components it has entered, which are all of them if it
returns. -/
def Visits {α : Type} (loader : Loader) (nonce : List Char) (order : List Entry) (post : α → Prop)
    (action : Action Record α) : Prop :=
  ∀ record, Carries nonce record.pass → Carries nonce (action record).2.pass ∧
    (Settled (action record).1 → ∃ entered, entered <+: order ∧
      (action record).2.events = record.events ++ script loader record.pass.session.data entered ∧
      Enters loader record.pass.session (action record).2.pass.session entered ∧
      ∀ a, (action record).1 = .ok a → entered = order ∧ post a)

namespace Visits

variable {α β : Type} {post : α → Prop} {made : β → Prop} {order later : List Entry}

theorem pure {a : α} (holds : post a) : Visits loader nonce [] post (Pure.pure a) := by
  intro record here
  refine ⟨here, fun _ => ⟨[], List.prefix_rfl, (List.append_nil _).symm, .none rfl rfl, ?_⟩⟩
  intro b same
  cases same
  exact ⟨rfl, holds⟩

theorem fail (fault : Fault) : Visits loader nonce order post (Action.fail fault) := by
  intro record here
  exact ⟨here, fun _ => ⟨[], List.nil_prefix, (List.append_nil _).symm, .none rfl rfl, nofun⟩⟩

/-- An action that loads no data. -/
theorem quiet {action : Action Pass α}
    (kept : ∀ pass, Carries nonce pass → Carries nonce (action pass).2
      ∧ Enters loader pass.session (action pass).2.session [])
    (holds : ∀ pass, Carries nonce pass → ∀ a, (action pass).1 = .ok a → post a) :
    Visits loader nonce [] post (Record.onPass action) := by
  intro record here
  obtain ⟨carried, same⟩ := kept record.pass here
  exact ⟨carried, fun _ => ⟨[], List.prefix_rfl, (List.append_nil _).symm, same,
    fun a ended => ⟨rfl, holds record.pass here a ended⟩⟩⟩

theorem bind {action : Action Record α} {next : α → Action Record β}
    (first : Visits loader nonce order post action)
    (second : ∀ a, post a → Visits loader nonce later made (next a)) :
    Visits loader nonce (order ++ later) made (action >>= next) := by
  intro record here
  obtain ⟨carried, visited⟩ := first record here
  rcases run : action record with ⟨outcome, after⟩
  rw [run] at carried visited
  cases outcome with
  | error fault =>
    rw [Action.bind_of_error run]
    refine ⟨carried, fun settled => ?_⟩
    obtain ⟨entered, within, events, enters, _⟩ := visited settled
    exact ⟨entered, within.trans (List.prefix_append _ _), events, enters, nofun⟩
  | ok a =>
    rw [Action.bind_of_ok run]
    -- The first part has returned, so it has entered all of its components.
    obtain ⟨entered, _, events, enters, returned⟩ := visited trivial
    obtain ⟨rfl, holds⟩ := returned a rfl
    obtain ⟨last, rest⟩ := second a holds after carried
    refine ⟨last, fun settled => ?_⟩
    obtain ⟨others, within, more, final, ended⟩ := rest settled
    refine ⟨entered ++ others, (List.prefix_append_right_inj _).mpr within, ?_,
      enters.append final, ?_⟩
    · rw [more, events, enters.data, script_append, List.append_assoc]
    · intro b same
      obtain ⟨rfl, holds⟩ := ended b same
      exact ⟨rfl, holds⟩

theorem bind_quiet {action : Action Record α} {next : α → Action Record β}
    (first : Visits loader nonce [] post action)
    (second : ∀ a, post a → Visits loader nonce later made (next a)) :
    Visits loader nonce later made (action >>= next) := first.bind second

theorem map {f : α → β} {action : Action Record α} (visits : Visits loader nonce order post action)
    (holds : ∀ a, post a → made (f a)) :
    Visits loader nonce order made (action >>= fun a => Pure.pure (f a)) := by
  have whole := visits.bind fun a here =>
    (pure (holds a here) : Visits loader nonce [] made (Pure.pure (f a)))
  rwa [List.append_nil] at whole

theorem report {result : Reported α} (holds : ∀ a, result.outcome = .ok a → post a) :
    Visits loader nonce [] post (Record.onPass (Pass.report result)) :=
  quiet (fun pass here => ⟨here, .report result pass⟩) fun _ _ a ended => holds a ended

end Visits

/-! ### The steps of a recorded render -/

/-- Loading enters a component, whether it calls the loader or finds the data loaded. -/
theorem loadData_enters (present : renderer.loader? = some loader)
    (loads : ∀ component data, (loader component data).outcome = .ok ()) (entry : Entry)
    (session : Session) :
    (renderer.loadData entry session).1 = .ok () ∧
      Enters loader session (renderer.loadData entry session).2 [entry] := by
  cases already : (session.data entry.place).isLoaded with
  | true =>
    have found : renderer.loadData entry session = (.ok (), session) := by
      simp only [loadData, present, already, if_true]
    rw [found]
    exact ⟨rfl, by simp [afterAll, afterEntering, already], by simp [footprint, already]⟩
  | false =>
    let loading := loader entry.component (session.data entry.place)
    have called : renderer.loadData entry session = (.ok (), (session.record loading.journal).setData
        entry.place { loading.data with isLoaded := true }) := by
      simp only [loadData, present, already, Bool.false_eq_true, if_false, loads, loading]
    rw [called]
    refine ⟨rfl, ?_, ?_⟩
    · show _ = afterEntering loader session.data entry
      rw [afterEntering, already]
      rfl
    · show (session.journal ++ loading.journal).unnoticed = _
      simp [footprint, already, loading]

theorem callsLoader_eq (present : renderer.loader? = some loader) (entry : Entry)
    (session : Session) :
    renderer.callsLoader entry session = !(session.data entry.place).isLoaded := by
  cases already : (session.data entry.place).isLoaded <;>
    simp [callsLoader, failing, loadData, present, already]

/-- The loader is called unless the data has been loaded. -/
theorem recordLoad_enters (present : renderer.loader? = some loader)
    (loads : ∀ component data, (loader component data).outcome = .ok ()) (entry : Entry)
    (record : Record) :
    renderer.recordLoad entry record = (.ok (),
      ⟨{ record.pass with session := (renderer.loadData entry record.pass.session).2 },
        record.events ++
          if (record.pass.session.data entry.place).isLoaded then [] else [.load entry]⟩) := by
  have ended := (loadData_enters present loads entry record.pass.session).1
  have noted : (if renderer.callsLoader entry record.pass.session then [Event.load entry] else [])
      = if (record.pass.session.data entry.place).isLoaded then [] else [.load entry] := by
    rw [callsLoader_eq present]
    cases (record.pass.session.data entry.place).isLoaded <;> rfl
  show ((renderer.loadData entry record.pass.session).1, (⟨_, record.events ++ _⟩ : Record)) = _
  rw [ended, noted]
  rfl

/-- A component is entered before its data is loaded, and its names are looked up after that. -/
theorem visits_start (present : renderer.loader? = some loader)
    (loads : ∀ component data, (loader component data).outcome = .ok ()) (entry : Entry)
    (given : Scope) :
    Visits loader nonce [entry]
      (fun opened => Renumbered (renderer.bareMarkup nonce entry) opened.1)
      (renderer.recordStart entry given) := by
  intro record here
  let noted : Record := { record with events := record.events ++ [.enter entry] }
  have entering : Record.note (fun _ => .enter entry) record = (.ok (), noted) := rfl
  cases read : entry.component.readMarkup renderer.disk with
  | error fault =>
    have failed : Record.onPass (renderer.readMarkup entry.component) noted
        = (.error fault, noted) := by
      rw [Record.onPass, Action.within, readMarkup, read]
      rfl
    rw [recordStart, Action.bind_of_ok entering, Action.bind_of_error failed]
    -- A component that cannot be read is entered without being loaded, which is not settled.
    exact ⟨here, fun settled => absurd settled (readMarkup_fault read)⟩
  | ok text =>
    let bare := Markup.protect text record.pass.store
    let taken : Record := { noted with pass := { record.pass with store := bare.2 } }
    have took : Record.onPass (renderer.readMarkup entry.component) noted
        = (.ok (Markup.stripComments bare.1), taken) := by
      rw [Record.onPass, Action.within, readMarkup, read]
      rfl
    have enters := (loadData_enters present loads entry record.pass.session).2
    have fetched := recordLoad_enters present loads entry taken
    have alike : Renumbered (renderer.bareMarkup nonce entry) (Markup.stripComments bare.1) := by
      rw [bareMarkup, read]
      exact Markup.protect_alike here.symm text
    rw [recordStart, Action.bind_of_ok entering, Action.bind_of_ok took,
      Action.bind_of_ok fetched]
    refine ⟨(Markup.protect_nonce text record.pass.store).trans here, fun _ =>
      ⟨[entry], List.prefix_rfl, ?_, enters, fun opened ended => ⟨rfl, ?_⟩⟩⟩
    · show ((record.events ++ [.enter entry]) ++ _) ++ [.look entry _] = _
      simp only [taken, enters.data]
      simp [script, afterAll]
    · cases ended
      exact alike

theorem visits_expand {follow : Entry → Scope → Action Record (List Char)}
    {order : Entry → List Entry} {pieces : List (Piece Reference)}
    (followed : ∀ entry data,
      Visits loader nonce (order entry) (fun _ => True) (follow entry data)) :
    Visits loader nonce (((items pieces).filterMap renderer.target?).flatMap order)
      (fun _ => True) (renderer.recordExpand follow pieces) := by
  induction pieces with
  | nil => exact Visits.pure trivial
  | cons piece pieces ih =>
    cases piece with
    | plain c => exact ih.map fun _ _ => trivial
    | found reference source =>
      have after (text : List Char) : Visits loader nonce
          (((items pieces).filterMap renderer.target?).flatMap order) (fun _ => True)
          (do return text ++ (← renderer.recordExpand follow pieces)) :=
        ih.map fun _ _ => trivial
      rw [items, List.filterMap_cons, recordExpand]
      cases named : renderer.target? reference with
      | none =>
        have unknown : renderer.registry.find? (String.ofList reference.name) = none := named
        rw [unknown]
        have nothing : Visits loader nonce [] (fun _ => True)
            (Pure.pure ([] : List Char) : Action Record (List Char)) := Visits.pure trivial
        -- An unknown name leaves a warning, and nothing is entered.
        apply Visits.bind_quiet (Visits.report fun _ _ => trivial)
        exact fun _ (_ : True) => nothing.bind_quiet fun text _ => after text
      | some entry =>
        have known : renderer.registry.find? (String.ofList reference.name) = some entry := named
        rw [known, List.flatMap_cons]
        exact (followed entry reference.data).bind fun text _ => after text

theorem visits_wrap {follow : Entry → List Char → Action Record (List Char)}
    {order : Entry → List Entry} {entry : Entry} {s : List Char}
    (followed : ∀ entry text,
      Visits loader nonce (order entry) (fun _ => True) (follow entry text)) :
    Visits loader nonce ((renderer.base? entry).toList.flatMap order) (fun _ => True)
      (renderer.recordWrap follow entry.component s) := by
  unfold recordWrap base?
  cases named : entry.component.base? with
  | none => exact Visits.pure trivial
  | some name =>
    cases found : renderer.registry.find? name with
    | none =>
      simp only [Option.bind_some, found]
      exact (Visits.report fun _ _ => trivial).map fun _ _ => trivial
    | some base =>
      simp only [Option.bind_some, found, Option.toList_some, List.flatMap_cons, List.flatMap_nil,
        List.append_nil]
      exact followed base s

/-- A render enters components in their order, by induction on the room of its chain. -/
theorem visits_recordOn (present : renderer.loader? = some loader)
    (loads : ∀ component data, (loader component data).outcome = .ok ()) (engine : Engine)
    (room : Nat) (chain : List Entry) (entry : Entry) (given : Scope) (inner : List Char) :
    Visits loader nonce (renderer.visitOrder nonce room chain entry) (fun _ => True)
      (renderer.recordOn engine room chain entry given inner) := by
  induction room generalizing chain entry given inner with
  | zero => exact Visits.fail _
  | succ room ih =>
    rw [recordOn, visitOrder_succ]
    split
    · exact Visits.fail _
    · let next := renderer.visitOrder nonce room (chain ++ [entry])
      -- What is entered is the component, then its references, then its base.
      have order : entry :: (renderer.successors nonce entry).flatMap next
          = [entry] ++ (((renderer.references nonce entry).filterMap renderer.target?).flatMap next
            ++ (renderer.base? entry).toList.flatMap next) := by
        rw [successors, List.flatMap_append]
        rfl
      rw [order]
      apply Visits.bind (visits_start present loads entry given)
      intro opened alike
      -- The references found are those of the bare markup: only numbers of tokens differ.
      have reported : Visits loader nonce [] (Refers renderer nonce entry)
          (Record.onPass (Pass.report (Reference.pieces opened.1))) := by
        apply Visits.quiet
        · exact fun pass here => ⟨here, .report _ pass⟩
        · intro pass here pieces ended
          have results := (ends_pieces alike pass here).2
          rw [ended] at results
          exact results.2
      apply Visits.bind_quiet reported
      intro pieces refers
      rw [targets_eq refers]
      apply Visits.bind (visits_expand fun nested data => ih _ nested data [])
      intro expanded _
      apply Visits.bind_quiet (Visits.report fun _ _ => trivial)
      intro rendered (_ : True)
      exact (visits_wrap fun base text => ih _ base opened.2 text).map fun _ _ => trivial

end StaticSite.Renderer
