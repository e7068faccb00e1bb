import StaticSite.Proofs.Component.Entering
import StaticSite.Proofs.Component.Independence

/-!
# When data is loaded

Over a history of renders and resets each component is loaded once between two resets, and before
its names are looked up. What has been done since a reset is the script of the components that have
been entered since then, and all that is said about loading is read off that script.
-/

namespace StaticSite.Renderer

open StaticSite.Registry StaticSite.Component

variable {renderer : Renderer} {loader : Loader}

/-! ### What a script says -/

namespace Event

/-- The components that have been entered. -/
def entered (events : List Event) : List Entry :=
  events.filterMap fun
    | .enter entry => some entry
    | _ => none

/-- The components for which the loader has been called. -/
def called (events : List Event) : List Entry :=
  events.filterMap fun
    | .load entry => some entry
    | _ => none

/-- The places of the components for which the loader has been called. -/
def loaded (events : List Event) : List Nat := (called events).map Entry.place

end Event

theorem afterEntering_of_loaded {held : Nat → Data} {entry : Entry}
    (already : (held entry.place).isLoaded = true) : afterEntering loader held entry = held :=
  if_pos already

theorem afterEntering_of_ne {held : Nat → Data} {entry : Entry} {place : Nat}
    (other : place ≠ entry.place) : afterEntering loader held entry place = held place := by
  unfold afterEntering
  split
  next => rfl
  next => exact if_neg other

theorem script_of_loaded {held : Nat → Data} {entry : Entry}
    (already : (held entry.place).isLoaded = true) (entries : List Entry) :
    script loader held (entry :: entries)
      = .enter entry :: .look entry (held entry.place) :: script loader held entries := by
  simp only [script, already, if_true, afterEntering_of_loaded already, List.nil_append]

theorem script_of_lacking {held : Nat → Data} {entry : Entry}
    (lacking : (held entry.place).isLoaded = false) (entries : List Entry) :
    script loader held (entry :: entries) = .enter entry :: .load entry
      :: .look entry (afterEntering loader held entry entry.place)
      :: script loader (afterEntering loader held entry) entries := by
  rw [script, lacking]
  rfl

theorem entered_script (held : Nat → Data) (entries : List Entry) :
    Event.entered (script loader held entries) = entries := by
  induction entries generalizing held with
  | nil => rfl
  | cons entry entries ih =>
    cases already : (held entry.place).isLoaded with
    | true =>
      rw [script_of_loaded already]
      exact congrArg (entry :: ·) (ih held)
    | false =>
      rw [script_of_lacking already]
      exact congrArg (entry :: ·) (ih _)

theorem isLoaded_afterEntering (loader : Loader) (held : Nat → Data) (entry : Entry)
    (place : Nat) :
    (afterEntering loader held entry place).isLoaded = true
      ↔ (held place).isLoaded = true ∨ place = entry.place := by
  unfold afterEntering
  split
  next already =>
    refine ⟨.inl, ?_⟩
    rintro (before | rfl)
    · exact before
    · exact already
  next => by_cases here : place = entry.place <;> simp [here]

theorem isLoaded_afterAll (held : Nat → Data) (entries : List Entry) (place : Nat) :
    (afterAll loader held entries place).isLoaded = true
      ↔ (held place).isLoaded = true ∨ place ∈ entries.map Entry.place := by
  induction entries generalizing held with
  | nil => simp [afterAll]
  | cons entry entries ih =>
    rw [afterAll_cons, ih, isLoaded_afterEntering, List.map_cons, List.mem_cons, or_assoc]

/-- Data that has been loaded stays as it is. -/
theorem afterAll_of_loaded {held : Nat → Data} {place : Nat}
    (already : (held place).isLoaded = true) (entries : List Entry) :
    afterAll loader held entries place = held place := by
  induction entries generalizing held with
  | nil => rfl
  | cons entry entries ih =>
    have kept : afterEntering loader held entry place = held place := by
      by_cases here : place = entry.place
      · subst here
        rw [afterEntering_of_loaded already]
      · exact afterEntering_of_ne here
    rw [afterAll_cons, ih (kept ▸ already), kept]

/-- The data of a component that is not entered stays as it is. -/
theorem afterAll_of_not_entered {held : Nat → Data} {entries : List Entry} {place : Nat}
    (absent : place ∉ entries.map Entry.place) :
    afterAll loader held entries place = held place := by
  induction entries generalizing held with
  | nil => rfl
  | cons entry entries ih =>
    rw [List.map_cons, List.mem_cons, not_or] at absent
    rw [afterAll_cons, ih absent.2, afterEntering_of_ne absent.1]

/-- The loader is called for those components that have not been loaded, in the order in which
they are entered for the first time. -/
theorem loaded_script (held : Nat → Data) (entries : List Entry) :
    Event.loaded (script loader held entries)
      = ((entries.map Entry.place).filter fun place => !(held place).isLoaded).eraseDups := by
  induction entries generalizing held with
  | nil => rfl
  | cons entry entries ih =>
    rw [List.map_cons]
    cases already : (held entry.place).isLoaded with
    | true =>
      rw [script_of_loaded already, List.filter_cons_of_neg (by simp [already])]
      exact ih held
    | false =>
      -- Entering the component takes its place out of those that are still to be loaded.
      have later : (fun place => !(afterEntering loader held entry place).isLoaded)
          = fun place => !(place == entry.place) && !(held place).isLoaded := by
        funext place
        rw [Bool.eq_iff_iff]
        simp [← Bool.not_eq_true, isLoaded_afterEntering, and_comm]
      rw [script_of_lacking already, List.filter_cons_of_pos (by simp [already]),
        List.eraseDups_cons, List.filter_filter, ← later]
      exact congrArg (entry.place :: ·) (ih _)

theorem nodup_loaded_script (held : Nat → Data) (entries : List Entry) :
    (Event.loaded (script loader held entries)).Nodup := by
  induction entries generalizing held with
  | nil => exact List.nodup_nil
  | cons entry entries ih =>
    cases already : (held entry.place).isLoaded with
    | true =>
      rw [script_of_loaded already]
      exact ih held
    | false =>
      rw [script_of_lacking already]
      refine List.nodup_cons.mpr ⟨fun again => ?_, ih _⟩
      -- What is loaded again would not have been loaded by entering it.
      have inside : entry.place
          ∈ Event.loaded (script loader (afterEntering loader held entry) entries) := again
      rw [loaded_script, List.mem_eraseDups, List.mem_filter] at inside
      have here := (isLoaded_afterEntering loader held entry entry.place).mpr (.inr rfl)
      simp [here] at inside

/-- What a component has once the loader has been called for it. -/
def loadedData (loader : Loader) (entry : Entry) : Data :=
  { (loader entry.component .fresh).data with isLoaded := true }

/-- The data of a component is fresh, or it is what the loader gives for one of those that it has
been called for. -/
def Holds (loader : Loader) (called : List Entry) (place : Nat) (data : Data) : Prop :=
  data = .fresh ∨ ∃ entry ∈ called, entry.place = place ∧ data = loadedData loader entry

namespace Holds

variable {called : List Entry} {place : Nat} {data : Data}

theorem fresh_of_lacking (holds : Holds loader called place data) (lacking : data.isLoaded = false) :
    data = .fresh := by
  rcases holds with fresh | ⟨entry, -, -, rfl⟩
  · exact fresh
  · contradiction

theorem called_of_loaded (holds : Holds loader called place data) (already : data.isLoaded = true) :
    ∃ entry ∈ called, entry.place = place ∧ data = loadedData loader entry := by
  rcases holds with rfl | found
  · contradiction
  · exact found

theorem mono (holds : Holds loader called place data) (entry : Entry) :
    Holds loader (entry :: called) place data :=
  holds.imp_right fun ⟨other, inside, rest⟩ => ⟨other, List.mem_cons_of_mem _ inside, rest⟩

end Holds

theorem afterEntering_of_lacking {held : Nat → Data} {entry : Entry} {called : List Entry}
    (holds : Holds loader called entry.place (held entry.place))
    (lacking : (held entry.place).isLoaded = false) :
    afterEntering loader held entry entry.place = loadedData loader entry := by
  have fresh := holds.fresh_of_lacking lacking
  rw [afterEntering, if_neg (by simp [lacking]), if_pos rfl, fresh, loadedData]

/-- Entering a component keeps what is said of the data. -/
theorem holds_afterEntering {held : Nat → Data} {entry : Entry} {called : List Entry}
    (holds : ∀ place, Holds loader called place (held place))
    (lacking : (held entry.place).isLoaded = false) (place : Nat) :
    Holds loader (entry :: called) place (afterEntering loader held entry place) := by
  by_cases here : place = entry.place
  · subst here
    exact .inr ⟨entry, List.mem_cons_self, rfl, afterEntering_of_lacking (holds _) lacking⟩
  · rw [afterEntering_of_ne here]
    exact (holds place).mono entry

theorem holds_afterAll {held : Nat → Data} {called : List Entry} (entries : List Entry)
    (holds : ∀ place, Holds loader called place (held place)) :
    ∃ calls, ∀ place, Holds loader calls place (afterAll loader held entries place) := by
  induction entries generalizing held called with
  | nil => exact ⟨called, holds⟩
  | cons entry entries ih =>
    rw [afterAll_cons]
    cases already : (held entry.place).isLoaded with
    | true =>
      rw [afterEntering_of_loaded already]
      exact ih holds
    | false => exact ih (holds_afterEntering holds already)

/-- Events in which the names of a component are looked up only in what the loader has given for one
of those called. -/
def Prepared (loader : Loader) : (called : List Entry) → List Event → Prop
  | _, [] => True
  | called, .enter _ :: events => Prepared loader called events
  | called, .load entry :: events => Prepared loader (entry :: called) events
  | called, .look entry data :: events =>
    (∃ other ∈ called, other.place = entry.place ∧ data = loadedData loader other)
      ∧ Prepared loader called events

theorem prepared_script {held : Nat → Data} {called : List Entry} (entries : List Entry)
    (holds : ∀ place, Holds loader called place (held place)) :
    Prepared loader called (script loader held entries) := by
  induction entries generalizing held called with
  | nil => trivial
  | cons entry entries ih =>
    -- Data that is loaded comes from an earlier call; else the call is made now.
    cases already : (held entry.place).isLoaded with
    | true =>
      rw [script_of_loaded already]
      exact ⟨(holds _).called_of_loaded already, ih holds⟩
    | false =>
      rw [script_of_lacking already]
      exact ⟨⟨entry, List.mem_cons_self, rfl, afterEntering_of_lacking (holds _) already⟩,
        ih (holds_afterEntering holds already)⟩

theorem Prepared.called_before {called : List Entry} {front back : List Event} {entry : Entry}
    {data : Data} (prepared : Prepared loader called (front ++ .look entry data :: back)) :
    ∃ other, (other ∈ called ∨ .load other ∈ front) ∧ other.place = entry.place
      ∧ data = loadedData loader other := by
  induction front generalizing called with
  | nil =>
    obtain ⟨other, inside, rest⟩ := prepared.1
    exact ⟨other, .inl inside, rest⟩
  | cons event front ih =>
    -- A call is either made by this event or by one of the others in front.
    have later (earlier : List Entry) (prepared : Prepared loader earlier
        (front ++ .look entry data :: back)) : ∃ other,
          (other ∈ earlier ∨ .load other ∈ event :: front) ∧ other.place = entry.place
            ∧ data = loadedData loader other := by
      obtain ⟨other, before, rest⟩ := ih prepared
      exact ⟨other, before.imp_right (List.mem_cons_of_mem _), rest⟩
    cases event with
    | enter _ => exact later called prepared
    | look _ _ => exact later called prepared.2
    | load first =>
      obtain ⟨other, before, rest⟩ := later (first :: called) prepared
      refine ⟨other, ?_, rest⟩
      rcases before with inside | called
      · rcases List.mem_cons.mp inside with rfl | inside
        · exact .inr List.mem_cons_self
        · exact .inl inside
      · exact .inr called

/-- A component for which the loader is called has what it gives for fresh data. -/
theorem data_of_load {held : Nat → Data} {called entries : List Entry} {entry : Entry}
    (holds : ∀ place, Holds loader called place (held place))
    (calls : Event.load entry ∈ script loader held entries) :
    afterAll loader held entries entry.place = loadedData loader entry := by
  induction entries generalizing held called with
  | nil => contradiction
  | cons first entries ih =>
    rw [afterAll_cons]
    cases already : (held first.place).isLoaded with
    | true =>
      rw [script_of_loaded already] at calls
      rw [afterEntering_of_loaded already]
      exact ih holds (by simpa using calls)
    | false =>
      rw [script_of_lacking already] at calls
      have calls : entry = first
          ∨ .load entry ∈ script loader (afterEntering loader held first) entries := by
        simpa using calls
      rcases calls with rfl | later
      · -- The call is made now, and what it gives stays to the end.
        have now := afterEntering_of_lacking (holds _) already
        have done : (afterEntering loader held entry entry.place).isLoaded = true := by
          rw [now]
          rfl
        exact (afterAll_of_loaded done entries).trans now
      · exact ih (holds_afterEntering holds already) later

/-- What calling the loader for components with fresh data leaves in the journal. -/
def callsJournal (loader : Loader) : List Entry → Journal
  | [] => .empty
  | entry :: entries =>
    (loader entry.component .fresh).journal.unnoticed ++ callsJournal loader entries

/-- What is left in the journal is left by the calls that are noted. -/
theorem footprint_eq {held : Nat → Data} {called : List Entry} (entries : List Entry)
    (holds : ∀ place, Holds loader called place (held place)) :
    footprint loader held entries
      = callsJournal loader (Event.called (script loader held entries)) := by
  induction entries generalizing held called with
  | nil => rfl
  | cons entry entries ih =>
    -- A call is made with fresh data, since nothing else is held without being loaded.
    cases already : (held entry.place).isLoaded with
    | true =>
      rw [script_of_loaded already, footprint, already, afterEntering_of_loaded already]
      exact (Journal.empty_append _).trans (ih holds)
    | false =>
      have fresh := (holds _).fresh_of_lacking already
      rw [script_of_lacking already, footprint, already, ih (holds_afterEntering holds already),
        fresh]
      rfl

/-! ### Histories of calls -/

/-- The store in which a call renders. -/
def Call.store (call : Call) : Markup.Store := call.store?.getD (.empty call.nonce)

def Call.entry (owner : Nat → Component) (call : Call) : Entry := ⟨call.place, owner call.place⟩

/-- What is noted when a call is made. A part of a render that has no store is not rendered. -/
def callEvents (renderer : Renderer) (owner : Nat → Component) (call : Call) (session : Session) :
    List Event :=
  if call.isRoot || call.store?.isSome then
    (renderer.recordOn renderer.engine renderer.maxDepth.toNat [] (call.entry owner) call.given
      call.inner ⟨⟨call.store, session⟩, []⟩).2.events
  else []

/-- The components that a call comes to. -/
def callOrder (renderer : Renderer) (owner : Nat → Component) (call : Call) : List Entry :=
  renderer.visitOrder call.store.nonce renderer.maxDepth.toNat [] (call.entry owner)

/-- A session, how it began when its data was reset, and what has been done in it since then. -/
structure Period where
  opening : Session
  session : Session
  events : List Event

namespace Period

def start : Period := ⟨.start, .start, []⟩

def afterCall (renderer : Renderer) (owner : Nat → Component) (call : Call) (period : Period) :
    Period :=
  ⟨period.opening, (renderer.perform owner call period.session).2,
    period.events ++ renderer.callEvents owner call period.session⟩

def afterReset (period : Period) : Period :=
  ⟨period.session.resetData, period.session.resetData, []⟩

end Period

/-- What calls that return or whose chain cannot go on, and resets in between, can come to. -/
inductive Comes (renderer : Renderer) (owner : Nat → Component) : Period → Prop where
  | start : Comes renderer owner .start
  | call {period : Period} (before : Comes renderer owner period) (call : Call)
      (settled : Settled (renderer.perform owner call period.session).1) :
      Comes renderer owner (period.afterCall renderer owner call)
  | reset {period : Period} (before : Comes renderer owner period) :
      Comes renderer owner period.afterReset

variable {owner : Nat → Component}

/-- A call that renders does what a part of a render does, and then at most puts elements back. -/
theorem perform_eq (owner : Nat → Component) (call : Call) (session : Session)
    (renders : (call.isRoot || call.store?.isSome) = true) :
    ∃ finish, renderer.perform owner call session
      = ((renderer.renderPart (call.entry owner) call.given call.inner
            ⟨call.store, session⟩).1.bind finish,
        (renderer.renderPart (call.entry owner) call.given call.inner
          ⟨call.store, session⟩).2.session) := by
  obtain ⟨nonce, place, given, inner, isRoot, store?⟩ := call
  -- A whole render puts elements back from its store, a part of one leaves them out.
  cases isRoot with
  | true =>
    let store := store?.getD (.empty nonce)
    refine ⟨fun text => Markup.restore text (renderer.renderPart ⟨place, owner place⟩ given inner
      ⟨store, session⟩).2.store, ?_⟩
    have root := renderer.renderRoot_eq ⟨place, owner place⟩ given inner ⟨store, session⟩
    cases store? with
    | none => exact congrArg (fun ending => (ending.1, ending.2.session)) root
    | some store => exact congrArg (fun ending => (ending.1, ending.2.session)) root
  | false =>
    cases store? with
    | none => contradiction
    | some store =>
      refine ⟨.ok, ?_⟩
      have same (outcome : Except Fault (List Char)) : outcome.bind .ok = outcome := by
        cases outcome <;> rfl
      rw [same]
      rfl

theorem renders_of_settled {call : Call} {session : Session}
    (settled : Settled (renderer.perform owner call session).1) :
    (call.isRoot || call.store?.isSome) = true := by
  obtain ⟨nonce, place, given, inner, isRoot, store?⟩ := call
  cases isRoot with
  | true => rfl
  | false =>
    cases store? with
    | none => exact absurd settled id
    | some store => rfl

/-- A settled call has entered components in their order, all of them if it returns, and what it
has noted and what it makes of the session are those of these components. -/
theorem perform_visits (present : renderer.loader? = some loader)
    (loads : ∀ component data, (loader component data).outcome = .ok ()) {call : Call}
    {session : Session} (settled : Settled (renderer.perform owner call session).1) :
    ∃ entries, entries <+: renderer.callOrder owner call ∧
      renderer.callEvents owner call session = script loader session.data entries ∧
      Enters loader session (renderer.perform owner call session).2 entries ∧
      ∀ text, (renderer.perform owner call session).1 = .ok text →
        entries = renderer.callOrder owner call := by
  have renders := renders_of_settled settled
  obtain ⟨finish, performed⟩ := renderer.perform_eq owner call session renders
  let record : Record := ⟨⟨call.store, session⟩, []⟩
  let part := renderer.renderPart (call.entry owner) call.given call.inner record.pass
  have performed : renderer.perform owner call session = (part.1.bind finish, part.2.session) :=
    performed
  obtain ⟨ending, left⟩ := renderer.recordOn_erases renderer.engine renderer.maxDepth.toNat []
    (call.entry owner) call.given call.inner record
  have visited := (visits_recordOn present loads renderer.engine renderer.maxDepth.toNat []
    (call.entry owner) call.given call.inner record rfl).2
  rw [ending, left] at visited
  -- What a root does at the end can fail only after all components have been entered.
  have stopped : Settled part.1 := by
    rw [performed] at settled
    cases ended : part.1 with
    | ok text => trivial
    | error fault =>
      rw [ended] at settled
      exact settled
  obtain ⟨entries, within, events, enters, returned⟩ := visited stopped
  refine ⟨entries, within, ?_, ?_, ?_⟩
  · rw [callEvents, if_pos renders]
    exact events
  · rw [performed]
    exact enters
  · intro text succeeded
    rw [performed] at succeeded
    cases ended : part.1 with
    | ok made => exact (returned made ended).1
    | error fault =>
      rw [ended] at succeeded
      contradiction

/-- Since the last reset, components have been entered one after the other, the first of them with
fresh data. -/
theorem Comes.script (present : renderer.loader? = some loader)
    (loads : ∀ component data, (loader component data).outcome = .ok ()) {period : Period}
    (comes : renderer.Comes owner period) : period.opening.data = (fun _ => .fresh) ∧
    ∃ entries, period.events = script loader (fun _ => .fresh) entries ∧
      Enters loader period.opening period.session entries := by
  induction comes with
  | start => exact ⟨rfl, [], rfl, .none rfl rfl⟩
  | reset => exact ⟨rfl, [], rfl, .none rfl rfl⟩
  | @call period _ call settled ih =>
    obtain ⟨fresh, entries, events, enters⟩ := ih
    -- What a call notes continues the script from the data that is there by then.
    obtain ⟨others, _, noted, more, _⟩ := perform_visits present loads settled
    refine ⟨fresh, entries ++ others, ?_, enters.append more⟩
    rw [Period.afterCall, events, noted, enters.data, fresh, script_append]

/-- Between two resets the loader is called at most once for a component, and all that it has left in
the journal is what these calls leave there. The names of a component are looked up in the data that
a call for it has given before. A component that has not been entered has fresh data; one that the
loader has been called for has what the loader gives when nothing has been loaded. A call has those
components loaded that have not been, in the order in which it first enters them, which is depth
first: a component before its references, from left to right, and these before its base. -/
theorem loads_once (renderer : Renderer) (owner : Nat → Component) {loader : Loader}
    (present : renderer.loader? = some loader)
    (loads : ∀ component data, (loader component data).outcome = .ok ()) {period : Period}
    (comes : renderer.Comes owner period) :
    (Event.loaded period.events).Nodup
      ∧ period.session.journal.unnoticed = period.opening.journal.unnoticed
        ++ callsJournal loader (Event.called period.events)
      ∧ (∀ front entry data back, period.events = front ++ .look entry data :: back →
        ∃ other, .load other ∈ front ∧ other.place = entry.place ∧ data = loadedData loader other)
      ∧ (∀ entry, .load entry ∈ period.events →
        period.session.data entry.place = loadedData loader entry)
      ∧ (∀ place, place ∉ (Event.entered period.events).map Entry.place →
        period.session.data place = .fresh)
      ∧ ∀ call, Settled (renderer.perform owner call period.session).1 →
        let events := renderer.callEvents owner call period.session
        (renderer.perform owner call period.session).2.journal.unnoticed
            = period.session.journal.unnoticed ++ callsJournal loader (Event.called events)
          ∧ Event.loaded events = (((Event.entered events).map Entry.place).filter fun place =>
            place ∉ Event.loaded period.events).eraseDups
          ∧ Event.entered events <+: renderer.callOrder owner call
          ∧ ∀ text, (renderer.perform owner call period.session).1 = .ok text →
            Event.entered events = renderer.callOrder owner call := by
  obtain ⟨fresh, entries, events, enters⟩ := comes.script present loads
  have start : ∀ place, Holds loader [] place ((fun _ => Data.fresh) place) := fun _ => .inl rfl
  have data := enters.data
  rw [fresh] at data
  rw [events, data, entered_script]
  refine ⟨nodup_loaded_script _ entries, ?_, ?_, ?_, ?_, ?_⟩
  · rw [enters.journal, fresh, footprint_eq entries start]
  · intro front entry data back split
    have prepared := prepared_script entries start
    rw [split] at prepared
    obtain ⟨other, before, rest⟩ := prepared.called_before
    exact ⟨other, before.resolve_left List.not_mem_nil, rest⟩
  · exact fun entry called => data_of_load start called
  · exact fun place absent => afterAll_of_not_entered absent
  · intro call settled
    obtain ⟨others, within, noted, more, returned⟩ := perform_visits present loads settled
    obtain ⟨_, now⟩ := holds_afterAll entries start
    rw [← data] at now
    simp only [noted, entered_script]
    refine ⟨?_, ?_, within, returned⟩
    · rw [more.journal, footprint_eq others now]
    -- Data is marked as loaded exactly where the script has called the loader.
    have held (place : Nat) : (!(period.session.data place).isLoaded)
        = decide (place ∉ Event.loaded (script loader (fun _ => .fresh) entries)) := by
      rw [Bool.eq_iff_iff, loaded_script, data]
      simp [← Bool.not_eq_true, isLoaded_afterAll, Data.fresh]
    rw [loaded_script, funext held]

theorem loads_of_unnoticed {after before calls : Journal}
    (left : after.unnoticed = before.unnoticed ++ calls) :
    after.loads = before.loads ++ calls.loads :=
  congrArg Journal.loads left

/-- A call that fails on a cycle has loaded its component. After a reset, two calls for another page
load that page once. -/
theorem loads_once_page :
    let page : Entry := ⟨0, loadingOwner 0⟩
    let given : Data := ⟨[(.str "v", .str "1")], [], true⟩
    let failing : Call := ⟨['m'], 1, [], [], true, none⟩
    let showing : Call := ⟨['k'], 0, [], [], true, none⟩
    let failed := Period.start.afterCall loadingRenderer loadingOwner failing
    let shown := failed.afterReset.afterCall loadingRenderer loadingOwner showing
    let again := shown.afterCall loadingRenderer loadingOwner showing
    Event.loaded failed.events = [1] ∧ failed.session.journal.loads = ["B"]
      ∧ again.events = [.enter page, .load page, .look page given, .enter page, .look page given]
      ∧ (Event.loaded again.events).Nodup
      ∧ again.session.journal.loads = ["B", "A"]
      ∧ again.session.data 0 = given
      ∧ again.session.data 1 = .fresh := by
  intro page given failing showing failed shown again
  have comes : loadingRenderer.Comes loadingOwner again := by
    apply Comes.call _ showing
    · have ended : (loadingRenderer.perform loadingOwner showing shown.session).1 = .ok ['1'] := by
        cbv
      rw [ended]
      trivial
    apply Comes.call _ showing
    · have ended : (loadingRenderer.perform loadingOwner showing failed.afterReset.session).1
          = .ok ['1'] := by cbv
      rw [ended]
      trivial
    apply Comes.reset
    apply Comes.call .start failing
    have ended : (loadingRenderer.perform loadingOwner failing .start).1
        = .error (.cycle ["B", "B"]) := by cbv
    rw [Period.start, ended]
    trivial
  have events : again.events = [.enter page, .load page, .look page given, .enter page,
      .look page given] := by
    cbv
  obtain ⟨once, left, -, data, fresh, -⟩ :=
    loads_once loadingRenderer loadingOwner rfl (fun _ _ => rfl) comes
  have called : Event.load page ∈ again.events := by
    rw [events]
    exact List.mem_cons_of_mem _ List.mem_cons_self
  -- What the period has added to the journal is one call for the page.
  have names : again.session.journal.loads = ["B", "A"] := by
    have opening : again.opening.journal.loads = ["B"] := by cbv
    have added := loads_of_unnoticed left
    rw [events, opening] at added
    exact added
  -- The component that failed was entered in the earlier period only.
  have absent : 1 ∉ (Event.entered again.events).map Entry.place := by
    have visits : (Event.entered again.events).map Entry.place = [0, 0] := by
      rw [events]
      rfl
    rw [visits]
    decide
  exact ⟨by cbv, by cbv, events, once, names, data page called, fresh 1 absent⟩

end StaticSite.Renderer
