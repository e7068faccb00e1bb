import StaticSite.Api.Source
import StaticSite.Proofs.Ending

/-!
# Loading again

What loading the data of a component comes to is decided by its configuration, the settings and the
answers of the network. What has been loaded before makes no difference: a component whose data
cannot be loaded fails in the same way each time, and never counts as loaded.
-/

namespace StaticSite.Api

open StaticSite.Action (Keeps)

/-- An action that makes no difference between states that differ in their data only. -/
def Oblivious {α : Type} (action : Action Gathering α) : Prop :=
  ∀ first second : Gathering, first.exchange = second.exchange →
    (action first).1 = (action second).1 ∧ (action first).2.exchange = (action second).2.exchange

namespace Oblivious

variable {α β : Type}

theorem pure (a : α) : Oblivious (Pure.pure a) := fun _ _ same => ⟨rfl, same⟩

theorem fail (fault : Fault) : Oblivious (Action.fail fault : Action Gathering α) :=
  fun _ _ same => ⟨rfl, same⟩

theorem lift (outcome : Except Fault α) : Oblivious (Action.lift outcome) :=
  fun _ _ same => ⟨rfl, same⟩

/-- A change of the data alone. -/
theorem modify {change : Gathering → Gathering}
    (kept : ∀ gathering, (change gathering).exchange = gathering.exchange) :
    Oblivious (Action.modify change) :=
  fun first second same => ⟨rfl, ((kept first).trans same).trans (kept second).symm⟩

theorem inExchange (action : Action Exchange α) : Oblivious (Gathering.inExchange action) := by
  intro first second same
  rw [Gathering.inExchange, Action.within, Action.within, same]
  exact ⟨rfl, rfl⟩

theorem bind {action : Action Gathering α} {next : α → Action Gathering β}
    (first : Oblivious action) (rest : ∀ a, Oblivious (next a)) :
    Oblivious (action >>= next) := by
  intro s t same
  obtain ⟨ended, left⟩ := first s t same
  rcases here : action s with ⟨outcome, s'⟩
  rcases there : action t with ⟨other, t'⟩
  rw [here, there] at ended left
  obtain rfl : outcome = other := ended
  cases outcome with
  | error fault =>
    rw [Action.bind_of_error here, Action.bind_of_error there]
    exact ⟨rfl, left⟩
  | ok a =>
    rw [Action.bind_of_ok here, Action.bind_of_ok there]
    exact rest a s' t' left

end Oblivious

namespace Source

variable (source : Source)

theorem fetchInto_oblivious (entry : Mapping.Entries) : Oblivious (source.fetchInto entry) := by
  unfold fetchInto
  refine Oblivious.bind (.inExchange _) fun outcome => ?_
  cases outcome with
  | error fault => exact .inExchange _
  | ok value =>
    dsimp only
    split
    · exact .modify fun _ => rfl
    · exact .fail _

/-- An entry is first fetched and then posted to, as far as it asks for it. -/
theorem gatherEntry_mapping (component : Component) (entry : Mapping.Entries) :
    source.gatherEntry component (.mapping entry)
      = (if isFetched entry then source.fetchInto entry else pure ()) >>= fun _ =>
        if (Field.postType.value entry).isTrue then
          Action.lift (source.postScript entry) >>= Gathering.addScript
        else pure () := by
  rw [gatherEntry]
  cases isFetched entry with
  | true => rfl
  | false => rw [if_neg Bool.false_ne_true, if_neg Bool.false_ne_true, pure_bind]

theorem gatherEntry_oblivious (component : Component) (entry : Value) :
    Oblivious (source.gatherEntry component entry) := by
  by_cases kind : ∃ fields, entry = .mapping fields
  · obtain ⟨fields, rfl⟩ := kind
    rw [gatherEntry_mapping]
    refine Oblivious.bind ?_ fun _ => ?_
    · split
      · exact source.fetchInto_oblivious fields
      · exact .pure _
    · split
      · exact (Oblivious.lift _).bind fun _ => .modify fun _ => rfl
      · exact .pure _
  · unfold gatherEntry
    split
    next fields => exact absurd ⟨fields, rfl⟩ kind
    next => exact .inExchange _

theorem gatherAll_oblivious (component : Component) (entries : List Value) :
    Oblivious (source.gatherAll component entries) := by
  induction entries with
  | nil => exact .pure _
  | cons entry entries ih => exact (source.gatherEntry_oblivious component entry).bind fun _ => ih

theorem gather_oblivious (component : Component) : Oblivious (source.gather component) := by
  have cleared : Oblivious Gathering.clearScripts := .modify fun _ => rfl
  unfold gather
  split
  · exact cleared.bind fun _ => source.gatherAll_oblivious component _
  · exact .pure _

/-! ### What counts as loaded -/

/-- Gathering does not decide what counts as loaded. -/
def Unloaded (gathering : Gathering) : Prop := gathering.data.isLoaded = false

theorem inExchange_keeps {α : Type} (action : Action Exchange α) :
    Keeps Unloaded (Gathering.inExchange action) := Keeps.within fun _ here => here

theorem fetchInto_keeps (entry : Mapping.Entries) : Keeps Unloaded (source.fetchInto entry) := by
  unfold fetchInto
  refine (inExchange_keeps _).bind fun outcome => ?_
  cases outcome with
  | error fault => exact inExchange_keeps _
  | ok value =>
    dsimp only
    split
    · exact Keeps.modify fun _ here => here
    · exact .fail _

theorem gatherEntry_keeps (component : Component) (entry : Value) :
    Keeps Unloaded (source.gatherEntry component entry) := by
  by_cases kind : ∃ fields, entry = .mapping fields
  · obtain ⟨fields, rfl⟩ := kind
    rw [gatherEntry_mapping]
    refine Keeps.bind ?_ fun _ => ?_
    · split
      · exact source.fetchInto_keeps fields
      · exact .pure _
    · split
      · exact (Keeps.lift _).bind fun _ => Keeps.modify fun _ here => here
      · exact .pure _
  · unfold gatherEntry
    split
    next fields => exact absurd ⟨fields, rfl⟩ kind
    next => exact inExchange_keeps _

theorem gather_keeps (component : Component) : Keeps Unloaded (source.gather component) := by
  have all (entries : List Value) : Keeps Unloaded (source.gatherAll component entries) := by
    induction entries with
    | nil => exact .pure _
    | cons entry entries ih => exact (source.gatherEntry_keeps component entry).bind fun _ => ih
  have cleared : Keeps Unloaded Gathering.clearScripts := Keeps.modify fun _ here => here
  unfold gather
  split
  · exact cleared.bind fun _ => all _
  · exact .pure _

/-- Loading fails or succeeds whatever has been loaded before. -/
theorem loader_outcome (component : Component) (data other : Component.Data) :
    (source.loader component data).outcome = (source.loader component other).outcome :=
  (source.gather_oblivious component ⟨.start, data⟩ ⟨.start, other⟩ rfl).1

theorem loader_unloaded (component : Component) {data : Component.Data}
    (unloaded : data.isLoaded = false) :
    (source.loader component data).data.isLoaded = false :=
  source.gather_keeps component ⟨.start, data⟩ unloaded

end Source

end StaticSite.Api
