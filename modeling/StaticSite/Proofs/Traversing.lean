import Mathlib.Data.List.Forall2
import StaticSite.Reported

/-!
# Traversals

A step is taken for each item of a list. The traversal has a value exactly if every step has one, and
its value is the list of theirs; else it ends in the fault of the first step that ends in one.
-/

namespace StaticSite

variable {α β : Type}

/-- Each item of a list has its partner in a related one. -/
theorem exists_partner {R : α → β → Prop} {items : List α} {others : List β}
    (related : List.Forall₂ R items others) : ∀ item ∈ items, ∃ other ∈ others, R item other := by
  induction related with
  | nil => exact nofun
  | cons first _ ih =>
    refine List.forall_mem_cons.mpr ⟨⟨_, List.mem_cons_self, first⟩, fun item listed => ?_⟩
    obtain ⟨other, inside, related⟩ := ih item listed
    exact ⟨other, List.mem_cons_of_mem _ inside, related⟩

theorem forall₂_append {R : α → β → Prop} {front back : List α} {results : List β}
    (related : List.Forall₂ R (front ++ back) results) : ∃ first second,
      List.Forall₂ R front first ∧ List.Forall₂ R back second ∧ results = first ++ second := by
  have flipped := related.flip
  exact ⟨_, _, (List.forall₂_take_append _ _ _ flipped).flip,
    (List.forall₂_drop_append _ _ _ flipped).flip, (List.take_append_drop front.length results).symm⟩

/-- Items that each have a partner have a related list. -/
theorem exists_forall₂ {R : α → β → Prop} {items : List α}
    (each : ∀ item ∈ items, ∃ other, R item other) : ∃ others, List.Forall₂ R items others := by
  induction items with
  | nil => exact ⟨[], .nil⟩
  | cons item items ih =>
    obtain ⟨⟨other, first⟩, rest⟩ := List.forall_mem_cons.mp each
    obtain ⟨others, related⟩ := ih rest
    exact ⟨other :: others, .cons first related⟩

namespace Fault

variable {f : α → Except Fault β} {items : List α}

theorem mapM_eq_ok_iff {results : List β} :
    items.mapM f = .ok results ↔
      List.Forall₂ (fun item result => f item = .ok result) items results := by
  constructor
  · intro ended
    induction items generalizing results with
    | nil =>
      cases ended
      exact .nil
    | cons item items ih =>
      rw [List.mapM_cons] at ended
      obtain ⟨result, first, ended⟩ := bind_eq_ok ended
      obtain ⟨rest, others, ended⟩ := bind_eq_ok ended
      cases ended
      exact .cons first (ih others)
  · intro each
    induction each with
    | nil => rfl
    | cons first _ ih =>
      rw [List.mapM_cons, first, ih]
      rfl

/-- The first step that ends in a fault decides. -/
theorem mapM_eq_error_iff {fault : Fault} :
    items.mapM f = .error fault ↔ ∃ front item back, items = front ++ item :: back
      ∧ (∀ before ∈ front, ∃ result, f before = .ok result) ∧ f item = .error fault := by
  induction items with
  | nil => simp [pure, Except.pure]
  | cons first items ih =>
    rw [List.mapM_cons]
    cases here : f first with
    | error other =>
      constructor
      · rintro ⟨⟩
        exact ⟨[], first, items, rfl, nofun, here⟩
      · rintro ⟨front, item, back, shape, before, ended⟩
        cases front with
        | nil =>
          obtain ⟨rfl, rfl⟩ := List.cons.inj shape
          rw [here] at ended
          cases ended
          rfl
        | cons second front =>
          obtain ⟨rfl, rfl⟩ := List.cons.inj shape
          obtain ⟨result, fine⟩ := before first List.mem_cons_self
          rw [here] at fine
          contradiction
    | ok result =>
      -- The first step is fine, so the one that ends in the fault stands behind it.
      have behind : (do
          let rest ← items.mapM f
          return result :: rest : Except Fault (List β)) = .error fault
            ↔ items.mapM f = .error fault := by
        cases items.mapM f <;> simp [bind, Except.bind, pure, Except.pure]
      refine behind.trans (ih.trans ?_)
      constructor
      · rintro ⟨front, item, back, rfl, before, ended⟩
        exact ⟨first :: front, item, back, rfl, List.forall_mem_cons.mpr ⟨⟨result, here⟩, before⟩,
          ended⟩
      · rintro ⟨front, item, back, shape, before, ended⟩
        cases front with
        | nil =>
          obtain ⟨rfl, rfl⟩ := List.cons.inj shape
          rw [here] at ended
          contradiction
        | cons second front =>
          obtain ⟨rfl, rfl⟩ := List.cons.inj shape
          exact ⟨front, item, back, rfl, (List.forall_mem_cons.mp before).2, ended⟩

end Fault

namespace Reported

theorem bind_eq_ok {first : Reported α} {next : α → Reported β} {b : β}
    (ended : (first >>= next).outcome = .ok b) :
    ∃ a, first.outcome = .ok a ∧ (next a).outcome = .ok b := by
  rw [outcome_bind] at ended
  cases starting : first.outcome with
  | error fault =>
    rw [starting] at ended
    contradiction
  | ok a =>
    rw [starting] at ended
    exact ⟨a, rfl, ended⟩

theorem mapM_eq_ok {f : α → Reported β} {items : List α} {results : List β}
    (ended : (items.mapM f).outcome = .ok results) :
    List.Forall₂ (fun item result => (f item).outcome = .ok result) items results := by
  induction items generalizing results with
  | nil =>
    cases ended
    exact .nil
  | cons item items ih =>
    rw [List.mapM_cons] at ended
    obtain ⟨result, first, second⟩ := bind_eq_ok ended
    obtain ⟨rest, others, last⟩ := bind_eq_ok second
    cases last
    exact .cons first (ih others)

theorem mapM_ok_iff {f : α → Reported β} {items : List α} {results : List β} :
    (items.mapM f).outcome = .ok results ↔
      List.Forall₂ (fun item result => (f item).outcome = .ok result) items results := by
  constructor
  · exact mapM_eq_ok
  · intro each
    induction each with
    | nil => rfl
    | cons first others ih =>
      rw [List.mapM_cons, outcome_bind, first]
      show Reported.outcome _ = _
      rw [outcome_bind, ih]
      rfl

/-- A traversal succeeds exactly if each of its steps does. -/
theorem mapM_succeeds_iff {f : α → Reported β} {items : List α} :
    (∃ results, (items.mapM f).outcome = .ok results) ↔
      ∀ item ∈ items, ∃ result, (f item).outcome = .ok result := by
  simp only [mapM_ok_iff]
  constructor
  · rintro ⟨results, each⟩ item listed
    obtain ⟨result, -, ended⟩ := exists_partner each item listed
    exact ⟨result, ended⟩
  · exact exists_forall₂

end Reported

end StaticSite
