import StaticSite.Proofs.Ending
import StaticSite.Reported

/-!
# Computations that agree

Two computations agree if they end in related values or in the same fault. Two actions are compared
on states of their own, which stay related as well, whether the actions end in values or in a fault.
One lemma for each way to build a computation derives that the wholes agree from that of the parts.
-/

namespace StaticSite

variable {α β γ δ σ τ : Type}

inductive Agree (related : α → β → Prop) : Except Fault α → Except Fault β → Prop where
  | ok {a : α} {b : β} (holds : related a b) : Agree related (.ok a) (.ok b)
  | error (fault : Fault) : Agree related (.error fault) (.error fault)

namespace Agree

variable {related : α → β → Prop} {made : γ → δ → Prop} {first : Except Fault α}
  {second : Except Fault β}

theorem bind {f : α → Except Fault γ} {g : β → Except Fault δ} (agree : Agree related first second)
    (next : ∀ {a b}, first = .ok a → second = .ok b → related a b → Agree made (f a) (g b)) :
    Agree made (first.bind f) (second.bind g) := by
  cases agree with
  | ok holds => exact next rfl rfl holds
  | error fault => exact .error fault

theorem map {f : α → γ} {g : β → δ} (agree : Agree related first second)
    (implies : ∀ a b, related a b → made (f a) (g b)) :
    Agree made (first.map f) (second.map g) := by
  cases agree with
  | ok holds => exact .ok (implies _ _ holds)
  | error fault => exact .error fault

/-- A computation agrees with itself. -/
theorem refl {related : α → α → Prop} (outcome : Except Fault α)
    (same : ∀ a, outcome = .ok a → related a a) : Agree related outcome outcome := by
  cases outcome with
  | ok a => exact .ok (same a rfl)
  | error fault => exact .error fault

end Agree

namespace Action

/-- The runs of two actions agree on their results, and leave related states. -/
structure Abreast (related : α → β → σ → τ → Prop) (beside : σ → τ → Prop)
    (first : Except Fault α × σ) (second : Except Fault β × τ) : Prop where
  states : beside first.2 second.2
  results : Agree (fun a b => related a b first.2 second.2) first.1 second.1

namespace Abreast

variable {related : α → β → σ → τ → Prop} {made : γ → δ → σ → τ → Prop}
  {beside weaker : σ → τ → Prop} {s : σ} {t : τ}

theorem mono {first : Except Fault α × σ} {second : Except Fault β × τ}
    (abreast : Abreast related beside first second) (implies : ∀ s t, beside s t → weaker s t) :
    Abreast related weaker first second := ⟨implies _ _ abreast.states, abreast.results⟩

theorem pure {a : α} {b : β} (states : beside s t) (holds : related a b s t) :
    Abreast related beside ((Pure.pure a : Action σ α) s) ((Pure.pure b : Action τ β) t) :=
  ⟨states, .ok holds⟩

/-- What comes next is compared on the states that the first actions have left. -/
theorem bind {first : Action σ α} {second : Action τ β} {f : α → Action σ γ} {g : β → Action τ δ}
    (abreast : Abreast related beside (first s) (second t))
    (next : ∀ {a b s' t'}, first s = (.ok a, s') → second t = (.ok b, t') → beside s' t' →
      related a b s' t' → Abreast made beside (f a s') (g b t')) :
    Abreast made beside ((first >>= f) s) ((second >>= g) t) := by
  obtain ⟨states, results⟩ := abreast
  rcases one : first s with ⟨outcome, s'⟩
  rcases two : second t with ⟨result, t'⟩
  rw [one, two] at states results
  cases results with
  | ok holds =>
    rw [Action.bind_of_ok one, Action.bind_of_ok two]
    exact next one two states holds
  | error fault =>
    rw [Action.bind_of_error one, Action.bind_of_error two]
    exact ⟨states, .error fault⟩

end Abreast

end Action

end StaticSite
