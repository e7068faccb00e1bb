import StaticSite.Action

/-!
# How actions end

`Action.Ends` says of an action that, from every state with an invariant, it ends in one given
fault, or in some value with a property when no fault is given. The invariant holds again
afterwards, fault or not. One lemma for each way to build an action derives how the whole ends from
how its parts end; what a part makes of the state does not matter beyond the invariant.

`Action.Keeps` says the part about the invariant alone, for actions that may end in any way. The
lemmas about equations with a result take a run that is given apart into the runs of its parts.
-/

namespace StaticSite.Action

variable {σ τ α β : Type}

/-- The fault that is given, or a value with the property if none is given. -/
def Results (post : α → Prop) (outcome : Except Fault α) (fault? : Option Fault) : Prop :=
  match outcome with
  | .ok a => fault? = none ∧ post a
  | .error fault => fault? = some fault

def Ends (inv : σ → Prop) (post : α → Prop) (action : Action σ α) (fault? : Option Fault) : Prop :=
  ∀ s, inv s → inv (action s).2 ∧ Results post (action s).1 fault?

namespace Ends

variable {inv : σ → Prop} {post : α → Prop} {made : β → Prop}

theorem pure {a : α} (holds : post a) : Ends inv post (Pure.pure a) none :=
  fun _ here => ⟨here, rfl, holds⟩

theorem fail (fault : Fault) : Ends inv post (Action.fail fault : Action σ α) (some fault) :=
  fun _ here => ⟨here, rfl⟩

theorem lift {a : α} {outcome : Except Fault α} (ended : outcome = .ok a) (holds : post a) :
    Ends inv post (Action.lift outcome : Action σ α) none := by
  intro s here
  subst ended
  exact ⟨here, rfl, holds⟩

/-- The first fault of two actions is the fault of both together. -/
theorem bind {action : Action σ α} {next : α → Action σ β} {fault? later? : Option Fault}
    (first : Ends inv post action fault?) (second : ∀ a, post a → Ends inv made (next a) later?) :
    Ends inv made (action >>= next) (fault?.or later?) := by
  intro s here
  have ended := first s here
  cases run : action s with
  | mk outcome t =>
    rw [run] at ended
    obtain ⟨kept, ended⟩ := ended
    cases outcome with
    | ok a =>
      obtain ⟨rfl, holds⟩ := ended
      rw [Action.bind_of_ok run, Option.none_or]
      exact second a holds t kept
    | error fault =>
      rw [Action.bind_of_error run]
      obtain rfl : fault? = some fault := ended
      exact ⟨kept, rfl⟩

theorem bind_none {action : Action σ α} {next : α → Action σ β} {later? : Option Fault}
    (first : Ends inv post action none) (second : ∀ a, post a → Ends inv made (next a) later?) :
    Ends inv made (action >>= next) later? := by
  have whole := first.bind second
  rwa [Option.none_or] at whole

/-- What an action gives can be changed without another fault. -/
theorem map {f : α → β} {action : Action σ α} {fault? : Option Fault}
    (ended : Ends inv post action fault?) (holds : ∀ a, post a → made (f a)) :
    Ends inv made (action >>= fun a => Pure.pure (f a)) fault? := by
  have whole := ended.bind fun a here => (pure (holds a here) : Ends inv made (Pure.pure (f a)) none)
  rwa [Option.or_none] at whole

/-- An action on a part of the state that the invariant does not look at. -/
theorem within {view : σ → τ} {update : τ → σ → σ} {action : Action τ α} {fault? : Option Fault}
    (ended : Ends (fun _ => True) post action fault?) (frame : ∀ t s, inv s → inv (update t s)) :
    Ends inv post (action.within view update) fault? :=
  fun s here => ⟨frame _ s here, (ended (view s) trivial).2⟩

end Ends

/-! ### Invariants -/

def Keeps (inv : σ → Prop) (action : Action σ α) : Prop := ∀ s, inv s → inv (action s).2

namespace Keeps

variable {inv : σ → Prop}

theorem pure (a : α) : Keeps inv (Pure.pure a : Action σ α) := fun _ here => here

theorem get : Keeps inv (Action.get : Action σ σ) := fun _ here => here

theorem fail (fault : Fault) : Keeps inv (Action.fail fault : Action σ α) := fun _ here => here

theorem lift (outcome : Except Fault α) : Keeps inv (Action.lift outcome : Action σ α) :=
  fun _ here => here

theorem modify {change : σ → σ} (kept : ∀ s, inv s → inv (change s)) :
    Keeps inv (Action.modify change) := kept

theorem change {step : σ → Except Fault σ} (kept : ∀ s t, inv s → step s = .ok t → inv t) :
    Keeps inv (Action.change step) := by
  intro s here
  unfold Action.change
  cases ended : step s with
  | ok t => exact kept s t here ended
  | error fault => exact here

theorem attempt {action : Action σ α} (kept : Keeps inv action) : Keeps inv action.attempt := kept

theorem bind {action : Action σ α} {next : α → Action σ β} (first : Keeps inv action)
    (second : ∀ a, Keeps inv (next a)) : Keeps inv (action >>= next) := by
  intro s here
  have kept := first s here
  cases run : action s with
  | mk outcome t =>
    rw [run] at kept
    cases outcome with
    | ok a =>
      rw [Action.bind_of_ok run]
      exact second a t kept
    | error fault =>
      rw [Action.bind_of_error run]
      exact kept

theorem within {view : σ → τ} {update : τ → σ → σ} {action : Action τ α}
    (kept : ∀ s, inv s → inv (update (action (view s)).2 s)) : Keeps inv (action.within view update) :=
  kept

end Keeps

/-! ### Runs taken apart -/

theorem bind_eq_ok {first : Action σ α} {next : α → Action σ β} {s t : σ} {b : β} :
    (first >>= next) s = (.ok b, t) ↔ ∃ a m, first s = (.ok a, m) ∧ next a m = (.ok b, t) := by
  cases run : first s with
  | mk outcome m =>
    cases outcome with
    | ok a =>
      rw [Action.bind_of_ok run]
      constructor
      · exact fun ended => ⟨a, m, rfl, ended⟩
      · rintro ⟨_, _, first, ended⟩
        cases first
        exact ended
    | error fault => simp [Action.bind_of_error run]

theorem bind_eq_error {first : Action σ α} {next : α → Action σ β} {s t : σ} {fault : Fault} :
    (first >>= next) s = (.error fault, t) ↔
      first s = (.error fault, t) ∨ ∃ a m, first s = (.ok a, m) ∧ next a m = (.error fault, t) := by
  cases run : first s with
  | mk outcome m =>
    cases outcome with
    | ok a =>
      rw [Action.bind_of_ok run]
      constructor
      · exact fun ended => .inr ⟨a, m, rfl, ended⟩
      · rintro (first | ⟨_, _, first, ended⟩)
        · cases first
        · cases first
          exact ended
    | error fault => simp [Action.bind_of_error run]

theorem lift_eq_ok {outcome : Except Fault α} {s t : σ} {a : α} :
    Action.lift outcome s = (.ok a, t) ↔ outcome = .ok a ∧ s = t := by
  rw [Action.lift, Prod.mk.injEq]

theorem attempt_eq_ok {action : Action σ α} {s t : σ} {outcome : Except Fault α} :
    action.attempt s = (.ok outcome, t) ↔ action s = (outcome, t) := by
  unfold Action.attempt
  cases action s
  simp

theorem attempt_ne_error {action : Action σ α} {s t : σ} {fault : Fault} :
    action.attempt s ≠ (.error fault, t) := by
  unfold Action.attempt
  cases action s
  simp

theorem onFault_eq_ok {action : Action σ α} {cleanup : Action σ Unit} {s t : σ} {a : α} :
    action.onFault cleanup s = (.ok a, t) ↔ action s = (.ok a, t) := by
  unfold Action.onFault
  cases run : action s with
  | mk outcome m => cases outcome <;> simp

theorem onFault_eq_error {action : Action σ α} {cleanup : Action σ Unit} {s t : σ}
    {fault : Fault} :
    action.onFault cleanup s = (.error fault, t) ↔
      ∃ m, action s = (.error fault, m) ∧ t = (cleanup m).2 := by
  unfold Action.onFault
  cases run : action s with
  | mk outcome m =>
    cases outcome with
    | ok a => simp
    | error stopped =>
      constructor
      · intro ended
        cases ended
        exact ⟨m, rfl, rfl⟩
      · rintro ⟨_, stop, rfl⟩
        cases stop
        rfl

theorem change_eq_ok {step : σ → Except Fault σ} {s t : σ} :
    Action.change step s = (.ok (), t) ↔ step s = .ok t := by
  unfold Action.change
  cases step s <;> simp

theorem change_eq_error {step : σ → Except Fault σ} {s t : σ} {fault : Fault} :
    Action.change step s = (.error fault, t) ↔ step s = .error fault ∧ t = s := by
  unfold Action.change
  cases step s <;> simp [eq_comm]

end StaticSite.Action
