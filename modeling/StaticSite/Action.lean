import StaticSite.Fault

/-!
# Actions

An action works on a state and ends in a value or a fault. A fault keeps the state as it was when
it arose, so what was done before it stays done.
-/

namespace StaticSite

def Action (σ α : Type) : Type := σ → Except Fault α × σ

namespace Action

variable {σ τ α β : Type}

protected def pure (a : α) : Action σ α := fun s => (.ok a, s)

protected def bind (first : Action σ α) (next : α → Action σ β) : Action σ β := fun s =>
  match first s with
  | (.ok a, t) => next a t
  | (.error fault, t) => (.error fault, t)

instance : Monad (Action σ) where
  pure := Action.pure
  bind := Action.bind

def run (action : Action σ α) (s : σ) : Except Fault α × σ := action s

def fail (fault : Fault) : Action σ α := fun s => (.error fault, s)

/-- A result that needs no state. -/
def lift (outcome : Except Fault α) : Action σ α := fun s => (outcome, s)

def get : Action σ σ := fun s => (.ok s, s)

def read (view : σ → α) : Action σ α := fun s => (.ok (view s), s)

def modify (change : σ → σ) : Action σ Unit := fun s => (.ok (), change s)

/-- A change that may be refused; a refused change leaves the state alone. -/
def change (step : σ → Except Fault σ) : Action σ Unit := fun s =>
  match step s with
  | .ok t => (.ok (), t)
  | .error fault => (.error fault, s)

/-- The outcome of an action as a value. -/
def attempt (action : Action σ α) : Action σ (Except Fault α) := fun s =>
  let (outcome, t) := action s
  (.ok outcome, t)

/-- Runs `cleanup` after a fault, whose own outcome does not matter. -/
def onFault (action : Action σ α) (cleanup : Action σ Unit) : Action σ α := fun s =>
  match action s with
  | (.ok a, t) => (.ok a, t)
  | (.error fault, t) => (.error fault, (cleanup t).2)

/-- An action on a part of the state. -/
def within (view : σ → τ) (update : τ → σ → σ) (action : Action τ α) : Action σ α := fun s =>
  let (outcome, t) := action (view s)
  (outcome, update t s)

theorem bind_of_ok {first : Action σ α} {next : α → Action σ β} {s t : σ} {a : α}
    (ended : first s = (.ok a, t)) : (first >>= next) s = next a t := by
  show Action.bind first next s = _
  simp [Action.bind, ended]

theorem bind_of_error {first : Action σ α} {next : α → Action σ β} {s t : σ} {fault : Fault}
    (ended : first s = (.error fault, t)) : (first >>= next) s = (.error fault, t) := by
  show Action.bind first next s = _
  simp [Action.bind, ended]

@[simp] theorem pure_apply (a : α) (s : σ) : (pure a : Action σ α) s = (.ok a, s) := rfl

instance : LawfulMonad (Action σ) := LawfulMonad.mk' (Action σ)
  (by
    intro α x; funext s
    show (match x s with
      | (.ok a, t) => (.ok a, t)
      | (.error fault, t) => (.error fault, t)) = x s
    rcases x s with ⟨outcome, t⟩
    cases outcome <;> rfl)
  (by intros; rfl)
  (by
    intro α β γ x f g; funext s
    show Action.bind (Action.bind x f) g s = Action.bind x (fun a => Action.bind (f a) g) s
    simp only [Action.bind]
    rcases x s with ⟨outcome, t⟩
    cases outcome <;> rfl)

end Action

end StaticSite
