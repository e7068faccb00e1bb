import StaticSite.Fault
import StaticSite.Notice

/-!
# Computations that report

A computation yields notices in order and ends in a value or a fault; a fault keeps the notices
that came before it.
-/

namespace StaticSite

structure Reported (α : Type) where
  notices : List Notice
  outcome : Except Fault α

namespace Reported

variable {α β : Type}

protected def pure (a : α) : Reported α := ⟨[], .ok a⟩

protected def bind (first : Reported α) (next : α → Reported β) : Reported β :=
  match first.outcome with
  | .ok a => ⟨first.notices ++ (next a).notices, (next a).outcome⟩
  | .error fault => ⟨first.notices, .error fault⟩

instance : Monad Reported where
  pure := Reported.pure
  bind := Reported.bind

def fail (fault : Fault) : Reported α := ⟨[], .error fault⟩

def lift (outcome : Except Fault α) : Reported α := ⟨[], outcome⟩

def note (severity : Severity) (channel : Channel) (text : String) : Reported Unit :=
  ⟨[⟨severity, channel, text⟩], .ok ()⟩

def warn (channel : Channel) (text : String) : Reported Unit := note .warning channel text

@[simp] theorem notices_pure (a : α) : (pure a : Reported α).notices = [] := rfl

@[simp] theorem outcome_pure (a : α) : (pure a : Reported α).outcome = .ok a := rfl

theorem outcome_bind (first : Reported α) (next : α → Reported β) :
    (first >>= next).outcome = first.outcome.bind fun a => (next a).outcome := by
  show (Reported.bind first next).outcome = _
  unfold Reported.bind
  cases first.outcome <;> rfl

/-- The value of a computation that ends in one. -/
def value? (result : Reported α) : Option α := result.outcome.toOption

@[simp] theorem value?_pure (a : α) : (pure a : Reported α).value? = some a := rfl

@[simp] theorem value?_lift (outcome : Except Fault α) : (lift outcome).value? = outcome.toOption :=
  rfl

@[simp] theorem value?_fail (fault : Fault) : (fail fault : Reported α).value? = none := rfl

theorem value?_bind (first : Reported α) (next : α → Reported β) :
    (first >>= next).value? = first.value?.bind fun a => (next a).value? := by
  simp only [value?, outcome_bind]
  cases first.outcome <;> rfl

@[simp] theorem value?_note (severity : Severity) (channel : Channel) (text : String) :
    (note severity channel text).value? = some () := rfl

@[simp] theorem value?_warn (channel : Channel) (text : String) :
    (warn channel text).value? = some () := rfl

theorem outcome_eq_ok_of_value? {result : Reported α} {a : α} (ended : result.value? = some a) :
    result.outcome = .ok a := by
  unfold value? at ended
  cases ending : result.outcome with
  | error fault => rw [ending] at ended; contradiction
  | ok b => rw [ending] at ended; simpa [Except.toOption] using ended

theorem value?_of_outcome {result : Reported α} {a : α} (ended : result.outcome = .ok a) :
    result.value? = some a := by
  rw [value?, ended]
  rfl

instance : LawfulMonad Reported := LawfulMonad.mk' Reported
  (by
    intro α x; obtain ⟨notices, outcome⟩ := x
    show Reported.bind _ _ = _
    cases outcome <;> simp [Reported.bind, Reported.pure])
  (by
    intro α β x f
    show Reported.bind (Reported.pure x) f = f x
    simp [Reported.bind, Reported.pure])
  (by
    intro α β γ x f g
    show Reported.bind (Reported.bind x f) g = Reported.bind x fun a => Reported.bind (f a) g
    obtain ⟨notices, outcome⟩ := x
    cases outcome with
    | error fault => rfl
    | ok a =>
      simp only [Reported.bind]
      cases (f a).outcome <;> simp)

end Reported

end StaticSite
