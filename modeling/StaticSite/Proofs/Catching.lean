import StaticSite.Fault

/-!
# Results whose faults are known

`Confined allowed good` says of a result that it is good, or a fault that is allowed. One lemma for
each way to combine results derives it of the whole from its parts. `Caught` allows the faults that
a template survives when it evaluates an expression.
-/

namespace StaticSite

variable {α β : Type} {allowed : Fault → Prop} {good : α → Prop} {fine : β → Prop}

def Confined (allowed : Fault → Prop) (good : α → Prop) : Except Fault α → Prop
  | .ok a => good a
  | .error fault => allowed fault

@[simp] theorem confined_ok {a : α} : Confined allowed good (.ok a) ↔ good a := Iff.rfl

@[simp] theorem confined_pure {a : α} : Confined allowed good (pure a) ↔ good a := Iff.rfl

@[simp] theorem confined_error {fault : Fault} :
    Confined allowed good (.error fault) ↔ allowed fault := Iff.rfl

/-- A result that is good, or a fault of evaluation. -/
abbrev Caught (good : α → Prop) (result : Except Fault α) : Prop :=
  Confined (fun fault => fault.isEvaluation = true) good result

/-- A result of any kind, or a fault of evaluation. -/
abbrev Survives (result : Except Fault α) : Prop := Caught (fun _ => True) result

namespace Confined

variable {result : Except Fault α}

theorem mono {wider : Fault → Prop} {weaker : α → Prop} (ends : Confined allowed good result)
    (faults : ∀ fault, allowed fault → wider fault) (values : ∀ a, good a → weaker a) :
    Confined wider weaker result := by
  cases result with
  | ok a => exact values a ends
  | error fault => exact faults fault ends

/-- What is not asked of the value. -/
theorem forget (ends : Confined allowed good result) : Confined allowed (fun _ => True) result :=
  ends.mono (fun _ => id) fun _ _ => trivial

theorem bind {next : α → Except Fault β} (first : Confined allowed good result)
    (rest : ∀ a, good a → Confined allowed fine (next a)) :
    Confined allowed fine (result >>= next) := by
  cases result with
  | ok a => exact rest a first
  | error fault => exact first

/-- A step that has a value. -/
theorem ok_bind {a : α} {next : α → Except Fault β} (rest : Confined allowed fine (next a)) :
    Confined allowed fine (.ok a >>= next) := rest

theorem map {f : α → β} (first : Confined allowed good result) (keeps : ∀ a, good a → fine (f a)) :
    Confined allowed fine (result.map f) := by
  cases result with
  | ok a => exact keeps a first
  | error fault => exact first

theorem of_eq_ok {a : α} (ends : Confined allowed good result) (ended : result = .ok a) :
    good a := by
  rw [ended] at ends
  exact ends

theorem of_eq_error {fault : Fault} (ends : Confined allowed good result)
    (ended : result = .error fault) : allowed fault := by
  rw [ended] at ends
  exact ends

theorem mapM {f : α → Except Fault β} {items : List α}
    (each : ∀ a ∈ items, Confined allowed fine (f a)) :
    Confined allowed (fun results => ∀ b ∈ results, fine b) (items.mapM f) := by
  induction items with
  | nil => exact List.forall_mem_nil fine
  | cons a items ih =>
    obtain ⟨here, there⟩ := List.forall_mem_cons.mp each
    rw [List.mapM_cons]
    exact here.bind fun b first => (ih there).bind fun _ rest =>
      List.forall_mem_cons.mpr ⟨first, rest⟩

theorem filterMapM {f : α → Except Fault (Option β)} {items : List α}
    (each : ∀ a ∈ items, Confined allowed (fun _ => True) (f a)) :
    Confined allowed (fun _ => True) (items.filterMapM f) := by
  induction items with
  | nil => trivial
  | cons a items ih =>
    obtain ⟨here, there⟩ := List.forall_mem_cons.mp each
    rw [List.filterMapM_cons]
    refine here.bind fun b? _ => ?_
    cases b? with
    | none => exact ih there
    | some b => exact (ih there).bind fun _ _ => trivial

/-- What each step keeps holds at the end. -/
theorem foldlM {step : β → α → Except Fault β} {items : List α} {start : β} (first : fine start)
    (kept : ∀ b, fine b → ∀ a ∈ items, Confined allowed fine (step b a)) :
    Confined allowed fine (items.foldlM step start) := by
  induction items generalizing start with
  | nil => exact first
  | cons a items ih =>
    rw [List.foldlM_cons]
    refine (kept start first a List.mem_cons_self).bind fun next holds => ?_
    exact ih holds fun b here c listed => kept b here c (List.mem_cons_of_mem a listed)

end Confined

/-! ### What may be missing -/

theorem forall_mem_none : ∀ a ∈ (none : Option α), good a := nofun

theorem forall_mem_some {a : α} (holds : good a) : ∀ b ∈ some a, good b := fun _ same =>
  Option.mem_some.mp same ▸ holds

end StaticSite
