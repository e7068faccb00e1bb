import StaticSite.Operation.Filter
import StaticSite.Proofs.Operation.Operators

/-!
# Tests of tame values

A test of a tame value by arguments that are tame decides, or fails in a fault of evaluation.
-/

namespace StaticSite.Operation

open StaticSite.Text StaticSite.Value

/-- All values that parameters have are tame. -/
abbrev Bound.Tame (given : Bound) : Prop := ∀ value? ∈ given, ∀ value ∈ value?, value.Tame

theorem Bound.Tame.get {given : Bound} (tame : given.Tame) (place : Nat) {otherwise : Value}
    (plain : otherwise.Tame) : (given.get place otherwise).Tame := by
  unfold Bound.get
  cases there : given[place]? with
  | none => exact plain
  | some value? => cases value? with
    | none => exact plain
    | some value => exact tame _ (List.mem_of_getElem? there) value rfl

theorem fillParameters_caught (parameters : List String) {positional : List Value}
    (each : ∀ v ∈ positional, v.Tame) :
    Caught Bound.Tame (fillParameters [] parameters positional) := by
  induction parameters generalizing positional with
  | nil => cases positional with
    | nil => exact List.forall_mem_nil _
    | cons v positional => rfl
  | cons name parameters ih => cases positional with
    | nil =>
      refine (ih (List.forall_mem_nil _)).map fun given tame => ?_
      exact List.forall_mem_cons.mpr ⟨forall_mem_none, tame⟩
    | cons v positional =>
      obtain ⟨here, there⟩ := List.forall_mem_cons.mp each
      refine (ih there).map fun given tame => ?_
      exact List.forall_mem_cons.mpr ⟨forall_mem_some here, tame⟩

theorem bind_caught (parameters : List String) (required : Nat) {positional : List Value}
    (each : ∀ v ∈ positional, v.Tame) :
    Caught Bound.Tame (bind parameters required ⟨positional, []⟩) := by
  refine (fillParameters_caught parameters each).bind fun given tame => ?_
  split
  · rfl
  split
  · rfl
  · exact tame

theorem byPosition_caught (least most : Nat) {positional : List Value}
    (each : ∀ v ∈ positional, v.Tame) :
    Caught (fun values => ∀ v ∈ values, v.Tame) (byPosition least most ⟨positional, []⟩) := by
  unfold byPosition
  split
  · exact each
  · rfl

theorem leaves_survives (v divisor : Value) (rest : Int) : Survives (leaves v divisor rest) :=
  (modulo_caught v divisor).bind fun _ _ => trivial

theorem test_survives {positional : List Value} (name : String) (v : Value)
    (each : ∀ other ∈ positional, other.Tame) : Survives (test name v ⟨positional, []⟩) := by
  unfold test applyTest
  extract_lets known
  have knows (names : String → Bool) : Survives (known names) := by
    simp only [known]
    split
    · trivial
    · rfl
  split
  · exact (bind_caught [] 0 each).bind fun _ _ => trivial
  -- A comparison takes its operand by position; only `in` names it.
  next operator _ =>
    have given : Caught Bound.Tame (if name = "in" then bind ["seq"] 1 ⟨positional, []⟩
        else (byPosition 1 1 ⟨positional, []⟩).map (·.map some)) := by
      split
      · exact bind_caught ["seq"] 1 each
      · refine (byPosition_caught 1 1 each).map fun values tame value? listed other same => ?_
        obtain ⟨found, there, rfl⟩ := List.mem_map.mp listed
        exact Option.mem_some.mp same ▸ tame found there
    exact given.bind fun given tame => compareWith_survives _ v (tame.get 0 trivial)
  · split
    · exact (bind_caught [] 0 each).bind fun _ _ => leaves_survives _ _ _
    · exact (bind_caught [] 0 each).bind fun _ _ => leaves_survives _ _ _
    · exact (bind_caught ["num"] 1 each).bind fun given _ => leaves_survives v _ 0
    · exact (bind_caught ["other"] 1 each).bind fun _ _ => trivial
    · exact (bind_caught [] 0 each).bind fun _ _ => knows isFilterName
    · exact (bind_caught [] 0 each).bind fun _ _ => knows isTestName
    · rfl

end StaticSite.Operation
