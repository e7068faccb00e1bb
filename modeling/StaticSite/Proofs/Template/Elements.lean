import Mathlib
import StaticSite.Expression.Program
import StaticSite.Proofs.Template.Paths

/-!
# What loops can write

The collection of a loop is evaluated under guard: a fault of evaluation is reported, and the loop
leaves nothing. What the loop then writes is not guarded. An expression gives elements that cannot
be printed, and an element of this kind ends the whole pass, in a fault that the guard would have
caught.
-/

namespace StaticSite.Template

open StaticSite.Text

/-- No placeholder of a loop's body stops, or reaches a value that cannot be printed, while the name
of the loop stands for an element. -/
def Writes (scope : Scope) (loop : Loop) (item : Value) : Prop :=
  ∀ path source, .found path source ∈ placeholders.pieces loop.body →
    ¬ Stops (.mapping (bind scope loop.name item)) (segments path) ∧
      ∀ v, Reaches (.mapping (bind scope loop.name item)) (segments path) v → v.Printable

/-- A loop leaves nothing, or writes its body for every element. -/
inductive Expands (evaluate : Evaluator) (scope : Scope) (loop : Loop) : Prop where
  | reported {fault : Fault} (failed : evaluate loop.collection scope = .error fault)
      (survived : fault.isEvaluation = true)
  | skipped {v : Value} (gives : evaluate loop.collection scope = .ok v)
      (bare : elements? v = none)
  | written {v : Value} {items : List Value} (gives : evaluate loop.collection scope = .ok v)
      (sequence : elements? v = some items) (each : ∀ item ∈ items, Writes scope loop item)

variable {evaluate : Evaluator} {mode : PlaceholderMode} {scope : Scope}

theorem fillPlaceholders_isOk_iff {s : List Char} :
    (∃ text, fillPlaceholders mode scope s = .ok text) ↔
      ∀ path source, .found path source ∈ placeholders.pieces s →
        ¬ Stops (.mapping scope) (segments path) ∧
          ∀ v, Reaches (.mapping scope) (segments path) v → v.Printable := by
  rw [fillPlaceholders, fillPieces_ok_iff]
  exact forall₃_congr fun path _ _ => placeholderText_isOk_iff mode scope path

theorem repeatBody_isOk_iff {loop : Loop} {items : List Value} :
    (∃ text, repeatBody mode scope loop items = .ok text) ↔
      ∀ item ∈ items, Writes scope loop item := by
  induction items with
  | nil => exact ⟨fun _ => nofun, fun _ => ⟨[], rfl⟩⟩
  | cons item rest ih =>
    have others (first : List Char) :
        (∃ text, (do return first ++ (← repeatBody mode scope loop rest)) = .ok text) ↔ _ :=
      (Fault.bind_total_isOk_iff fun text => ⟨_, rfl⟩).trans ih
    rw [repeatBody, Fault.bind_isOk_iff others, fillPlaceholders_isOk_iff, List.forall_mem_cons,
      Writes]

theorem expandLoop_isOk_iff {loop : Loop} :
    (∃ text, (expandLoop evaluate mode scope loop).outcome = .ok text) ↔
      Expands evaluate scope loop := by
  unfold expandLoop
  -- Each way to expand is one of the outcomes of the collection, and excludes the others.
  cases gives : evaluate loop.collection scope with
  | error fault =>
    dsimp only
    by_cases survived : fault.isEvaluation = true
    · rw [if_pos survived]
      exact ⟨fun _ => .reported gives survived, fun _ => ⟨[], rfl⟩⟩
    · rw [if_neg survived]
      refine ⟨nofun, fun expands => ?_⟩
      cases expands with
      | reported failed also =>
        cases gives.symm.trans failed
        exact absurd also survived
      | skipped other _ | written other _ _ => cases gives.symm.trans other
  | ok v =>
    dsimp only
    cases sequence : elements? v with
    | none => exact ⟨fun _ => .skipped gives sequence, fun _ => ⟨[], rfl⟩⟩
    | some items =>
      have writes : (∃ text, repeatBody mode scope loop items = .ok text) ↔ _ := repeatBody_isOk_iff
      refine writes.trans ⟨.written gives sequence, fun expands => ?_⟩
      cases expands with
      | reported failed _ => cases gives.symm.trans failed
      | skipped other bare =>
        cases gives.symm.trans other
        cases sequence.symm.trans bare
      | written other also each =>
        cases gives.symm.trans other
        cases sequence.symm.trans also
        exact each

theorem expandPieces_isOk_iff {pieces : List (Piece Loop)} :
    (∃ text, (expandPieces evaluate mode scope pieces).outcome = .ok text) ↔
      ∀ loop source, .found loop source ∈ pieces → Expands evaluate scope loop := by
  induction pieces with
  | nil => exact ⟨fun _ => nofun, fun _ => ⟨[], rfl⟩⟩
  | cons piece pieces ih =>
    cases piece with
    | plain c =>
      rw [expandPieces, Reported.outcome_bind]
      refine (Fault.bind_total_isOk_iff fun text => ⟨_, rfl⟩).trans (ih.trans ?_)
      simp
    | found loop source =>
      -- Plain text cannot fail, so only the loops among the pieces count.
      have others (first : List Char) :
          (∃ text, (do return first ++ (← expandPieces evaluate mode scope pieces) :
            Reported (List Char)).outcome = .ok text) ↔
            ∀ loop source, .found loop source ∈ pieces → Expands evaluate scope loop := by
        rw [Reported.outcome_bind]
        exact (Fault.bind_total_isOk_iff fun text => ⟨_, rfl⟩).trans ih
      rw [expandPieces, Reported.outcome_bind]
      refine (Fault.bind_isOk_iff others).trans ?_
      rw [expandLoop_isOk_iff]
      constructor
      · rintro ⟨here, there⟩ other place listed
        rcases List.mem_cons.mp listed with same | behind
        · cases same
          exact here
        · exact there other place behind
      · exact fun each => ⟨each loop source List.mem_cons_self, fun other place listed =>
          each other place (List.mem_cons_of_mem _ listed)⟩

/-- An element, like any value, has a text exactly if it can be printed, and is else refused with a
fault of evaluation. However collections are evaluated, the loops of a text are expanded exactly if
each of them leaves nothing, or can print whatever the placeholders of its body reach, for all of its
elements. -/
theorem expandLoops_isOk_iff (evaluate : Evaluator) (mode : PlaceholderMode) (scope : Scope) :
    (∀ v : Value, ((∃ text, stringify v = .ok text) ↔ v.Printable) ∧
      ∀ fault, stringify v = .error fault → fault.isEvaluation = true)
    ∧ ∀ s, (∃ text, (expandLoops evaluate mode scope s).outcome = .ok text) ↔
        ∀ loop source, .found loop source ∈ loops.pieces s → Expands evaluate scope loop := by
  refine ⟨fun v => ⟨stringify_isOk_iff v, fun fault refused => ?_⟩, fun s => expandPieces_isOk_iff⟩
  exact (stringify_survives v).of_eq_error refused

/-- A missing name can be printed, also deep inside of a list. As a key it has no text. -/
theorem expandLoops_isOk_iff_key :
    (∃ text, (expandLoops Expression.evaluate .silent []
        "@each(x in [[missing]])@[x]@end".toList).outcome = .ok text)
      ∧ ¬ ∃ text, (expandLoops Expression.evaluate .silent []
        "@each(x in [\x7bmissing: missing\x7d])@[x]@end".toList).outcome = .ok text := by
  obtain ⟨-, expands⟩ := expandLoops_isOk_iff Expression.evaluate .silent []
  have slot : placeholders.pieces "@[x]".toList = [.found ['x'] "@[x]".toList] :=
    Scanner.pieces_whole (by decide +kernel)
  constructor
  · rw [expands]
    have gives : Expression.evaluate "[[missing]]".toList []
        = .ok (.list [.list [Value.missing]]) := by cbv
    have front : loops.run "@each(x in [[missing]])@[x]@end".toList
        = some (⟨['x'], "[[missing]]".toList, "@[x]".toList⟩, []) := by decide +kernel
    rw [Scanner.pieces_whole front]
    intro loop source listed
    cases List.mem_singleton.mp listed
    have each : ∃ text, repeatBody .silent [] ⟨['x'], "[[missing]]".toList, "@[x]".toList⟩
        [.list [Value.missing]] = .ok text := ⟨[], by cbv⟩
    exact .written gives rfl (repeatBody_isOk_iff.mp each)
  · rw [expands]
    have gives : Expression.evaluate "[\x7bmissing: missing\x7d]".toList []
        = .ok (.list [.mapping [(Value.missing, Value.missing)]]) := by cbv
    have front : loops.run "@each(x in [\x7bmissing: missing\x7d])@[x]@end".toList
        = some (⟨['x'], "[\x7bmissing: missing\x7d]".toList, "@[x]".toList⟩, []) := by
      decide +kernel
    rw [Scanner.pieces_whole front]
    intro each
    have path : segments ['x'] = [['x']] := by decide +kernel
    have reached (item : Value) :
        Reaches (.mapping (bind [] ['x'] item)) (segments ['x']) item := by
      rw [path]
      have bound : Mapping.get? "x" (bind [] ['x'] item) = some item := by
        simp [bind, Mapping.insertName, Mapping.get?_insert, Value.text?]
      exact .step (.key bound) .here
    have expands : Expands Expression.evaluate []
        ⟨['x'], "[\x7bmissing: missing\x7d]".toList, "@[x]".toList⟩ :=
      each _ _ (List.mem_singleton_self _)
    -- The collection has an item, so its body is written with the missing name as a key.
    cases expands with
    | reported failed _ =>
      rw [gives] at failed
      cases failed
    | skipped other bare =>
      rw [gives] at other
      cases other
      cases bare
    | written other sequence writes =>
      rw [gives] at other
      cases other
      cases sequence
      have printable := ((writes _ (List.mem_singleton_self _)) ['x'] "@[x]".toList
        (by rw [slot]; exact List.mem_singleton_self _)).2 _ (reached _)
      cases (Value.printable_mapping.mp printable _ (List.mem_singleton_self _)).1

end StaticSite.Template
