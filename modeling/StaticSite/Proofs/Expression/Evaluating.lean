import StaticSite.Expression.Evaluation
import StaticSite.Proofs.Expression.Bare
import StaticSite.Proofs.Operation.Filters
import StaticSite.Proofs.Operation.Members
import StaticSite.Proofs.Operation.Tests

/-!
# How expressions without calls end

Evaluated in a scope of tame values, a bare expression gives a tame value or fails in a fault of
evaluation. There are two other ways to end: a constant may have no literal form, and a slice may
stand where it is no index.
-/

namespace StaticSite.Expression

open StaticSite.Operation StaticSite.Value

/-- The faults in which an expression without calls ends. -/
def Foreseen (fault : Fault) : Prop :=
  fault.isEvaluation = true ∨ fault = .unboundName ∨ fault = .illFormedProgram

theorem foreseen_of_caught {α : Type} {good : α → Prop} {result : Except Fault α}
    (caught : Caught good result) : Confined Foreseen good result :=
  caught.mono (fun _ => .inl) fun _ => id

section Evaluation

variable {scope : Scope}

/-- Evaluating an expression gives a tame value or ends in a fault that is foreseen. -/
abbrev Evaluates (scope : Scope) (e : Expression) : Prop :=
  Confined Foreseen Tame (value scope e)

theorem values_end {items : List Expression} (each : ∀ e ∈ items, Evaluates scope e) :
    Confined Foreseen (fun results => ∀ v ∈ results, v.Tame) (values scope items) := by
  induction items with
  | nil => exact List.forall_mem_nil _
  | cons e rest ih =>
    obtain ⟨here, there⟩ := List.forall_mem_cons.mp each
    exact here.bind fun v first => (ih there).bind fun _ rest =>
      List.forall_mem_cons.mpr ⟨first, rest⟩

theorem entryValues_end {entries : List (Expression × Expression)}
    (keys : ∀ entry ∈ entries, Evaluates scope entry.1)
    (each : ∀ entry ∈ entries, Evaluates scope entry.2) :
    Confined Foreseen Mapping.Tame (entryValues scope entries) := by
  induction entries with
  | nil => exact List.forall_mem_nil _
  | cons entry rest ih =>
    obtain ⟨named, later⟩ := List.forall_mem_cons.mp keys
    obtain ⟨here, there⟩ := List.forall_mem_cons.mp each
    exact named.bind fun k key => here.bind fun v first => (ih later there).bind fun _ rest =>
      List.forall_mem_cons.mpr ⟨⟨key, first⟩, rest⟩

theorem optionalValue_ends {e? : Option Expression} (each : ∀ e ∈ e?, Evaluates scope e) :
    Confined Foreseen (fun v? => ∀ v ∈ v?, v.Tame) (optionalValue scope e?) := by
  cases e? with
  | none => exact forall_mem_none
  | some e => exact (each e rfl).map fun _ => forall_mem_some

theorem chain_ends {v : Value} {rest : List (Comparison × Expression)} (tame : v.Tame)
    (each : ∀ link ∈ rest, Evaluates scope link.2) :
    Confined Foreseen (fun _ => True) (chain scope v rest) := by
  induction rest generalizing v with
  | nil => trivial
  | cons link rest ih =>
    obtain ⟨operator, e⟩ := link
    obtain ⟨here, there⟩ := List.forall_mem_cons.mp each
    rw [chain]
    refine here.bind fun next tame => ?_
    refine (foreseen_of_caught (compareWith_survives operator v tame)).bind fun holds _ => ?_
    split
    · exact ih tame there
    · trivial

theorem actuals_end {others : List Expression} (each : ∀ e ∈ others, Evaluates scope e) :
    Confined Foreseen (fun given => given.named = [] ∧ ∀ v ∈ given.positional, v.Tame)
      (actuals scope (.mk others [] none none)) := by
  rw [actuals]
  refine (values_end each).bind fun first tame => ?_
  show Confined _ _ (Except.ok (⟨first ++ [], []⟩ : Actuals))
  rw [List.append_nil]
  exact ⟨rfl, tame⟩

theorem lookup_tame (tame : Mapping.Tame scope) (word : String) : (lookup scope word).Tame := by
  unfold lookup
  split
  · trivial
  · split
    next found => exact Mapping.lookup?_tame tame found
    · split <;> trivial

theorem applyNamedFilter_caught {v : Value} (word : String) (tame : v.Tame) :
    Caught Tame (applyNamedFilter word v .none) := by
  unfold applyNamedFilter
  split
  · rfl
  · exact filter_caught word tame

theorem applyNamedTest_caught {positional : List Value} (target : Expression)
    (arguments : Arguments) (word : String) (v : Value) (each : ∀ other ∈ positional, other.Tame) :
    Caught Tame (applyNamedTest target arguments word v ⟨positional, []⟩) := by
  unfold applyNamedTest
  rw [List.isEmpty_nil, Bool.not_true, Bool.and_false]
  refine .ok_bind ((test_survives word v each).bind fun holds _ => ?_)
  split <;> trivial

theorem value_ends {e : Expression} (tame : Mapping.Tame scope) (bare : Bare e) :
    Evaluates scope e := by
  induction bare with
  | constant plain =>
    -- An infinity has no literal, so it is met as a name that nothing is bound to.
    show Confined Foreseen Tame (if _ then _ else _)
    split
    · exact plain
    · exact .inr (.inl rfl)
  | name word => exact lookup_tame tame word
  | tuple _ ih => exact (values_end ih).map fun _ each => itemsTame_iff.mpr each
  | list _ ih => exact (values_end ih).map fun _ each => itemsTame_iff.mpr each
  | dictionary _ _ keys each =>
    refine (entryValues_end keys each).bind fun pairs tame => ?_
    split
    · exact entriesTame_iff.mpr (Mapping.ofList_tame tame)
    · exact .inl rfl
  | member word _ ih => exact ih.bind fun v tame => foreseen_of_caught (member_caught word tame)
  | item _ _ single ih index =>
    rw [Evaluates, value]
    · refine ih.bind fun v tame => index.bind fun i _ => ?_
      exact foreseen_of_caught (item_caught i tame)
    · exact single
  | part _ _ _ _ ih first last stride =>
    rw [Evaluates, value]
    refine ih.bind fun v tame => ?_
    refine (optionalValue_ends first).bind fun start _ => ?_
    refine (optionalValue_ends last).bind fun stop _ => ?_
    refine (optionalValue_ends stride).bind fun step _ => ?_
    exact foreseen_of_caught (slice_caught start stop step tame)
  | slice => exact .inr (.inr rfl)
  | filter word _ ih =>
    refine ih.bind fun v tame => ?_
    exact foreseen_of_caught (applyNamedFilter_caught word tame)
  | test word _ _ ih others =>
    refine ih.bind fun v tame => (actuals_end others).bind fun given plain => ?_
    obtain ⟨positional, named⟩ := given
    obtain ⟨rfl, plain⟩ := plain
    exact foreseen_of_caught (applyNamedTest_caught _ _ word v plain)
  | unary operator _ ih => exact ih.bind fun v _ => foreseen_of_caught (applyUnary_caught operator v)
  | binary operator _ _ first second =>
    -- `and` and `or` may stop at the first operand; the others need both.
    have both : Confined Foreseen Tame (do
        let v ← value scope _
        applyBinary operator v (← value scope _)) :=
      first.bind fun v left => second.bind fun w right =>
        foreseen_of_caught (applyBinary_caught operator left right)
    cases operator with
    | and =>
      refine first.bind fun v left => ?_
      split
      · exact second
      · exact left
    | or =>
      refine first.bind fun v left => ?_
      split
      · exact left
      · exact second
    | _ => exact both
  | compare _ _ ih each =>
    exact ih.bind fun v tame => (chain_ends tame each).map fun _ _ => trivial
  | concat _ ih => exact (values_end ih).bind fun _ _ => trivial
  | conditional _ _ _ judged first second =>
    refine judged.bind fun holds _ => ?_
    split
    · exact first
    · refine (optionalValue_ends second).bind fun v? tame => ?_
      cases v? with
      | none => trivial
      | some v => exact tame v rfl

end Evaluation

end StaticSite.Expression
