import StaticSite.Proofs.Expression.Preparing
import StaticSite.Proofs.Template.Conditionals

/-!
# What resolving conditionals meets

Resolving the conditionals of a text meets conditions, and markers that are never closed, in an order
that the values of the conditions decide. A condition that fails counts as false and is reported once,
if its fault is one of evaluation; any other fault ends the pass. Of the faults in which expressions
can end, two are not survived: that of a constant without a literal and that of a program that cannot
be arranged.
-/

namespace StaticSite.Template

open StaticSite.Text StaticSite.Value

/-- What the pass comes across: a condition, or a marker at a place that is never closed. -/
inductive Encounter where
  | condition (text : List Char)
  | unclosed (place : Nat)
  deriving Repr, DecidableEq

namespace Encounter

variable (evaluate : Evaluator) (scope : Scope)

/-- The fault that stops the pass. -/
def fatal? : Encounter → Option Fault
  | .unclosed _ => none
  | .condition text => match evaluate text scope with
    | .ok _ => none
    | .error fault => if fault.isEvaluation then none else some fault

/-- The warning about a condition that failed, or about a marker that is never closed. -/
def warning? : Encounter → Option Notice
  | .unclosed place => some ⟨.warning, .templates, unclosedText place⟩
  | .condition text => match evaluate text scope with
    | .ok _ => none
    | .error fault =>
      if fault.isEvaluation then some ⟨.warning, .templates, "Invalid condition "
        ++ String.ofList (quoted text) ++ " treated as false: " ++ fault.text⟩
      else none

/-- Reports an encounter, and stops at one that is fatal. -/
def announce (encounter : Encounter) : Reported Unit :=
  match encounter.fatal? evaluate scope with
  | some fault => .fail fault
  | none => ⟨(encounter.warning? evaluate scope).toList, .ok ()⟩

end Encounter

/-- What is reported of encounters, up to the first one that is fatal. -/
def warnings (evaluate : Evaluator) (scope : Scope) (met : List Encounter) : List Notice :=
  (met.takeWhile fun e => (e.fatal? evaluate scope).isNone).filterMap (·.warning? evaluate scope)

/-- Whether a condition has a value that is true. -/
def isTrueAt (evaluate : Evaluator) (scope : Scope) (condition : List Char) : Bool :=
  (evaluate condition scope).toOption.any Value.isTrue

/-- What the pass meets in a text, and the text it is to give. -/
structure Course where
  encounters : List Encounter
  text : List Char
  deriving Repr, DecidableEq

/-- The course that the pass takes through a text; `place` counts the characters before it. -/
def course (evaluate : Evaluator) (scope : Scope) (place : Nat) (s : List Char) : Course :=
  match _cut : cutAt? ifOpening s with
  | none => ⟨[], s⟩
  | some (before, after) =>
    match _block : conditional? after with
    | none => ⟨[.unclosed (place + before.length)], s⟩
    | some (block, rest) =>
      let branch :=
        if isTrueAt evaluate scope block.condition then course evaluate scope 0 block.whenTrue
        else course evaluate scope 0 block.whenFalse
      let tail := course evaluate scope (place + s.length - rest.length) rest
      ⟨.condition block.condition :: (branch.encounters ++ tail.encounters),
        before ++ branch.text ++ tail.text⟩
termination_by s.length
decreasing_by
  all_goals
    have inner := conditional?_length _block
    have whole := congrArg List.length (cutAt?_eq_append _cut)
    simp only [List.length_append] at whole
    omega

section

variable {evaluate : Evaluator} {scope : Scope}

/-! ### Announcing encounters -/

theorem holds_eq (condition : List Char) :
    holds evaluate condition scope = (do
      (Encounter.condition condition).announce evaluate scope
      return isTrueAt evaluate scope condition) := by
  unfold holds Encounter.announce Encounter.fatal? Encounter.warning? isTrueAt
  dsimp only
  cases evaluate condition scope with
  | ok v => rfl
  | error fault =>
    by_cases survived : fault.isEvaluation = true
    · simp only [survived, if_true]
      rfl
    · simp only [survived]
      rfl

/-- The pass reports what it meets, one encounter after the other, and then gives its text. -/
theorem resolveFrom_eq (place : Nat) (s : List Char) :
    resolveFrom evaluate scope place s = (do
      forM (course evaluate scope place s).encounters (·.announce evaluate scope)
      return (course evaluate scope place s).text) := by
  fun_induction course evaluate scope place s with
  | case1 place s absent => exact resolveFrom_whole place absent
  | case2 place s before after cut unclosed => exact resolveFrom_unclosed place cut unclosed
  | case3 place s before after cut block rest closed branch tail first second third =>
    -- What comes after the branch does not depend on which branch it is.
    have taken (next : List Char → Reported (List Char)) :
        (if isTrueAt evaluate scope block.condition then
            resolveFrom evaluate scope 0 block.whenTrue >>= next
          else resolveFrom evaluate scope 0 block.whenFalse >>= next) = (do
          forM branch.encounters (·.announce evaluate scope)
          next branch.text) := by
      unfold branch
      split
      · rw [first, bind_assoc]
        rfl
      · rw [second, bind_assoc]
        rfl
    rw [resolveFrom_closed place cut closed, holds_eq, third]
    simp only [bind_assoc, pure_bind, taken, List.forM_cons, List.forM_append, tail]

theorem warnings_cons (e : Encounter) (rest : List Encounter) :
    warnings evaluate scope (e :: rest) = match e.fatal? evaluate scope with
      | some _ => []
      | none => (e.warning? evaluate scope).toList ++ warnings evaluate scope rest := by
  unfold warnings
  rw [List.takeWhile_cons]
  cases e.fatal? evaluate scope with
  | some fault => rfl
  | none =>
    show List.filterMap _ (e :: _) = _
    rw [List.filterMap_cons]
    cases e.warning? evaluate scope <;> rfl

/-- The warnings come in order, up to the first encounter that the pass does not survive. -/
theorem forM_announce (met : List Encounter) :
    forM met (·.announce evaluate scope) = (⟨warnings evaluate scope met,
      match met.findSome? (·.fatal? evaluate scope) with
      | none => .ok ()
      | some fault => .error fault⟩ : Reported Unit) := by
  induction met with
  | nil => rfl
  | cons e rest ih =>
    rw [List.forM_cons, ih, Encounter.announce, warnings_cons, List.findSome?_cons]
    cases e.fatal? evaluate scope <;> rfl

/-! ### Conditions -/

theorem trimOf_subset (drop : Char → Bool) (s : List Char) : trimOf drop s ⊆ s := by
  intro c inside
  have back : c ∈ (trimFrontOf drop s).reverse :=
    List.dropWhile_subset drop (List.mem_reverse.mp inside)
  exact List.dropWhile_subset drop (List.mem_reverse.mp back)

theorem conditional?_condition {s rest : List Char} {block : Conditional}
    (found : conditional? s = some (block, rest)) : ')' ∉ block.condition := by
  obtain ⟨cut, split, found⟩ := Option.bind_eq_some_iff.mp found
  obtain ⟨parts, _, same⟩ := Option.map_eq_some_iff.mp found
  cases same
  exact fun inside => cutAt?_char_notMem split (trimOf_subset _ _ inside)

/-- A condition ends at the first closing parenthesis, so there is none in it. -/
theorem course_conditions (place : Nat) (s : List Char) :
    ∀ condition, .condition condition ∈ (course evaluate scope place s).encounters →
      ')' ∉ condition := by
  fun_induction course evaluate scope place s with
  | case1 => exact fun condition met => nomatch met
  | case2 => exact fun condition met => nomatch List.mem_singleton.mp met
  | case3 place s before after cut block rest closed branch tail first second third =>
    intro condition met
    rcases List.mem_cons.mp met with same | inside
    · cases same
      exact conditional?_condition closed
    rcases List.mem_append.mp inside with taken | behind
    · unfold branch at taken
      split at taken
      · exact first condition taken
      · exact second condition taken
    · exact third condition behind

theorem fatal?_eq_some {encounter : Encounter} {fault : Fault}
    (fatal : encounter.fatal? evaluate scope = some fault) : ∃ condition,
      encounter = .condition condition ∧ evaluate condition scope = .error fault
      ∧ fault.isEvaluation = false := by
  unfold Encounter.fatal? at fatal
  split at fatal
  · contradiction
  next condition =>
    split at fatal
    · contradiction
    next other failed =>
      split at fatal
      · contradiction
      next deadly =>
        cases fatal
        exact ⟨condition, rfl, failed, Bool.eq_false_iff.mpr deadly⟩

/-- Nothing stops the pass exactly if every condition that fails does so in evaluation. -/
theorem findSome?_fatal_eq_none {met : List Encounter} :
    met.findSome? (·.fatal? evaluate scope) = none ↔
      ∀ condition, .condition condition ∈ met → ∀ fault,
        evaluate condition scope = .error fault → fault.isEvaluation = true := by
  rw [List.findSome?_eq_none_iff]
  constructor
  · intro passes condition listed fault failed
    by_contra deadly
    have fatal := passes _ listed
    rw [Encounter.fatal?, failed] at fatal
    dsimp only at fatal
    rw [if_neg deadly] at fatal
    contradiction
  · intro survived encounter listed
    by_contra stopped
    obtain ⟨fault, fatal⟩ := Option.ne_none_iff_exists'.mp stopped
    obtain ⟨condition, rfl, failed, deadly⟩ := fatal?_eq_some fatal
    rw [survived condition listed fault failed] at deadly
    contradiction

/-- However conditions are evaluated, the pass reports a condition that fails in evaluation with one
warning and counts it as false, and any other fault ends it: it gives its text exactly if no
condition that it meets fails in another way, and else it ends in the first such fault. No condition
has a closing parenthesis in it. -/
theorem resolveConditionals_ends (evaluate : Evaluator) (scope : Scope) (s : List Char) :
    let met := course evaluate scope 0 s
    resolveConditionals evaluate scope s
      = ⟨warnings evaluate scope met.encounters,
          match met.encounters.findSome? (·.fatal? evaluate scope) with
          | none => .ok met.text
          | some fault => .error fault⟩
    ∧ ((∃ text, (resolveConditionals evaluate scope s).outcome = .ok text) ↔
      ∀ condition, .condition condition ∈ met.encounters → ∀ fault,
        evaluate condition scope = .error fault → fault.isEvaluation = true)
    ∧ ∀ condition, .condition condition ∈ met.encounters → ')' ∉ condition := by
  intro met
  have ends : resolveConditionals evaluate scope s
      = ⟨warnings evaluate scope met.encounters,
          match met.encounters.findSome? (·.fatal? evaluate scope) with
          | none => .ok met.text
          | some fault => .error fault⟩ := by
    show resolveFrom evaluate scope 0 s = _
    -- What is met on the way decides everything: its warnings, and its first deadly fault.
    rw [resolveFrom_eq, forM_announce]
    cases (course evaluate scope 0 s).encounters.findSome? (·.fatal? evaluate scope) with
    | none => exact congrArg (Reported.mk · _) (List.append_nil _)
    | some fault => rfl
  refine ⟨ends, ?_, course_conditions 0 s⟩
  rw [ends, ← findSome?_fatal_eq_none]
  cases met.encounters.findSome? (·.fatal? evaluate scope) with
  | none => exact ⟨fun _ => rfl, fun _ => ⟨met.text, rfl⟩⟩
  | some fault => exact ⟨nofun, nofun⟩

/-- With the expression language over a scope of JSON, only two faults can end the pass. -/
theorem condition_ends {scope : Scope} (json : (Value.mapping scope).IsJson) {s condition : List Char}
    (met : .condition condition ∈ (course Expression.evaluate scope 0 s).encounters) {fault : Fault}
    (failed : Expression.evaluate condition scope = .error fault) :
    fault.isEvaluation = true ∨ fault = .unboundName ∨ fault = .illFormedProgram := by
  -- A condition is cut off at a parenthesis, so it has no closing one in it.
  have absent := course_conditions 0 s condition met
  exact (Expression.evaluate_ends absent (entriesTame_iff.mp json.tame)).of_eq_error failed

/-- The first condition is malformed, which is reported; a slice beside another index stops the pass
at the second. -/
theorem resolveConditionals_ends_slice :
    resolveConditionals Expression.evaluate [(.str "a", .list [.int 1])]
        "@if(1 /)y@endif@if(a[1:2,3])x@endif".toList
      = ⟨[⟨.warning, .templates, "Invalid condition '1 /' treated as false: "
          ++ Fault.malformedExpression.text⟩], .error .illFormedProgram⟩ := by
  have met : (course Expression.evaluate [(.str "a", .list [.int 1])] 0
      "@if(1 /)y@endif@if(a[1:2,3])x@endif".toList).encounters
        = [.condition "1 /".toList, .condition "a[1:2,3]".toList] := by decide +kernel
  have reported : warnings Expression.evaluate [(.str "a", .list [.int 1])]
      [.condition "1 /".toList, .condition "a[1:2,3]".toList]
        = [⟨.warning, .templates, "Invalid condition '1 /' treated as false: "
          ++ Fault.malformedExpression.text⟩] := by decide +kernel
  have stopped : [Encounter.condition "1 /".toList, .condition "a[1:2,3]".toList].findSome?
      (·.fatal? Expression.evaluate [(.str "a", .list [.int 1])]) = some .illFormedProgram := by
    decide +kernel
  rw [(resolveConditionals_ends Expression.evaluate _ _).1, met, reported, stopped]

end

end StaticSite.Template
