import StaticSite.Expression.Cache

/-!
# Caches that say nothing new

What a cache keeps for a text is what the text is prepared to. So a value is the same with the
cache and without it, and evaluating leaves such a cache again.
-/

namespace StaticSite.Expression.Cache

variable {compiler : Compiler}

/-- Every program of the cache is the one that its text is prepared to. -/
def Faithful (cache : Cache compiler) : Prop :=
  ∀ s program, cache.programs.lookup s = some program → compiler.compile s = .ok program

theorem faithful_empty : (empty : Cache compiler).Faithful := nofun

/-- With a faithful cache a text is prepared as without one, and the cache stays faithful. -/
theorem compile_faithful {cache : Cache compiler} (faithful : cache.Faithful) (s : List Char) :
    (cache.compile s).1 = compiler.compile s ∧ (cache.compile s).2.Faithful := by
  unfold compile
  split
  next program known => exact ⟨(faithful s program known).symm, faithful⟩
  next unknown =>
    split
    next program prepared =>
      refine ⟨prepared.symm, fun t found known => ?_⟩
      rw [List.lookup_append, Option.or_eq_some_iff] at known
      -- A text was there before, or it is the one that has just been prepared.
      rcases known with before | ⟨-, added⟩
      · exact faithful t found before
      · rw [List.lookup_cons] at added
        split at added
        next same =>
          rw [beq_iff_eq.mp same, prepared, Option.some.inj added]
        next => exact nomatch added
    next fault failed => exact ⟨failed.symm, faithful⟩

/-- With a faithful cache an expression has the value that it has without one. -/
theorem evaluate_faithful {cache : Cache compiler} (faithful : cache.Faithful) (s : List Char)
    (scope : Scope) :
    (cache.evaluate s scope).1 = compiler.evaluate s scope
      ∧ (cache.evaluate s scope).2.Faithful := by
  obtain ⟨prepared, kept⟩ := compile_faithful faithful s
  refine ⟨?_, kept⟩
  show (cache.compile s).1.bind (compiler.run · scope) = _
  rw [prepared]
  rfl

/-- The cache after some evaluations. -/
def afterEvaluations (cache : Cache compiler) (evaluations : List (List Char × Scope)) :
    Cache compiler :=
  evaluations.foldl (fun cache next => (cache.evaluate next.1 next.2).2) cache

theorem afterEvaluations_faithful {cache : Cache compiler} (faithful : cache.Faithful)
    (evaluations : List (List Char × Scope)) : (cache.afterEvaluations evaluations).Faithful := by
  induction evaluations generalizing cache with
  | nil => exact faithful
  | cons next evaluations ih => exact ih (evaluate_faithful faithful next.1 next.2).2

end StaticSite.Expression.Cache
