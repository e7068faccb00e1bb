import Mathlib.Data.Finset.Card
import StaticSite.Proofs.Expression.Caching

/-!
# Sessions of a cache

A cache is used again and again: texts are compiled, evaluated in one scope after another, and now
and then everything is dropped. Each use keeps the cache faithful and the texts in it apart, and
the texts in it are those that have been prepared since it was last cleared (`Kept`). So no answer
shows that there is a cache, and its size counts these texts.
-/

namespace StaticSite.Expression.Cache

variable {compiler : Compiler}

/-- A use of a cache. -/
inductive Use where
  | compile (s : List Char)
  | evaluate (s : List Char) (scope : Scope)
  | clear

/-- What a use gives to the one who asks. -/
inductive Answer (compiler : Compiler) where
  | program (outcome : Except Fault compiler.Program)
  | value (outcome : Except Fault Value)
  | cleared

namespace Use

/-- The text that a use prepares. -/
def text? : Use → Option (List Char)
  | .compile s => some s
  | .evaluate s _ => some s
  | .clear => none

/-- The answer where nothing is kept from one use to the next. -/
def answer (compiler : Compiler) : Use → Answer compiler
  | .compile s => .program (compiler.compile s)
  | .evaluate s scope => .value (compiler.evaluate s scope)
  | .clear => .cleared

end Use

def perform (cache : Cache compiler) : Use → Answer compiler × Cache compiler
  | .compile s => (.program (cache.compile s).1, (cache.compile s).2)
  | .evaluate s scope => (.value (cache.evaluate s scope).1, (cache.evaluate s scope).2)
  | .clear => (.cleared, cache.clear)

/-- The cache after some uses. -/
def afterUses (cache : Cache compiler) (uses : List Use) : Cache compiler :=
  uses.foldl (fun cache use => (cache.perform use).2) cache

/-- A use asks for the text, and nothing is dropped after it. -/
def Asked (uses : List Use) (s : List Char) : Prop :=
  ∃ before use after, uses = before ++ use :: after ∧ use.text? = some s ∧ Use.clear ∉ after

def Preparable (compiler : Compiler) (s : List Char) : Prop :=
  ∃ program, compiler.compile s = .ok program

/-- The texts of a cache, in the order in which they were first prepared. -/
def texts (cache : Cache compiler) : List (List Char) := cache.programs.map Prod.fst

/-- What a session keeps. -/
structure Kept (uses : List Use) (cache : Cache compiler) : Prop where
  faithful : cache.Faithful
  distinct : cache.texts.Nodup
  listed : ∀ s, s ∈ cache.texts ↔ Asked uses s ∧ Preparable compiler s

variable {cache : Cache compiler} {uses : List Use}

/-! ### What is asked for -/

theorem not_asked_nil (s : List Char) : ¬ Asked [] s := by
  rintro ⟨before, use, after, whole, -⟩
  exact absurd whole.symm (List.append_ne_nil_of_right_ne_nil before (List.cons_ne_nil use after))

theorem not_asked_clear (uses : List Use) (s : List Char) : ¬ Asked (uses ++ [.clear]) s := by
  rintro ⟨before, use, after, whole, asked, kept⟩
  -- Either the last use asks for the text or it is among those after which nothing is dropped.
  rcases List.eq_nil_or_concat after with rfl | ⟨front, last, rfl⟩
  · obtain ⟨-, same⟩ := List.append_inj' whole rfl
    rw [← (List.cons.inj same).1] at asked
    contradiction
  · have regroup : before ++ use :: (front ++ [last]) = (before ++ use :: front) ++ [last] := by simp
    rw [List.concat_eq_append, regroup] at whole
    obtain ⟨-, same⟩ := List.append_inj' whole rfl
    rw [List.concat_eq_append, ← same] at kept
    exact kept (List.mem_append_right front List.mem_cons_self)

/-- A use that asks for a text adds this text to those asked for before. -/
theorem asked_snoc {use : Use} {s : List Char} (asks : use.text? = some s) (t : List Char) :
    Asked (uses ++ [use]) t ↔ Asked uses t ∨ t = s := by
  constructor
  · rintro ⟨before, other, after, whole, asked, kept⟩
    -- The use that asked is the last one, or one before it that no clearing has followed.
    rcases List.eq_nil_or_concat after with rfl | ⟨front, last, rfl⟩
    · obtain ⟨-, same⟩ := List.append_inj' whole rfl
      rw [← (List.cons.inj same).1, asks] at asked
      exact .inr (Option.some.inj asked).symm
    · have regroup : before ++ other :: (front ++ [last]) = (before ++ other :: front) ++ [last] := by
        simp
      rw [List.concat_eq_append] at whole kept
      rw [regroup] at whole
      obtain ⟨earlier, -⟩ := List.append_inj' whole rfl
      exact .inl ⟨before, other, front, earlier, asked,
        fun cleared => kept (List.mem_append_left [last] cleared)⟩
  · rintro (⟨before, other, after, rfl, asked, kept⟩ | rfl)
    · refine ⟨before, other, after ++ [use], by simp, asked, fun cleared => ?_⟩
      rcases List.mem_append.mp cleared with earlier | last
      · exact kept earlier
      · rw [← List.mem_singleton.mp last] at asks
        contradiction
    · exact ⟨uses, use, [], rfl, asks, List.not_mem_nil⟩

/-! ### What one use keeps -/

theorem mem_texts_iff {s : List Char} : s ∈ cache.texts ↔ (cache.programs.lookup s).isSome := by
  rw [List.lookup_isSome_iff]
  simp [texts, Prod.exists]

/-- Preparing a text adds it, unless it is there or cannot be prepared. -/
theorem compile_texts (cache : Cache compiler) (s : List Char) :
    (cache.compile s).2.texts = cache.texts ∧ (Preparable compiler s → s ∈ cache.texts) ∨
      (cache.compile s).2.texts = cache.texts ++ [s] ∧ s ∉ cache.texts ∧ Preparable compiler s := by
  unfold compile
  split
  next program known =>
    refine .inl ⟨rfl, fun _ => mem_texts_iff.mpr ?_⟩
    rw [known]
    rfl
  next unknown =>
    split
    next program prepared =>
      refine .inr ⟨List.map_append, fun listed => ?_, program, prepared⟩
      rw [mem_texts_iff, unknown] at listed
      contradiction
    next fault failed =>
      refine .inl ⟨rfl, fun ⟨program, prepared⟩ => ?_⟩
      rw [failed] at prepared
      contradiction

namespace Kept

theorem start : Kept [] (empty : Cache compiler) where
  faithful := faithful_empty
  distinct := List.nodup_nil
  listed s := ⟨fun inside => absurd inside List.not_mem_nil,
    fun prepared => absurd prepared.1 (not_asked_nil s)⟩

theorem clear (uses : List Use) (cache : Cache compiler) : Kept (uses ++ [.clear]) cache.clear where
  faithful := faithful_empty
  distinct := List.nodup_nil
  listed s := ⟨fun inside => absurd inside List.not_mem_nil,
    fun prepared => absurd prepared.1 (not_asked_clear uses s)⟩

theorem compile (kept : Kept uses cache) {use : Use} {s : List Char} (asks : use.text? = some s) :
    Kept (uses ++ [use]) (cache.compile s).2 where
  faithful := (compile_faithful kept.faithful s).2
  distinct := by
    rcases compile_texts cache s with ⟨same, -⟩ | ⟨more, absent, -⟩
    · rw [same]
      exact kept.distinct
    · rw [more]
      exact List.nodup_append.mpr
        ⟨kept.distinct, List.nodup_singleton s, fun t inside u new => by
          rintro rfl
          exact absent (List.mem_singleton.mp new ▸ inside)⟩
  listed t := by
    rw [asked_snoc asks]
    rcases compile_texts cache s with ⟨same, known⟩ | ⟨more, -, prepared⟩
    · -- Nothing is added: the text is there already, or it cannot be prepared.
      rw [same, kept.listed]
      constructor
      · rintro ⟨asked, prepared⟩
        exact ⟨.inl asked, prepared⟩
      · rintro ⟨asked | rfl, prepared⟩
        · exact ⟨asked, prepared⟩
        · exact (kept.listed _).mp (known prepared)
    · rw [more, List.mem_append, List.mem_singleton, kept.listed, or_and_right]
      refine or_congr_right (Iff.intro ?_ And.left)
      rintro rfl
      exact ⟨rfl, prepared⟩

/-- Every use keeps what a session keeps. -/
theorem perform (kept : Kept uses cache) (use : Use) :
    Kept (uses ++ [use]) (cache.perform use).2 := by
  cases use with
  | compile s => exact kept.compile rfl
  | evaluate s scope => exact kept.compile rfl
  | clear => exact clear uses cache

theorem answer (kept : Kept uses cache) (use : Use) : (cache.perform use).1 = use.answer compiler := by
  cases use with
  | compile s => exact congrArg Answer.program (compile_faithful kept.faithful s).1
  | evaluate s scope => exact congrArg Answer.value (evaluate_faithful kept.faithful s scope).1
  | clear => rfl

end Kept

/-- What a session keeps holds after any uses of an empty cache. -/
theorem kept_afterUses (uses : List Use) :
    Kept uses ((empty : Cache compiler).afterUses uses) := by
  induction uses using List.reverseRecOn with
  | nil => exact .start
  | append_singleton uses use ih =>
    rw [afterUses, List.foldl_concat]
    exact ih.perform use

variable (compiler) in
/-- After any uses of a cache, the next one gives what a fresh cache gives, which is what is given
without any cache, whatever texts are compiled to; and the size of the cache is the number of the
texts that can be prepared and have been asked for since all was last dropped. -/
theorem uses_invisible (uses : List Use) (next : Use) :
    let fresh : Cache compiler := empty
    ((fresh.afterUses uses).perform next).1 = (fresh.perform next).1
      ∧ (fresh.perform next).1 = next.answer compiler
      ∧ ∃ prepared : Finset (List Char), (∀ s, s ∈ prepared ↔ Asked uses s ∧ Preparable compiler s)
        ∧ (fresh.afterUses uses).size = prepared.card := by
  intro fresh
  -- Any uses leave a cache that answers as an empty one does.
  have kept : Kept uses (fresh.afterUses uses) := kept_afterUses uses
  have given : (fresh.perform next).1 = next.answer compiler := Kept.start.answer next
  refine ⟨(kept.answer next).trans given.symm, given, (fresh.afterUses uses).texts.toFinset, ?_, ?_⟩
  · intro s
    rw [List.mem_toFinset]
    exact kept.listed s
  · rw [List.toFinset_card_of_nodup kept.distinct, texts, List.length_map, size]

end StaticSite.Expression.Cache
