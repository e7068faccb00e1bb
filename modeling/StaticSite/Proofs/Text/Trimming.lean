import Mathlib.Data.List.DropRight
import StaticSite.Text.Search

/-!
# Texts without blanks around them

Trimming cuts a text into blanks, what is left, and blanks again. What is left is trimmed unless the
text was blank, and a trimmed text stays as it is.
-/

namespace StaticSite.Text

variable {s : List Char}

/-- A text that is not empty and has no blanks around it. -/
structure Trimmed (s : List Char) : Prop where
  nonempty : s ≠ []
  front : ∀ c ∈ s.head?, isBlank c = false
  back : ∀ c ∈ s.getLast?, isBlank c = false

theorem trim_eq_rdropWhile (s : List Char) :
    trim s = (s.dropWhile isBlank).rdropWhile isBlank := rfl

theorem trim_eq_nil_iff : trim s = [] ↔ ∀ c ∈ s, isBlank c = true := by
  rw [trim_eq_rdropWhile, List.rdropWhile_eq_nil_iff]
  constructor
  · intro rest c listed
    have parts := List.takeWhile_append_dropWhile (p := isBlank) (l := s)
    rw [← parts, List.mem_append] at listed
    rcases listed with before | behind
    · exact List.mem_takeWhile_imp before
    · exact rest c behind
  · intro blank c listed
    exact blank c ((List.dropWhile_suffix isBlank).subset listed)

theorem trim_ne_nil_iff : trim s ≠ [] ↔ ∃ c ∈ s, isBlank c = false := by
  simp [trim_eq_nil_iff]

/-- Trimming takes blanks from both ends and nothing else. -/
theorem exists_trim (s : List Char) : ∃ before behind, s = before ++ trim s ++ behind
    ∧ (∀ c ∈ before, isBlank c = true) ∧ ∀ c ∈ behind, isBlank c = true := by
  refine ⟨s.takeWhile isBlank, (s.dropWhile isBlank).rtakeWhile isBlank, ?_, fun c listed => ?_,
    fun c listed => ?_⟩
  · rw [trim_eq_rdropWhile, List.append_assoc, List.rdropWhile_append_rtakeWhile,
      List.takeWhile_append_dropWhile]
  · exact List.mem_takeWhile_imp listed
  · exact List.mem_rtakeWhile_imp listed

theorem trimmed_trim (left : trim s ≠ []) : Trimmed (trim s) where
  nonempty := left
  front c first := by
    obtain ⟨rest, shape⟩ := List.rdropWhile_prefix isBlank (l := s.dropWhile isBlank)
    have begins := List.head?_dropWhile_not isBlank s
    rw [← shape, List.head?_append, ← trim_eq_rdropWhile, Option.mem_def.mp first] at begins
    exact begins
  back c last := by
    have ends := List.rdropWhile_last_not isBlank (s.dropWhile isBlank) left
    obtain ⟨-, rfl⟩ := List.mem_getLast?_eq_getLast last
    exact Bool.eq_false_iff.mpr ends

theorem Trimmed.trim_eq (trimmed : Trimmed s) : trim s = s := by
  have kept : s.dropWhile isBlank = s := by
    cases s with
    | nil => rfl
    | cons c s =>
      exact List.dropWhile_cons_of_neg (Bool.eq_false_iff.mp (trimmed.front c rfl))
  rw [trim_eq_rdropWhile, kept, List.rdropWhile_eq_self_iff]
  intro nonempty
  exact Bool.eq_false_iff.mp (trimmed.back _ (List.getLast?_eq_some_getLast nonempty))

end StaticSite.Text
