import StaticSite.Proofs.Json.Roundtrip
import StaticSite.Proofs.Text.Skipping

/-!
# Strings as they are written

A written string has each character as it is or as an escape: a backslash with letters, digits,
quotes or a second backslash behind it. No other mark of a page begins in an escape or goes through
one, so what is found in a written string without a backslash in it is found in the string.
-/

namespace StaticSite.Json

open StaticSite.Text

/-- What stands between the quotes of a written string. -/
def spelling (s : List Char) : List Char := s.flatMap escapeChar

theorem spelling_cons (c : Char) (s : List Char) : spelling (c :: s) = escapeChar c ++ spelling s := rfl

theorem spelling_append (s t : List Char) : spelling (s ++ t) = spelling s ++ spelling t :=
  List.flatMap_append

/-- The characters of escapes. -/
def escapeLetters : List Char := "\\\"nrtbfu0123456789abcdef".toList

theorem hexDigit_mem_escapeLetters : ∀ d < 16, hexDigit d ∈ escapeLetters := by decide

theorem escapeUnit_letters (n : Nat) : ∀ d ∈ escapeUnit n, d ∈ escapeLetters := by
  have digits (width n : Nat) : ∀ d ∈ hex width n, d ∈ escapeLetters := by
    induction width generalizing n with
    | zero => nofun
    | succ width ih =>
      intro d listed
      rcases List.mem_append.mp listed with before | last
      · exact ih (n / 16) d before
      · rw [List.mem_singleton.mp last]
        exact hexDigit_mem_escapeLetters _ (Nat.mod_lt _ (by decide))
  intro d listed
  rcases List.mem_cons.mp listed with rfl | listed
  · decide
  · rcases List.mem_cons.mp listed with rfl | listed
    · decide
    · exact digits 4 n d listed

/-- A character is written as itself, or as an escape. -/
theorem escapeChar_eq_or (c : Char) :
    (escapeChar c = [c] ∧ c ≠ '\\') ∨
      ∃ letters, escapeChar c = '\\' :: letters ∧ letters ≠ [] ∧
        ∀ d ∈ letters, d ∈ escapeLetters := by
  have unit (n : Nat) : ∃ letters, escapeUnit n = '\\' :: letters ∧ letters ≠ [] :=
    ⟨_, rfl, List.cons_ne_nil _ _⟩
  unfold escapeChar
  iterate 7
    split
    · exact .inr ⟨_, rfl, List.cons_ne_nil _ _, List.forall_mem_singleton.mpr (by decide)⟩
  next _ backslash _ _ _ _ _ =>
    split
    · exact .inl ⟨rfl, backslash⟩
    · right
      split
      · refine ⟨_, rfl, List.cons_ne_nil _ _, fun d listed => ?_⟩
        exact escapeUnit_letters _ d (List.mem_cons_of_mem _ listed)
      · refine ⟨_, rfl, List.cons_ne_nil _ _, fun d listed => ?_⟩
        -- A character beyond the basic plane is written as two units.
        have whole : d ∈ escapeUnit _ ++ escapeUnit _ := List.mem_cons_of_mem '\\' listed
        rcases List.mem_append.mp whole with high | low
        · exact escapeUnit_letters _ d high
        · exact escapeUnit_letters _ d low

theorem notMem_escape {c : Char} {letters : List Char} (foreign : c ∉ escapeLetters)
    (all : ∀ d ∈ letters, d ∈ escapeLetters) : c ∉ '\\' :: letters := by
  rw [List.mem_cons, not_or]
  refine ⟨?_, fun listed => foreign (all c listed)⟩
  rintro rfl
  exact foreign (by decide)

theorem escapeChar_length (c : Char) : 1 ≤ (escapeChar c).length := by
  rcases escapeChar_eq_or c with ⟨same, _⟩ | ⟨letters, same, _, _⟩
  · rw [same]
    rfl
  · rw [same, List.length_cons]
    omega

theorem length_le_spelling (s : List Char) : s.length ≤ (spelling s).length := by
  induction s with
  | nil => exact Nat.le_refl 0
  | cons c s ih =>
    have first := escapeChar_length c
    rw [spelling_cons, List.length_append, List.length_cons]
    omega

/-- A string is written as it is exactly if no backslash is needed. -/
theorem spelling_eq_self_iff (s : List Char) : spelling s = s ↔ '\\' ∉ spelling s := by
  induction s with
  | nil => exact ⟨fun _ => nofun, fun _ => rfl⟩
  | cons c s ih =>
    rw [spelling_cons, List.mem_append, not_or]
    refine Iff.trans ?_ (and_congr_right fun _ => ih)
    rcases escapeChar_eq_or c with ⟨same, other⟩ | ⟨letters, same, more, _⟩
    · rw [same]
      simp [Ne.symm other]
    · -- An escape makes the string longer, and has a backslash.
      constructor
      · intro whole
        have sizes := congrArg List.length whole
        have rest := length_le_spelling s
        have some := List.length_pos_iff.mpr more
        rw [same, List.length_append, List.length_cons, List.length_cons] at sizes
        omega
      · intro plain
        exact absurd (same ▸ List.mem_cons_self) plain.1

theorem escapeChar_of_isAlphanum {c : Char} (letter : c.isAlphanum = true) :
    escapeChar c = [c] :=
  of_isAlphanum (P := fun c => escapeChar c = [c]) (by decide +kernel) letter

theorem spelling_of_self {s : List Char} (same : ∀ c ∈ s, escapeChar c = [c]) : spelling s = s := by
  induction s with
  | nil => rfl
  | cons c s ih =>
    obtain ⟨here, there⟩ := List.forall_mem_cons.mp same
    rw [spelling_cons, here, ih there]
    rfl

/-! ### What is found in a written string -/

/-- The second text is the first one with some of its characters escaped. -/
inductive Spelled : List Char → List Char → Prop where
  | nil : Spelled [] []
  | plain (c : Char) {s t : List Char} (rest : Spelled s t) : Spelled (c :: s) (c :: t)
  | escape (c : Char) {letters s t : List Char} (all : ∀ d ∈ letters, d ∈ escapeLetters)
      (rest : Spelled s t) : Spelled (c :: s) ('\\' :: letters ++ t)

namespace Spelled

variable {s t mark : List Char}

theorem refl (s : List Char) : Spelled s s := by
  induction s with
  | nil => exact .nil
  | cons c s ih => exact .plain c ih

theorem spelling_append (u : List Char) (rest : Spelled s t) :
    Spelled (u ++ s) (Json.spelling u ++ t) := by
  induction u with
  | nil => exact rest
  | cons c u ih =>
    rw [spelling_cons, List.append_assoc]
    rcases escapeChar_eq_or c with ⟨same, _⟩ | ⟨letters, same, _, all⟩
    · rw [same]
      exact .plain c ih
    · rw [same]
      exact .escape c all ih

theorem spelling (s : List Char) : Spelled s (Json.spelling s) := by
  have whole := spelling_append s .nil
  rwa [List.append_nil, List.append_nil] at whole

/-- A mark without a backslash begins a spelled text only where it begins the text. -/
theorem begins_text (spelled : Spelled s t) (plain : '\\' ∉ mark) (begins : mark <+: t) :
    mark <+: s := by
  induction spelled generalizing mark with
  | nil => exact begins
  | plain c _ ih =>
    cases mark with
    | nil => exact List.nil_prefix
    | cons d mark =>
      rw [List.mem_cons, not_or] at plain
      obtain ⟨rfl, rest⟩ := List.cons_prefix_cons.mp begins
      exact List.cons_prefix_cons.mpr ⟨rfl, ih plain.2 rest⟩
  | escape c _ _ ih =>
    cases mark with
    | nil => exact List.nil_prefix
    | cons d mark =>
      rw [List.mem_cons, not_or] at plain
      exact absurd (List.cons_prefix_cons.mp begins).1.symm plain.1

/-- A mark without a backslash that begins in no escape stands in a spelled text only where it
stands in the text. -/
theorem stands_in_text {c : Char} (spelled : Spelled s t) (foreign : c ∉ escapeLetters)
    (plain : '\\' ∉ mark) (inside : c :: mark <:+: t) : c :: mark <:+: s := by
  have backslash : '\\' ≠ c := by
    rintro rfl
    exact foreign (by decide)
  induction spelled with
  | nil => exact inside
  | plain d rest ih =>
    rcases List.infix_cons_iff.mp inside with begins | later
    · have bare : '\\' ∉ c :: mark := by simp [backslash, plain]
      exact ((rest.plain d).begins_text bare begins).isInfix
    · exact (ih later).trans (List.suffix_cons _ _).isInfix
  | escape d all rest ih =>
    have later := infix_of_notMem (notMem_escape foreign all) inside
    exact (ih later).trans (List.suffix_cons _ _).isInfix

end Spelled

/-- A written string is cut before a character that begins no escape where the string is. -/
theorem spelling_cut {c : Char} {s back rest : List Char} (foreign : c ∉ escapeLetters)
    (behind : c ∉ back) (ends : c :: rest <:+ spelling s ++ back) :
    ∃ front after, s = front ++ c :: after ∧ rest = spelling after ++ back := by
  induction s with
  | nil => exact absurd (ends.subset List.mem_cons_self) behind
  | cons d s ih =>
    rw [spelling_cons, List.append_assoc] at ends
    rcases escapeChar_eq_or d with ⟨same, _⟩ | ⟨letters, same, _, all⟩
    · rw [same] at ends
      rcases List.suffix_cons_iff.mp ends with whole | later
      · obtain ⟨rfl, rfl⟩ := List.cons.inj whole
        exact ⟨[], s, rfl, rfl⟩
      · obtain ⟨front, after, rfl, cut⟩ := ih later
        exact ⟨d :: front, after, rfl, cut⟩
    · rw [same] at ends
      obtain ⟨front, after, rfl, cut⟩ := ih (suffix_of_notMem (notMem_escape foreign all) ends)
      exact ⟨d :: front, after, rfl, cut⟩

end StaticSite.Json
