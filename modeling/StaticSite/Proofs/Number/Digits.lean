import Mathlib.Tactic.ByContra
import StaticSite.Number.Reading
import StaticSite.Proofs.Text.Trimming

/-!
# Texts of digits

Digits in the wide sense, superscripts among them, are more than the decimal digits that write a
number. A text of wide digits is read as an integer exactly if all of them are decimal and it is
not longer than the digit limit.
-/

namespace StaticSite.Text

/-- No code point lies in both tables. -/
def Apart (first second : Array (Nat × Nat)) : Prop :=
  ∀ a ∈ first.toList, ∀ b ∈ second.toList, a.2 < b.1 ∨ b.2 < a.1

instance (first second : Array (Nat × Nat)) : Decidable (Apart first second) := by
  unfold Apart
  infer_instance

theorem inRanges_iff {ranges : Array (Nat × Nat)} {c : Char} :
    inRanges ranges c = true ↔ ∃ range ∈ ranges.toList, range.1 ≤ c.toNat ∧ c.toNat ≤ range.2 := by
  simp [inRanges, ← Array.any_toList]

theorem Apart.not_inRanges {first second : Array (Nat × Nat)} {c : Char}
    (apart : Apart first second) (inside : inRanges first c = true) :
    inRanges second c = false := by
  rw [← Bool.not_eq_true]
  intro other
  obtain ⟨a, listed, low, high⟩ := inRanges_iff.mp inside
  obtain ⟨b, among, least, most⟩ := inRanges_iff.mp other
  rcases apart a listed b among with below | above
  · omega
  · omega

theorem isBlank_of_isDigit {c : Char} (digit : isDigit c = true) : isBlank c = false := by
  unfold isDigit at digit
  unfold isBlank
  split at digit
  next ascii =>
    rw [if_pos ascii]
    simp only [isAsciiDigit, Bool.and_eq_true, decide_eq_true_eq, Char.le_def] at digit
    have least : 48 ≤ c.toNat := digit.1
    simp only [Bool.or_eq_false_iff, Bool.and_eq_false_iff, decide_eq_false_iff_not]
    omega
  next beyond =>
    rw [if_neg beyond]
    rcases Bool.or_eq_true_iff.mp digit with decimal | other
    · exact Apart.not_inRanges (by decide +kernel : Apart Table.decimal Table.blank) decimal
    · exact Apart.not_inRanges (by decide +kernel : Apart Table.otherDigit Table.blank) other

/-- A decimal digit is one that has a value. -/
theorem isSome_decimalValue? (c : Char) : (decimalValue? c).isSome = isDecimal c := by
  unfold decimalValue? isDecimal
  split
  · cases isAsciiDigit c <;> rfl
  · rw [Option.isSome_map, Bool.eq_iff_iff, inRanges_iff]
    simp

/-- The only wide digits of ASCII are the decimal ones. -/
theorem isAscii_of_not_isDecimal {c : Char} (digit : isDigit c = true)
    (other : isDecimal c = false) : isAscii c = false := by
  rw [Bool.eq_false_iff]
  intro ascii
  rw [isDigit, if_pos ascii] at digit
  rw [isDecimal, if_pos ascii, digit] at other
  contradiction

end StaticSite.Text

namespace StaticSite.Number

open StaticSite.Text

/-- A text of digits in the wide sense. -/
structure IsDigits (s : List Char) : Prop where
  nonempty : s ≠ []
  digits : ∀ c ∈ s, isDigit c = true

/-- A text of decimal digits that is short enough to be read. -/
structure IsDecimals (s : List Char) : Prop where
  decimal : ∀ c ∈ s, isDecimal c = true
  short : s.length ≤ digitLimit

/-- The number that decimal digits write. -/
def decimalsNat (s : List Char) : Nat :=
  s.foldl (fun n c => n * 10 + (decimalValue? c).getD 0) 0

/-! ### Single digits -/

theorem decimalValue?_lt {c : Char} {d : Nat} (value : decimalValue? c = some d) : d < 10 := by
  unfold decimalValue? at value
  split at value
  · split at value
    next digit =>
      simp only [isAsciiDigit, Bool.and_eq_true, decide_eq_true_eq, Char.le_def] at digit
      have most : c.toNat ≤ 57 := digit.2
      simp only [Option.some.injEq] at value
      omega
    · contradiction
  · obtain ⟨range, -, rfl⟩ := Option.map_eq_some_iff.mp value
    exact Nat.mod_lt _ (by decide)

theorem digitIn?_decimal {c : Char} {d : Nat} (value : decimalValue? c = some d) :
    digitIn? 10 c = some d := by
  simp only [digitIn?, value, Option.bind_some, if_pos (decimalValue?_lt value)]

/-- Beyond ASCII no letter stands for a digit. -/
theorem digitIn?_beyond {c : Char} (base : Nat) (beyond : isAscii c = false)
    (other : decimalValue? c = none) : digitIn? base c = none := by
  have far : 128 ≤ c.toNat := by simpa [isAscii] using beyond
  have no_lower : isAsciiLower c = false := by
    simp only [isAsciiLower, Bool.and_eq_false_iff, decide_eq_false_iff_not, Char.le_def]
    right
    intro most
    have bound : c.toNat ≤ 122 := most
    omega
  have no_upper : isAsciiUpper c = false := by
    simp only [isAsciiUpper, Bool.and_eq_false_iff, decide_eq_false_iff_not, Char.le_def]
    right
    intro most
    have bound : c.toNat ≤ 90 := most
    omega
  simp [digitIn?, other, no_lower, no_upper]

theorem ne_of_isDigit {c d : Char} (digit : isDigit c = true) (other : isDigit d = false) :
    c ≠ d := by
  rintro rfl
  rw [digit] at other
  contradiction

/-! ### Runs of digits -/

/-- Decimal digits are read to their end. -/
theorem digitsIn?_decimals {s : List Char} (decimal : ∀ c ∈ s, isDecimal c = true) (n : Nat) :
    digitsIn? 10 true n s = some (s.foldl (fun n c => n * 10 + (decimalValue? c).getD 0) n) := by
  induction s generalizing n with
  | nil => rfl
  | cons c s ih =>
    obtain ⟨here, there⟩ := List.forall_mem_cons.mp decimal
    obtain ⟨d, value⟩ := Option.isSome_iff_exists.mp ((isSome_decimalValue? c).trans here)
    have bare : c ≠ '_' := by
      rintro rfl
      contradiction
    rw [digitsIn?, if_neg bare, digitIn?_decimal value]
    simp only [List.foldl_cons, value, Option.getD_some]
    exact ih there _

/-- Reading stops at a digit that is not decimal. -/
theorem digitsIn?_other {s : List Char} (digits : ∀ c ∈ s, isDigit c = true)
    (other : ∃ c ∈ s, isDecimal c = false) (joined : Bool) (n : Nat) :
    digitsIn? 10 joined n s = none := by
  induction s generalizing joined n with
  | nil =>
    obtain ⟨c, listed, _⟩ := other
    exact absurd listed List.not_mem_nil
  | cons c s ih =>
    obtain ⟨here, there⟩ := List.forall_mem_cons.mp digits
    rw [digitsIn?, if_neg (ne_of_isDigit here (by decide))]
    -- A digit without a decimal value ends the reading; before it there are decimal ones.
    cases value : decimalValue? c with
    | none =>
      have wide : isDecimal c = false := by rw [← isSome_decimalValue?, value]; rfl
      rw [digitIn?_beyond 10 (isAscii_of_not_isDecimal here wide) value]
    | some d =>
      rw [digitIn?_decimal value]
      refine ih there ?_ true _
      obtain ⟨e, listed, wide⟩ := other
      rcases List.mem_cons.mp listed with rfl | behind
      · rw [← isSome_decimalValue?, value] at wide
        contradiction
      · exact ⟨e, behind, wide⟩

/-! ### Integers -/

namespace IsDigits

variable {s : List Char}

theorem trim_eq (text : IsDigits s) : trim s = s := by
  have solid : ∀ c ∈ s, isBlank c = false := fun c listed =>
    isBlank_of_isDigit (text.digits c listed)
  exact Trimmed.trim_eq ⟨text.nonempty, fun c first => solid c (List.mem_of_mem_head? first),
    fun c last => solid c (List.mem_of_mem_getLast? last)⟩

theorem dropSign_eq (text : IsDigits s) : dropSign s = (false, s) := by
  unfold dropSign
  split
  · exact absurd (text.digits '-' List.mem_cons_self) (by decide)
  · exact absurd (text.digits '+' List.mem_cons_self) (by decide)
  · rfl

theorem announced?_eq (text : IsDigits s) : announced? s = none := by
  unfold announced?
  split
  next c rest =>
    have digit := text.digits c (List.mem_cons_of_mem _ List.mem_cons_self)
    have letter {d : Char} (other : isDigit d = false) : c ≠ d := ne_of_isDigit digit other
    have no_x : c ≠ 'x' ∧ c ≠ 'X' := ⟨letter (by decide), letter (by decide)⟩
    have no_o : c ≠ 'o' ∧ c ≠ 'O' := ⟨letter (by decide), letter (by decide)⟩
    have no_b : c ≠ 'b' ∧ c ≠ 'B' := ⟨letter (by decide), letter (by decide)⟩
    simp [no_x, no_o, no_b]
  · rfl

theorem tooLong_eq (text : IsDigits s) : tooLong 10 s = decide (digitLimit < s.length) := by
  have all_kept : s.filter (· != '_') = s := by
    rw [List.filter_eq_self]
    intro c listed
    rw [bne_iff_ne]
    exact ne_of_isDigit (text.digits c listed) (by decide)
  rw [tooLong, all_kept]
  rfl

/-- Digits are read as they stand: they have no blanks around them, no sign, no announced base and
no low lines. -/
theorem int?_eq (text : IsDigits s) :
    int? 10 s
      = if digitLimit < s.length then none else (digitsIn? 10 false 0 s).map fun n => (n : Int) := by
  simp [int?, text.trim_eq, text.dropSign_eq, text.tooLong_eq, magnitude?, text.announced?_eq]

/-- Few decimal digits are read as the number that they write. -/
theorem int?_decimals (text : IsDigits s) (decimals : IsDecimals s) :
    int? 10 s = some (decimalsNat s : Int) := by
  rw [text.int?_eq, if_neg (Nat.not_lt.mpr decimals.short)]
  cases s with
  | nil => exact absurd rfl text.nonempty
  | cons c s =>
    -- The first digit makes up for the low line that nothing stands in front of.
    have joined : digitsIn? 10 false 0 (c :: s) = digitsIn? 10 true 0 (c :: s) := by
      rw [digitsIn?, digitsIn?, if_neg (ne_of_isDigit (text.digits c List.mem_cons_self) (by decide)),
        if_neg (ne_of_isDigit (text.digits c List.mem_cons_self) (by decide))]
    rw [joined, digitsIn?_decimals decimals.decimal]
    rfl

/-- All other texts of digits are refused. -/
theorem int?_eq_none (text : IsDigits s) (refused : ¬ IsDecimals s) : int? 10 s = none := by
  rw [text.int?_eq]
  split
  · rfl
  next few =>
    have other : ∃ c ∈ s, isDecimal c = false := by
      by_contra none
      refine refused ⟨fun c listed => ?_, Nat.not_lt.mp few⟩
      rw [← Bool.not_eq_false]
      exact fun wide => none ⟨c, listed, wide⟩
    rw [digitsIn?_other text.digits other]
    rfl

end IsDigits

end StaticSite.Number
