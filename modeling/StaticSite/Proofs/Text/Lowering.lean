import Mathlib.Data.List.Count
import StaticSite.Text.Case

/-!
# Texts in small letters

The small form of a text has one character for each of its characters, apart from the dotted
capital I (`İ`), the only letter whose small form is two. So a place in the small form is found
again in the text by counting these letters. Beyond ASCII only this letter and the Kelvin sign have
an ASCII character in their small form, so a mark of other ASCII letters stands in the small form
exactly where the text has it in some mixture of letter cases.
-/

namespace StaticSite.Text

/-! ### One character -/

/-- What a run of the small forms leads to is beyond ASCII, apart from the Kelvin sign, which leads
to `k`. -/
def Beyond (run : CaseTable.Run) : Prop :=
  (128 ≤ run.first + run.shift ∧
    (run.last + run.shift < 0xD800 ∨
      0xE000 ≤ run.first + run.shift ∧ run.last + run.shift < 0x110000)) ∨
  (run.first = 0x212A ∧ run.last = 0x212A ∧ run.shift = -8383)

instance (run : CaseTable.Run) : Decidable (Beyond run) := by
  unfold Beyond
  infer_instance

theorem lowerRuns_beyond : ∀ run ∈ CaseTable.lowerRuns.toList, Beyond run := by decide +kernel

theorem runTarget?_lowerRuns {code target : Nat}
    (found : runTarget? CaseTable.lowerRuns code = some target) :
    128 ≤ target ∧ target.isValidChar ∨ target = 'k'.toNat := by
  simp only [runTarget?, Option.map_eq_some_iff] at found
  obtain ⟨run, first, rfl⟩ := found
  have covered := Array.find?_some first
  simp only [Bool.and_eq_true, decide_eq_true_eq] at covered
  have beyond := lowerRuns_beyond run (Array.mem_toList_iff.mpr (Array.mem_of_find?_eq_some first))
  have letter : 'k'.toNat = 107 := rfl
  simp only [Beyond, Nat.isValidChar] at beyond ⊢
  omega

theorem listed?_lowerLong (code : Nat) :
    listed? CaseTable.lowerLong code
      = if code = 0x130 then some ['i', Char.ofNat 0x307] else none := by
  by_cases dotted : code = 0x130
  · subst dotted
    decide +kernel
  · simp [listed?, CaseTable.lowerLong, Ne.symm dotted, dotted]

theorem lowerChar_ascii {c : Char} (ascii : isAscii c = true) : lowerChar c = [c.toLower] := by
  have each : ∀ code : Fin 128,
      lowerChar (Char.ofNat code) = [(Char.ofNat code).toLower] := by decide +kernel
  have below : c.toNat < 128 := by simpa [isAscii] using ascii
  have here := each ⟨c.toNat, below⟩
  rwa [Char.ofNat_toNat] at here

theorem lowerChar_dotted : lowerChar 'İ' = ['i', Char.ofNat 0x307] := by decide +kernel

/-- Beyond ASCII the small form is one character, and one in ASCII only if it is `k`. -/
theorem lowerChar_beyond {c : Char} (beyond : isAscii c = false) (other : c ≠ 'İ') :
    ∃ d, lowerChar c = [d] ∧ (isAscii d = true → d = 'k') := by
  have code : c.toNat ≠ 0x130 := fun same => other (by rw [← Char.ofNat_toNat c, same])
  rw [lowerChar, beyond, listed?_lowerLong, if_neg code]
  refine ⟨_, rfl, ?_⟩
  intro ascii
  cases target : runTarget? CaseTable.lowerRuns c.toNat with
  | none =>
    rw [target] at ascii
    exact absurd (beyond.symm.trans ascii) Bool.false_ne_true
  | some n =>
    rw [target] at ascii
    -- The targets of the table are beyond ASCII, but for the small form of the Kelvin sign.
    rcases runTarget?_lowerRuns target with ⟨far, valid⟩ | rfl
    · have same : (Char.ofNat n).toNat = n := by
        rw [Char.ofNat, dif_pos valid]
        rfl
      simp only [Option.map_some, Option.getD_some, isAscii, same, decide_eq_true_eq] at ascii
      omega
    · rfl

/-! ### Characters in their text -/

/-- A sigma has two small forms, neither in ASCII; every other character has the one that it has by
itself. -/
theorem lowerWithin_ascii {c : Char} (ascii : isAscii c = true) (before : Bool)
    (after : List Char) : lowerWithin before c after = [c.toLower] := by
  have other : (c == 'Σ') = false := by
    rw [beq_eq_false_iff_ne]
    rintro rfl
    exact absurd ascii (by decide)
  rw [lowerWithin, other]
  exact lowerChar_ascii ascii

theorem lowerWithin_dotted (before : Bool) (after : List Char) :
    lowerWithin before 'İ' after = ['i', Char.ofNat 0x307] := lowerChar_dotted

theorem lowerWithin_beyond {c : Char} (beyond : isAscii c = false) (other : c ≠ 'İ')
    (before : Bool) (after : List Char) :
    ∃ d, lowerWithin before c after = [d] ∧ (isAscii d = true → d = 'k') := by
  unfold lowerWithin
  split
  · split
    · exact ⟨'ς', rfl, by decide⟩
    · exact ⟨'σ', rfl, by decide⟩
  · exact lowerChar_beyond beyond other

theorem lowerWithin_length (before : Bool) (c : Char) (after : List Char) :
    (lowerWithin before c after).length = if c = 'İ' then 2 else 1 := by
  split
  next dotted =>
    rw [dotted, lowerWithin_dotted]
    rfl
  next other =>
    by_cases ascii : isAscii c = true
    · rw [lowerWithin_ascii ascii]
      rfl
    · obtain ⟨d, single, _⟩ := lowerWithin_beyond (by simpa using ascii) other before after
      rw [single]
      rfl

/-- How many characters of the small form come from a front of the text. -/
def loweredLength (front : List Char) : Nat := front.length + front.count 'İ'

theorem loweredLength_cons (before : Bool) (c : Char) (after front : List Char) :
    loweredLength (c :: front) = (lowerWithin before c after).length + loweredLength front := by
  rw [lowerWithin_length, loweredLength, loweredLength, List.length_cons, List.count_cons]
  by_cases dotted : c = 'İ'
  · simp only [dotted, beq_self_eq_true, if_true]
    omega
  · simp only [dotted, beq_iff_eq, if_false]
    omega

/-! ### Marks -/

theorem lowerFrom_append (before : Bool) (front s : List Char) :
    ∃ small inside, lowerFrom before (front ++ s) = small ++ lowerFrom inside s ∧
      small.length = loweredLength front := by
  induction front generalizing before with
  | nil => exact ⟨[], before, rfl, rfl⟩
  | cons c front ih =>
    obtain ⟨small, inside, split, size⟩ := ih (wordSoFar before c)
    refine ⟨lowerWithin before c (front ++ s) ++ small, inside, ?_, ?_⟩
    · rw [List.cons_append, lowerFrom, split, List.append_assoc]
    · rw [List.length_append, size, ← loweredLength_cons]

/-- The text begins with the mark in some mixture of letter cases. -/
def Opens (mark s : List Char) : Prop :=
  ∃ front rest, s = front ++ rest ∧ front.map Char.toLower = mark

/-- A mark of small ASCII characters, without the two to which letters beyond ASCII lead. -/
structure SmallMark (mark : List Char) : Prop where
  ascii : ∀ c ∈ mark, isAscii c = true
  no_i : 'i' ∉ mark
  no_k : 'k' ∉ mark

theorem isAscii_of_toLower {c : Char} (ascii : isAscii c.toLower = true) : isAscii c = true := by
  by_contra beyond
  have far : 128 ≤ c.toNat := by simpa [isAscii] using beyond
  have small : ¬ (c.val ≥ 'A'.val ∧ c.val ≤ 'Z'.val) := by
    rintro ⟨_, most⟩
    have bound : c.toNat ≤ 90 := UInt32.le_iff_toNat_le.mp most
    omega
  have same : c.toLower = c := dif_neg small
  rw [same] at ascii
  exact beyond ascii

namespace SmallMark

variable {mark : List Char}

theorem tail {d : Char} (small : SmallMark (d :: mark)) : SmallMark mark where
  ascii c listed := small.ascii c (List.mem_cons_of_mem d listed)
  no_i listed := small.no_i (List.mem_cons_of_mem d listed)
  no_k listed := small.no_k (List.mem_cons_of_mem d listed)

/-- Only its own capital and small letter have a character of the mark in their small form. -/
theorem of_mem {c d : Char} {before : Bool} {after : List Char} (small : SmallMark mark)
    (listed : d ∈ mark) (inside : d ∈ lowerWithin before c after) :
    c.toLower = d ∧ lowerWithin before c after = [d] := by
  by_cases ascii : isAscii c = true
  · rw [lowerWithin_ascii ascii] at inside ⊢
    obtain rfl := List.mem_singleton.mp inside
    exact ⟨rfl, rfl⟩
  · by_cases dotted : c = 'İ'
    · rw [dotted, lowerWithin_dotted] at inside
      rcases List.mem_cons.mp inside with rfl | inside
      · exact absurd listed small.no_i
      · obtain rfl := List.mem_singleton.mp inside
        exact absurd (small.ascii _ listed) (by decide)
    · obtain ⟨e, single, plain⟩ := lowerWithin_beyond (by simpa using ascii) dotted before after
      rw [single] at inside
      obtain rfl := List.mem_singleton.mp inside
      obtain rfl := plain (small.ascii _ listed)
      exact absurd listed small.no_k

/-- The small form begins with the mark exactly if the text does, letter case apart. -/
theorem opens_iff (small : SmallMark mark) (before : Bool) (s : List Char) :
    Opens mark s ↔ ∃ rest, lowerFrom before s = mark ++ rest := by
  induction mark generalizing before s with
  | nil => exact ⟨fun _ => ⟨_, rfl⟩, fun _ => ⟨[], s, rfl, rfl⟩⟩
  | cons d mark ih =>
    constructor
    · rintro ⟨front, rest, rfl, spelled⟩
      obtain ⟨c, tail, rfl, rfl, rfl⟩ := List.map_eq_cons_iff.mp spelled
      have ascii := isAscii_of_toLower (small.ascii _ List.mem_cons_self)
      obtain ⟨after, lowered⟩ := (ih small.tail (wordSoFar before c) (tail ++ rest)).mp
        ⟨tail, rest, rfl, rfl⟩
      exact ⟨after, by
        rw [List.cons_append, lowerFrom, lowerWithin_ascii ascii, lowered]
        rfl⟩
    · rintro ⟨rest, lowered⟩
      cases s with
      | nil => contradiction
      | cons c s =>
        rw [lowerFrom] at lowered
        -- A small form is never empty, so the first letter of the mark comes from `c`.
        have inside : d ∈ lowerWithin before c s := by
          have size := lowerWithin_length before c s
          cases small_form : lowerWithin before c s with
          | nil => split at size <;> simp [small_form] at size
          | cons e _ =>
            rw [small_form] at lowered
            rw [(List.cons.inj lowered).1]
            exact List.mem_cons_self
        obtain ⟨same, single⟩ := small.of_mem List.mem_cons_self inside
        rw [single] at lowered
        obtain ⟨front, after, rfl, spelled⟩ :=
          (ih small.tail (wordSoFar before c) s).mpr ⟨rest, (List.cons.inj lowered).2⟩
        exact ⟨c :: front, after, rfl, by rw [List.map_cons, same, spelled]⟩

/-- Where the mark stands in the small form, the text opens with it behind as many characters as
the small form has there. -/
theorem opens_of_lowered (small : SmallMark mark) (nonempty : mark ≠ []) {before : Bool}
    {s front back : List Char} (stands : lowerFrom before s = front ++ mark ++ back) :
    ∃ first rest, s = first ++ rest ∧ front.length = loweredLength first ∧ Opens mark rest := by
  induction s generalizing before front with
  | nil =>
    have empty : front ++ mark ++ back = [] := stands.symm
    exact absurd (List.append_eq_nil_iff.mp (List.append_eq_nil_iff.mp empty).1).2 nonempty
  | cons c s ih =>
    cases front with
    | nil => exact ⟨[], c :: s, rfl, rfl, (small.opens_iff before (c :: s)).mpr ⟨back, stands⟩⟩
    | cons e front =>
      rw [lowerFrom, List.append_assoc] at stands
      have behind : ∃ more, e :: front = lowerWithin before c s ++ more ∧
          lowerFrom (wordSoFar before c) s = more ++ mark ++ back := by
        rcases List.append_eq_append_iff.mp stands with ⟨more, whole, rest⟩ | ⟨more, whole, rest⟩
        · exact ⟨more, whole, by rw [rest, List.append_assoc]⟩
        · cases more with
          | nil => exact ⟨[], by rw [whole]; simp, by rw [List.append_assoc]; exact rest.symm⟩
          | cons d more =>
            -- A character of the mark is never a part of a longer small form.
            obtain ⟨f, tail, rfl⟩ := List.exists_cons_of_ne_nil nonempty
            obtain rfl := (List.cons.inj rest).1
            have single := (small.of_mem List.mem_cons_self
              (whole ▸ List.mem_append_right _ List.mem_cons_self)).2
            have lengths := congrArg List.length (single.symm.trans whole)
            simp at lengths
      obtain ⟨more, whole, rest⟩ := behind
      obtain ⟨first, after, rfl, size, opens⟩ := ih rest
      refine ⟨c :: first, after, rfl, ?_, opens⟩
      rw [whole, List.length_append, size, ← loweredLength_cons]

end SmallMark

end StaticSite.Text
