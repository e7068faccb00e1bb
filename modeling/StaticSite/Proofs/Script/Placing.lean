import StaticSite.Script
import StaticSite.Proofs.Text.Cutting
import StaticSite.Proofs.Text.Lowering

/-!
# Where scripts go

A block of scripts is put into a page as a whole and changes nothing else. It belongs in front of
the last closing tag of a body, its letters in any mixture of cases, or at the end of a page without
one. The place is found in the small form of the page and used in the page itself, so every dotted
capital I (`İ`) in front of the last closing tag moves it by one character: the block is in its
place exactly if no such letter stands there.
-/

namespace StaticSite.Script

open StaticSite.Text

/-- A closing tag of a body stands somewhere in the text, in some mixture of letter cases. -/
def HoldsClosing (s : List Char) : Prop := ∃ front back, s = front ++ back ∧ Opens bodyClosing back

/-- The text begins with a closing tag, and no other one starts behind its first character. -/
structure LastClosing (s : List Char) : Prop where
  opens : Opens bodyClosing s
  last : ¬ HoldsClosing s.tail

/-- What follows the scripts of a page: the last closing tag and what comes after it, or nothing. -/
structure InPlace (page back : List Char) : Prop where
  before_closing : HoldsClosing page → LastClosing back
  at_end : ¬ HoldsClosing page → back = []

theorem bodyClosing_small : SmallMark bodyClosing where
  ascii := List.all_eq_true.mp rfl
  no_i := by decide
  no_k := by decide

theorem bodyClosing_ne_nil : bodyClosing ≠ [] := by decide

variable {s before after : List Char}

/-! ### Closing tags and their small forms -/

theorem not_opens_nil : ¬ Opens bodyClosing [] := by
  rintro ⟨front, rest, whole, spelled⟩
  obtain rfl := (List.append_eq_nil_iff.mp whole.symm).1
  exact bodyClosing_ne_nil spelled.symm

/-- A closing tag in the text is one in its small form, behind as many characters as the text in
front of it takes there. -/
theorem closing_lowered {front back : List Char} (whole : s = front ++ back)
    (opens : Opens bodyClosing back) :
    ∃ small rest, lower s = small ++ bodyClosing ++ rest ∧ small.length = loweredLength front := by
  obtain ⟨small, inside, split, size⟩ := lowerFrom_append false front back
  obtain ⟨rest, lowered⟩ := (bodyClosing_small.opens_iff inside back).mp opens
  exact ⟨small, rest, by rw [whole, lower, split, lowered, List.append_assoc], size⟩

theorem loweredLength_append (front back : List Char) :
    loweredLength (front ++ back) = loweredLength front + loweredLength back := by
  simp only [loweredLength, List.length_append, List.count_append]
  omega

/-- The last mark of the small form belongs to the last closing tag. -/
theorem lastClosing_of_cutAtLast? (found : cutAtLast? bodyClosing (lower s) = some (before, after)) :
    ∃ front back, s = front ++ back ∧ before.length = loweredLength front ∧ LastClosing back := by
  obtain ⟨front, back, whole, size, opens⟩ :=
    bodyClosing_small.opens_of_lowered bodyClosing_ne_nil (cutAtLast?_eq_append found)
  refine ⟨front, back, whole, size, opens, ?_⟩
  rintro ⟨first, rest, later, reopens⟩
  cases back with
  | nil => exact not_opens_nil opens
  | cons c back =>
    -- A later tag would be a later mark of the small form.
    have moved : s = (front ++ c :: first) ++ rest := by
      rw [whole, List.append_assoc, List.cons_append]
      exact congrArg (front ++ c :: ·) later
    obtain ⟨small, tail, lowered, length⟩ := closing_lowered moved reopens
    have most := cutAtLast?_most found lowered
    rw [length, size, loweredLength_append] at most
    simp only [loweredLength, List.length_cons] at most
    omega

theorem cutAtLast?_of_holds (holds : HoldsClosing s) :
    ∃ before after, cutAtLast? bodyClosing (lower s) = some (before, after) := by
  obtain ⟨front, back, whole, opens⟩ := holds
  obtain ⟨small, rest, lowered, _⟩ := closing_lowered whole opens
  obtain ⟨⟨before, after⟩, found⟩ := Option.isSome_iff_exists.mp (cutAtLast?_isSome lowered)
  exact ⟨before, after, found⟩

/-- A text has one last closing tag. -/
theorem LastClosing.unique {front back first rest : List Char} (whole : s = front ++ back)
    (again : s = first ++ rest) (here : LastClosing back) (there : LastClosing rest) :
    front = first := by
  have not_behind {front back first rest : List Char} (same : front ++ back = first ++ rest)
      (here : LastClosing back) (there : LastClosing rest) : first.length ≤ front.length := by
    rcases List.append_eq_append_iff.mp same with ⟨more, rfl, behind⟩ | ⟨more, rfl, _⟩
    · cases more with
      | nil => simp
      | cons c more =>
        subst behind
        exact absurd ⟨more, rest, rfl, there.opens⟩ here.last
    · simp
  have same := whole.symm.trans again
  exact (List.append_inj same (Nat.le_antisymm (not_behind same.symm there here)
    (not_behind same here there))).1

/-! ### Putting scripts in -/

theorem inject_of_cut {scripts : List (List Char)} (given : scripts ≠ [])
    (found : cutAtLast? bodyClosing (lower s) = some (before, after)) :
    inject s scripts = s.take before.length ++ scripts.flatten ++ s.drop before.length := by
  rw [inject, if_neg (by simpa using given), found]

theorem inject_of_no_cut {scripts : List (List Char)} (given : scripts ≠ [])
    (absent : cutAtLast? bodyClosing (lower s) = none) :
    inject s scripts = s ++ scripts.flatten := by
  rw [inject, if_neg (by simpa using given), absent]

/-- Scripts go into a page in one piece, and all of the page stays around them. They are in their
place exactly if no dotted capital I stands in front of the last closing tag; each one that does
moves them by one character. -/
theorem inject_inPlace_iff {scripts : List (List Char)} (given : scripts ≠ []) (s : List Char) :
    ∃ front back, front ++ back = s ∧ inject s scripts = front ++ scripts.flatten ++ back ∧
      (∀ before last, s = before ++ last → LastClosing last →
        front = s.take (before.length + before.count 'İ')) ∧
      (InPlace s back ↔ ∀ before last, s = before ++ last → LastClosing last → 'İ' ∉ before) := by
  cases found : cutAtLast? bodyClosing (lower s) with
  | none =>
    have bare : ¬ HoldsClosing s := by
      intro holds
      obtain ⟨before, after, cut⟩ := cutAtLast?_of_holds holds
      rw [found] at cut
      contradiction
    have no_tag (before last : List Char) (whole : s = before ++ last) : ¬ LastClosing last :=
      fun closing => bare ⟨before, last, whole, closing.opens⟩
    refine ⟨s, [], List.append_nil s, ?_, ?_, ?_⟩
    · rw [inject_of_no_cut given found, List.append_nil]
    · exact fun before last whole closing => absurd closing (no_tag before last whole)
    · constructor
      · exact fun _ before last whole closing => absurd closing (no_tag before last whole)
      · exact fun _ => ⟨fun holds => absurd holds bare, fun _ => rfl⟩
  | some cut =>
    obtain ⟨small, rest⟩ := cut
    obtain ⟨front, back, whole, size, closing⟩ := lastClosing_of_cutAtLast? found
    have holds : HoldsClosing s := ⟨front, back, whole, closing.opens⟩
    have only {before last : List Char} (other : s = before ++ last) (ends : LastClosing last) :
        before = front := ends.unique other whole closing
    refine ⟨s.take small.length, s.drop small.length, List.take_append_drop _ _,
      inject_of_cut given found, ?_, ?_⟩
    · intro before last other ends
      rw [size, ← only other ends]
      rfl
    · constructor
      · -- In its place, the back is the last tag, so nothing in front of it is counted twice.
        intro place before last other ends dotted
        have here := only (List.take_append_drop small.length s).symm (place.before_closing holds)
        rw [only other ends] at dotted
        have counted : 0 < front.count 'İ' := List.count_pos_iff.mpr dotted
        have lengths := congrArg List.length here
        rw [List.length_take, size, loweredLength, whole, List.length_append] at lengths
        have empty : back = [] := List.length_eq_zero_iff.mp (by omega)
        exact not_opens_nil (empty ▸ closing.opens)
      · intro plain
        have none : front.count 'İ' = 0 := List.count_eq_zero.mpr (plain front back whole closing)
        have same : s.drop small.length = back := by
          rw [size, loweredLength, none, whole]
          simp
        rw [same]
        exact ⟨fun _ => closing, fun bare => absurd holds bare⟩

theorem length_of_holdsClosing (holds : HoldsClosing s) : bodyClosing.length ≤ s.length := by
  obtain ⟨front, back, rfl, tag, rest, rfl, spelled⟩ := holds
  rw [← spelled, List.length_map]
  simp only [List.length_append]
  omega

/-- Behind a dotted capital I the scripts go into the closing tag. -/
theorem inject_inPlace_iff_dotted :
    [['x']] ≠ ([] : List (List Char)) ∧
      inject "İ</Body>".toList [['x']] = "İ<x/Body>".toList ∧
      ¬ InPlace "İ</Body>".toList "/Body>".toList := by
  have given : [['x']] ≠ ([] : List (List Char)) := List.cons_ne_nil _ _
  obtain ⟨front, back, whole, injected, moved, place⟩ :=
    inject_inPlace_iff given "İ</Body>".toList
  have closing : LastClosing "</Body>".toList :=
    ⟨⟨"</Body>".toList, [], rfl, by decide⟩, fun holds => absurd (length_of_holdsClosing holds) (by decide)⟩
  obtain rfl : front = "İ<".toList := moved ['İ'] _ rfl closing
  obtain rfl : back = "/Body>".toList := List.append_cancel_left whole
  exact ⟨given, injected, fun here => place.mp here ['İ'] _ rfl closing (by decide)⟩

example : inject "<BODY>a</BODY>b".toList [['x'], ['y']] = "<BODY>axy</BODY>b".toList := by
  decide +kernel

end StaticSite.Script
