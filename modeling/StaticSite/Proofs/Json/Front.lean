import StaticSite.Json.Reader
import StaticSite.Proofs.Text.Renumbering

/-!
# What follows a JSON value

Reading takes a value off the front of a text, so what follows is a shorter end of the text. In
renumbered texts the reader takes the same kind of value and leaves renumbered ends: outside of a
string no low line can be read, and inside of one letters and digits are characters like others.
-/

namespace StaticSite.Json

open StaticSite.Text

/-- A text that is left after something has been read. -/
def After (rest s : List Char) : Prop := rest <:+ s ∧ rest.length < s.length

namespace After

variable {rest s t : List Char}

theorem of_suffix (after : After rest s) (inside : s <:+ t) : After rest t :=
  ⟨after.1.trans inside, Nat.lt_of_lt_of_le after.2 inside.length_le⟩

theorem trans (first : After rest s) (second : After s t) : After rest t :=
  first.of_suffix second.1

theorem of_cons (c : Char) (s : List Char) : After s (c :: s) :=
  ⟨List.suffix_cons c s, Nat.lt_succ_self _⟩

theorem cons (c : Char) (after : After rest s) : After rest (c :: s) :=
  after.of_suffix (List.suffix_cons c s)

end After

theorem skipSpace_suffix (s : List Char) : skipSpace s <:+ s := List.dropWhile_suffix _

theorem After.skipSpace {rest s : List Char} (after : After rest s) : After (skipSpace rest) s :=
  ⟨(skipSpace_suffix rest).trans after.1,
    Nat.lt_of_le_of_lt (skipSpace_suffix rest).length_le after.2⟩

/-- A comma, a bracket or a colon after spaces. -/
theorem after_of_skipSpace {c : Char} {s rest : List Char} (found : skipSpace s = c :: rest) :
    After rest s := (After.of_cons c rest).of_suffix (found ▸ skipSpace_suffix s)

theorem stringFrom_after {high : Option Nat} {read s text rest : List Char}
    (found : stringFrom high read s = .ok (text, rest)) : After rest s := by
  fun_induction stringFrom high read s with
  | case1 | case3 | case10 | case11 => contradiction
  | case2 =>
    simp only [Except.ok.injEq, Prod.mk.injEq] at found
    exact found.2 ▸ After.of_cons _ _
  | case4 _ _ _ _ _ _ _ _ _ _ ih | case5 _ _ _ _ _ _ _ _ _ _ _ ih | case6 _ _ _ _ _ _ _ _ _ _ _ ih
  | case7 _ _ _ _ _ _ _ _ _ ih | case8 _ _ _ _ _ _ _ _ _ ih =>
    exact (ih found).of_suffix ⟨_ :: _ :: _ :: _ :: _ :: [_], rfl⟩
  | case9 _ _ _ _ _ _ _ ih => exact ((ih found).cons _).cons _
  | case12 _ _ _ _ _ _ _ _ ih => exact (ih found).cons _

theorem digitsFront_eq (s : List Char) :
    digitsFront s = (s.takeWhile isAsciiDigit, s.dropWhile isAsciiDigit) :=
  List.span_eq_takeWhile_dropWhile _ _

theorem fractionFront_suffix (s : List Char) : (fractionFront s).2 <:+ s := by
  unfold fractionFront
  split
  next after =>
    rw [digitsFront_eq]
    split
    · exact List.suffix_refl _
    next rest _ read =>
      cases read
      exact (List.dropWhile_suffix _).trans (List.suffix_cons _ _)
  · exact List.suffix_refl _

theorem exponentFront_suffix (s : List Char) : (exponentFront s).2 <:+ s := by
  unfold exponentFront
  split
  next c after =>
    split
    · simp only [digitsFront_eq]
      split
      · exact List.suffix_refl _
      next rest _ read =>
        cases read
        exact ((List.dropWhile_suffix _).trans (Number.dropSign_suffix after)).trans
          (List.suffix_cons _ _)
    · exact List.suffix_refl _
  · exact List.suffix_refl _

theorem wholeFront_append (s : List Char) : (wholeFront s).1 ++ (wholeFront s).2 = s := by
  unfold wholeFront
  split
  · rfl
  · rw [digitsFront_eq]
    exact List.takeWhile_append_dropWhile

theorem wholeFront_digits (s : List Char) : ∀ c ∈ (wholeFront s).1, isAsciiDigit c = true := by
  unfold wholeFront
  split
  · simp [isAsciiDigit]
  · rw [digitsFront_eq]
    intro c inside
    exact List.all_eq_true.mp List.all_takeWhile c inside

theorem numberFrom_eq (negative : Bool) (s : List Char) :
    numberFrom negative s =
      if (wholeFront s).1.isEmpty then .error .malformedJson
      else
        let fraction := fractionFront (wholeFront s).2
        let exponent := exponentFront fraction.2
        (numberOf negative (wholeFront s).1 fraction.1 exponent.1).map fun v => (v, exponent.2) :=
  rfl

theorem numberFrom_after {negative : Bool} {s rest : List Char} {v : Value}
    (found : numberFrom negative s = .ok (v, rest)) : After rest s := by
  rw [numberFrom_eq] at found
  split at found
  · contradiction
  next nonempty =>
    cases number : numberOf negative (wholeFront s).1 (fractionFront (wholeFront s).2).1
        (exponentFront (fractionFront (wholeFront s).2).2).1 with
    | error fault =>
      simp only [number] at found
      contradiction
    | ok n =>
      simp only [number, Except.map, Except.ok.injEq, Prod.mk.injEq] at found
      obtain ⟨-, rfl⟩ := found
      have left : (exponentFront (fractionFront (wholeFront s).2).2).2 <:+ (wholeFront s).2 :=
        (exponentFront_suffix _).trans (fractionFront_suffix _)
      have whole := wholeFront_append s
      -- A number has at least one digit, so less is left than there was.
      have taken : 0 < (wholeFront s).1.length :=
        List.length_pos_iff.mpr fun empty => nonempty (by rw [empty]; rfl)
      refine ⟨left.trans ⟨_, whole⟩, ?_⟩
      have shorter := left.length_le
      have total := congrArg List.length whole
      rw [List.length_append] at total
      omega

theorem literal?_after {s rest : List Char} {v : Value} (found : literal? s = some (v, rest)) :
    After rest s := by
  obtain ⟨⟨word, constant⟩, inside, read⟩ := List.exists_of_findSome?_eq_some found
  obtain ⟨after, dropped, same⟩ := Option.map_eq_some_iff.mp read
  cases same
  rw [dropFront?_eq_some_iff] at dropped
  have nonempty : 0 < word.length := by
    simp only [literals, List.mem_cons, List.not_mem_nil, or_false, Prod.mk.injEq] at inside
    rcases inside with ⟨rfl, -⟩ | ⟨rfl, -⟩ | ⟨rfl, -⟩ | ⟨rfl, -⟩ | ⟨rfl, -⟩ | ⟨rfl, -⟩ <;> decide
  have total := congrArg List.length dropped
  simp only [List.length_append] at total
  exact ⟨⟨word, dropped.symm⟩, by omega⟩

/-- What all readers of a given fuel leave. -/
structure Leaves (fuel : Nat) : Prop where
  value : ∀ {s v rest}, value fuel s = .ok (v, rest) → After rest s
  elements : ∀ {s items rest}, elements fuel s = .ok (items, rest) → After rest s
  members : ∀ {s items rest}, members fuel s = .ok (items, rest) → After rest s

theorem value_after {fuel : Nat} (inner : Leaves fuel) {s rest : List Char} {v : Value}
    (found : value (fuel + 1) s = .ok (v, rest)) : After rest s := by
  unfold value at found
  split at found
  next text =>
    obtain ⟨⟨read, after⟩, ended, same⟩ := Fault.map_eq_ok found
    cases same
    exact (stringFrom_after ended).cons _
  next text =>
    split at found
    next after closed =>
      cases found
      exact (after_of_skipSpace closed).cons _
    next =>
      obtain ⟨⟨items, after⟩, ended, same⟩ := Fault.map_eq_ok found
      cases same
      exact ((inner.elements ended).of_suffix (skipSpace_suffix _)).cons _
  next text =>
    split at found
    next after closed =>
      cases found
      exact (after_of_skipSpace closed).cons _
    next =>
      obtain ⟨⟨items, after⟩, ended, same⟩ := Fault.map_eq_ok found
      cases same
      exact ((inner.members ended).of_suffix (skipSpace_suffix _)).cons _
  next =>
    split at found
    next constant read =>
      cases found
      exact literal?_after read
    next =>
      split at found
      · exact (numberFrom_after found).cons _
      · exact numberFrom_after found

theorem elements_after {fuel : Nat} (inner : Leaves fuel) {s rest : List Char}
    {items : List Value} (found : elements (fuel + 1) s = .ok (items, rest)) : After rest s := by
  unfold elements at found
  obtain ⟨⟨item, left⟩, first, found⟩ := Fault.bind_eq_ok found
  have front := inner.value first
  dsimp only at found
  split at found
  next after closed =>
    cases found
    exact (after_of_skipSpace closed).trans front
  next after comma =>
    obtain ⟨⟨others, last⟩, ended, same⟩ := Fault.bind_eq_ok found
    cases same
    exact ((inner.elements ended).of_suffix (skipSpace_suffix _)).trans
      ((after_of_skipSpace comma).trans front)
  next => contradiction

theorem members_after {fuel : Nat} (inner : Leaves fuel) {s rest : List Char}
    {items : List (Value × Value)} (found : members (fuel + 1) s = .ok (items, rest)) :
    After rest s := by
  unfold members at found
  split at found
  next text =>
    obtain ⟨⟨name, left⟩, named, found⟩ := Fault.bind_eq_ok found
    have front := (stringFrom_after named).cons '"'
    dsimp only at found
    split at found
    next after colon =>
      obtain ⟨⟨item, left⟩, read, found⟩ := Fault.bind_eq_ok found
      -- Name, colon and value each leave a suffix, and the rest of the members one of theirs.
      have middle := ((inner.value read).of_suffix (skipSpace_suffix _)).trans
        ((after_of_skipSpace colon).trans front)
      dsimp only at found
      split at found
      next after closed =>
        cases found
        exact (after_of_skipSpace closed).trans middle
      next after comma =>
        obtain ⟨⟨others, last⟩, ended, same⟩ := Fault.bind_eq_ok found
        cases same
        exact ((inner.members ended).of_suffix (skipSpace_suffix _)).trans
          ((after_of_skipSpace comma).trans middle)
      next => contradiction
    next => contradiction
  next => contradiction

theorem leaves (fuel : Nat) : Leaves fuel := by
  induction fuel with
  | zero => constructor <;> exact fun found => nomatch found
  | succ fuel ih => exact ⟨value_after ih, elements_after ih, members_after ih⟩

/-- A value that is read leaves a shorter end of its text. -/
theorem readFront_after {s rest : List Char} {v : Value} (found : readFront s = .ok (v, rest)) :
    After rest s := (leaves _).value found

/-! ### Renumbered texts -/

/-- Both readers meet the same fault, or read related things and leave renumbered ends. -/
inductive StepsAlike {α : Type} (related : α → α → Prop) : Step α → Step α → Prop where
  | ok {a b : α} {s t : List Char} (items : related a b) (rests : Renumbered s t) :
      StepsAlike related (.ok (a, s)) (.ok (b, t))
  | error (fault : Fault) : StepsAlike related (.error fault) (.error fault)

theorem le_toNat_of_isAsciiWord {c : Char} (word : isAsciiWord c = true) : 32 ≤ c.toNat := by
  simp only [isAsciiWord, isWord, Bool.and_eq_true] at word
  obtain ⟨ascii, word⟩ := word
  rw [if_pos ascii] at word
  simp only [isAsciiUpper, isAsciiLower, isAsciiDigit, Bool.or_eq_true, Bool.and_eq_true,
    decide_eq_true_eq, beq_iff_eq, Char.le_def, UInt32.le_iff_toNat_le] at word
  have code : c.toNat = c.val.toNat := rfl
  have upper : 'A'.val.toNat = 65 := rfl
  have lower : 'a'.val.toNat = 97 := rfl
  have digit : '0'.val.toNat = 48 := rfl
  rcases word with ((⟨least, -⟩ | ⟨least, -⟩) | ⟨least, -⟩) | rfl
  · omega
  · omega
  · omega
  · decide

/-- Texts that the string reader passes over, whatever it has read before. -/
def Passes (front : List Char) : Prop :=
  ∀ high read, ∃ next taken, ∀ s, stringFrom high read (front ++ s) = stringFrom next taken s

namespace Passes

theorem append {front back : List Char} (first : Passes front) (second : Passes back) :
    Passes (front ++ back) := by
  intro high read
  obtain ⟨middle, half, left⟩ := first high read
  obtain ⟨next, taken, right⟩ := second middle half
  refine ⟨next, taken, fun s => ?_⟩
  rw [List.append_assoc, left, right]

theorem plain {c : Char} (quote : c ≠ '"') (escape : c ≠ '\\') (printed : ¬ c.toNat < 32) :
    Passes [c] := by
  intro high read
  refine ⟨none, c :: stringFrom.flush high read, fun s => ?_⟩
  have kept : ¬ (decide (c.toNat < 32) || decide (c = '\\')) = true := by simp [printed, escape]
  rw [List.singleton_append, stringFrom, if_neg kept] <;> simp_all

theorem word {k : List Char} (run : ∀ c ∈ k, isAsciiWord c = true) : Passes k := by
  induction k with
  | nil => exact fun high read => ⟨high, read, fun _ => rfl⟩
  | cons c k ih =>
    have letter := run c List.mem_cons_self
    have first : Passes [c] := by
      apply plain
      · rintro rfl
        contradiction
      · rintro rfl
        contradiction
      · exact Nat.not_lt.mpr (le_toNat_of_isAsciiWord letter)
    exact append first (ih fun d inside => run d (List.mem_cons_of_mem c inside))

theorem unit {a b c d : Char} {n : Nat} (read : hexUnit? a b c d = some n) :
    Passes ['\\', 'u', a, b, c, d] := by
  intro high taken
  cases high with
  | none =>
    by_cases first : isHighUnit n = true
    · exact ⟨some n, taken, fun s => by simp [stringFrom, read, first]⟩
    · exact ⟨none, unitChar n :: taken, fun s => by simp [stringFrom, read, first]⟩
  | some h =>
    by_cases second : isLowUnit n = true
    · exact ⟨none, pairChar h n :: taken, fun s => by simp [stringFrom, read, second]⟩
    · by_cases first : isHighUnit n = true
      · exact ⟨some n, unitChar h :: taken, fun s => by simp [stringFrom, read, second, first]⟩
      · exact ⟨none, unitChar n :: unitChar h :: taken,
          fun s => by simp [stringFrom, read, second, first]⟩

theorem escape {c e : Char} (letter : shortEscape? c = some e) : Passes ['\\', c] := by
  have other : c ≠ 'u' := by
    rintro rfl
    contradiction
  intro high taken
  refine ⟨none, e :: stringFrom.flush high taken, fun s => ?_⟩
  rw [List.cons_append, List.singleton_append, stringFrom] <;> simp_all

end Passes

theorem stringFrom_unit_fault {s : List Char} (high : Option Nat) (taken : List Char)
    (absent : ∀ a b c d rest, s = a :: b :: c :: d :: rest → hexUnit? a b c d = none) :
    stringFrom high taken ('\\' :: 'u' :: s) = .error .malformedJson := by
  match s with
  | a :: b :: c :: d :: rest => simp [stringFrom, absent a b c d rest rfl]
  | [] | [a] | [a, b] | [a, b, c] => simp [stringFrom, shortEscape?]

theorem stringFrom_escape_fault {c : Char} {s : List Char} (high : Option Nat)
    (taken : List Char) (other : c ≠ 'u') (absent : shortEscape? c = none) :
    stringFrom high taken ('\\' :: c :: s) = .error .malformedJson := by
  rw [stringFrom] <;> simp_all

theorem stringFrom_control_fault {c : Char} {s : List Char} (high : Option Nat)
    (taken : List Char) (control : c.toNat < 32) :
    stringFrom high taken (c :: s) = .error .malformedJson := by
  have quote : c ≠ '"' := by
    rintro rfl
    contradiction
  have escape : c ≠ '\\' := by
    rintro rfl
    contradiction
  rw [stringFrom] <;> simp_all

theorem hexUnit?_low {a b c d : Char} (inside : '_' ∈ [a, b, c, d]) : hexUnit? a b c d = none := by
  have low : hexValue? '_' = none := by decide
  simp only [List.mem_cons, List.not_mem_nil, or_false] at inside
  unfold hexUnit?
  rcases inside with rfl | rfl | rfl | rfl <;> simp [low]

/-- What follows the letter of a code unit is passed over in both texts, or in neither. -/
theorem unit_alike {s t : List Char} (alike : Renumbered s t) :
    (∃ front u v, s = front ++ u ∧ t = front ++ v ∧ Renumbered u v ∧ Passes ('\\' :: 'u' :: front))
      ∨ ((∀ a b c d rest, s = a :: b :: c :: d :: rest → hexUnit? a b c d = none)
        ∧ ∀ a b c d rest, t = a :: b :: c :: d :: rest → hexUnit? a b c d = none) := by
  -- A low line is no hexadecimal digit, and it begins every number of a token.
  have spoilt {u : List Char} (inside : '_' ∈ u.take 4) :
      ∀ a b c d rest, u = a :: b :: c :: d :: rest → hexUnit? a b c d = none := by
    rintro a b c d rest rfl
    exact hexUnit?_low inside
  rcases alike.fronts 4 with ⟨front, u, v, four, rfl, rfl, inner⟩ | ⟨rfl, short⟩ | ⟨first, second⟩
  · obtain ⟨a, b, c, d, rfl⟩ := List.length_eq_four.mp four
    cases read : hexUnit? a b c d with
    | some n => exact .inl ⟨[a, b, c, d], u, v, rfl, rfl, inner, Passes.unit read⟩
    | none =>
      have absent (w : List Char) : ∀ a' b' c' d' rest,
          [a, b, c, d] ++ w = a' :: b' :: c' :: d' :: rest → hexUnit? a' b' c' d' = none := by
        intro a' b' c' d' rest same
        cases same
        exact read
      exact .inr ⟨absent u, absent v⟩
  · have absent : ∀ a b c d rest, s = a :: b :: c :: d :: rest → hexUnit? a b c d = none := by
      rintro a b c d rest rfl
      simp only [List.length_cons] at short
      omega
    exact .inr ⟨absent, absent⟩
  · exact .inr ⟨spoilt first, spoilt second⟩

/-- In renumbered texts a string ends at the same place. -/
theorem stringFrom_alike {s t : List Char} (alike : Renumbered s t)
    (high next : Option Nat) (read taken : List Char) :
    StepsAlike (fun _ _ => True) (stringFrom high read s) (stringFrom next taken t) := by
  induction size : s.length using Nat.strongRecOn generalizing s t high next read taken with
  | ind n ih =>
    -- The induction is on the length, since an escape passes several characters at once.
    have continued {front other u v : List Char} (nonempty : front ≠ []) (inner : Renumbered u v)
        (whole : s = front ++ u) (first : Passes front) (second : Passes other) :
        StepsAlike (fun _ _ => True) (stringFrom high read (front ++ u))
          (stringFrom next taken (other ++ v)) := by
      obtain ⟨_, _, left⟩ := first high read
      obtain ⟨_, _, right⟩ := second next taken
      have shorter : u.length < n := by
        have longer := List.length_pos_iff.mpr nonempty
        rw [← size, whole, List.length_append]
        omega
      rw [left, right]
      exact ih u.length shorter inner _ _ _ _ rfl
    cases alike with
    | nil => exact .error _
    | @number k l u v first second rest =>
      -- The number of a token is plain text for a string, whatever its digits are.
      have low : Passes ['_'] := Passes.plain (by decide) (by decide) (by decide)
      exact continued (List.cons_ne_nil '_' k) rest rfl (low.append (Passes.word first))
        (low.append (Passes.word second))
    | @same c s t rest =>
      by_cases quote : c = '"'
      · subst quote
        simp only [stringFrom]
        exact .ok trivial rest
      by_cases escape : c = '\\'
      · subst escape
        cases rest with
        | nil => exact .error _
        | @number k l u v first second inner =>
          have fault := stringFrom_escape_fault (s := k ++ '%' :: u) high read (c := '_')
            (by decide) (by decide)
          have other := stringFrom_escape_fault (s := l ++ '%' :: v) next taken (c := '_')
            (by decide) (by decide)
          rw [fault, other]
          exact .error _
        | @same d s t rest =>
          by_cases letter : d = 'u'
          · subst letter
            rcases unit_alike rest with ⟨front, u, v, rfl, rfl, inner, passes⟩ | ⟨first, second⟩
            · exact continued (List.cons_ne_nil _ _) inner rfl passes passes
            · rw [stringFrom_unit_fault _ _ first, stringFrom_unit_fault _ _ second]
              exact .error _
          · cases short : shortEscape? d with
            | none =>
              rw [stringFrom_escape_fault high read letter short,
                stringFrom_escape_fault next taken letter short]
              exact .error _
            | some e =>
              exact continued (List.cons_ne_nil _ _) rest rfl (Passes.escape short)
                (Passes.escape short)
      · by_cases control : c.toNat < 32
        · rw [stringFrom_control_fault high read control,
            stringFrom_control_fault next taken control]
          exact .error _
        · have passes := Passes.plain quote escape control
          exact continued (List.cons_ne_nil _ _) rest rfl passes passes

theorem digitsFront_alike {s t : List Char} (alike : Renumbered s t) :
    (digitsFront s).1 = (digitsFront t).1 ∧ Renumbered (digitsFront s).2 (digitsFront t).2 := by
  have stops : isAsciiDigit '_' = false := by decide
  rw [digitsFront_eq, digitsFront_eq]
  exact ⟨alike.takeWhile_eq stops, alike.dropWhile stops⟩

theorem wholeFront_alike {s t : List Char} (alike : Renumbered s t) :
    (wholeFront s).1 = (wholeFront t).1 ∧ Renumbered (wholeFront s).2 (wholeFront t).2 := by
  cases alike with
  | nil => exact ⟨rfl, .nil⟩
  | number first second rest => exact digitsFront_alike (.number first second rest)
  | @same c s t rest =>
    by_cases zero : c = '0'
    · subst zero
      exact ⟨rfl, rest⟩
    · have other (u : List Char) : wholeFront (c :: u) = digitsFront (c :: u) := by
        unfold wholeFront
        split <;> simp_all
      rw [other, other]
      exact digitsFront_alike (.same c rest)

theorem fractionFront_alike {s t : List Char} (alike : Renumbered s t) :
    (fractionFront s).1 = (fractionFront t).1
      ∧ Renumbered (fractionFront s).2 (fractionFront t).2 := by
  cases alike with
  | nil => exact ⟨rfl, .nil⟩
  | number first second rest => exact ⟨rfl, .number first second rest⟩
  | @same c s t rest =>
    by_cases point : c = '.'
    · subst point
      obtain ⟨taken, left⟩ := digitsFront_alike rest
      cases first : digitsFront s with
      | mk digits after =>
        cases second : digitsFront t with
        | mk other last =>
          rw [first, second] at taken left
          cases taken
          simp only [fractionFront, first, second]
          cases digits with
          | nil => exact ⟨rfl, .same _ rest⟩
          | cons d digits => exact ⟨rfl, left⟩
    · have none (u : List Char) : fractionFront (c :: u) = (none, c :: u) := by
        unfold fractionFront
        split <;> simp_all
      rw [none, none]
      exact ⟨rfl, .same c rest⟩

theorem dropSign_alike {s t : List Char} (alike : Renumbered s t) :
    (Number.dropSign s).1 = (Number.dropSign t).1
      ∧ Renumbered (Number.dropSign s).2 (Number.dropSign t).2 := by
  cases alike with
  | nil => exact ⟨rfl, .nil⟩
  | number first second rest => exact ⟨rfl, .number first second rest⟩
  | @same c s t rest =>
    by_cases minus : c = '-'
    · subst minus
      exact ⟨rfl, rest⟩
    by_cases plus : c = '+'
    · subst plus
      exact ⟨rfl, rest⟩
    · have none (u : List Char) : Number.dropSign (c :: u) = (false, c :: u) := by
        unfold Number.dropSign
        split <;> simp_all
      rw [none, none]
      exact ⟨rfl, .same c rest⟩

theorem exponentFront_alike {s t : List Char} (alike : Renumbered s t) :
    (exponentFront s).1 = (exponentFront t).1
      ∧ Renumbered (exponentFront s).2 (exponentFront t).2 := by
  cases alike with
  | nil => exact ⟨rfl, .nil⟩
  | number first second rest => exact ⟨rfl, .number first second rest⟩
  | @same c s t rest =>
    unfold exponentFront
    by_cases mark : (c = 'e' || c = 'E') = true
    · obtain ⟨sign, body⟩ := dropSign_alike rest
      obtain ⟨taken, left⟩ := digitsFront_alike body
      simp only [mark, if_true, sign]
      cases first : digitsFront (Number.dropSign s).2 with
      | mk digits after =>
        cases second : digitsFront (Number.dropSign t).2 with
        | mk other last =>
          rw [first, second] at taken left
          cases taken
          -- A mark without digits is no exponent, and nothing of it is taken.
          cases digits with
          | nil => exact ⟨rfl, .same c rest⟩
          | cons d digits => exact ⟨rfl, left⟩
    · simp only [mark]
      exact ⟨rfl, .same c rest⟩

theorem numberFrom_alike {s t : List Char} (negative : Bool) (alike : Renumbered s t) :
    StepsAlike Eq (numberFrom negative s) (numberFrom negative t) := by
  obtain ⟨whole, rest⟩ := wholeFront_alike alike
  obtain ⟨fraction, rest⟩ := fractionFront_alike rest
  obtain ⟨exponent, rest⟩ := exponentFront_alike rest
  rw [numberFrom_eq, numberFrom_eq, ← whole]
  split
  · exact .error _
  · simp only [← fraction, ← exponent]
    cases numberOf negative (wholeFront s).1 (fractionFront (wholeFront s).2).1
        (exponentFront (fractionFront (wholeFront s).2).2).1 with
    | error fault => exact .error fault
    | ok n => exact .ok rfl rest

theorem literal?_alike {s t : List Char} (alike : Renumbered s t) :
    FoundAlike Eq (literal? s) (literal? t) := by
  have plain : ∀ entry ∈ literals, '_' ∉ entry.1 := by decide
  unfold literal?
  generalize literals = entries at plain
  induction entries with
  | nil => exact .none
  | cons entry entries ih =>
    have here := alike.dropFront? (plain entry List.mem_cons_self)
    have rest := ih fun other inside => plain other (List.mem_cons_of_mem entry inside)
    simp only [List.findSome?_cons]
    cases first : dropFront? entry.1 s <;> cases second : dropFront? entry.1 t <;>
      rw [first, second] at here
    · exact rest
    · cases here
    · cases here
    · cases here with
      | some inner => exact .some ⟨rfl, inner⟩

def isMapping : Value → Bool
  | .mapping _ => true
  | _ => false

theorem isMapping_iff {v : Value} : isMapping v = true ↔ ∃ entries, v = .mapping entries := by
  cases v <;> simp [isMapping]

/-- Whether two values are both mappings, or both something else. -/
def SameKind (a b : Value) : Prop := isMapping a = isMapping b

theorem StepsAlike.mono {α : Type} {related weaker : α → α → Prop} {first second : Step α}
    (alike : StepsAlike related first second) (implies : ∀ a b, related a b → weaker a b) :
    StepsAlike weaker first second := by
  cases alike with
  | ok items rests => exact .ok (implies _ _ items) rests
  | error fault => exact .error fault

theorem StepsAlike.map {α β : Type} {related : α → α → Prop} {made : β → β → Prop}
    {first second : Step α} {f g : α → β} (alike : StepsAlike related first second)
    (implies : ∀ a b, related a b → made (f a) (g b)) :
    StepsAlike made (first.map fun r => (f r.1, r.2)) (second.map fun r => (g r.1, r.2)) := by
  cases alike with
  | ok items rests => exact .ok (implies _ _ items) rests
  | error fault => exact .error fault

/-- Two steps after one another, where the second starts from what the first has left. -/
theorem StepsAlike.bind {α β : Type} {related : α → α → Prop} {made : β → β → Prop}
    {first second : Except Fault (α × List Char)}
    {f g : α × List Char → Except Fault (β × List Char)} (alike : StepsAlike related first second)
    (next : ∀ {a b s t}, first = .ok (a, s) → second = .ok (b, t) → Renumbered s t →
      StepsAlike made (f (a, s)) (g (b, t))) :
    StepsAlike made (Bind.bind (m := Except Fault) first f)
      (Bind.bind (m := Except Fault) second g) := by
  cases alike with
  | ok items rests => exact next rfl rfl rests
  | error fault => exact .error fault

theorem skipSpace_alike {s t : List Char} (alike : Renumbered s t) :
    Renumbered (skipSpace s) (skipSpace t) := alike.dropWhile (by decide)

/-- Twice the length bounds the steps of a reader, whichever of two renumbered texts it reads. -/
structure ReadsAlike (fuel : Nat) : Prop where
  value : ∀ {other s t}, Renumbered s t → 2 * s.length < fuel → 2 * t.length < other →
    StepsAlike SameKind (value fuel s) (value other t)
  elements : ∀ {other s t}, Renumbered s t → 2 * s.length + 1 < fuel → 2 * t.length + 1 < other →
    StepsAlike (fun _ _ => True) (elements fuel s) (elements other t)
  members : ∀ {other s t}, Renumbered s t → 2 * s.length + 1 < fuel → 2 * t.length + 1 < other →
    StepsAlike (fun _ _ => True) (members fuel s) (members other t)

/-- Numbers and the words of JSON, which are no text, list or mapping. -/
def scalar (s : List Char) : Step Value :=
  match literal? s with
  | some found => .ok found
  | none => match s with
    | '-' :: rest => numberFrom true rest
    | _ => numberFrom false s

theorem scalar_alike {s t : List Char} (alike : Renumbered s t) :
    StepsAlike Eq (scalar s) (scalar t) := by
  -- A constant has no low line, so it stands in both texts or in neither.
  have words := literal?_alike alike
  unfold scalar
  cases first : literal? s <;> cases second : literal? t <;> rw [first, second] at words
  · cases alike with
    | nil => exact .error _
    | number => exact .error _
    | @same c s t rest =>
      by_cases minus : c = '-'
      · subst minus
        exact numberFrom_alike true rest
      · have plain (u : List Char) : (match c :: u with
            | '-' :: rest => numberFrom true rest
            | _ => numberFrom false (c :: u)) = numberFrom false (c :: u) := by
          split <;> simp_all
        simp only [plain]
        exact numberFrom_alike false (.same c rest)
  · cases words
  · cases words
  · cases words with
    | some found =>
      obtain ⟨same, rests⟩ := found
      exact .ok same rests

theorem value_scalar {c : Char} {s : List Char} (fuel : Nat) (quote : c ≠ '"') (bracket : c ≠ '[')
    (brace : c ≠ '\x7b') : value (fuel + 1) (c :: s) = scalar (c :: s) := by
  unfold value scalar
  split
  · simp_all
  · simp_all
  · simp_all
  · rfl

theorem head?_ne {c : Char} {s : List Char} (other : ∀ u, s ≠ c :: u) : s.head? ≠ some c := by
  cases s with
  | nil => simp
  | cons d s => exact fun same => other s (by rw [Option.some.inj same])

/-- A list or mapping after its opening bracket. -/
theorem bracketed_alike {α : Type} {read other : List Char → Except Fault (α × List Char)}
    {close : Char} {s t : List Char} (empty : Value) (made : α → Value) (low : close ≠ '_')
    (kind : ∀ a, isMapping (made a) = isMapping empty) (alike : Renumbered s t)
    (inner : StepsAlike (fun _ _ => True) (read s) (other t)) :
    StepsAlike SameKind
      (if s.head? = some close then .ok (empty, s.tail) else (read s).map fun r => (made r.1, r.2))
      (if t.head? = some close then .ok (empty, t.tail)
        else (other t).map fun r => (made r.1, r.2)) := by
  rcases alike.head low with ⟨u, v, rfl, rfl, rest⟩ | ⟨first, second⟩
  · simp only [List.head?_cons, List.tail_cons, if_true]
    exact .ok rfl rest
  · rw [if_neg (head?_ne first), if_neg (head?_ne second)]
    exact inner.map fun a b _ => (kind a).trans (kind b).symm

theorem value_list (fuel : Nat) (s : List Char) : value (fuel + 1) ('[' :: s) =
    if (skipSpace s).head? = some ']' then .ok (.list [], (skipSpace s).tail)
    else (elements fuel (skipSpace s)).map fun r => (.list r.1, r.2) := by
  rw [value]
  split
  next closed => simp [closed]
  next other => rw [if_neg (head?_ne other)]

theorem value_mapping (fuel : Nat) (s : List Char) : value (fuel + 1) ('\x7b' :: s) =
    if (skipSpace s).head? = some '\x7d' then .ok (.mapping [], (skipSpace s).tail)
    else (members fuel (skipSpace s)).map fun r => (.mapping (Mapping.ofList r.1), r.2) := by
  rw [value]
  split
  next closed => simp [closed]
  next other => rw [if_neg (head?_ne other)]

theorem value_alike {fuel : Nat} (inner : ReadsAlike fuel) {other : Nat} {s t : List Char}
    (alike : Renumbered s t) (first : 2 * s.length < fuel + 1) (second : 2 * t.length < other) :
    StepsAlike SameKind (value (fuel + 1) s) (value other t) := by
  obtain ⟨other, rfl⟩ : ∃ n, other = n + 1 := ⟨other - 1, by omega⟩
  -- A low line opens no string, list or mapping, so a token is read as a scalar.
  have scalars {c d : Char} {u v : List Char} (alike : Renumbered (c :: u) (d :: v))
      (one : c ≠ '"' ∧ c ≠ '[' ∧ c ≠ '\x7b') (two : d ≠ '"' ∧ d ≠ '[' ∧ d ≠ '\x7b') :
      StepsAlike SameKind (value (fuel + 1) (c :: u)) (value (other + 1) (d :: v)) := by
    rw [value_scalar fuel one.1 one.2.1 one.2.2, value_scalar other two.1 two.2.1 two.2.2]
    exact (scalar_alike alike).mono fun a b same => same ▸ rfl
  cases alike with
  | nil => exact .error _
  | number m n rest => exact scalars (.number m n rest) (by decide) (by decide)
  | @same c s t rest =>
    have spaces := skipSpace_alike rest
    have shorter := (skipSpace_suffix s).length_le
    have lower := (skipSpace_suffix t).length_le
    simp only [List.length_cons] at first second
    by_cases quote : c = '"'
    · subst quote
      rw [value_quote, value_quote]
      exact (stringFrom_alike rest none none [] []).map fun _ _ _ => rfl
    by_cases bracket : c = '['
    · subst bracket
      have items : StepsAlike (fun _ _ => True) (elements fuel (skipSpace s))
          (elements other (skipSpace t)) := inner.elements spaces (by omega) (by omega)
      have low : ']' ≠ '_' := by decide
      rw [value_list, value_list]
      exact bracketed_alike (.list []) .list low (fun _ => rfl) spaces items
    by_cases brace : c = '\x7b'
    · subst brace
      have items : StepsAlike (fun _ _ => True) (members fuel (skipSpace s))
          (members other (skipSpace t)) := inner.members spaces (by omega) (by omega)
      have low : '\x7d' ≠ '_' := by decide
      rw [value_mapping, value_mapping]
      exact bracketed_alike (.mapping []) (fun entries => .mapping (Mapping.ofList entries)) low
        (fun _ => rfl) spaces items
    · exact scalars (.same c rest) ⟨quote, bracket, brace⟩ ⟨quote, bracket, brace⟩

/-- What follows an item: the closing bracket, or a comma and the rest of the items. -/
def itemsFrom {α : Type} (close : Char) (more : List Char → Except Fault (List α × List Char))
    (item : α) (rest : List Char) : Except Fault (List α × List Char) :=
  if (skipSpace rest).head? = some close then .ok ([item], (skipSpace rest).tail)
  else if (skipSpace rest).head? = some ',' then
    (more (skipSpace (skipSpace rest).tail)).map fun r => (item :: r.1, r.2)
  else .error .malformedJson

theorem itemsFrom_alike {α : Type} {close : Char}
    {more others : List Char → Except Fault (List α × List Char)} {a b : α} {s t : List Char}
    (low : close ≠ '_') (alike : Renumbered s t)
    (next : ∀ {u v}, After u s → After v t → Renumbered u v →
      StepsAlike (fun _ _ => True) (more (skipSpace u)) (others (skipSpace v))) :
    StepsAlike (fun _ _ => True) (itemsFrom close more a s) (itemsFrom close others b t) := by
  have spaces := skipSpace_alike alike
  unfold itemsFrom
  rcases spaces.head low with ⟨u, v, first, second, rest⟩ | ⟨first, second⟩
  · simp only [first, second, List.head?_cons, List.tail_cons, if_true]
    exact .ok trivial rest
  rw [if_neg (head?_ne first), if_neg (head?_ne second)]
  have comma : ',' ≠ '_' := by decide
  rcases spaces.head comma with ⟨u, v, first, second, rest⟩ | ⟨first, second⟩
  · have more := next (after_of_skipSpace first) (after_of_skipSpace second) rest
    simp only [first, second, List.head?_cons, List.tail_cons, if_true]
    exact more.map fun _ _ _ => trivial
  · rw [if_neg (head?_ne first), if_neg (head?_ne second)]
    exact .error _

theorem elements_succ (fuel : Nat) (s : List Char) : elements (fuel + 1) s
    = (value fuel s).bind fun r => itemsFrom ']' (elements fuel) r.1 r.2 := by
  rw [elements]
  show (value fuel s).bind _ = _
  congr 1
  funext r
  unfold itemsFrom
  dsimp only
  split
  next closed => simp [closed]; rfl
  next comma =>
    simp only [comma, List.head?_cons, List.tail_cons]
    cases elements fuel (skipSpace _) <;> rfl
  next close comma => rw [if_neg (head?_ne close), if_neg (head?_ne comma)]

theorem elements_alike {fuel : Nat} (inner : ReadsAlike fuel) {other : Nat} {s t : List Char}
    (alike : Renumbered s t) (first : 2 * s.length + 1 < fuel + 1)
    (second : 2 * t.length + 1 < other) :
    StepsAlike (fun _ _ => True) (elements (fuel + 1) s) (elements other t) := by
  obtain ⟨other, rfl⟩ : ∃ n, other = n + 1 := ⟨other - 1, by omega⟩
  rw [elements_succ, elements_succ]
  refine (inner.value alike (by omega) (by omega)).bind fun read other rests => ?_
  have low : ']' ≠ '_' := by decide
  refine itemsFrom_alike low rests fun left right alike => ?_
  have shorter := (left.trans ((leaves _).value read)).skipSpace.2
  have lower := (right.trans ((leaves _).value other)).skipSpace.2
  exact inner.elements (skipSpace_alike alike) (by omega) (by omega)

/-- What follows the name of a member: a colon, its value, and the other members. -/
def memberFrom (fuel : Nat) (name : Value) (rest : List Char) :
    Except Fault (List (Value × Value) × List Char) :=
  if (skipSpace rest).head? = some ':' then
    (value fuel (skipSpace (skipSpace rest).tail)).bind fun r =>
      itemsFrom '\x7d' (members fuel) (name, r.1) r.2
  else .error .malformedJson

theorem members_name (fuel : Nat) (s : List Char) : members (fuel + 1) ('"' :: s)
    = (stringFrom none [] s).bind fun r => memberFrom fuel (.ofString r.1) r.2 := by
  rw [members]
  show (stringFrom none [] s).bind _ = _
  congr 1
  funext r
  unfold memberFrom
  dsimp only
  split
  next colon =>
    simp only [colon, List.head?_cons, List.tail_cons, if_true]
    show (value fuel (skipSpace _)).bind _ = _
    congr 1
    funext r
    unfold itemsFrom
    split
    next closed => simp [closed]; rfl
    next comma =>
      simp only [comma, List.head?_cons, List.tail_cons]
      cases members fuel (skipSpace _) <;> rfl
    next close comma => rw [if_neg (head?_ne close), if_neg (head?_ne comma)]
  next other => rw [if_neg (head?_ne other)]

theorem memberFrom_alike {fuel other : Nat} (inner : ReadsAlike fuel) {a b : Value}
    {s t : List Char} (alike : Renumbered s t) (first : 2 * s.length < fuel)
    (second : 2 * t.length < other) :
    StepsAlike (fun _ _ => True) (memberFrom fuel a s) (memberFrom other b t) := by
  unfold memberFrom
  have colon : ':' ≠ '_' := by decide
  rcases (skipSpace_alike alike).head colon with ⟨u, v, left, right, rest⟩ | ⟨left, right⟩
  · have shorter := (after_of_skipSpace left).skipSpace.2
    have lower := (after_of_skipSpace right).skipSpace.2
    have values : StepsAlike SameKind (value fuel (skipSpace u)) (value other (skipSpace v)) :=
      inner.value (skipSpace_alike rest) (by omega) (by omega)
    simp only [left, right, List.head?_cons, List.tail_cons, if_true]
    refine values.bind fun read found rests => ?_
    have low : '\x7d' ≠ '_' := by decide
    refine itemsFrom_alike low rests fun one two alike => ?_
    -- What is left grows shorter, so that the budgets of both readers suffice.
    have least := (one.trans ((leaves _).value read)).skipSpace.2
    have lowest := (two.trans ((leaves _).value found)).skipSpace.2
    exact inner.members (skipSpace_alike alike) (by omega) (by omega)
  · rw [if_neg (head?_ne left), if_neg (head?_ne right)]
    exact .error _

theorem members_other (fuel : Nat) {s : List Char} (other : ∀ u, s ≠ '"' :: u) :
    members (fuel + 1) s = .error .malformedJson := by
  unfold members
  split
  next text => exact absurd rfl (other text)
  next => rfl

theorem members_alike {fuel : Nat} (inner : ReadsAlike fuel) {other : Nat} {s t : List Char}
    (alike : Renumbered s t) (first : 2 * s.length + 1 < fuel + 1)
    (second : 2 * t.length + 1 < other) :
    StepsAlike (fun _ _ => True) (members (fuel + 1) s) (members other t) := by
  obtain ⟨other, rfl⟩ : ∃ n, other = n + 1 := ⟨other - 1, by omega⟩
  have quote : '"' ≠ '_' := by decide
  rcases alike.head quote with ⟨u, v, rfl, rfl, rest⟩ | ⟨left, right⟩
  · rw [members_name, members_name]
    simp only [List.length_cons] at first second
    refine (stringFrom_alike rest none none [] []).bind fun read found rests => ?_
    have shorter := (stringFrom_after read).2
    have lower := (stringFrom_after found).2
    dsimp only
    exact memberFrom_alike inner rests (by omega) (by omega)
  · rw [members_other fuel left, members_other other right]
    exact .error _

theorem reads_alike (fuel : Nat) : ReadsAlike fuel := by
  induction fuel with
  | zero => constructor <;> (intros; omega)
  | succ fuel ih => exact ⟨value_alike ih, elements_alike ih, members_alike ih⟩

/-- From renumbered texts the same kind of value is read, or the same fault arises. -/
theorem readFront_alike {s t : List Char} (alike : Renumbered s t) :
    StepsAlike SameKind (readFront s) (readFront t) :=
  (reads_alike _).value alike (Nat.lt_succ_self _) (Nat.lt_succ_self _)

end StaticSite.Json
