import StaticSite.Proofs.Json.Roundtrip
import StaticSite.Proofs.Number.Digits

/-!
# What the reader of JSON looks at

The reader takes a value off the front of a text, and what it takes decides the value: with another
text behind it the same value is read, unless a number goes on into that text. So it does not matter
to the data of a reference what stands behind it.
-/

namespace StaticSite.Json

open StaticSite.Text

/-- A reader takes a front to give an item, and nothing of what follows the front. -/
def Takes {α : Type} (read : Nat → List Char → Step α) (front : List Char) (item : α) : Prop :=
  ∀ fuel other, front.length < fuel → EndsNumber other →
    read fuel (front ++ other) = .ok (item, other)

/-- Whatever a reader gives, it has taken a front for it. -/
def Local {α : Type} (read : Nat → List Char → Step α) (fuel : Nat) : Prop :=
  ∀ {s rest : List Char} {item : α}, read fuel s = .ok (item, rest) →
    ∃ front, s = front ++ rest ∧ front ≠ [] ∧ Takes read front item

/-! ### Texts -/

theorem stringFrom_local {high : Option Nat} {read s text rest : List Char}
    (found : stringFrom high read s = .ok (text, rest)) :
    ∃ front, s = front ++ rest
      ∧ ∀ other, stringFrom high read (front ++ other) = .ok (text, other) := by
  fun_induction stringFrom high read s with
  | case1 | case3 | case10 | case11 => contradiction
  | case2 high read s =>
    cases found
    exact ⟨['"'], rfl, fun other => stringFrom_quote high read other⟩
  | case4 _ _ _ _ _ _ _ _ _ _ ih | case5 _ _ _ _ _ _ _ _ _ _ _ ih | case6 _ _ _ _ _ _ _ _ _ _ _ ih
  | case7 _ _ _ _ _ _ _ _ _ ih | case8 _ _ _ _ _ _ _ _ _ ih =>
    obtain ⟨front, rfl, reads⟩ := ih found
    refine ⟨_ :: _ :: _ :: _ :: _ :: _ :: front, rfl, fun other => ?_⟩
    simp [stringFrom, *]
  | case9 _ _ c _ _ _ letter ih =>
    obtain ⟨front, rfl, reads⟩ := ih found
    have unit : c ≠ 'u' := by
      rintro rfl
      contradiction
    refine ⟨_ :: _ :: front, rfl, fun other => ?_⟩
    rw [List.cons_append, List.cons_append, stringFrom] <;> simp_all
  | case12 _ _ _ _ _ _ _ _ ih =>
    obtain ⟨front, rfl, reads⟩ := ih found
    refine ⟨_ :: front, rfl, fun other => ?_⟩
    rw [List.cons_append, stringFrom] <;> simp_all

/-! ### Numbers -/

/-- Nothing but a character with a property comes first. -/
def Heads (fits : Char → Prop) (s : List Char) : Prop := ∀ c ∈ s.head?, fits c

theorem Heads.nil {fits : Char → Prop} : Heads fits [] := nofun

theorem Heads.append {fits : Char → Prop} {s t : List Char} (first : Heads fits s)
    (second : Heads fits t) : Heads fits (s ++ t) := by
  cases s with
  | nil => exact second
  | cons c s => exact first

theorem Heads.mono {fits weaker : Char → Prop} {s : List Char} (heads : Heads fits s)
    (implies : ∀ c, fits c → weaker c) : Heads weaker s := fun c here => implies c (heads c here)

/-- A rest that digits do not go on into. -/
abbrev EndsDigits (rest : List Char) : Prop := Heads (isAsciiDigit · = false) rest

theorem digitsFront_append {digits other : List Char}
    (run : ∀ c ∈ digits, isAsciiDigit c = true) (ends : EndsDigits other) :
    digitsFront (digits ++ other) = (digits, other) := by
  have stop : other.takeWhile isAsciiDigit = [] ∧ other.dropWhile isAsciiDigit = other := by
    cases other with
    | nil => exact ⟨rfl, rfl⟩
    | cons c other =>
      have plain := ends c rfl
      simp [List.takeWhile, List.dropWhile, plain]
  rw [digitsFront_eq, List.takeWhile_append_of_pos run, List.dropWhile_append_of_pos run, stop.1,
    stop.2, List.append_nil]

theorem digitsFront_shape {s digits rest : List Char} (found : digitsFront s = (digits, rest)) :
    s = digits ++ rest ∧ ∀ c ∈ digits, isAsciiDigit c = true := by
  rw [digitsFront_eq] at found
  cases found
  constructor
  · exact List.takeWhile_append_dropWhile.symm
  · exact fun c inside => List.all_eq_true.mp List.all_takeWhile c inside

theorem wholeFront_local (s : List Char) {other : List Char} (ends : EndsDigits other) :
    wholeFront ((wholeFront s).1 ++ other) = ((wholeFront s).1, other) := by
  have plain {t : List Char} (solid : ∀ u, t ≠ '0' :: u) : wholeFront t = digitsFront t := by
    unfold wholeFront
    split
    next u => exact absurd rfl (solid u)
    next => rfl
  by_cases zero : ∃ u, s = '0' :: u
  · obtain ⟨u, rfl⟩ := zero
    rfl
  have solid : ∀ u, s ≠ '0' :: u := fun u same => zero ⟨u, same⟩
  cases taken : digitsFront s with
  | mk digits rest =>
    obtain ⟨rfl, run⟩ := digitsFront_shape taken
    -- The digits do not begin with zero, and what follows them begins with no digit at all.
    have again : ∀ u, digits ++ other ≠ '0' :: u := by
      intro u same
      cases digits with
      | nil =>
        rw [List.nil_append] at same
        subst same
        exact absurd (ends '0' rfl) (by decide)
      | cons c digits =>
        obtain ⟨rfl, -⟩ := List.cons.inj same
        exact solid _ rfl
    rw [plain solid, taken, plain again, digitsFront_append run ends]

theorem fractionFront_local (s : List Char) : ∃ front, s = front ++ (fractionFront s).2
    ∧ Heads (· = '.') front
    ∧ ∀ other, Heads (fun c => isAsciiDigit c = false ∧ c ≠ '.') other →
      fractionFront (front ++ other) = ((fractionFront s).1, other) := by
  -- Without a fraction the whole text is left, and what follows must not begin with a point.
  have without {s other : List Char} (absent : fractionFront s = (none, s))
      (ends : Heads (fun c => isAsciiDigit c = false ∧ c ≠ '.') other) :
      fractionFront other = ((fractionFront s).1, other) := by
    rw [absent]
    unfold fractionFront
    split
    next after => exact absurd rfl (ends '.' rfl).2
    next => rfl
  by_cases point : ∃ after, s = '.' :: after
  · obtain ⟨after, rfl⟩ := point
    cases taken : digitsFront after with
    | mk digits rest =>
      obtain ⟨rfl, run⟩ := digitsFront_shape taken
      cases digits with
      | nil =>
        have absent : fractionFront ('.' :: ([] ++ rest)) = (none, '.' :: ([] ++ rest)) := by
          simp only [fractionFront, taken]
        exact ⟨[], by rw [absent]; rfl, .nil, fun other ends => without absent ends⟩
      | cons c digits =>
        have present :
            fractionFront ('.' :: (c :: digits ++ rest)) = (some (c :: digits), rest) := by
          simp only [fractionFront, taken]
        rw [present]
        refine ⟨'.' :: c :: digits, rfl, fun d here => (Option.some.inj here).symm, ?_⟩
        intro other ends
        have again := digitsFront_append run (ends.mono fun c stops => stops.1)
        rw [List.cons_append]
        simp only [fractionFront, again]
  · have absent : fractionFront s = (none, s) := by
      unfold fractionFront
      split
      next after => exact absurd ⟨after, rfl⟩ point
      next => rfl
    exact ⟨[], by rw [absent]; rfl, .nil, fun other ends => without absent ends⟩

theorem dropSign_local (s : List Char) : ∃ sign, s = sign ++ (Number.dropSign s).2
    ∧ ∀ c t, isAsciiDigit c = true →
      Number.dropSign (sign ++ c :: t) = ((Number.dropSign s).1, c :: t) := by
  unfold Number.dropSign
  split
  next rest => exact ⟨['-'], rfl, fun _ _ _ => rfl⟩
  next rest => exact ⟨['+'], rfl, fun _ _ _ => rfl⟩
  next =>
    refine ⟨[], rfl, fun c t digit => ?_⟩
    rw [List.nil_append]
    split
    next minus =>
      cases minus
      contradiction
    next plus =>
      cases plus
      contradiction
    next => rfl

theorem exponentFront_local (s : List Char) : ∃ front, s = front ++ (exponentFront s).2
    ∧ Heads (fun c => c = 'e' ∨ c = 'E') front
    ∧ ∀ other, EndsNumber other →
      exponentFront (front ++ other) = ((exponentFront s).1, other) := by
  -- A mark without digits is no exponent: the whole text is left, as with no mark.
  have without {s : List Char} (absent : exponentFront s = (none, s)) :
      ∃ front, s = front ++ (exponentFront s).2 ∧ Heads (fun c => c = 'e' ∨ c = 'E') front
        ∧ ∀ other, EndsNumber other →
          exponentFront (front ++ other) = ((exponentFront s).1, other) := by
    rw [absent]
    exact ⟨[], rfl, .nil, fun other ends => exponentFront_none ends⟩
  cases s with
  | nil => exact without rfl
  | cons c after =>
    by_cases mark : (c = 'e' || c = 'E') = true
    · obtain ⟨sign, split, signed⟩ := dropSign_local after
      cases taken : digitsFront (Number.dropSign after).2 with
      | mk digits rest =>
        obtain ⟨shape, run⟩ := digitsFront_shape taken
        cases digits with
        | nil =>
          apply without
          unfold exponentFront
          simp only [mark, if_true, taken]
        | cons d digits =>
          rw [shape] at split
          have left : (exponentFront (c :: after)).2 = rest := by
            unfold exponentFront
            simp only [mark, if_true, taken]
          refine ⟨c :: (sign ++ d :: digits), ?_, fun e here => ?_, fun other ends => ?_⟩
          · rw [left, List.cons_append, List.append_assoc]
            exact congrArg (c :: ·) split
          · cases here
            simpa using mark
          · have drop := signed d (digits ++ other) (run d List.mem_cons_self)
            have again := digitsFront_append run (Heads.mono ends fun c stops => stops.1)
            rw [List.cons_append] at again
            rw [List.cons_append, List.append_assoc, List.cons_append]
            unfold exponentFront
            simp only [mark, if_true, drop, taken, again]
    · apply without
      simp only [exponentFront, mark]
      rfl

theorem numberFrom_local {negative : Bool} {s rest : List Char} {v : Value}
    (found : numberFrom negative s = .ok (v, rest)) :
    ∃ c front, isAsciiDigit c = true ∧ s = c :: front ++ rest
      ∧ ∀ other, EndsNumber other → numberFrom negative (c :: front ++ other) = .ok (v, other) := by
  rw [numberFrom_eq] at found
  split at found
  · contradiction
  next nonempty =>
    obtain ⟨n, number, same⟩ := Fault.map_eq_ok found
    cases same
    obtain ⟨fraction, split, point, fractions⟩ := fractionFront_local (wholeFront s).2
    obtain ⟨exponent, cut, mark, exponents⟩ :=
      exponentFront_local (fractionFront (wholeFront s).2).2
    have whole := wholeFront_append s
    have inner := split.trans (congrArg (fraction ++ ·) cut)
    have start (other : List Char) := @wholeFront_local s other
    have run := wholeFront_digits s
    cases taken : (wholeFront s).1 with
    | nil => simp [taken] at nonempty
    | cons c digits =>
      rw [taken] at start run whole number
      refine ⟨c, digits ++ (fraction ++ exponent), run c List.mem_cons_self, ?_, ?_⟩
      · rw [inner] at whole
        refine whole.symm.trans ?_
        simp only [List.cons_append, List.append_assoc]
      · intro other ends
        -- Each part stops where the next one begins: exponent, end, fraction and digits differ.
        have behind : Heads (fun c => isAsciiDigit c = false ∧ c ≠ '.') (exponent ++ other) := by
          refine (mark.mono fun c here => ?_).append
            (Heads.mono ends fun c stops => ⟨stops.1, stops.2.1⟩)
          rcases here with rfl | rfl <;> decide
        have beyond : EndsDigits (fraction ++ (exponent ++ other)) := by
          refine (point.mono fun c here => ?_).append (behind.mono fun c stops => stops.1)
          rw [here]
          decide
        have last := exponents other ends
        have middle := fractions (exponent ++ other) behind
        have first := start (fraction ++ (exponent ++ other)) beyond
        have regroup : c :: (digits ++ (fraction ++ exponent)) ++ other
            = c :: digits ++ (fraction ++ (exponent ++ other)) := by simp
        rw [numberFrom_eq, regroup, first]
        simp only [middle, last, number, List.isEmpty_cons, Bool.false_eq_true, if_false]
        rfl

theorem literal?_local {s rest : List Char} {v : Value} (found : literal? s = some (v, rest)) :
    ∃ front, s = front ++ rest ∧ front ≠ []
      ∧ ∀ other, literal? (front ++ other) = some (v, other) := by
  obtain ⟨⟨word, constant⟩, listed, read⟩ := List.exists_of_findSome?_eq_some found
  obtain ⟨after, dropped, same⟩ := Option.map_eq_some_iff.mp read
  cases same
  refine ⟨word, dropFront?_eq_some_iff.mp dropped, ?_⟩
  simp only [literals, List.mem_cons, List.not_mem_nil, or_false, Prod.mk.injEq] at listed
  rcases listed with ⟨rfl, rfl⟩ | ⟨rfl, rfl⟩ | ⟨rfl, rfl⟩ | ⟨rfl, rfl⟩ | ⟨rfl, rfl⟩ | ⟨rfl, rfl⟩ <;>
    exact ⟨by decide, fun _ => rfl⟩

theorem scalar_local {s rest : List Char} {v : Value} (found : scalar s = .ok (v, rest)) :
    ∃ front, s = front ++ rest ∧ front ≠ []
      ∧ ∀ other, EndsNumber other → scalar (front ++ other) = .ok (v, other) := by
  unfold scalar at found
  cases word : literal? s with
  | some constant =>
    rw [word] at found
    cases found
    obtain ⟨front, shape, nonempty, reads⟩ := literal?_local word
    refine ⟨front, shape, nonempty, fun other _ => ?_⟩
    unfold scalar
    rw [reads other]
  -- No constant begins with a digit or a minus sign, so the number is read again.
  | none =>
    rw [word] at found
    dsimp only at found
    split at found
    next after =>
      obtain ⟨c, front, digit, rfl, reads⟩ := numberFrom_local found
      refine ⟨'-' :: c :: front, rfl, List.cons_ne_nil _ _, fun other ends => ?_⟩
      have absent := (literal?_number digit (front ++ other)).2
      rw [List.cons_append, List.cons_append, scalar, absent]
      exact reads other ends
    next unsigned =>
      obtain ⟨c, front, digit, rfl, reads⟩ := numberFrom_local found
      refine ⟨c :: front, rfl, List.cons_ne_nil _ _, fun other ends => ?_⟩
      have absent := (literal?_number digit (front ++ other)).1
      have positive : c ≠ '-' := by
        rintro rfl
        contradiction
      rw [List.cons_append, scalar, absent]
      · exact reads other ends
      · exact fun _ same => positive (List.cons.inj same).1

/-! ### Items -/

theorem skipSpace_shape (s : List Char) :
    ∃ gap, s = gap ++ skipSpace s ∧ (∀ c ∈ gap, isSpace c = true) :=
  ⟨s.takeWhile isSpace, List.takeWhile_append_dropWhile.symm,
    fun c inside => List.all_eq_true.mp List.all_takeWhile c inside⟩

theorem skipSpace_append {gap : List Char} (spaces : ∀ c ∈ gap, isSpace c = true) (s : List Char) :
    skipSpace (gap ++ s) = skipSpace s := List.dropWhile_append_of_pos spaces

theorem skipSpace_solid {c : Char} {s rest : List Char} (found : skipSpace s = c :: rest) :
    isSpace c = false := by
  have stops := List.head?_dropWhile_not isSpace s
  unfold skipSpace at found
  rw [found] at stops
  exact stops

/-- Nothing is skipped in front of what began behind spaces. -/
theorem skipSpace_stays {s front rest : List Char} (found : skipSpace s = front ++ rest)
    (nonempty : front ≠ []) (other : List Char) :
    skipSpace (front ++ other) = front ++ other := by
  cases front with
  | nil => contradiction
  | cons c front => exact skipSpace_cons _ (skipSpace_solid found)

theorem isBlank_of_isSpace {c : Char} (space : isSpace c = true) : isBlank c = true := by
  simp only [isSpace, Bool.or_eq_true, decide_eq_true_eq] at space
  rcases space with ((rfl | rfl) | rfl) | rfl <;> decide

theorem isAsciiDigit_of_isBlank {c : Char} (blank : isBlank c = true) :
    isAsciiDigit c = false := by
  rw [Bool.eq_false_iff]
  intro digit
  have wide : isDigit c = true := by
    rw [isDigit, if_pos (isAscii_of_isAsciiDigit digit)]
    exact digit
  rw [Text.isBlank_of_isDigit wide] at blank
  contradiction

/-- A mark that ends an item, after blanks. -/
theorem endsNumber_gap {c : Char} {gap : List Char} (blanks : ∀ c ∈ gap, isBlank c = true)
    (mark : c = ',' ∨ c = ']' ∨ c = '\x7d') (rest : List Char) :
    EndsNumber (gap ++ c :: rest) := by
  have front : Heads (fun c => isAsciiDigit c = false ∧ c ≠ '.' ∧ c ≠ 'e' ∧ c ≠ 'E') gap := by
    intro d here
    have blank := blanks d (List.mem_of_mem_head? here)
    refine ⟨isAsciiDigit_of_isBlank blank, ?_, ?_, ?_⟩ <;>
      · rintro rfl
        contradiction
  exact front.append (endsNumber_cons rest mark)

theorem itemsFrom_eq_ok {α : Type} {close : Char}
    {more : List Char → Except Fault (List α × List Char)} {item : α} {items : List α}
    {s rest : List Char} (found : itemsFrom close more item s = .ok (items, rest)) :
    (skipSpace s = close :: rest ∧ items = [item])
      ∨ ∃ tail others, skipSpace s = ',' :: tail ∧ more (skipSpace tail) = .ok (others, rest)
        ∧ items = item :: others := by
  unfold itemsFrom at found
  cases shape : skipSpace s with
  | nil => simp [shape] at found
  | cons c tail =>
    simp only [shape, List.head?_cons, List.tail_cons, Option.some.injEq] at found
    split at found
    next last =>
      cases found
      exact .inl ⟨by rw [last], rfl⟩
    next =>
      split at found
      next comma =>
        obtain ⟨⟨others, after⟩, read, same⟩ := Fault.map_eq_ok found
        cases same
        exact .inr ⟨tail, others, by rw [comma], read, rfl⟩
      next => contradiction

/-- Items between marks are taken one after another. -/
theorem items_local {α : Type} {close : Char} {read : Nat → List Char → Step α}
    {more : Nat → List Char → Except Fault (List α × List Char)}
    (step : ∀ fuel s, more (fuel + 1) s
      = (read fuel s).bind fun r => itemsFrom close (more fuel) r.1 r.2)
    (closes : close = ']' ∨ close = '\x7d') {fuel : Nat} (first : Local read fuel)
    (others : Local more fuel) : Local more (fuel + 1) := by
  intro s rest items found
  rw [step] at found
  obtain ⟨⟨item, after⟩, taken, left⟩ := Fault.bind_eq_ok found
  obtain ⟨front, rfl, nonempty, takes⟩ := first taken
  obtain ⟨gap, shape, spaces⟩ := skipSpace_shape after
  have solid : isSpace close = false := by rcases closes with rfl | rfl <;> decide
  have differs : close ≠ ',' := by rcases closes with rfl | rfl <;> decide
  have some : 0 < front.length := List.length_pos_iff.mpr nonempty
  have blanks : ∀ c ∈ gap, isBlank c = true := fun c here => isBlank_of_isSpace (spaces c here)
  rcases itemsFrom_eq_ok left with ⟨last, rfl⟩ | ⟨tail, items, comma, read, rfl⟩
  · -- The item is the last one, so the closing mark ends it.
    refine ⟨front ++ (gap ++ [close]), ?_, by simp [nonempty], fun fuel other enough _ => ?_⟩
    · rw [last] at shape
      simp [shape]
    · have ends : EndsNumber (gap ++ close :: other) := endsNumber_gap blanks (.inr closes) other
      have regroup : front ++ (gap ++ [close]) ++ other = front ++ (gap ++ close :: other) := by
        simp
      obtain ⟨fuel, rfl⟩ : ∃ less, fuel = less + 1 := ⟨fuel - 1, by omega⟩
      simp only [List.length_append, List.length_singleton] at enough
      rw [regroup, step, takes fuel _ (by omega) ends]
      simp only [Except.bind, itemsFrom, skipSpace_append spaces, skipSpace_cons other solid]
      simp
  · -- A comma ends the item, and the others are local by themselves.
    obtain ⟨later, split, begun, further⟩ := others read
    obtain ⟨space, form, skipped⟩ := skipSpace_shape tail
    refine ⟨front ++ (gap ++ ',' :: (space ++ later)), ?_, by simp [nonempty], ?_⟩
    · rw [comma] at shape
      rw [split] at form
      simp [shape, form]
    · intro fuel other enough ends
      have behind := endsNumber_gap blanks (.inl rfl) (space ++ (later ++ other))
      have regroup : front ++ (gap ++ ',' :: (space ++ later)) ++ other
          = front ++ (gap ++ ',' :: (space ++ (later ++ other))) := by simp
      have begins := skipSpace_stays split begun other
      have comma : isSpace ',' = false := by decide
      obtain ⟨fuel, rfl⟩ : ∃ less, fuel = less + 1 := ⟨fuel - 1, by omega⟩
      simp only [List.length_append, List.length_cons] at enough
      rw [regroup, step, takes fuel _ (by omega) behind]
      simp only [Except.bind, itemsFrom, skipSpace_append spaces, skipSpace_cons _ comma,
        List.head?_cons, List.tail_cons, Option.some.injEq, differs.symm, if_false, if_true,
        skipSpace_append skipped, begins, further fuel other (by omega) ends]
      rfl

theorem member_local {fuel : Nat} (inner : Local value fuel) : Local member fuel := by
  intro s rest entry found
  unfold member at found
  split at found
  next text =>
    obtain ⟨⟨name, after⟩, named, left⟩ := Fault.bind_eq_ok found
    obtain ⟨front, rfl, reads⟩ := stringFrom_local named
    dsimp only at left
    split at left
    next colon =>
      obtain ⟨⟨item, last⟩, taken, same⟩ := Fault.map_eq_ok left
      cases same
      obtain ⟨gap, shape, spaces⟩ := skipSpace_shape after
      obtain ⟨tail, opened⟩ : ∃ tail, skipSpace after = ':' :: tail := by
        cases start : skipSpace after with
        | nil => simp [start] at colon
        | cons c tail =>
          rw [start, List.head?_cons, Option.some.injEq] at colon
          exact ⟨tail, by rw [colon]⟩
      rw [opened] at shape
      rw [opened, List.tail_cons] at taken
      obtain ⟨space, form, skipped⟩ := skipSpace_shape tail
      obtain ⟨written, split, nonempty, takes⟩ := inner taken
      rw [split] at form
      refine ⟨'"' :: (front ++ (gap ++ ':' :: (space ++ written))), ?_, List.cons_ne_nil _ _, ?_⟩
      · simp [shape, form]
      · intro fuel other enough ends
        -- The blanks around the colon are part of what is read, those behind the value are not.
        have regroup : '"' :: (front ++ (gap ++ ':' :: (space ++ written))) ++ other
            = '"' :: (front ++ (gap ++ ':' :: (space ++ (written ++ other)))) := by simp
        have begins := skipSpace_stays split nonempty other
        have mark : isSpace ':' = false := by decide
        simp only [List.length_append, List.length_cons] at enough
        rw [regroup, member, reads]
        simp only [Except.bind, skipSpace_append spaces, skipSpace_cons _ mark, List.head?_cons,
          List.tail_cons, if_true, skipSpace_append skipped, begins,
          takes fuel other (by omega) ends]
        rfl
    next => contradiction
  next => contradiction

theorem bracketed_local {α : Type} {close : Char}
    {more : Nat → List Char → Except Fault (List α × List Char)} (empty : Value)
    (made : List α → Value) (closes : close = ']' ∨ close = '\x7d') {fuel : Nat}
    (others : Local more fuel) {s rest : List Char} {v : Value}
    (found : (if (skipSpace s).head? = some close then .ok (empty, (skipSpace s).tail)
      else (more fuel (skipSpace s)).map fun r => (made r.1, r.2)) = Except.ok (v, rest)) :
    ∃ front, s = front ++ rest ∧ ∀ fuel other, front.length < fuel → EndsNumber other →
      (if (skipSpace (front ++ other)).head? = some close then
        .ok (empty, (skipSpace (front ++ other)).tail)
        else (more fuel (skipSpace (front ++ other))).map fun r => (made r.1, r.2))
        = Except.ok (v, other) := by
  obtain ⟨gap, shape, spaces⟩ := skipSpace_shape s
  have solid : isSpace close = false := by rcases closes with rfl | rfl <;> decide
  split at found
  next closed =>
    -- Nothing stands between the brackets.
    cases start : skipSpace s with
    | nil => simp [start] at closed
    | cons c tail =>
      rw [start] at shape
      simp only [start, List.head?_cons, Option.some.injEq, List.tail_cons] at closed found
      cases found
      subst closed
      refine ⟨gap ++ [c], by simp [shape], fun fuel other _ _ => ?_⟩
      rw [List.append_assoc, skipSpace_append spaces, List.singleton_append,
        skipSpace_cons other solid]
      simp
  next closed =>
    -- The first item begins with something else than the closing bracket, whatever follows it.
    obtain ⟨⟨items, after⟩, taken, same⟩ := Fault.map_eq_ok found
    cases same
    obtain ⟨front, split, nonempty, takes⟩ := others taken
    rw [split] at shape closed
    refine ⟨gap ++ front, by simp [shape], fun fuel other enough ends => ?_⟩
    rw [List.length_append] at enough
    cases front with
    | nil => contradiction
    | cons c front =>
      have begins : skipSpace (c :: front ++ other) = c :: front ++ other :=
        skipSpace_cons _ (skipSpace_solid split)
      rw [List.append_assoc, skipSpace_append spaces, begins, takes fuel other (by omega) ends]
      exact if_neg closed

theorem value_local {fuel : Nat} (lists : Local elements fuel) (mappings : Local members fuel) :
    Local value (fuel + 1) := by
  intro s rest v found
  cases s with
  | nil => contradiction
  | cons c s =>
    -- The first character says which reader goes on, so it does so before another rest too.
    by_cases quote : c = '"'
    · subst quote
      rw [value_quote] at found
      obtain ⟨⟨text, after⟩, named, same⟩ := Fault.map_eq_ok found
      cases same
      obtain ⟨front, rfl, reads⟩ := stringFrom_local named
      refine ⟨'"' :: front, rfl, List.cons_ne_nil _ _, fun fuel other enough _ => ?_⟩
      obtain ⟨fuel, rfl⟩ : ∃ less, fuel = less + 1 := ⟨fuel - 1, by omega⟩
      rw [List.cons_append, value_quote, reads]
      rfl
    by_cases bracket : c = '['
    · subst bracket
      rw [value_list] at found
      obtain ⟨front, rfl, reads⟩ := bracketed_local (.list []) .list (.inl rfl) lists found
      refine ⟨'[' :: front, rfl, List.cons_ne_nil _ _, fun fuel other enough ends => ?_⟩
      obtain ⟨fuel, rfl⟩ : ∃ less, fuel = less + 1 := ⟨fuel - 1, by omega⟩
      rw [List.cons_append, value_list]
      exact reads fuel other (Nat.lt_of_succ_lt_succ enough) ends
    by_cases brace : c = '\x7b'
    · subst brace
      rw [value_mapping] at found
      obtain ⟨front, rfl, reads⟩ := bracketed_local (.mapping [])
        (fun entries => .mapping (Mapping.ofList entries)) (.inr rfl) mappings found
      refine ⟨'\x7b' :: front, rfl, List.cons_ne_nil _ _, fun fuel other enough ends => ?_⟩
      obtain ⟨fuel, rfl⟩ : ∃ less, fuel = less + 1 := ⟨fuel - 1, by omega⟩
      rw [List.cons_append, value_mapping]
      exact reads fuel other (Nat.lt_of_succ_lt_succ enough) ends
    · rw [value_scalar fuel quote bracket brace] at found
      obtain ⟨front, shape, nonempty, reads⟩ := scalar_local found
      refine ⟨front, shape, nonempty, fun fuel other enough ends => ?_⟩
      obtain ⟨fuel, rfl⟩ : ∃ less, fuel = less + 1 := ⟨fuel - 1, by omega⟩
      cases front with
      | nil => contradiction
      | cons d front =>
        obtain ⟨rfl, -⟩ := List.cons.inj shape
        rw [List.cons_append, value_scalar fuel quote bracket brace]
        exact reads other ends

theorem locals (fuel : Nat) : Local value fuel ∧ Local elements fuel ∧ Local members fuel := by
  induction fuel with
  | zero => exact ⟨nofun, nofun, nofun⟩
  | succ fuel ih =>
    obtain ⟨one, list, mapping⟩ := ih
    exact ⟨value_local list mapping, items_local elements_succ (.inl rfl) one list,
      items_local members_succ (.inr rfl) (member_local one) mapping⟩

/-- A value that is read is read again from the same front, whatever stands behind it. -/
theorem readFront_local {s rest : List Char} {v : Value} (found : readFront s = .ok (v, rest)) :
    ∃ front, s = front ++ rest
      ∧ ∀ other, EndsNumber other → readFront (front ++ other) = .ok (v, other) := by
  obtain ⟨front, shape, -, takes⟩ := (locals _).1 found
  refine ⟨front, shape, fun other ends => takes _ other ?_ ends⟩
  rw [List.length_append]
  omega

/-! ### The braces of a mapping -/

/-- A number or a word is no mapping. -/
theorem scalar_flat {s rest : List Char} {v : Value} (found : scalar s = .ok (v, rest)) :
    isMapping v = false := by
  have number {negative : Bool} {s : List Char} (found : numberFrom negative s = .ok (v, rest)) :
      isMapping v = false := by
    rw [numberFrom_eq] at found
    split at found
    · contradiction
    · obtain ⟨n, number, same⟩ := Fault.map_eq_ok found
      cases same
      unfold numberOf at number
      split at number
      · split at number
        · contradiction
        · cases number
          rfl
      · cases number
        rfl
  unfold scalar at found
  split at found
  next taken read =>
    cases found
    obtain ⟨entry, listed, dropped⟩ := List.exists_of_findSome?_eq_some read
    obtain ⟨after, -, same⟩ := Option.map_eq_some_iff.mp dropped
    cases same
    simp only [literals, List.mem_cons, List.not_mem_nil, or_false] at listed
    rcases listed with rfl | rfl | rfl | rfl | rfl | rfl <;> rfl
  next =>
    split at found
    · exact number found
    · exact number found

/-- The last member of a mapping is followed by the closing brace. -/
theorem members_closed {fuel : Nat} {s rest : List Char} {entries : Mapping.Entries}
    (found : members fuel s = .ok (entries, rest)) : '\x7d' :: rest <:+ s := by
  induction fuel generalizing s entries with
  | zero => contradiction
  | succ fuel ih =>
    rw [members_succ] at found
    obtain ⟨⟨entry, after⟩, taken, left⟩ := Fault.bind_eq_ok found
    obtain ⟨front, rfl, -⟩ := member_local (locals fuel).1 taken
    have behind : skipSpace after <:+ front ++ after :=
      (skipSpace_suffix after).trans (List.suffix_append _ _)
    rcases itemsFrom_eq_ok left with ⟨last, -⟩ | ⟨tail, others, comma, read, -⟩
    · rwa [last] at behind
    · rw [comma] at behind
      exact ((ih read).trans (skipSpace_suffix tail)).trans ((List.suffix_cons _ _).trans behind)

/-- A mapping is read between its braces. -/
theorem readFront_mapping {s rest : List Char} {entries : Mapping.Entries}
    (found : readFront s = .ok (.mapping entries, rest)) :
    ∃ inner, s = '\x7b' :: (inner ++ '\x7d' :: rest) := by
  rw [readFront] at found
  cases s with
  | nil => contradiction
  | cons c s =>
    by_cases quote : c = '"'
    · subst quote
      rw [value_quote] at found
      obtain ⟨_, -, same⟩ := Fault.map_eq_ok found
      cases same
    by_cases bracket : c = '['
    · subst bracket
      rw [value_list] at found
      split at found
      · cases found
      · obtain ⟨_, -, same⟩ := Fault.map_eq_ok found
        cases same
    by_cases brace : c = '\x7b'
    · subst brace
      rw [value_mapping] at found
      -- An empty mapping is closed at once, another one behind its last member.
      have closed : '\x7d' :: rest <:+ skipSpace s := by
        split at found
        next empty =>
          cases start : skipSpace s with
          | nil => simp [start] at empty
          | cons d tail =>
            simp only [start, List.head?_cons, Option.some.injEq, List.tail_cons] at empty found
            cases found
            rw [empty]
        next =>
          obtain ⟨_, read, same⟩ := Fault.map_eq_ok found
          cases same
          exact members_closed read
      obtain ⟨inner, shape⟩ := closed.trans (skipSpace_suffix s)
      exact ⟨inner, by rw [shape]⟩
    · rw [value_scalar _ quote bracket brace] at found
      have flat := scalar_flat found
      contradiction

end StaticSite.Json
