import StaticSite.Json.Writer
import StaticSite.Proofs.Json.Front

/-!
# Reading what was written

Every value that JSON knows without loss is read back from the text that is written for it, and
what follows the text is left as it stands. The escapes of a string are taken one character at a
time, an integer is its digits, and a list or mapping is read item by item: what is written for an
item tells the reader where the item ends. Only an integer needs help with that, since a digit
after it would be read as part of it.
-/

namespace StaticSite.Json

open StaticSite.Text

/-! ### Strings -/

theorem hexValue?_hexDigit : ∀ d < 16, hexValue? (hexDigit d) = some d := by decide

/-- The four digits of a code unit are read as the code unit. -/
theorem escapeUnit_eq {n : Nat} (small : n < 0x10000) :
    ∃ a b c d, escapeUnit n = ['\\', 'u', a, b, c, d] ∧ hexUnit? a b c d = some n := by
  have first := hexValue?_hexDigit (n / 16 / 16 / 16 % 16) (Nat.mod_lt _ (by decide))
  have second := hexValue?_hexDigit (n / 16 / 16 % 16) (Nat.mod_lt _ (by decide))
  have third := hexValue?_hexDigit (n / 16 % 16) (Nat.mod_lt _ (by decide))
  have fourth := hexValue?_hexDigit (n % 16) (Nat.mod_lt _ (by decide))
  refine ⟨_, _, _, _, rfl, ?_⟩
  have sum : ((n / 16 / 16 / 16 % 16 * 16 + n / 16 / 16 % 16) * 16 + n / 16 % 16) * 16 + n % 16
      = n := by omega
  simp only [hexUnit?, first, second, third, fourth, Option.bind_eq_bind, Option.bind_some, sum]
  rfl

/-- A character is no half of a pair. -/
theorem toNat_not_half (c : Char) : isHighUnit c.toNat = false ∧ isLowUnit c.toNat = false := by
  have valid : c.toNat < 0xD800 ∨ 0xDFFF < c.toNat ∧ c.toNat < 0x110000 := c.valid
  simp only [isHighUnit, isLowUnit, Bool.and_eq_false_iff, decide_eq_false_iff_not]
  omega

theorem unitChar_toNat (c : Char) : unitChar c.toNat = c := by
  have valid : c.toNat < 0xD800 ∨ 0xDFFF < c.toNat ∧ c.toNat < 0x110000 := c.valid
  have whole : ¬ (decide (0xD800 ≤ c.toNat) && decide (c.toNat < 0xE000)) = true := by
    simp only [Bool.and_eq_true, decide_eq_true_eq]
    omega
  rw [unitChar, if_neg whole, Char.ofNat_toNat]

/-- The halves of a character beyond the first plane are a pair, and the pair is the character. -/
theorem pair_eq {c : Char} (large : 0x10000 ≤ c.toNat) :
    let high := 0xD800 + (c.toNat - 0x10000) / 0x400
    let low := 0xDC00 + (c.toNat - 0x10000) % 0x400
    high < 0x10000 ∧ low < 0x10000 ∧ isHighUnit high = true ∧ isLowUnit low = true
      ∧ pairChar high low = c := by
  intro high low
  have valid : c.toNat < 0xD800 ∨ 0xDFFF < c.toNat ∧ c.toNat < 0x110000 := c.valid
  have bound : (c.toNat - 0x10000) % 0x400 < 0x400 := Nat.mod_lt _ (by decide)
  have sum : 0x10000 + (high - 0xD800) * 0x400 + (low - 0xDC00) = c.toNat := by omega
  refine ⟨by omega, by omega, ?_, ?_, ?_⟩
  · simp only [isHighUnit, Bool.and_eq_true, decide_eq_true_eq]
    omega
  · simp only [isLowUnit, Bool.and_eq_true, decide_eq_true_eq]
    omega
  · rw [pairChar, sum, Char.ofNat_toNat]

theorem stringFrom_short {letter e : Char} (known : shortEscape? letter = some e)
    (read rest : List Char) :
    stringFrom none read ('\\' :: letter :: rest) = stringFrom none (e :: read) rest := by
  have other : letter ≠ 'u' := by
    rintro rfl
    contradiction
  rw [stringFrom] <;> simp_all [stringFrom.flush]

theorem stringFrom_plain {c : Char} (quote : c ≠ '"') (escape : c ≠ '\\')
    (printed : 32 ≤ c.toNat) (read rest : List Char) :
    stringFrom none read (c :: rest) = stringFrom none (c :: read) rest := by
  have kept : ¬ (decide (c.toNat < 32) || decide (c = '\\')) = true := by
    simp only [Bool.or_eq_true, decide_eq_true_eq, escape, or_false]
    omega
  rw [stringFrom, if_neg kept]
  · rfl
  all_goals simp_all

theorem stringFrom_unit {n : Nat} (small : n < 0x10000) (read rest : List Char) :
    stringFrom none read (escapeUnit n ++ rest)
      = if isHighUnit n then stringFrom (some n) read rest
        else stringFrom none (unitChar n :: read) rest := by
  obtain ⟨a, b, c, d, shape, unit⟩ := escapeUnit_eq small
  rw [shape]
  simp [stringFrom, unit]

theorem stringFrom_second {high n : Nat} (small : n < 0x10000) (low : isLowUnit n = true)
    (read rest : List Char) :
    stringFrom (some high) read (escapeUnit n ++ rest)
      = stringFrom none (pairChar high n :: read) rest := by
  obtain ⟨a, b, c, d, shape, unit⟩ := escapeUnit_eq small
  rw [shape]
  simp [stringFrom, unit, low]

/-- The four ways in which a character is written. -/
theorem escapeChar_cases (c : Char) :
    (∃ letter, shortEscape? letter = some c ∧ escapeChar c = ['\\', letter])
      ∨ (c ≠ '"' ∧ c ≠ '\\' ∧ 32 ≤ c.toNat ∧ escapeChar c = [c])
      ∨ (c.toNat < 0x10000 ∧ escapeChar c = escapeUnit c.toNat)
      ∨ (0x10000 ≤ c.toNat ∧ escapeChar c = escapeUnit (0xD800 + (c.toNat - 0x10000) / 0x400)
          ++ escapeUnit (0xDC00 + (c.toNat - 0x10000) % 0x400)) := by
  by_cases short : c ∈ ['"', '\\', '\n', '\r', '\t', '\x08', '\x0c']
  · simp only [List.mem_cons, List.not_mem_nil, or_false] at short
    rcases short with rfl | rfl | rfl | rfl | rfl | rfl | rfl <;> exact .inl ⟨_, rfl, rfl⟩
  · right
    simp only [List.mem_cons, List.not_mem_nil, or_false, not_or] at short
    obtain ⟨quote, escape, newline, carriage, tab, back, feed⟩ := short
    simp only [escapeChar, quote, escape, newline, carriage, tab, back, feed, if_false]
    split
    next printed =>
      simp only [Bool.and_eq_true, decide_eq_true_eq] at printed
      exact .inl ⟨quote, escape, printed.1, rfl⟩
    split
    next small => exact .inr (.inl ⟨small, rfl⟩)
    next large => exact .inr (.inr ⟨Nat.le_of_not_lt large, rfl⟩)

/-- A spelling of characters that strings are read back from. -/
def Spells (spell : Char → List Char) : Prop :=
  ∀ c read rest, stringFrom none read (spell c ++ rest) = stringFrom none (c :: read) rest

theorem spells_escapeChar : Spells escapeChar := by
  intro c read rest
  rcases escapeChar_cases c with ⟨letter, known, written⟩ | ⟨quote, escape, printed, written⟩
    | ⟨small, written⟩ | ⟨large, written⟩
  · rw [written]
    exact stringFrom_short known read rest
  · rw [written]
    exact stringFrom_plain quote escape printed read rest
  · have whole := (toNat_not_half c).1
    rw [written, stringFrom_unit small, whole, unitChar_toNat]
    rfl
  · -- The first code unit waits until the second one completes it.
    obtain ⟨first, second, high, low, whole⟩ := pair_eq large
    rw [written, List.append_assoc, stringFrom_unit first, if_pos high,
      stringFrom_second second low, whole]

theorem stringFrom_spelled {spell : Char → List Char} (spells : Spells spell)
    (s read rest : List Char) :
    stringFrom none read (s.flatMap spell ++ '"' :: rest) = .ok (read.reverse ++ s, rest) := by
  induction s generalizing read with
  | nil => simp [stringFrom_quote, stringFrom.flush]
  | cons c s ih =>
    rw [List.flatMap_cons, List.append_assoc, spells, ih, List.reverse_cons, List.append_assoc,
      List.singleton_append]

/-! ### Integers -/

/-- A rest that no number goes on into. -/
def EndsNumber (rest : List Char) : Prop :=
  ∀ c ∈ rest.head?, isAsciiDigit c = false ∧ c ≠ '.' ∧ c ≠ 'e' ∧ c ≠ 'E'

theorem digitsNat_natText (n : Nat) : digitsNat (Decimal.natText n) = n := foldl_natText n

/-- Only zero is written with a leading zero. -/
theorem natText_zero_front {n : Nat} {rest : List Char} (front : Decimal.natText n = '0' :: rest) :
    rest = [] := by
  induction n using Nat.strongRecOn generalizing rest with
  | ind n ih =>
    unfold Decimal.natText at front ih
    by_cases small : n < 10
    · rw [Nat.toDigits_of_lt_base small] at front
      exact (List.cons.inj front).2.symm
    · have longer : 10 ≤ n := Nat.le_of_not_lt small
      rw [Nat.toDigits_of_base_le (by decide) longer] at front
      cases upper : Nat.toDigits 10 (n / 10) with
      | nil => exact absurd upper Nat.toDigits_ne_nil
      | cons c digits =>
        -- A zero in front would be all of the upper digits, which are those of a positive number.
        rw [upper, List.cons_append, List.cons.injEq] at front
        obtain ⟨rfl, -⟩ := front
        have alone := ih (n / 10) (by omega) upper
        have value := digitsNat_natText (n / 10)
        rw [Decimal.natText, upper, alone] at value
        have zero : digitsNat ['0'] = 0 := rfl
        omega

theorem wholeFront_natText (n : Nat) {rest : List Char} (ends : EndsNumber rest) :
    wholeFront (Decimal.natText n ++ rest) = (Decimal.natText n, rest) := by
  have digits := natText_digits n
  cases shape : Decimal.natText n with
  | nil => exact absurd shape Nat.toDigits_ne_nil
  | cons c tail =>
    -- A zero in front stands alone, as the text of no other number begins with it.
    by_cases zero : c = '0'
    · subst zero
      rw [natText_zero_front shape]
      rfl
    · have other : wholeFront (c :: tail ++ rest) = digitsFront (c :: tail ++ rest) := by
        rw [List.cons_append]
        unfold wholeFront
        split <;> simp_all
      rw [shape] at digits
      have stop : rest.takeWhile isAsciiDigit = [] ∧ rest.dropWhile isAsciiDigit = rest := by
        cases rest with
        | nil => exact ⟨rfl, rfl⟩
        | cons d rest =>
          have plain := (ends d rfl).1
          simp [List.takeWhile, List.dropWhile, plain]
      rw [other, digitsFront_eq, List.takeWhile_append_of_pos digits,
        List.dropWhile_append_of_pos digits, stop.1, stop.2, List.append_nil]

theorem fractionFront_none {rest : List Char} (ends : EndsNumber rest) :
    fractionFront rest = (none, rest) := by
  unfold fractionFront
  split
  next after => exact absurd rfl (ends '.' rfl).2.1
  next => rfl

theorem exponentFront_none {rest : List Char} (ends : EndsNumber rest) :
    exponentFront rest = (none, rest) := by
  unfold exponentFront
  split
  next c after =>
    obtain ⟨-, -, small, large⟩ := ends c rfl
    simp [small, large]
  next => rfl

theorem numberFrom_natText {n : Nat} {rest : List Char} (negative : Bool)
    (short : (Decimal.natText n).length ≤ Number.digitLimit) (ends : EndsNumber rest) :
    numberFrom negative (Decimal.natText n ++ rest)
      = .ok (.int (if negative then -(n : Int) else n), rest) := by
  have nonempty : (Decimal.natText n).isEmpty = false := by
    rw [List.isEmpty_eq_false_iff]
    exact Nat.toDigits_ne_nil
  rw [numberFrom_eq, wholeFront_natText n ends, nonempty]
  simp only [Bool.false_eq_true, if_false, fractionFront_none ends, exponentFront_none ends,
    numberOf, Nat.not_lt.mpr short, digitsNat_natText]
  rfl

theorem literal?_number {c : Char} (digit : isAsciiDigit c = true) (s : List Char) :
    literal? (c :: s) = none ∧ literal? ('-' :: c :: s) = none := by
  have other (d : Char) (letter : isAsciiDigit d = false) : ¬ d = c := by
    rintro rfl
    rw [digit] at letter
    contradiction
  constructor
  · simp [literal?, literals, dropFront?, other 'n' rfl, other 't' rfl, other 'f' rfl,
      other 'N' rfl, other 'I' rfl, other '-' rfl]
  · simp [literal?, literals, dropFront?, other 'I' rfl]

/-- The text of an integer is read as the integer. -/
theorem scalar_int {n : Int} {text rest : List Char} (written : writeInt n = .ok text)
    (ends : EndsNumber rest) : scalar (text ++ rest) = .ok (.int n, rest) := by
  unfold writeInt at written
  split at written
  · contradiction
  next short =>
    have short := Nat.le_of_not_lt short
    cases written
    cases shape : Decimal.natText n.natAbs with
    | nil => exact absurd shape Nat.toDigits_ne_nil
    | cons c tail =>
      have digit : isAsciiDigit c = true :=
        natText_digits n.natAbs c (shape ▸ List.mem_cons_self)
      -- A digit begins no constant, neither alone nor behind a minus sign.
      obtain ⟨plain, signed⟩ := literal?_number digit (tail ++ rest)
      unfold Decimal.intText
      split
      next negative =>
        have value : -(n.natAbs : Int) = n := by omega
        have read := numberFrom_natText true short ends
        rw [shape, if_pos rfl, value] at read
        rw [shape, List.cons_append, List.cons_append, scalar, signed]
        exact read
      next positive =>
        have value : (n.natAbs : Int) = n := by omega
        have read := numberFrom_natText false short ends
        rw [shape, if_neg Bool.false_ne_true, value] at read
        have unsigned : c ≠ '-' := by
          rintro rfl
          contradiction
        rw [shape, List.cons_append, scalar, plain]
        · exact read
        · exact fun _ same => unsigned (List.cons.inj same).1

/-! ### Items -/

/-- `text` is written for `item`: reading takes the item from it and nothing of what follows. -/
structure Written {α : Type} (read : Nat → List Char → Step α) (item : α) (text : List Char) :
    Prop where
  front : ∃ c rest, text = c :: rest ∧ isSpace c = false ∧ c ≠ ']' ∧ c ≠ '\x7d'
  reads : ∀ fuel rest, 2 * text.length ≤ fuel → EndsNumber rest →
    read fuel (text ++ rest) = .ok (item, rest)

namespace Written

variable {α : Type} {read : Nat → List Char → Step α} {item : α} {text : List Char}

theorem skipSpace_eq (written : Written read item text) (rest : List Char) :
    skipSpace (text ++ rest) = text ++ rest := by
  obtain ⟨c, tail, rfl, solid, -⟩ := written.front
  simp [skipSpace, solid]

theorem length_pos (written : Written read item text) : 0 < text.length := by
  obtain ⟨c, tail, rfl, -⟩ := written.front
  exact Nat.zero_lt_succ _

theorem head?_ne (written : Written read item text) {close : Char} (rest : List Char)
    (closes : close = ']' ∨ close = '\x7d') : (text ++ rest).head? ≠ some close := by
  obtain ⟨c, tail, rfl, -, bracket, brace⟩ := written.front
  rcases closes with rfl | rfl
  · exact fun same => bracket (Option.some.inj same)
  · exact fun same => brace (Option.some.inj same)

end Written

theorem endsNumber_cons {c : Char} (rest : List Char)
    (mark : c = ',' ∨ c = ']' ∨ c = '\x7d') : EndsNumber (c :: rest) := by
  intro d here
  cases here
  rcases mark with rfl | rfl | rfl <;> decide

theorem skipSpace_cons {c : Char} (rest : List Char) (solid : isSpace c = false) :
    skipSpace (c :: rest) = c :: rest := by
  simp [skipSpace, solid]

theorem itemsFrom_last {α : Type} {close : Char}
    (more : List Char → Except Fault (List α × List Char)) (item : α) (rest : List Char)
    (solid : isSpace close = false) :
    itemsFrom close more item (close :: rest) = .ok ([item], rest) := by
  rw [itemsFrom, skipSpace_cons rest solid]
  simp

theorem itemsFrom_next {α : Type} {close : Char}
    (more : List Char → Except Fault (List α × List Char)) (item : α) {s : List Char}
    (differs : close ≠ ',') (solid : skipSpace s = s) :
    itemsFrom close more item (',' :: ' ' :: s) = (more s).map fun r => (item :: r.1, r.2) := by
  have comma : isSpace ',' = false := by decide
  have blank : skipSpace (' ' :: s) = s := solid
  rw [itemsFrom, skipSpace_cons _ comma]
  simp [differs.symm, blank]

theorem joinWith_cons_cons (first next : List Char) (others : List (List Char))
    (rest : List Char) :
    joinWith [',', ' '] (first :: next :: others) ++ rest
      = first ++ ',' :: ' ' :: (joinWith [',', ' '] (next :: others) ++ rest) := by
  simp only [joinWith, List.append_assoc, List.cons_append, List.nil_append]

/-- Items with a comma and a blank between them are read one after another. -/
theorem items_written {α : Type} {close : Char} {read : Nat → List Char → Step α}
    {more : Nat → List Char → Except Fault (List α × List Char)}
    (step : ∀ fuel s, more (fuel + 1) s
      = (read fuel s).bind fun r => itemsFrom close (more fuel) r.1 r.2)
    (closes : close = ']' ∨ close = '\x7d') (item : α) (text : List Char)
    (others : List (α × List Char)) (first : Written read item text)
    (each : ∀ other ∈ others, Written read other.1 other.2) (fuel : Nat) (rest : List Char)
    (enough : 2 * (joinWith [',', ' '] (text :: others.map Prod.snd)).length + 1 ≤ fuel) :
    more fuel (joinWith [',', ' '] (text :: others.map Prod.snd) ++ close :: rest)
      = .ok (item :: others.map Prod.fst, rest) := by
  have solid : isSpace close = false ∧ close ≠ ',' := by
    rcases closes with rfl | rfl <;> decide
  obtain ⟨fuel, rfl⟩ : ∃ less, fuel = less + 1 := ⟨fuel - 1, by omega⟩
  induction others generalizing item text fuel with
  | nil =>
    have ends : EndsNumber (close :: rest) := endsNumber_cons rest (.inr closes)
    have taken := first.reads fuel (close :: rest) (by simpa [joinWith] using enough) ends
    rw [step, List.map_nil, joinWith, taken]
    exact itemsFrom_last _ _ _ solid.1
  | cons other others ih =>
    have next := each other List.mem_cons_self
    simp only [List.map_cons, joinWith, List.length_append, List.length_cons, List.length_nil]
      at enough
    have ends (s : List Char) : EndsNumber (',' :: s) := endsNumber_cons s (.inl rfl)
    have taken (s : List Char) := first.reads fuel (',' :: s) (by omega) (ends s)
    have positive := first.length_pos
    obtain ⟨fuel, rfl⟩ : ∃ less, fuel = less + 1 := ⟨fuel - 1, by omega⟩
    have inner := ih other.1 other.2 next (fun o inside => each o (List.mem_cons_of_mem _ inside))
      fuel (by omega)
    -- Only the blank after the comma is skipped: the next item begins with no blank.
    have front : skipSpace (joinWith [',', ' '] (other.2 :: others.map Prod.snd) ++ close :: rest)
        = joinWith [',', ' '] (other.2 :: others.map Prod.snd) ++ close :: rest := by
      cases others with
      | nil => exact next.skipSpace_eq _
      | cons third others =>
        simp only [List.map_cons, joinWith, List.append_assoc]
        exact next.skipSpace_eq _
    rw [step, List.map_cons, joinWith_cons_cons, taken]
    simp only [Except.bind]
    rw [itemsFrom_next _ _ solid.2 front, inner]
    rfl

/-- What stands between the brackets of a list or mapping. -/
theorem bracketed_written {α : Type} {close : Char} {read : Nat → List Char → Step α}
    {more : Nat → List Char → Except Fault (List α × List Char)}
    (step : ∀ fuel s, more (fuel + 1) s
      = (read fuel s).bind fun r => itemsFrom close (more fuel) r.1 r.2)
    (closes : close = ']' ∨ close = '\x7d') (made : List α → Value)
    {items : List (α × List Char)} (each : ∀ item ∈ items, Written read item.1 item.2)
    (fuel : Nat) (rest : List Char)
    (enough : 2 * (joinWith [',', ' '] (items.map Prod.snd)).length + 1 ≤ fuel) :
    let inner := skipSpace (joinWith [',', ' '] (items.map Prod.snd) ++ close :: rest)
    (if inner.head? = some close then .ok (made [], inner.tail)
      else (more fuel inner).map fun r => (made r.1, r.2)) = .ok (made (items.map Prod.fst), rest) := by
  intro inner
  cases items with
  | nil =>
    have solid : isSpace close = false := by
      rcases closes with rfl | rfl <;> decide
    have here : inner = close :: rest := skipSpace_cons rest solid
    rw [here]
    simp
  | cons item items =>
    have first := each item List.mem_cons_self
    have others : ∀ other ∈ items, Written read other.1 other.2 :=
      fun other inside => each other (List.mem_cons_of_mem _ inside)
    obtain ⟨tail, shape⟩ : ∃ tail, joinWith [',', ' '] (item.2 :: items.map Prod.snd)
        ++ close :: rest = item.2 ++ tail := by
      cases items with
      | nil => exact ⟨_, rfl⟩
      | cons next items => exact ⟨_, joinWith_cons_cons _ _ _ _⟩
    have here : inner = joinWith [',', ' '] (item.2 :: items.map Prod.snd) ++ close :: rest := by
      show skipSpace _ = _
      rw [List.map_cons, shape]
      exact first.skipSpace_eq tail
    -- A written item begins with no closing bracket, so the reader looks for items.
    have opens : ¬ inner.head? = some close := by
      rw [here, shape]
      exact first.head?_ne tail closes
    rw [if_neg opens, here, items_written step closes item.1 item.2 items first others fuel rest enough]
    rfl

/-! ### Members -/

/-- A member at the front of a text: its name and its value. -/
def member (fuel : Nat) : List Char → Step (Value × Value)
  | '"' :: s => (stringFrom none [] s).bind fun r =>
    if (skipSpace r.2).head? = some ':' then
      (value fuel (skipSpace (skipSpace r.2).tail)).map fun v => ((.ofString r.1, v.1), v.2)
    else .error .malformedJson
  | _ => .error .malformedJson

theorem members_succ (fuel : Nat) (s : List Char) : members (fuel + 1) s
    = (member fuel s).bind fun r => itemsFrom '\x7d' (members fuel) r.1 r.2 := by
  unfold member
  split
  next text =>
    rw [members_name]
    cases stringFrom none [] text with
    | error fault => rfl
    | ok r =>
      simp only [Except.bind, memberFrom]
      split
      next =>
        cases value fuel (skipSpace (skipSpace r.2).tail) with
        | error fault => rfl
        | ok v => rfl
      next => rfl
  next other => exact members_other fuel fun u same => other u same

variable {spell : Char → List Char}

theorem member_written (spells : Spells spell) {name : String} {v : Value} {text : List Char}
    (written : Written value v text) :
    Written member (.str name, v)
      ('"' :: name.toList.flatMap spell ++ ['"'] ++ ':' :: ' ' :: text) where
  front := ⟨'"', _, rfl, by decide, by decide, by decide⟩
  reads fuel rest enough ends := by
    have shorter : 2 * text.length ≤ fuel := by
      simp only [List.length_append, List.length_cons] at enough
      omega
    have solid : isSpace ':' = false := by decide
    have blank : skipSpace (' ' :: (text ++ rest)) = text ++ rest := written.skipSpace_eq rest
    have shape : '"' :: name.toList.flatMap spell ++ ['"'] ++ ':' :: ' ' :: text ++ rest
        = '"' :: (name.toList.flatMap spell ++ '"' :: ':' :: ' ' :: (text ++ rest)) := by
      simp
    rw [shape, member, stringFrom_spelled spells]
    simp only [Except.bind, skipSpace_cons _ solid, List.head?_cons, List.tail_cons, if_true, blank,
      written.reads fuel rest shorter ends]
    simp [Except.map, Value.ofString]

/-! ### Values -/

/-- Entries under names. -/
def named (members : List (String × Value)) : Mapping.Entries :=
  members.map fun member => (.str member.1, member.2)

/-- The values that JSON knows, doubles apart. A mapping has its values under distinct names. -/
inductive Exact : Value → Prop where
  | null : Exact .null
  | bool (b : Bool) : Exact (.bool b)
  | int (n : Int) : Exact (.int n)
  | str (s : String) : Exact (.str s)
  | list {items : List Value} (each : ∀ item ∈ items, Exact item) : Exact (.list items)
  | mapping {members : List (String × Value)} (distinct : (members.map Prod.fst).Nodup)
      (each : ∀ member ∈ members, Exact member.2) : Exact (.mapping (named members))

theorem insert_named {name : String} {v : Value} {members : List (String × Value)}
    (absent : name ∉ members.map Prod.fst) :
    Mapping.insert (.str name) v (named members) = named (members ++ [(name, v)]) := by
  induction members with
  | nil => rfl
  | cons member members ih =>
    rw [List.map_cons, List.mem_cons, not_or] at absent
    have differs : Value.same (.str member.1) (.str name) = false := by
      simp only [Value.same, beq_eq_false_iff_ne]
      exact fun same => absent.1 same.symm
    simp only [named, List.map_cons, List.cons_append, Mapping.insert, differs,
      Bool.false_eq_true, if_false, List.cons.injEq, true_and]
    exact ih absent.2

/-- Distinct names keep their values and their order. -/
theorem ofList_named {members : List (String × Value)} (distinct : (members.map Prod.fst).Nodup) :
    Mapping.ofList (named members) = named members := by
  have merged (done todo : List (String × Value)) (apart : ((done ++ todo).map Prod.fst).Nodup) :
      Mapping.merge (named done) (named todo) = named (done ++ todo) := by
    induction todo generalizing done with
    | nil => rw [List.append_nil]; rfl
    | cons member todo ih =>
      have absent : member.1 ∉ done.map Prod.fst := by
        rw [List.map_append, List.map_cons, List.nodup_append] at apart
        exact fun inside => apart.2.2 _ inside _ List.mem_cons_self rfl
      have regroup : done ++ member :: todo = (done ++ [member]) ++ todo := by simp
      rw [regroup] at apart ⊢
      rw [← ih _ apart, ← insert_named absent]
      rfl
  exact merged [] members distinct

theorem writeItems_pairs {style : Style} {depth : Nat} {items : List Value}
    {parts : List (List Char)} (written : writeItems style depth items = .ok parts) :
    ∃ pairs : List (Value × List Char), items = pairs.map Prod.fst ∧ parts = pairs.map Prod.snd
      ∧ ∀ pair ∈ pairs, write style depth pair.1 = .ok pair.2 := by
  induction items generalizing parts with
  | nil =>
    cases written
    exact ⟨[], rfl, rfl, nofun⟩
  | cons item items ih =>
    obtain ⟨first, here, written⟩ := Fault.bind_eq_ok written
    obtain ⟨others, rest, written⟩ := Fault.bind_eq_ok written
    cases written
    obtain ⟨pairs, rfl, rfl, each⟩ := ih rest
    refine ⟨(item, first) :: pairs, rfl, rfl, fun pair inside => ?_⟩
    rcases List.mem_cons.mp inside with rfl | inside
    · exact here
    · exact each pair inside

/-- The texts of members with the names and values they are of. -/
theorem writeMembers_named {style : Style} {depth : Nat} {members : List (String × Value)}
    {parts : List (Value × List Char)}
    (made : writeMembers style depth (named members) = .ok parts) :
    ∃ written : List (String × Value × List Char),
      (written.map fun member => (member.1, member.2.1)) = members
      ∧ parts.map Prod.snd = written.map (fun member =>
          writeString member.1.toList ++ ':' :: ' ' :: member.2.2)
      ∧ ∀ member ∈ written, write style depth member.2.1 = .ok member.2.2 := by
  induction members generalizing parts with
  | nil =>
    cases made
    exact ⟨[], rfl, rfl, nofun⟩
  | cons member members ih =>
    obtain ⟨name, key, made⟩ := Fault.bind_eq_ok made
    cases key
    obtain ⟨text, here, made⟩ := Fault.bind_eq_ok made
    obtain ⟨others, rest, made⟩ := Fault.bind_eq_ok made
    cases made
    obtain ⟨written, rfl, texts, each⟩ := ih rest
    exact ⟨(member.1, member.2, text) :: written, rfl, congrArg _ texts,
      List.forall_mem_cons.mpr ⟨here, each⟩⟩

theorem bracketed_flat {style : Style} (flat : style.indent = none) (depth : Nat)
    (opening closing : Char) (parts : List (List Char)) :
    bracketed style depth opening closing parts
      = opening :: (joinWith [',', ' '] parts ++ [closing]) := by
  cases parts with
  | nil => rfl
  | cons part parts => simp [bracketed, flat, lineBreak, separator]

theorem written_scalar {v : Value} {c : Char} {tail : List Char}
    (front : isSpace c = false ∧ c ≠ ']' ∧ c ≠ '\x7d')
    (plain : c ≠ '"' ∧ c ≠ '[' ∧ c ≠ '\x7b')
    (reads : ∀ rest, EndsNumber rest → scalar (c :: tail ++ rest) = .ok (v, rest)) :
    Written value v (c :: tail) where
  front := ⟨c, tail, rfl, front⟩
  reads fuel rest enough ends := by
    obtain ⟨fuel, rfl⟩ : ∃ less, fuel = less + 1 :=
      ⟨fuel - 1, by rw [List.length_cons] at enough; omega⟩
    rw [List.cons_append, value_scalar fuel plain.1 plain.2.1 plain.2.2]
    exact reads rest ends

theorem int_written {n : Int} {text : List Char} (written : writeInt n = .ok text) :
    Written value (.int n) text := by
  have reads (rest : List Char) (ends : EndsNumber rest) :
      scalar (text ++ rest) = .ok (.int n, rest) := scalar_int written ends
  have digits := natText_digits n.natAbs
  unfold writeInt at written
  split at written
  · contradiction
  cases written
  unfold Decimal.intText at reads ⊢
  split at reads
  next negative =>
    rw [if_pos negative]
    exact written_scalar (by decide) (by decide) reads
  next positive =>
    rw [if_neg positive]
    cases shape : Decimal.natText n.natAbs with
    | nil => exact absurd shape Nat.toDigits_ne_nil
    | cons c tail =>
      rw [shape] at reads digits
      have digit := digits c List.mem_cons_self
      -- A digit is none of the characters that begin another kind of value or end one.
      have other (d : Char) (mark : isAsciiDigit d = false) : c ≠ d := by
        rintro rfl
        rw [digit] at mark
        contradiction
      have solid : isSpace c = false := by
        simp [isSpace, other ' ' rfl, other '\t' rfl, other '\n' rfl, other '\r' rfl]
      exact written_scalar ⟨solid, other ']' rfl, other '\x7d' rfl⟩
        ⟨other '"' rfl, other '[' rfl, other '\x7b' rfl⟩ reads

theorem str_written (spells : Spells spell) (s : String) :
    Written value (.str s) ('"' :: s.toList.flatMap spell ++ ['"']) where
  front := ⟨'"', _, rfl, by decide, by decide, by decide⟩
  reads fuel rest enough _ := by
    obtain ⟨fuel, rfl⟩ : ∃ less, fuel = less + 1 :=
      ⟨fuel - 1, by simp only [List.length_append, List.length_cons] at enough; omega⟩
    have shape : '"' :: s.toList.flatMap spell ++ ['"'] ++ rest
        = '"' :: (s.toList.flatMap spell ++ '"' :: rest) := by
      simp
    rw [shape, value_quote, stringFrom_spelled spells]
    simp [Except.map, Value.ofString]

theorem list_written {pairs : List (Value × List Char)}
    (each : ∀ pair ∈ pairs, Written value pair.1 pair.2) :
    Written value (.list (pairs.map Prod.fst))
      ('[' :: (joinWith [',', ' '] (pairs.map Prod.snd) ++ [']'])) where
  front := ⟨'[', _, rfl, by decide, by decide, by decide⟩
  reads fuel rest enough _ := by
    rw [List.length_cons, List.length_append, List.length_singleton] at enough
    obtain ⟨fuel, rfl⟩ : ∃ less, fuel = less + 1 := ⟨fuel - 1, by omega⟩
    rw [List.cons_append, List.append_assoc, List.singleton_append, value_list]
    exact bracketed_written elements_succ (.inl rfl) .list each fuel rest (by omega)

theorem mapping_written {pairs : List ((Value × Value) × List Char)}
    (each : ∀ pair ∈ pairs, Written member pair.1 pair.2)
    (distinct : Mapping.ofList (pairs.map Prod.fst) = pairs.map Prod.fst) :
    Written value (.mapping (pairs.map Prod.fst))
      ('\x7b' :: (joinWith [',', ' '] (pairs.map Prod.snd) ++ ['\x7d'])) where
  front := ⟨'\x7b', _, rfl, by decide, by decide, by decide⟩
  reads fuel rest enough _ := by
    rw [List.length_cons, List.length_append, List.length_singleton] at enough
    obtain ⟨fuel, rfl⟩ : ∃ less, fuel = less + 1 := ⟨fuel - 1, by omega⟩
    rw [List.cons_append, List.append_assoc, List.singleton_append, value_mapping]
    have read := bracketed_written members_succ (.inr rfl)
      (fun entries => .mapping (Mapping.ofList entries)) each fuel rest (by omega)
    rw [distinct] at read
    exact read

/-- What is written for a value tells the reader the value and where it ends. -/
theorem written_of_exact {v : Value} (exact : Exact v) : ∀ {depth : Nat} {text : List Char},
    write lenientStyle depth v = .ok text → Written value v text := by
  -- The induction is on the value: a container is read back if its items are.
  induction exact with
  | null =>
    rintro _ _ ⟨⟩
    exact written_scalar (by decide) (by decide) fun _ _ => rfl
  | bool b =>
    rintro _ _ ⟨⟩
    cases b with
    | true => exact written_scalar (by decide) (by decide) fun _ _ => rfl
    | false => exact written_scalar (by decide) (by decide) fun _ _ => rfl
  | int n =>
    intro depth text written
    exact int_written written
  | str s =>
    rintro _ _ ⟨⟩
    exact str_written spells_escapeChar s
  | list each ih =>
    intro depth text written
    obtain ⟨parts, items, rfl⟩ := Fault.map_eq_ok written
    obtain ⟨pairs, rfl, rfl, texts⟩ := writeItems_pairs items
    rw [bracketed_flat rfl]
    exact list_written fun pair inside =>
      ih pair.1 (List.mem_map_of_mem inside) (texts pair inside)
  | mapping distinct each ih =>
    intro depth text written
    obtain ⟨parts, found, written⟩ := Fault.bind_eq_ok written
    obtain ⟨arranged, same, written⟩ := Fault.bind_eq_ok written
    cases same
    cases written
    -- The keys are distinct, so reading them one by one loses none.
    obtain ⟨texts, rfl, same, each⟩ := writeMembers_named found
    have ordered := ofList_named distinct
    simp only [named, List.map_map, Function.comp_def] at ordered
    have read := @mapping_written (texts.map fun member => ((.str member.1, member.2.1),
        writeString member.1.toList ++ ':' :: ' ' :: member.2.2))
      (List.forall_mem_map.mpr fun member inside =>
        member_written spells_escapeChar (ih _ (List.mem_map_of_mem inside) (each member inside)))
      (by simpa only [List.map_map, Function.comp_def] using ordered)
    rw [bracketed_flat rfl, same]
    simpa only [named, List.map_map, Function.comp_def] using read

/-- A value is read back from the text written for it, and nothing else is read. -/
theorem readFront_written {v : Value} {text rest : List Char} (exact : Exact v)
    (written : write lenientStyle 0 v = .ok text) (ends : EndsNumber rest) :
    readFront (text ++ rest) = .ok (v, rest) := by
  refine (written_of_exact exact written).reads _ rest ?_ ends
  rw [List.length_append]
  omega

end StaticSite.Json
