import StaticSite.Proofs.Text.Renumbering
import StaticSite.Proofs.Value.Legible
import StaticSite.Template.Placeholder

/-!
# Characters of printed values

What is printed of a value holds a percent sign only if a text in the value does: brackets, commas,
numbers and escapes have none of their own. The recursion follows the printers, one case for each
kind of value.
-/

namespace StaticSite

open StaticSite.Text

namespace Value

mutual

/-- No text in a value holds a percent sign. -/
def PercentFree : Value → Prop
  | .null | .bool _ | .int _ | .float _ | .undefined _ | .range .. => True
  | .str s | .markup s | .global s => '%' ∉ s.toList
  | .list items | .tuple items => ItemsPercentFree items
  | .mapping entries | .view _ entries => EntriesPercentFree entries
  | .iterator typeName items _ => '%' ∉ typeName.toList ∧ ItemsPercentFree items
  | .method receiver name => PercentFree receiver ∧ '%' ∉ name.toList
  | .thing _ text quoted => '%' ∉ text.toList ∧ '%' ∉ quoted.toList
  | .record typeName parts => '%' ∉ typeName.toList ∧ PartsPercentFree parts

def ItemsPercentFree : List Value → Prop
  | [] => True
  | item :: items => PercentFree item ∧ ItemsPercentFree items

def EntriesPercentFree : List (Value × Value) → Prop
  | [] => True
  | (key, value) :: entries => PercentFree key ∧ PercentFree value ∧ EntriesPercentFree entries

def PartsPercentFree : List (String × Value) → Prop
  | [] => True
  | (name, value) :: parts => '%' ∉ name.toList ∧ PercentFree value ∧ PartsPercentFree parts

end

theorem itemsPercentFree_iff {items : List Value} :
    ItemsPercentFree items ↔ ∀ item ∈ items, item.PercentFree := by
  induction items with
  | nil => simp [ItemsPercentFree]
  | cons item items ih => simp [ItemsPercentFree, ih]

theorem entriesPercentFree_iff {entries : List (Value × Value)} :
    EntriesPercentFree entries ↔ ∀ entry ∈ entries, entry.1.PercentFree ∧ entry.2.PercentFree := by
  induction entries with
  | nil => simp [EntriesPercentFree]
  | cons entry entries ih => simp [EntriesPercentFree, ih, and_assoc]

end Value

/-! ### Numbers -/

namespace Decimal

theorem percent_notMem_natText (n : Nat) : '%' ∉ natText n := by
  intro inside
  have digit := natText_digits n '%' inside
  contradiction

theorem percent_notMem_intText (n : Int) : '%' ∉ intText n := by
  unfold intText
  split
  · simpa using percent_notMem_natText n.natAbs
  · exact percent_notMem_natText n.natAbs

theorem percent_notMem_exponentText (e : Int) : '%' ∉ exponentText e := by
  have digits := percent_notMem_natText e.natAbs
  have sign : '%' ≠ if e < 0 then '-' else '+' := by split <;> decide
  have padded : '%' ∉ if (natText e.natAbs).length < 2 then '0' :: natText e.natAbs
      else natText e.natAbs := by
    split
    · simpa using digits
    · exact digits
  rw [exponentText, List.mem_cons, not_or]
  exact ⟨sign, padded⟩

theorem percent_notMem_positional {digits : List Char} (place : Int) (plain : '%' ∉ digits) :
    '%' ∉ positional digits place := by
  have zeros (n : Nat) : '%' ∉ List.replicate n '0' := by simp
  unfold positional
  split
  · simp [plain]
  split
  · simp [plain]
  · have taken (n : Nat) : '%' ∉ digits.take n := fun inside =>
      plain (List.mem_of_mem_take inside)
    have dropped (n : Nat) : '%' ∉ digits.drop n := fun inside =>
      plain (List.mem_of_mem_drop inside)
    simp [taken, dropped]

theorem percent_notMem_scientific {digits : List Char} (place : Int) (plain : '%' ∉ digits) :
    '%' ∉ scientific digits place := by
  have exponent := percent_notMem_exponentText (place - 1)
  unfold scientific
  split <;> simp_all

theorem percent_notMem_floatText (x : Float) : '%' ∉ floatText x := by
  have digits (n : Nat) : '%' ∉ stripZeros (natText n) := by
    intro inside
    have kept := List.mem_reverse.mp inside
    exact percent_notMem_natText n (List.mem_reverse.mp ((List.dropWhile_sublist _).mem kept))
  have positive (y : Float) : '%' ∉ positiveText y := by
    unfold positiveText
    simp only
    split
    · exact percent_notMem_positional _ (digits _)
    · exact percent_notMem_scientific _ (digits _)
  unfold floatText
  split
  · decide
  · split <;> decide
  · split <;> split <;> simp [positive]

end Decimal

/-! ### Texts in quotes -/

namespace Text

theorem percent_notMem_hex (width n : Nat) : '%' ∉ hex width n := by
  have digit : ∀ d < 16, '%' ≠ hexDigit d := by decide
  induction width generalizing n with
  | zero => nofun
  | succ width ih =>
    rw [hex, List.mem_append, not_or]
    have last : '%' ∉ [hexDigit (n % 16)] := fun inside =>
      digit (n % 16) (Nat.mod_lt _ (by decide)) (List.mem_singleton.mp inside)
    exact ⟨ih _, last⟩

theorem percent_notMem_flatMap {s : List Char} {escape : Char → List Char} (plain : '%' ∉ s)
    (escapes : ∀ c, c ≠ '%' → '%' ∉ escape c) : '%' ∉ s.flatMap escape := by
  intro inside
  obtain ⟨c, listed, inside⟩ := List.mem_flatMap.mp inside
  exact escapes c (fun same => plain (same ▸ listed)) inside

theorem percent_notMem_joinWith {mark : List Char} {parts : List (List Char)} (apart : '%' ∉ mark)
    (plain : ∀ part ∈ parts, '%' ∉ part) : '%' ∉ joinWith mark parts := by
  induction parts with
  | nil => nofun
  | cons part parts ih =>
    have first := plain part List.mem_cons_self
    have rest := ih fun other listed => plain other (List.mem_cons_of_mem part listed)
    cases parts with
    | nil => exact first
    | cons next parts =>
      have shape : joinWith mark (part :: next :: parts)
          = part ++ mark ++ joinWith mark (next :: parts) := rfl
      simp [shape, first, apart, rest]

theorem percent_notMem_quoted {s : List Char} (plain : '%' ∉ s) : '%' ∉ quoted s := by
  have quote : '%' ≠ quoteFor s := by
    unfold quoteFor
    split <;> decide
  have escapes (c : Char) (differs : c ≠ '%') : '%' ∉ quotedChar (quoteFor s) c := by
    have hexes := percent_notMem_hex
    unfold quotedChar numberEscape
    repeat' split
    all_goals simp [differs.symm, hexes]
  simp [quoted, quote, percent_notMem_flatMap plain escapes]

end Text

namespace Json

theorem percent_notMem_writeString {s : List Char} (plain : '%' ∉ s) : '%' ∉ writeString s := by
  have escapes (c : Char) (differs : c ≠ '%') : '%' ∉ escapeChar c := by
    have hexes := percent_notMem_hex
    unfold escapeChar escapeUnit
    repeat' split
    all_goals simp [differs.symm, hexes]
  simp [writeString, percent_notMem_flatMap plain escapes]

end Json

/-! ### Values in brackets -/

namespace Value

theorem percent_notMem_commaSeparated {words : List (List Char)}
    (plain : ∀ word ∈ words, '%' ∉ word) : '%' ∉ commaSeparated words := by
  unfold commaSeparated
  induction words with
  | nil => nofun
  | cons word words ih =>
    have first := plain word List.mem_cons_self
    have rest := ih fun other listed => plain other (List.mem_cons_of_mem word listed)
    cases words with
    | nil => exact first
    | cons next words =>
      have shape : commaSeparated.joinWords (word :: next :: words)
          = word ++ ',' :: ' ' :: commaSeparated.joinWords (next :: words) := rfl
      simp [shape, first, rest]

theorem percent_notMem_enclosed {opening closing : String} {words : List (List Char)}
    (plain : ∀ word ∈ words, '%' ∉ word)
    (brackets : '%' ∉ opening.toList ∧ '%' ∉ closing.toList) :
    '%' ∉ enclosed opening words closing := by
  simp [enclosed, brackets, percent_notMem_commaSeparated plain]

theorem percent_notMem_enclosedTuple {words : List (List Char)}
    (plain : ∀ word ∈ words, '%' ∉ word) : '%' ∉ enclosedTuple words := by
  unfold enclosedTuple
  split
  next word => simpa using plain word List.mem_cons_self
  next => exact percent_notMem_enclosed plain (by decide)

theorem percent_notMem_rangeText (start stop step : Int) : '%' ∉ rangeText start stop step := by
  refine percent_notMem_enclosed (fun word listed => ?_) (by decide)
  obtain ⟨n, -, rfl⟩ := List.mem_map.mp listed
  exact Decimal.percent_notMem_intText n

mutual

theorem percent_notMem_quoted : (v : Value) → v.PercentFree → '%' ∉ v.quoted
  | .null, _ => by decide
  | .bool b, _ => by cases b <;> decide
  | .int n, _ => Decimal.percent_notMem_intText n
  | .float x, _ => Decimal.percent_notMem_floatText x
  | .str s, free => Text.percent_notMem_quoted free
  | .list items, free => percent_notMem_enclosed (percent_notMem_quotedItems items free) (by decide)
  | .tuple items, free => percent_notMem_enclosedTuple (percent_notMem_quotedItems items free)
  | .mapping entries, free =>
    percent_notMem_enclosed (percent_notMem_quotedEntries entries free) (by decide)
  | .markup s, free => by
    have text : '%' ∉ s.toList := free
    have inner := Text.percent_notMem_quoted text
    show '%' ∉ "Markup(".toList ++ Text.quoted s.toList ++ [')']
    simp [inner]
  | .undefined _, _ => by
    show '%' ∉ "Undefined".toList
    decide
  | .range start stop step, _ => percent_notMem_rangeText start stop step
  | .iterator typeName items _, free => by
    have name := free.1
    show '%' ∉ "<".toList ++ typeName.toList ++ " object>".toList
    simp [name]
  | .view .keys entries, free =>
    percent_notMem_enclosed (percent_notMem_quotedKeys entries free) (by decide)
  | .view .values entries, free =>
    percent_notMem_enclosed (percent_notMem_quotedValues entries free) (by decide)
  | .view .items entries, free =>
    percent_notMem_enclosed (percent_notMem_quotedPairs entries free) (by decide)
  | .method _ name, free => by
    have inner := free.2
    show '%' ∉ "<built-in method ".toList ++ name.toList ++ ">".toList
    simp [inner]
  | .global name, free => by
    have inner : '%' ∉ name.toList := free
    show '%' ∉ "<".toList ++ name.toList ++ ">".toList
    simp [inner]
  | .thing _ _ shown, free => free.2
  | .record typeName parts, free => by
    have name := free.1
    have inner := percent_notMem_enclosed (percent_notMem_quotedParts parts free.2)
      (by decide : '%' ∉ " \x7b".toList ∧ '%' ∉ "\x7d>".toList)
    show '%' ∉ '<' :: typeName.toList ++ enclosed " \x7b" (quotedParts parts) "\x7d>"
    simp [name, inner]

theorem percent_notMem_quotedItems : (items : List Value) → ItemsPercentFree items →
    ∀ word ∈ quotedItems items, '%' ∉ word
  | [], _ => nofun
  | item :: items, free => by
    rw [quotedItems, List.forall_mem_cons]
    exact ⟨percent_notMem_quoted item free.1, percent_notMem_quotedItems items free.2⟩

theorem percent_notMem_quotedEntries : (entries : List (Value × Value)) →
    EntriesPercentFree entries → ∀ word ∈ quotedEntries entries, '%' ∉ word
  | [], _ => nofun
  | (key, value) :: entries, free => by
    have name := percent_notMem_quoted key free.1
    have item := percent_notMem_quoted value free.2.1
    rw [quotedEntries, List.forall_mem_cons]
    exact ⟨by simp [name, item], percent_notMem_quotedEntries entries free.2.2⟩

theorem percent_notMem_quotedParts : (parts : List (String × Value)) → PartsPercentFree parts →
    ∀ word ∈ quotedParts parts, '%' ∉ word
  | [], _ => nofun
  | (name, value) :: parts, free => by
    have named := Text.percent_notMem_quoted free.1
    have item := percent_notMem_quoted value free.2.1
    rw [quotedParts, List.forall_mem_cons]
    exact ⟨by simp [named, item], percent_notMem_quotedParts parts free.2.2⟩

theorem percent_notMem_quotedKeys : (entries : List (Value × Value)) →
    EntriesPercentFree entries → ∀ word ∈ quotedKeys entries, '%' ∉ word
  | [], _ => nofun
  | (key, _) :: entries, free => by
    rw [quotedKeys, List.forall_mem_cons]
    exact ⟨percent_notMem_quoted key free.1, percent_notMem_quotedKeys entries free.2.2⟩

theorem percent_notMem_quotedValues : (entries : List (Value × Value)) →
    EntriesPercentFree entries → ∀ word ∈ quotedValues entries, '%' ∉ word
  | [], _ => nofun
  | (_, value) :: entries, free => by
    rw [quotedValues, List.forall_mem_cons]
    exact ⟨percent_notMem_quoted value free.2.1, percent_notMem_quotedValues entries free.2.2⟩

theorem percent_notMem_quotedPairs : (entries : List (Value × Value)) →
    EntriesPercentFree entries → ∀ word ∈ quotedPairs entries, '%' ∉ word
  | [], _ => nofun
  | (key, value) :: entries, free => by
    have pair : ∀ word ∈ [quoted key, quoted value], '%' ∉ word := by
      rw [List.forall_mem_cons, List.forall_mem_singleton]
      exact ⟨percent_notMem_quoted key free.1, percent_notMem_quoted value free.2.1⟩
    rw [quotedPairs, List.forall_mem_cons]
    exact ⟨percent_notMem_enclosedTuple pair, percent_notMem_quotedPairs entries free.2.2⟩

end

theorem percent_notMem_plain {v : Value} (free : v.PercentFree) : '%' ∉ v.plain := by
  cases v with
  | str | markup => exact free
  | undefined => nofun
  | thing => exact free.1
  | _ => exact percent_notMem_quoted _ free

theorem percent_notMem_printed {v : Value} {text : List Char} (free : v.PercentFree)
    (written : v.printed = .ok text) : '%' ∉ text := by
  obtain ⟨-, rfl⟩ := printed_eq_ok_iff.mp written
  exact percent_notMem_plain free

end Value

/-! ### JSON -/

namespace Json

theorem percent_notMem_writeFloat (x : Float) : '%' ∉ writeFloat x := by
  unfold writeFloat
  split
  · decide
  · split <;> decide
  · exact Decimal.percent_notMem_floatText x

theorem percent_notMem_writeInt {n : Int} {text : List Char} (written : writeInt n = .ok text) :
    '%' ∉ text := by
  unfold writeInt at written
  split at written
  · contradiction
  · cases written
    exact Decimal.percent_notMem_intText n

theorem percent_notMem_keyText {key : Value} {text : List Char} (free : key.PercentFree)
    (written : keyText key = .ok text) : '%' ∉ text := by
  cases key with
  | int n => exact percent_notMem_writeInt written
  | bool b => cases b <;> cases written <;> decide
  | null =>
    cases written
    decide
  | float x =>
    cases written
    exact percent_notMem_writeFloat x
  | str s | markup s =>
    cases written
    exact free
  | _ => contradiction

theorem percent_notMem_written {v : Value} {text : List Char} (free : v.PercentFree)
    (written : v.printed.map writeString = .ok text) : '%' ∉ text := by
  obtain ⟨shown, printed, rfl⟩ := Fault.map_eq_ok written
  exact percent_notMem_writeString (Value.percent_notMem_printed free printed)

theorem percent_notMem_bracketed {opening closing : Char} {parts : List (List Char)} (depth : Nat)
    (plain : ∀ part ∈ parts, '%' ∉ part) (brackets : '%' ≠ opening ∧ '%' ≠ closing) :
    '%' ∉ bracketed lenientStyle depth opening closing parts := by
  have inner : '%' ∉ joinWith (separator lenientStyle (depth + 1)) parts :=
    Text.percent_notMem_joinWith (by simp [separator, lenientStyle]) plain
  unfold bracketed
  split
  · simp [brackets]
  · simp [lineBreak, lenientStyle] at inner ⊢
    simp [brackets, inner]

mutual

theorem percent_notMem_write : (v : Value) → v.PercentFree → ∀ {depth : Nat} {text : List Char},
    write lenientStyle depth v = .ok text → '%' ∉ text
  | .null, _, _, _, .refl _ => by decide
  | .bool b, _, _, _, written => by
    cases b <;> cases written <;> decide
  | .int n, _, _, _, written => percent_notMem_writeInt written
  | .float x, _, _, _, .refl _ => percent_notMem_writeFloat x
  | .str s, free, _, _, .refl _ | .markup s, free, _, _, .refl _ => percent_notMem_writeString free
  | .list items, free, depth, _, written | .tuple items, free, depth, _, written => by
    rw [write] at written
    obtain ⟨parts, each, rfl⟩ := Fault.map_eq_ok written
    exact percent_notMem_bracketed depth (percent_notMem_writeItems items free each) (by decide)
  | .mapping entries, free, depth, _, written => by
    rw [write] at written
    obtain ⟨members, each, written⟩ := Fault.bind_eq_ok written
    obtain ⟨arranged, same, written⟩ := Fault.bind_eq_ok written
    cases same
    cases written
    refine percent_notMem_bracketed depth (fun part listed => ?_) (by decide)
    obtain ⟨member, inside, rfl⟩ := List.mem_map.mp listed
    exact percent_notMem_writeMembers entries free each member inside
  | .undefined _, free, _, _, written | .range .., free, _, _, written
  | .iterator .., free, _, _, written | .view .., free, _, _, written
  | .method .., free, _, _, written | .global .., free, _, _, written
  | .thing .., free, _, _, written | .record .., free, _, _, written =>
    percent_notMem_written free written

theorem percent_notMem_writeItems : (items : List Value) → Value.ItemsPercentFree items →
    ∀ {depth : Nat} {parts : List (List Char)}, writeItems lenientStyle depth items = .ok parts →
      ∀ part ∈ parts, '%' ∉ part
  | [], _, _, _, .refl _ => nofun
  | item :: items, free, _, _, written => by
    rw [writeItems] at written
    obtain ⟨first, here, written⟩ := Fault.bind_eq_ok written
    obtain ⟨rest, each, written⟩ := Fault.bind_eq_ok written
    cases written
    rw [List.forall_mem_cons]
    exact ⟨percent_notMem_write item free.1 here, percent_notMem_writeItems items free.2 each⟩

theorem percent_notMem_writeMembers : (entries : List (Value × Value)) →
    Value.EntriesPercentFree entries → ∀ {depth : Nat} {members : List (Value × List Char)},
      writeMembers lenientStyle depth entries = .ok members → ∀ member ∈ members, '%' ∉ member.2
  | [], _, _, _, .refl _ => nofun
  | (key, item) :: entries, free, _, _, written => by
    rw [writeMembers] at written
    obtain ⟨name, named, written⟩ := Fault.bind_eq_ok written
    obtain ⟨text, here, written⟩ := Fault.bind_eq_ok written
    obtain ⟨rest, each, written⟩ := Fault.bind_eq_ok written
    cases written
    have label := percent_notMem_writeString (percent_notMem_keyText free.1 named)
    have inner := percent_notMem_write item free.2.1 here
    rw [List.forall_mem_cons]
    exact ⟨by simp [label, inner], percent_notMem_writeMembers entries free.2.2 each⟩

end

end Json

/-! ### Placeholders -/

namespace Template

mutual

theorem percent_notMem_stringify : (v : Value) → v.PercentFree → ∀ {text : List Char},
    stringify v = .ok text → '%' ∉ text
  | .null, _, _, .refl _ => nofun
  | .bool b, _, _, printed => by
    cases b <;> cases printed <;> decide
  | .int _, _, _, printed => Json.percent_notMem_writeInt printed
  | .list items, free, _, printed | .tuple items, free, _, printed => by
    rw [stringify] at printed
    obtain ⟨parts, each, rfl⟩ := Fault.map_eq_ok printed
    exact Text.percent_notMem_joinWith (by decide) (percent_notMem_stringifyItems items free each)
  | .mapping _, free, _, printed => Json.percent_notMem_write _ free printed
  | .float _, free, _, printed | .str _, free, _, printed | .markup _, free, _, printed
  | .undefined _, free, _, printed | .range .., free, _, printed | .iterator .., free, _, printed
  | .view .., free, _, printed | .method .., free, _, printed | .global .., free, _, printed
  | .thing .., free, _, printed | .record .., free, _, printed =>
    Value.percent_notMem_printed free printed

theorem percent_notMem_stringifyItems : (items : List Value) → Value.ItemsPercentFree items →
    ∀ {parts : List (List Char)}, stringifyItems items = .ok parts → ∀ part ∈ parts, '%' ∉ part
  | [], _, _, .refl _ => nofun
  | item :: items, free, _, printed => by
    rw [stringifyItems] at printed
    obtain ⟨first, here, printed⟩ := Fault.bind_eq_ok printed
    obtain ⟨rest, each, printed⟩ := Fault.bind_eq_ok printed
    cases printed
    rw [List.forall_mem_cons]
    exact ⟨percent_notMem_stringify item free.1 here,
      percent_notMem_stringifyItems items free.2 each⟩

end

end Template

end StaticSite
