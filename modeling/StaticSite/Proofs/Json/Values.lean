import Mathlib.Algebra.Group.Nat.Defs
import StaticSite.Json.Writer
import StaticSite.Proofs.Json.Front

/-!
# The values of JSON texts

What the reader gives is plain: it has no other kinds of values than JSON, texts as the keys of its
mappings, and no integer beyond the longest one that is read. Where the reader gives nothing, the
text is not JSON or has a longer integer. Every plain value can be written into a script.
-/

namespace StaticSite

/-- The values of JSON. An integer is short enough to be read. -/
inductive Value.IsPlain : Value → Prop where
  | null : IsPlain .null
  | bool (b : Bool) : IsPlain (.bool b)
  | int {n : Int} (short : (Decimal.natText n.natAbs).length ≤ Number.digitLimit) : IsPlain (.int n)
  | float (x : Float) : IsPlain (.float x)
  | str (s : String) : IsPlain (.str s)
  | list {items : List Value} (each : ∀ item ∈ items, IsPlain item) : IsPlain (.list items)
  | mapping {entries : List (Value × Value)}
      (named : ∀ entry ∈ entries, ∃ name, entry.1 = .str name)
      (each : ∀ entry ∈ entries, IsPlain entry.2) : IsPlain (.mapping entries)

/-- The kinds of values that JSON has, with integers of any length. -/
inductive Value.IsJson : Value → Prop where
  | null : IsJson .null
  | bool (b : Bool) : IsJson (.bool b)
  | int (n : Int) : IsJson (.int n)
  | float (x : Float) : IsJson (.float x)
  | str (s : String) : IsJson (.str s)
  | list {items : List Value} (each : ∀ item ∈ items, IsJson item) : IsJson (.list items)
  | mapping {entries : List (Value × Value)}
      (named : ∀ entry ∈ entries, ∃ name, entry.1 = .str name)
      (each : ∀ entry ∈ entries, IsJson entry.2) : IsJson (.mapping entries)

namespace Mapping

/-- An entry whose key is a text and whose value is plain. -/
def PlainEntry (entry : Value × Value) : Prop :=
  (∃ name, entry.1 = .str name) ∧ entry.2.IsPlain

theorem isPlain_mapping {entries : Entries} :
    (Value.mapping entries).IsPlain ↔ ∀ entry ∈ entries, PlainEntry entry := by
  constructor
  · intro plain entry listed
    cases plain with
    | mapping named each => exact ⟨named entry listed, each entry listed⟩
  · intro plain
    exact .mapping (fun entry listed => (plain entry listed).1) fun entry listed =>
      (plain entry listed).2

theorem insert_plain {key value : Value} {entries : Entries} (new : PlainEntry (key, value))
    (all : ∀ entry ∈ entries, PlainEntry entry) :
    ∀ entry ∈ insert key value entries, PlainEntry entry := by
  induction entries with
  | nil =>
    intro entry listed
    obtain rfl := List.mem_singleton.mp listed
    exact new
  | cons first rest ih =>
    obtain ⟨here, there⟩ := List.forall_mem_cons.mp all
    rw [insert]
    split
    · exact List.forall_mem_cons.mpr ⟨⟨here.1, new.2⟩, there⟩
    · exact List.forall_mem_cons.mpr ⟨here, ih there⟩

theorem merge_plain {entries later : Entries} (all : ∀ entry ∈ entries, PlainEntry entry)
    (new : ∀ entry ∈ later, PlainEntry entry) :
    ∀ entry ∈ merge entries later, PlainEntry entry := by
  induction later generalizing entries with
  | nil => exact all
  | cons first rest ih =>
    obtain ⟨here, there⟩ := List.forall_mem_cons.mp new
    exact ih (insert_plain here all) there

end Mapping

namespace Json

open StaticSite.Text

/-! ### Reading -/

/-- The ways in which reading ends: in something good, in a text that is not JSON, or in an integer
that is too long. -/
inductive Ends {α : Type} (good : α → Prop) : Except Fault α → Prop where
  | ok {a : α} (fits : good a) : Ends good (.ok a)
  | malformed : Ends good (.error .malformedJson)
  | tooLong : Ends good (.error .wrongValue)

namespace Ends

variable {α β : Type} {good : α → Prop} {fine : β → Prop} {result : Except Fault α}

theorem bind {next : α → Except Fault β} (first : Ends good result)
    (rest : ∀ a, good a → Ends fine (next a)) : Ends fine (result.bind next) := by
  cases first with
  | ok fits => exact rest _ fits
  | malformed => exact .malformed
  | tooLong => exact .tooLong

theorem map {f : α → β} (first : Ends good result) (keeps : ∀ a, good a → fine (f a)) :
    Ends fine (result.map f) := by
  cases first with
  | ok fits => exact .ok (keeps _ fits)
  | malformed => exact .malformed
  | tooLong => exact .tooLong

theorem fault_eq {fault : Fault} (ends : Ends good (.error fault)) :
    fault = .malformedJson ∨ fault = .wrongValue := by
  cases ends with
  | malformed => exact .inl rfl
  | tooLong => exact .inr rfl

theorem of_ok {a : α} (ends : Ends good (.ok a)) : good a := by
  cases ends with
  | ok fits => exact fits

end Ends

theorem stringFrom_ends (high : Option Nat) (read s : List Char) :
    Ends (fun _ => True) (stringFrom high read s) := by
  fun_induction stringFrom high read s with
  | case1 | case3 | case10 | case11 => exact .malformed
  | case2 => exact .ok trivial
  | case4 _ _ _ _ _ _ _ _ _ _ ih | case5 _ _ _ _ _ _ _ _ _ _ _ ih | case6 _ _ _ _ _ _ _ _ _ _ _ ih
  | case7 _ _ _ _ _ _ _ _ _ ih | case8 _ _ _ _ _ _ _ _ _ ih | case9 _ _ _ _ _ _ _ ih
  | case12 _ _ _ _ _ _ _ _ ih => exact ih

theorem digit_le {c : Char} (digit : isAsciiDigit c = true) : c.toNat - 48 ≤ 9 := by
  simp only [isAsciiDigit, Bool.and_eq_true, decide_eq_true_eq, Char.le_def] at digit
  have most : c.val.toNat ≤ '9'.val.toNat := digit.2
  exact Nat.sub_le_sub_right most 48

/-- Digits have a value with no more digits than they are. -/
theorem digitsNat_lt {digits : List Char} (run : ∀ c ∈ digits, isAsciiDigit c = true) :
    digitsNat digits < 10 ^ digits.length := by
  have from_value (n : Nat) (digits : List Char) (run : ∀ c ∈ digits, isAsciiDigit c = true) :
      digits.foldl (fun n c => n * 10 + (c.toNat - 48)) n < (n + 1) * 10 ^ digits.length := by
    induction digits generalizing n with
    | nil => simp
    | cons c digits ih =>
      obtain ⟨here, there⟩ := List.forall_mem_cons.mp run
      have small := digit_le here
      calc (c :: digits).foldl (fun n c => n * 10 + (c.toNat - 48)) n
          < (n * 10 + (c.toNat - 48) + 1) * 10 ^ digits.length := ih _ there
        _ ≤ ((n + 1) * 10) * 10 ^ digits.length := Nat.mul_le_mul_right _ (by omega)
        _ = (n + 1) * 10 ^ (c :: digits).length := by
          rw [List.length_cons, Nat.pow_succ', Nat.mul_assoc]
  simpa [digitsNat] using from_value 0 digits run

theorem numberOf_ends (negative : Bool) {whole : List Char} (fraction : Option (List Char))
    (exponent : Option Int) (run : ∀ c ∈ whole, isAsciiDigit c = true) (nonempty : whole ≠ []) :
    Ends Value.IsPlain (numberOf negative whole fraction exponent) := by
  unfold numberOf
  split
  · split
    · exact .tooLong
    next few =>
      have short : (Decimal.natText (digitsNat whole)).length ≤ whole.length :=
        (Nat.length_toDigits_le_iff (by decide) (List.length_pos_iff.mpr nonempty)).mpr
          (digitsNat_lt run)
      refine .ok (.int ?_)
      have size : (if negative then -(digitsNat whole : Int) else digitsNat whole).natAbs
          = digitsNat whole := by
        cases negative <;> simp
      rw [size]
      omega
  · exact .ok (.float _)

theorem numberFrom_ends (negative : Bool) (s : List Char) :
    Ends (fun r => Value.IsPlain r.1) (numberFrom negative s) := by
  rw [numberFrom_eq]
  split
  · exact .malformed
  next nonempty =>
    have digits : (wholeFront s).1 ≠ [] := by
      intro empty
      rw [empty] at nonempty
      exact nonempty rfl
    exact (numberOf_ends negative _ _ (wholeFront_digits s) digits).map fun _ plain => plain

theorem literals_plain : ∀ entry ∈ literals, entry.2.IsPlain := by
  intro entry listed
  simp only [literals, List.mem_cons, List.not_mem_nil, or_false] at listed
  rcases listed with rfl | rfl | rfl | rfl | rfl | rfl
  · exact .null
  · exact .bool _
  · exact .bool _
  all_goals exact .float _

theorem scalar_ends (s : List Char) : Ends (fun r => Value.IsPlain r.1) (scalar s) := by
  unfold scalar
  split
  next found read =>
    obtain ⟨entry, listed, dropped⟩ := List.exists_of_findSome?_eq_some read
    obtain ⟨rest, -, rfl⟩ := Option.map_eq_some_iff.mp dropped
    exact .ok (literals_plain entry listed)
  next =>
    split
    · exact numberFrom_ends true _
    · exact numberFrom_ends false _

/-- How the readers of a given fuel end. -/
structure PlainReads (fuel : Nat) : Prop where
  value : ∀ s, Ends (fun r => Value.IsPlain r.1) (value fuel s)
  elements : ∀ s, Ends (fun r => ∀ item ∈ r.1, Value.IsPlain item) (elements fuel s)
  members : ∀ s, Ends (fun r => ∀ entry ∈ r.1, Mapping.PlainEntry entry) (members fuel s)

theorem itemsFrom_ends {α : Type} {good : α → Prop} (close : Char)
    {more : List Char → Except Fault (List α × List Char)} {item : α} (rest : List Char)
    (here : good item) (others : ∀ s, Ends (fun r => ∀ a ∈ r.1, good a) (more s)) :
    Ends (fun r => ∀ a ∈ r.1, good a) (itemsFrom close more item rest) := by
  unfold itemsFrom
  split
  · exact .ok (List.forall_mem_singleton.mpr here)
  · split
    · exact (others _).map fun r all => List.forall_mem_cons.mpr ⟨here, all⟩
    · exact .malformed

theorem value_ends {fuel : Nat} (inner : PlainReads fuel) (s : List Char) :
    Ends (fun r => Value.IsPlain r.1) (value (fuel + 1) s) := by
  match s with
  | [] => exact scalar_ends []
  | c :: rest =>
    by_cases quote : c = '"'
    · subst quote
      rw [value_quote]
      exact (stringFrom_ends _ _ _).map fun _ _ => .str _
    by_cases bracket : c = '['
    · subst bracket
      rw [value_list]
      split
      · exact .ok (.list nofun)
      · exact (inner.elements _).map fun _ all => .list all
    by_cases brace : c = '\x7b'
    · subst brace
      rw [value_mapping]
      split
      · exact .ok (.mapping nofun nofun)
      · exact (inner.members _).map fun _ all =>
          Mapping.isPlain_mapping.mpr (Mapping.merge_plain nofun all)
    rw [value_scalar fuel quote bracket brace]
    exact scalar_ends _

theorem elements_ends {fuel : Nat} (inner : PlainReads fuel) (s : List Char) :
    Ends (fun r => ∀ item ∈ r.1, Value.IsPlain item) (elements (fuel + 1) s) := by
  rw [elements_succ]
  exact (inner.value s).bind fun _ plain => itemsFrom_ends _ _ plain inner.elements

theorem members_ends {fuel : Nat} (inner : PlainReads fuel) (s : List Char) :
    Ends (fun r => ∀ entry ∈ r.1, Mapping.PlainEntry entry) (members (fuel + 1) s) := by
  by_cases name : ∃ u, s = '"' :: u
  · obtain ⟨u, rfl⟩ := name
    rw [members_name]
    refine (stringFrom_ends _ _ _).bind fun r _ => ?_
    unfold memberFrom
    split
    · refine (inner.value _).bind fun v plain => ?_
      exact itemsFrom_ends _ _ ⟨⟨_, rfl⟩, plain⟩ inner.members
    · exact .malformed
  · rw [members_other fuel fun u same => name ⟨u, same⟩]
    exact .malformed

theorem plainReads (fuel : Nat) : PlainReads fuel := by
  induction fuel with
  | zero => exact ⟨fun _ => .malformed, fun _ => .malformed, fun _ => .malformed⟩
  | succ fuel ih => exact ⟨value_ends ih, elements_ends ih, members_ends ih⟩

/-- A text has a plain value, is no JSON, or has an integer that is too long. -/
theorem read_ends (s : List Char) : Ends Value.IsPlain (read s) := by
  refine ((plainReads _).value (skipSpace s)).bind fun r plain => ?_
  show Ends Value.IsPlain (if (skipSpace r.2).isEmpty then .ok r.1 else .error .malformedJson)
  split
  · exact .ok plain
  · exact .malformed

/-! ### Writing -/

theorem insertSorted_succeeds {α : Type} {before : α → α → Except Fault Bool} {good : α → Prop}
    (decides : ∀ a b, good a → good b → ∃ first, before a b = .ok first) {item : α} {items : List α}
    (new : good item) (all : ∀ a ∈ items, good a) :
    ∃ sorted, Value.insertSorted before item items = .ok sorted ∧ ∀ a ∈ sorted, good a := by
  induction items with
  | nil => exact ⟨[item], rfl, List.forall_mem_singleton.mpr new⟩
  | cons other rest ih =>
    obtain ⟨here, there⟩ := List.forall_mem_cons.mp all
    obtain ⟨first, decided⟩ := decides item other new here
    rw [Value.insertSorted, decided]
    cases first with
    | true => exact ⟨item :: other :: rest, rfl, List.forall_mem_cons.mpr ⟨new, all⟩⟩
    | false =>
      obtain ⟨sorted, inserted, kept⟩ := ih there
      refine ⟨other :: sorted, ?_, List.forall_mem_cons.mpr ⟨here, kept⟩⟩
      rw [inserted]
      rfl

/-- Items of which any two can be compared can be sorted. -/
theorem sortWith_succeeds {α : Type} {before : α → α → Except Fault Bool} (good : α → Prop)
    (decides : ∀ a b, good a → good b → ∃ first, before a b = .ok first) {items : List α}
    (all : ∀ a ∈ items, good a) : ∃ sorted, Value.sortWith before items = .ok sorted := by
  have from_sorted (items done : List α) (all : ∀ a ∈ items, good a) (kept : ∀ a ∈ done, good a) :
      ∃ sorted, items.foldlM (fun sorted item => Value.insertSorted before item sorted) done
        = .ok sorted := by
    induction items generalizing done with
    | nil => exact ⟨done, rfl⟩
    | cons item rest ih =>
      obtain ⟨here, there⟩ := List.forall_mem_cons.mp all
      obtain ⟨next, inserted, kept⟩ := insertSorted_succeeds decides here kept
      rw [List.foldlM_cons, inserted]
      exact ih next there kept
  exact from_sorted items [] all nofun

variable {style : Style}

theorem writeInt_short {n : Int} (short : (Decimal.natText n.natAbs).length ≤ Number.digitLimit) :
    writeInt n = .ok (Decimal.intText n) := by
  rw [writeInt, if_neg (Nat.not_lt.mpr short)]

theorem writeItems_succeeds {depth : Nat} {items : List Value}
    (each : ∀ item ∈ items, ∃ text, write style depth item = .ok text) :
    ∃ texts, writeItems style depth items = .ok texts := by
  induction items with
  | nil => exact ⟨[], by rw [writeItems]⟩
  | cons item rest ih =>
    obtain ⟨⟨text, here⟩, there⟩ := List.forall_mem_cons.mp each
    obtain ⟨texts, others⟩ := ih there
    refine ⟨text :: texts, ?_⟩
    rw [writeItems, here, others]
    rfl

/-- A member that is written keeps its key. -/
theorem writeMembers_succeeds {depth : Nat} {entries : List (Value × Value)}
    (named : ∀ entry ∈ entries, ∃ name, entry.1 = .str name)
    (each : ∀ entry ∈ entries, ∃ text, write style depth entry.2 = .ok text) :
    ∃ members, writeMembers style depth entries = .ok members ∧
      ∀ member ∈ members, ∃ name, member.1 = .str name := by
  induction entries with
  | nil => exact ⟨[], by rw [writeMembers], nofun⟩
  | cons entry rest ih =>
    obtain ⟨key, item⟩ := entry
    obtain ⟨⟨name, keyed⟩, names⟩ := List.forall_mem_cons.mp named
    obtain ⟨⟨text, here⟩, there⟩ := List.forall_mem_cons.mp each
    obtain ⟨members, others, keys⟩ := ih names there
    dsimp only at keyed here
    subst keyed
    refine ⟨(.str name, writeString name.toList ++ ':' :: ' ' :: text) :: members, ?_,
      List.forall_mem_cons.mpr ⟨⟨name, rfl⟩, keys⟩⟩
    rw [writeMembers, keyText, here, others]
    rfl

theorem arrange_succeeds {members : List (Value × List Char)}
    (named : ∀ member ∈ members, ∃ name, member.1 = .str name) :
    ∃ arranged, arrange style members = .ok arranged := by
  unfold arrange
  split
  · -- Texts are compared by their characters, which never fails.
    refine sortWith_succeeds (fun member => ∃ name, member.1 = .str name) ?_ named
    rintro ⟨_, _⟩ ⟨_, _⟩ ⟨name, rfl⟩ ⟨other, rfl⟩
    exact ⟨_, by rw [Value.lessThan, Value.related]⟩
  · exact ⟨members, rfl⟩

theorem write_succeeds {v : Value} (plain : v.IsPlain) (depth : Nat) :
    ∃ text, write style depth v = .ok text := by
  induction plain generalizing depth with
  | null | bool | float | str => exact ⟨_, by rw [write]⟩
  | int short => exact ⟨_, by rw [write, writeInt_short short]⟩
  | list each ih =>
    obtain ⟨texts, written⟩ := writeItems_succeeds fun item listed => ih item listed (depth + 1)
    exact ⟨_, by rw [write, written]; rfl⟩
  | mapping named each ih =>
    obtain ⟨members, written, keys⟩ :=
      writeMembers_succeeds named fun entry listed => ih entry listed (depth + 1)
    obtain ⟨arranged, sorted⟩ : ∃ arranged, arrange style members = .ok arranged :=
      arrange_succeeds keys
    refine ⟨bracketed style depth '\x7b' '\x7d' (arranged.map Prod.snd), ?_⟩
    rw [write, written]
    show (arrange style members).bind _ = _
    rw [sorted]
    rfl

theorem short_of_writeInt {n : Int} {text : List Char} (written : writeInt n = .ok text) :
    (Decimal.natText n.natAbs).length ≤ Number.digitLimit := by
  unfold writeInt at written
  split at written
  · contradiction
  next few => exact Nat.not_lt.mp few

/-- A plain value can be written into a script. -/
theorem scriptLiteral_succeeds {v : Value} (plain : v.IsPlain) :
    ∃ text, scriptLiteral v = .ok text := by
  obtain ⟨text, written⟩ : ∃ text, write (scriptStyle none) 0 v = .ok text :=
    write_succeeds plain 0
  exact ⟨escapeForScript text, by rw [scriptLiteral, written]; rfl⟩

end Json

end StaticSite
