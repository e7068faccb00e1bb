import StaticSite.Proofs.Json.Values
import StaticSite.Proofs.Operation.TextFilters
import StaticSite.Template.Placeholder

/-!
# Values that can be printed

A value has a text in a page, and in the JSON that a page shows, unless somewhere in it stands an
integer that is too long to be written or a key for which JSON has no text. An expression can give
values of both kinds: it computes integers of any length, and takes any value for a key.
-/

namespace StaticSite

/-! ### Results that are there -/

namespace Fault

variable {α β : Type} {result : Except Fault α}

theorem map_isOk_iff {f : α → β} : (∃ b, result.map f = .ok b) ↔ ∃ a, result = .ok a := by
  constructor
  · rintro ⟨b, ended⟩
    obtain ⟨a, first, -⟩ := map_eq_ok ended
    exact ⟨a, first⟩
  · rintro ⟨a, rfl⟩
    exact ⟨f a, rfl⟩

/-- A next step that always has a value. -/
theorem bind_total_isOk_iff {next : α → Except Fault β} (rest : ∀ a, ∃ b, next a = .ok b) :
    (∃ b, result >>= next = .ok b) ↔ ∃ a, result = .ok a := by
  constructor
  · rintro ⟨b, ended⟩
    obtain ⟨a, first, -⟩ := bind_eq_ok ended
    exact ⟨a, first⟩
  · rintro ⟨a, rfl⟩
    exact rest a

/-- A next step that has a value or not, whatever came before it. -/
theorem bind_isOk_iff {next : α → Except Fault β} {fine : Prop}
    (rest : ∀ a, (∃ b, next a = .ok b) ↔ fine) :
    (∃ b, result >>= next = .ok b) ↔ (∃ a, result = .ok a) ∧ fine := by
  constructor
  · rintro ⟨b, ended⟩
    obtain ⟨a, first, behind⟩ := bind_eq_ok ended
    exact ⟨⟨a, first⟩, (rest a).mp ⟨b, behind⟩⟩
  · rintro ⟨⟨a, rfl⟩, ends⟩
    exact (rest a).mpr ends

end Fault

namespace Value

/-- A key that JSON has a text for. -/
inductive IsKey : Value → Prop where
  | null : IsKey .null
  | bool (b : Bool) : IsKey (.bool b)
  | int {n : Int} (short : isShort n = true) : IsKey (.int n)
  | float (x : Float) : IsKey (.float x)
  | str (s : String) : IsKey (.str s)
  | markup (s : String) : IsKey (.markup s)

/-- Neither a sequence nor a mapping. -/
def IsLeaf : Value → Prop
  | .list _ | .tuple _ | .mapping _ => False
  | _ => True

/-- Every integer that is shown is short enough, and every key of a mapping has a text. -/
inductive Printable : Value → Prop where
  | list {items : List Value} (each : ∀ item ∈ items, Printable item) : Printable (.list items)
  | tuple {items : List Value} (each : ∀ item ∈ items, Printable item) : Printable (.tuple items)
  | mapping {entries : List (Value × Value)} (keys : ∀ entry ∈ entries, IsKey entry.1)
      (each : ∀ entry ∈ entries, Printable entry.2) : Printable (.mapping entries)
  | leaf {v : Value} (flat : v.IsLeaf) (shown : v.legible = true) : Printable v

variable {v : Value} {items : List Value} {entries : List (Value × Value)}

theorem printable_list : (Value.list items).Printable ↔ ∀ item ∈ items, item.Printable := by
  refine ⟨fun printable => ?_, .list⟩
  cases printable with
  | list each => exact each
  | leaf flat _ => exact flat.elim

theorem printable_tuple : (Value.tuple items).Printable ↔ ∀ item ∈ items, item.Printable := by
  refine ⟨fun printable => ?_, .tuple⟩
  cases printable with
  | tuple each => exact each
  | leaf flat _ => exact flat.elim

theorem printable_mapping :
    (Value.mapping entries).Printable ↔ ∀ entry ∈ entries, entry.1.IsKey ∧ entry.2.Printable := by
  refine ⟨fun printable entry listed => ?_, fun all =>
    .mapping (fun entry listed => (all entry listed).1) fun entry listed => (all entry listed).2⟩
  cases printable with
  | mapping keys each => exact ⟨keys entry listed, each entry listed⟩
  | leaf flat _ => exact flat.elim

theorem printable_leaf (flat : v.IsLeaf) : v.Printable ↔ v.legible = true := by
  refine ⟨fun printable => ?_, .leaf flat⟩
  cases printable with
  | leaf _ shown => exact shown
  | _ => exact flat.elim

theorem printable_int {n : Int} : (Value.int n).Printable ↔ isShort n = true := by
  have leaf : (Value.int n).IsLeaf := trivial
  rw [printable_leaf leaf, legible]

theorem printed_isOk_iff (flat : v.IsLeaf) : (∃ text, v.printed = .ok text) ↔ v.Printable := by
  rw [printable_leaf flat]
  unfold printed
  split <;> simp [*]

/-- A value of JSON can be printed exactly if all its integers are short enough. -/
theorem IsJson.printable_iff (json : v.IsJson) : v.Printable ↔ v.IsPlain := by
  -- Of the kinds of JSON only an integer has a bound of its own.
  induction json with
  | null => exact ⟨fun _ => .null, fun _ => .leaf trivial rfl⟩
  | bool b => exact ⟨fun _ => .bool b, fun _ => .leaf trivial rfl⟩
  | float x => exact ⟨fun _ => .float x, fun _ => .leaf trivial rfl⟩
  | str s => exact ⟨fun _ => .str s, fun _ => .leaf trivial rfl⟩
  | int n =>
    rw [printable_int, isShort, decide_eq_true_iff]
    refine ⟨.int, fun plain => ?_⟩
    cases plain with
    | int short => exact short
  | list _ ih =>
    rw [printable_list]
    refine ⟨fun each => .list fun item listed => (ih item listed).mp (each item listed), ?_⟩
    intro plain item listed
    cases plain with
    | list each => exact (ih item listed).mpr (each item listed)
  | mapping named _ ih =>
    rw [printable_mapping]
    refine ⟨fun all => .mapping named fun entry listed =>
      (ih entry listed).mp (all entry listed).2, ?_⟩
    intro plain entry listed
    obtain ⟨name, keyed⟩ := named entry listed
    cases plain with
    | mapping _ each => exact ⟨keyed ▸ .str name, (ih entry listed).mpr (each entry listed)⟩

end Value

/-! ### JSON -/

namespace Json

open StaticSite.Value (IsKey Printable)

theorem writeInt_isOk_iff {n : Int} : (∃ text, writeInt n = .ok text) ↔ Value.isShort n = true := by
  rw [Value.isShort, decide_eq_true_iff]
  exact ⟨fun ⟨_, written⟩ => short_of_writeInt written, fun short => ⟨_, writeInt_short short⟩⟩

theorem keyText_isOk_iff {key : Value} : (∃ text, keyText key = .ok text) ↔ key.IsKey := by
  cases key with
  | null => exact ⟨fun _ => .null, fun _ => ⟨_, rfl⟩⟩
  | bool b => exact ⟨fun _ => .bool b, fun _ => ⟨_, rfl⟩⟩
  | float x => exact ⟨fun _ => .float x, fun _ => ⟨_, rfl⟩⟩
  | str s => exact ⟨fun _ => .str s, fun _ => ⟨_, rfl⟩⟩
  | markup s => exact ⟨fun _ => .markup s, fun _ => ⟨_, rfl⟩⟩
  | int n =>
    rw [keyText, writeInt_isOk_iff]
    refine ⟨.int, fun named => ?_⟩
    cases named with
    | int short => exact short
  | _ => exact ⟨nofun, nofun⟩

mutual

/-- The members of a mapping keep their order, so a mapping is written as soon as they are. -/
theorem write_isOk_iff (depth : Nat) :
    (v : Value) → ((∃ text, write lenientStyle depth v = .ok text) ↔ v.Printable)
  | .null | .bool _ | .float _ | .str _ | .markup _ =>
    ⟨fun _ => .leaf trivial rfl, fun _ => ⟨_, by rw [write]⟩⟩
  | .int n => by rw [write, writeInt_isOk_iff, Value.printable_int]
  | .list items => by
    rw [write, Fault.map_isOk_iff, writeItems_isOk_iff (depth + 1) items, Value.printable_list]
  | .tuple items => by
    rw [write, Fault.map_isOk_iff, writeItems_isOk_iff (depth + 1) items, Value.printable_tuple]
  | .mapping entries => by
    rw [write, Fault.bind_total_isOk_iff, writeMembers_isOk_iff (depth + 1) entries,
      Value.printable_mapping]
    exact fun members => ⟨_, rfl⟩
  | .undefined _ | .range .. | .iterator .. | .view .. | .method .. | .global _ | .thing ..
  | .record .. => by
    have lenient : lenientStyle.lenient = true := rfl
    rw [write, if_pos lenient, Fault.map_isOk_iff]
    exact Value.printed_isOk_iff trivial
    all_goals nofun

theorem writeItems_isOk_iff (depth : Nat) : (items : List Value) →
    ((∃ texts, writeItems lenientStyle depth items = .ok texts) ↔ ∀ item ∈ items, item.Printable)
  | [] => ⟨fun _ => nofun, fun _ => ⟨[], by rw [writeItems]⟩⟩
  | item :: rest => by
    rw [writeItems, Fault.bind_isOk_iff, write_isOk_iff depth item, List.forall_mem_cons]
    intro first
    rw [Fault.bind_total_isOk_iff, writeItems_isOk_iff depth rest]
    exact fun others => ⟨_, rfl⟩

theorem writeMembers_isOk_iff (depth : Nat) : (entries : List (Value × Value)) →
    ((∃ members, writeMembers lenientStyle depth entries = .ok members) ↔
      ∀ entry ∈ entries, entry.1.IsKey ∧ entry.2.Printable)
  | [] => ⟨fun _ => nofun, fun _ => ⟨[], by rw [writeMembers]⟩⟩
  | (key, item) :: rest => by
    rw [writeMembers, Fault.bind_isOk_iff, keyText_isOk_iff, List.forall_mem_cons, and_assoc]
    intro name
    rw [Fault.bind_isOk_iff, write_isOk_iff depth item]
    intro text
    rw [Fault.bind_total_isOk_iff, writeMembers_isOk_iff depth rest]
    exact fun others => ⟨_, rfl⟩

end

end Json

/-! ### Pages -/

namespace Template

open StaticSite.Value (Printable)

mutual

/-- A value has a text in a page exactly if it can be printed. -/
theorem stringify_isOk_iff : (v : Value) → ((∃ text, stringify v = .ok text) ↔ v.Printable)
  | .null | .bool _ => ⟨fun _ => .leaf trivial rfl, fun _ => ⟨_, by rw [stringify]⟩⟩
  | .int n => by rw [stringify, Json.writeInt_isOk_iff, Value.printable_int]
  | .list items => by
    rw [stringify, Fault.map_isOk_iff, stringifyItems_isOk_iff items, Value.printable_list]
  | .tuple items => by
    rw [stringify, Fault.map_isOk_iff, stringifyItems_isOk_iff items, Value.printable_tuple]
  | .mapping entries => by rw [stringify, Json.write_isOk_iff]
  | .float _ | .str _ | .markup _ | .undefined _ | .range .. | .iterator .. | .view ..
  | .method .. | .global _ | .thing .. | .record .. => by
    rw [stringify]
    exact Value.printed_isOk_iff trivial
    all_goals nofun

theorem stringifyItems_isOk_iff : (items : List Value) →
    ((∃ texts, stringifyItems items = .ok texts) ↔ ∀ item ∈ items, item.Printable)
  | [] => ⟨fun _ => nofun, fun _ => ⟨[], by rw [stringifyItems]⟩⟩
  | item :: rest => by
    rw [stringifyItems, Fault.bind_isOk_iff, stringify_isOk_iff item, List.forall_mem_cons]
    intro first
    rw [Fault.bind_total_isOk_iff, stringifyItems_isOk_iff rest]
    exact fun others => ⟨_, rfl⟩

end

mutual

/-- A value without a text is refused with a fault that evaluating an expression can end in. -/
theorem stringify_survives (v : Value) : Survives (stringify v) := by
  unfold stringify
  split
  · trivial
  · trivial
  · exact Operation.writeInt_survives _
  · exact (stringifyItems_survives _).map fun _ _ => trivial
  · exact (stringifyItems_survives _).map fun _ _ => trivial
  · exact Operation.write_survives _ 0 _
  · exact Operation.printed_survives _

theorem stringifyItems_survives (items : List Value) : Survives (stringifyItems items) := by
  match items with
  | [] => trivial
  | item :: rest =>
    rw [stringifyItems]
    exact (stringify_survives item).bind fun _ _ =>
      (stringifyItems_survives rest).bind fun _ _ => trivial

end

end Template

end StaticSite
