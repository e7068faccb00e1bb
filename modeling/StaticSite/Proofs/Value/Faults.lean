import StaticSite.Proofs.Catching
import StaticSite.Value.Mapping
import StaticSite.Proofs.Json.Values

/-!
# Faults that values hold back

An iterator keeps the fault that its elements end in, so a fault can travel inside a value and show
much later. A value is tame if all that it can show are faults of evaluation. Values of JSON hold
back nothing.
-/

namespace StaticSite

namespace Value

mutual

/-- Every fault that a value holds back, at any depth, is one of evaluation. -/
def Tame : Value → Prop
  | .list items | .tuple items => ItemsTame items
  | .mapping entries | .view _ entries => EntriesTame entries
  | .iterator _ items fault => ItemsTame items ∧ ∀ f ∈ fault, f.isEvaluation = true
  | .method receiver _ => Tame receiver
  | .record _ parts => PartsTame parts
  | _ => True

def ItemsTame : List Value → Prop
  | [] => True
  | item :: items => Tame item ∧ ItemsTame items

def EntriesTame : List (Value × Value) → Prop
  | [] => True
  | (key, value) :: entries => Tame key ∧ Tame value ∧ EntriesTame entries

def PartsTame : List (String × Value) → Prop
  | [] => True
  | (_, value) :: parts => Tame value ∧ PartsTame parts

end

@[simp] theorem itemsTame_iff {items : List Value} :
    ItemsTame items ↔ ∀ item ∈ items, item.Tame := by
  induction items with
  | nil => simp [ItemsTame]
  | cons item items ih => simp [ItemsTame, ih]

@[simp] theorem entriesTame_iff {entries : List (Value × Value)} :
    EntriesTame entries ↔ ∀ entry ∈ entries, entry.1.Tame ∧ entry.2.Tame := by
  induction entries with
  | nil => simp [EntriesTame]
  | cons entry entries ih => simp [EntriesTame, ih, and_assoc]

@[simp] theorem partsTame_iff {parts : List (String × Value)} :
    PartsTame parts ↔ ∀ part ∈ parts, part.2.Tame := by
  induction parts with
  | nil => simp [PartsTame]
  | cons part parts ih => simp [PartsTame, ih]

theorem IsJson.tame {v : Value} (json : v.IsJson) : v.Tame := by
  induction json with
  | null | bool | int | float | str => trivial
  | list _ ih => exact itemsTame_iff.mpr ih
  | mapping named _ ih =>
    refine entriesTame_iff.mpr fun entry listed => ⟨?_, ih entry listed⟩
    obtain ⟨name, key⟩ := named entry listed
    rw [key]
    trivial

theorem isEvaluation_undefinedFault (forbidden : Bool) :
    (undefinedFault forbidden).isEvaluation = true := by
  cases forbidden <;> rfl

theorem viewItems_tame (part : ViewPart) {entries : List (Value × Value)}
    (tame : ∀ entry ∈ entries, entry.1.Tame ∧ entry.2.Tame) :
    ∀ item ∈ viewItems part entries, item.Tame := by
  cases part with
  | keys => simpa [viewItems] using fun a b listed => (tame (a, b) listed).1
  | values => simpa [viewItems] using fun a b listed => (tame (b, a) listed).2
  | items =>
    rintro item listed
    obtain ⟨entry, there, rfl⟩ := List.mem_map.mp listed
    simpa [Tame] using tame entry there

theorem rangeItems_tame (start stop step : Int) : ∀ item ∈ rangeItems start stop step, item.Tame := by
  simp [rangeItems, Tame]

end Value

/-! ### Mappings -/

namespace Mapping

/-- Whether all that a mapping holds is tame. -/
abbrev Tame (entries : Entries) : Prop := ∀ entry ∈ entries, entry.1.Tame ∧ entry.2.Tame

theorem lookup?_tame {entries : Entries} {key v : Value} (tame : Tame entries)
    (found : lookup? key entries = some v) : v.Tame := by
  simp only [lookup?, Option.map_eq_some_iff] at found
  obtain ⟨entry, first, rfl⟩ := found
  exact (tame entry (List.mem_of_find?_eq_some first)).2

theorem insert_tame {entries : Entries} {key v : Value} (all : Tame entries)
    (new : key.Tame ∧ v.Tame) : Tame (insert key v entries) := by
  induction entries with
  | nil => exact List.forall_mem_singleton.mpr new
  | cons entry rest ih =>
    obtain ⟨here, there⟩ := List.forall_mem_cons.mp all
    rw [insert]
    split
    · exact List.forall_mem_cons.mpr ⟨⟨here.1, new.2⟩, there⟩
    · exact List.forall_mem_cons.mpr ⟨here, ih there⟩

theorem ofList_tame {entries : Entries} (all : Tame entries) : Tame (ofList entries) := by
  have merged (start later : Entries) (first : Tame start) (new : Tame later) :
      Tame (merge start later) := by
    induction later generalizing start with
    | nil => exact first
    | cons entry later ih =>
      obtain ⟨here, there⟩ := List.forall_mem_cons.mp new
      exact ih (insert entry.1 entry.2 start) (insert_tame first here) there
  exact merged [] entries (List.forall_mem_nil _) all

end Mapping

end StaticSite
