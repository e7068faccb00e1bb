import Mathlib.Data.List.Induction
import Mathlib.Data.List.Nodup
import StaticSite.Value.Mapping

/-!
# Names in merged mappings

A mapping that is merged over another one hides its names and no others, provided that each name is
a key of it once. Merging keeps that so.
-/

namespace StaticSite

namespace Value

/-- A text is the same key as the texts with its characters, and as nothing else. -/
theorem same_str (key : Value) (name : String) :
    same key (.str name) = true ↔ key.text? = some name := by
  cases key <;> simp [same, numeral?, text?]

theorem text?_of_same {first second : Value} (alike : same first second = true) :
    first.text? = second.text? := by
  cases first <;> cases second <;> simp_all [same, numeral?, text?]

theorem same_of_text? {first second : Value} {name : String} (one : first.text? = some name)
    (other : second.text? = some name) : same first second = true := by
  cases first <;> cases second <;> simp_all [same, text?]

end Value

namespace Mapping

variable {entries later : Entries} {name : String}

/-- The names among the keys of a mapping. -/
def names (entries : Entries) : List String := entries.filterMap fun entry => entry.1.text?

theorem mem_names_cons {entry : Value × Value} :
    name ∈ names (entry :: entries) ↔ entry.1.text? = some name ∨ name ∈ names entries := by
  cases named : entry.1.text? with
  | none => simp [names, named]
  | some other => simp [names, named, eq_comm]

theorem nodup_names_cons {entry : Value × Value} : (names (entry :: entries)).Nodup ↔
    (∀ name, entry.1.text? = some name → name ∉ names entries) ∧ (names entries).Nodup := by
  cases named : entry.1.text? with
  | none => simp [names, named]
  | some name => simp [names, named]

theorem get?_cons (entry : Value × Value) (rest : Entries) :
    get? name (entry :: rest)
      = if entry.1.text? = some name then some entry.2 else get? name rest := by
  rw [get?, lookup?, List.find?_cons]
  by_cases named : entry.1.text? = some name
  · rw [if_pos named, (Value.same_str _ _).mpr named]
    rfl
  · rw [if_neg named, Bool.eq_false_iff.mpr fun same => named ((Value.same_str _ _).mp same)]
    rfl

theorem mem_of_get? {value : Value} (found : get? name entries = some value) :
    ∃ key, (key, value) ∈ entries := by
  obtain ⟨⟨key, item⟩, first, same⟩ := Option.map_eq_some_iff.mp found
  cases same
  exact ⟨key, List.mem_of_find?_eq_some first⟩

theorem get?_eq_none (absent : name ∉ names entries) : get? name entries = none := by
  induction entries with
  | nil => rfl
  | cons entry rest ih =>
    rw [mem_names_cons, not_or] at absent
    rw [get?_cons, if_neg absent.1]
    exact ih absent.2

theorem get?_insert (key value : Value) (entries : Entries) :
    get? name (insert key value entries)
      = if key.text? = some name then some value else get? name entries := by
  induction entries with
  | nil => exact get?_cons (key, value) []
  | cons entry rest ih =>
    rw [insert]
    split
    next alike =>
      rw [get?_cons, get?_cons, Value.text?_of_same alike]
      split <;> rfl
    next differs =>
      rw [get?_cons, get?_cons, ih]
      -- Keys that differ do not have one name.
      by_cases named : key.text? = some name
      · have other : entry.1.text? ≠ some name := fun here =>
          differs (Value.same_of_text? here named)
        rw [if_neg other, if_pos named, if_pos named]
      · rw [if_neg named, if_neg named]

theorem mem_names_insert {key value : Value}
    (inside : name ∈ names (insert key value entries)) :
    name ∈ names entries ∨ key.text? = some name := by
  induction entries with
  | nil => exact (mem_names_cons.mp inside).symm
  | cons entry rest ih =>
    rw [insert] at inside
    split at inside
    next => exact .inl inside
    next =>
      rw [mem_names_cons] at inside ⊢
      rcases inside with here | there
      · exact .inl (.inl here)
      · exact (ih there).imp_left .inr

theorem nodup_names_insert (key value : Value) (distinct : (names entries).Nodup) :
    (names (insert key value entries)).Nodup := by
  induction entries with
  | nil => exact nodup_names_cons.mpr ⟨fun _ _ => List.not_mem_nil, List.nodup_nil⟩
  | cons entry rest ih =>
    rw [insert]
    split
    next => exact distinct
    next differs =>
      obtain ⟨apart, others⟩ := nodup_names_cons.mp distinct
      refine nodup_names_cons.mpr ⟨fun name here inside => ?_, ih others⟩
      rcases mem_names_insert inside with there | named
      · exact apart name here there
      · exact differs (Value.same_of_text? here named)

theorem nodup_names_merge (later : Entries) (distinct : (names entries).Nodup) :
    (names (merge entries later)).Nodup := by
  induction later generalizing entries with
  | nil => exact distinct
  | cons entry later ih => exact ih (nodup_names_insert entry.1 entry.2 distinct)

/-- What is merged over a mapping comes first. -/
theorem get?_merge (distinct : (names later).Nodup) :
    get? name (merge entries later) = (get? name later).or (get? name entries) := by
  induction later generalizing entries with
  | nil => rfl
  | cons entry later ih =>
    obtain ⟨apart, others⟩ := nodup_names_cons.mp distinct
    have step : merge entries (entry :: later) = merge (insert entry.1 entry.2 entries) later := rfl
    rw [step, ih others, get?_insert, get?_cons]
    -- The name of the first entry is not among the later ones, so it is looked up in what it set.
    by_cases named : entry.1.text? = some name
    · rw [get?_eq_none (apart name named), if_pos named, if_pos named]
      rfl
    · rw [if_neg named, if_neg named]

/-- Of several entries with one name, the last one that is merged over a mapping comes first. -/
theorem get?_merge_reverse (entries later : Entries) :
    get? name (merge entries later) = (get? name later.reverse).or (get? name entries) := by
  induction later using List.reverseRecOn with
  | nil => rfl
  | append_singleton before entry ih =>
    have step : merge entries (before ++ [entry])
        = insert entry.1 entry.2 (merge entries before) := List.foldl_append
    rw [step, get?_insert, List.reverse_append, List.reverse_singleton, List.singleton_append,
      get?_cons, ih]
    split <;> rfl

end Mapping

end StaticSite
