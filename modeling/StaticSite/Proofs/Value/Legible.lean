import StaticSite.Proofs.Value.Lookup
import StaticSite.Value.Display

/-!
# Values that can be written

A value can be written out unless its text would show an integer that is too long for that. A
sequence or a mapping can be written exactly if all that is in it can be.
-/

namespace StaticSite

namespace Value

variable {v : Value}

/-- What is printed is the plain text of a value. -/
theorem printed_eq_ok_iff {text : List Char} :
    v.printed = .ok text ↔ v.legible = true ∧ v.plain = text := by
  unfold printed
  split <;> simp [*]

theorem printed_eq_error_iff {fault : Fault} :
    v.printed = .error fault ↔ v.legible = false ∧ fault = .wrongValue := by
  unfold printed
  split <;> simp [*, eq_comm]

theorem legible_list {items : List Value} :
    (Value.list items).legible = true ↔ ∀ item ∈ items, item.legible = true := by
  rw [legible]
  induction items with
  | nil => exact ⟨fun _ => nofun, fun _ => rfl⟩
  | cons item items ih => rw [legibleItems, Bool.and_eq_true, ih, List.forall_mem_cons]

theorem legible_mapping {entries : Mapping.Entries} :
    (Value.mapping entries).legible = true ↔
      ∀ entry ∈ entries, entry.1.legible = true ∧ entry.2.legible = true := by
  rw [legible]
  induction entries with
  | nil => exact ⟨fun _ => nofun, fun _ => rfl⟩
  | cons entry entries ih =>
    rw [legibleEntries, Bool.and_eq_true, Bool.and_eq_true, ih, List.forall_mem_cons]
    rfl

end Value

namespace Mapping

theorem legible_get? {name : String} {value : Value} {entries : Entries}
    (all : (Value.mapping entries).legible = true) (found : get? name entries = some value) :
    value.legible = true := by
  obtain ⟨key, listed⟩ := mem_of_get? found
  exact (Value.legible_mapping.mp all _ listed).2

end Mapping

end StaticSite
