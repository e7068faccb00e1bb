import StaticSite.Operation.SequenceFilter
import StaticSite.Proofs.Value.Faults

/-!
# Streams of tame values

The elements of a tame value are tame, and the fault in which they end is one of evaluation. Every
way to make a stream from another keeps that.
-/

namespace StaticSite.Operation

open StaticSite.Value

/-- The elements are tame, and a fault that comes after them is one of evaluation. -/
structure Stream.Tame (s : Stream) : Prop where
  items : ∀ item ∈ s.items, item.Tame
  fault : ∀ f ∈ s.fault, f.isEvaluation = true

namespace Stream

theorem ofList_tame {items : List Value} (tame : ∀ item ∈ items, item.Tame) :
    (ofList items).Tame :=
  ⟨tame, forall_mem_none⟩

/-- A stream that ends at once. -/
theorem tame_of_fault {fault : Fault} (evaluation : fault.isEvaluation = true) :
    (⟨[], some fault⟩ : Stream).Tame :=
  ⟨List.forall_mem_nil _, forall_mem_some evaluation⟩

theorem Tame.cons {s : Stream} {item : Value} (first : item.Tame) (rest : s.Tame) :
    (⟨item :: s.items, s.fault⟩ : Stream).Tame :=
  ⟨List.forall_mem_cons.mpr ⟨first, rest.items⟩, rest.fault⟩

theorem Tame.drain {s : Stream} (tame : s.Tame) :
    Caught (fun items => ∀ item ∈ items, item.Tame) s.drain := by
  unfold Stream.drain
  split
  · exact tame.items
  next fault ends => exact tame.fault fault ends

theorem Tame.head {s : Stream} (tame : s.Tame) :
    Caught (fun item? => ∀ item ∈ item?, item.Tame) s.head := by
  unfold Stream.head
  split
  next item _ front =>
    intro first same
    obtain rfl := Option.mem_some.mp same
    exact tame.items item (by rw [front]; exact List.mem_cons_self)
  next fault _ ends => exact tame.fault fault ends
  · exact forall_mem_none

theorem mapUntil_tame {f : Value → Except Fault Value} {items : List Value} {last : Option Fault}
    (each : ∀ item ∈ items, Caught Value.Tame (f item))
    (ends : ∀ fault ∈ last, fault.isEvaluation = true) : (mapUntil f items last).Tame := by
  induction items with
  | nil => exact ⟨List.forall_mem_nil _, ends⟩
  | cons item rest ih =>
    obtain ⟨here, there⟩ := List.forall_mem_cons.mp each
    rw [mapUntil]
    split
    next result mapped => exact .cons (here.of_eq_ok mapped) (ih there)
    next fault stops => exact tame_of_fault (here.of_eq_error stops)

theorem filterUntil_tame {keep : Value → Except Fault Bool} {items : List Value}
    {last : Option Fault} (each : ∀ item ∈ items, item.Tame ∧ Survives (keep item))
    (ends : ∀ fault ∈ last, fault.isEvaluation = true) : (filterUntil keep items last).Tame := by
  induction items with
  | nil => exact ⟨List.forall_mem_nil _, ends⟩
  | cons item rest ih =>
    obtain ⟨⟨tame, here⟩, there⟩ := List.forall_mem_cons.mp each
    rw [filterUntil]
    split
    · exact .cons tame (ih there)
    · exact ih there
    next fault stops => exact tame_of_fault (here.of_eq_error stops)

end Stream

theorem characters_tame (s : String) : ∀ item ∈ characters s, item.Tame := by
  simp [characters, ofString, Value.Tame]

theorem stream_caught {v : Value} (tame : v.Tame) : Caught Stream.Tame (stream v) := by
  cases v with
  | list items | tuple items => exact Stream.ofList_tame (itemsTame_iff.mp tame)
  | str s | markup s => exact Stream.ofList_tame (characters_tame s)
  | mapping entries =>
    exact Stream.ofList_tame (viewItems_tame .keys (entriesTame_iff.mp tame))
  | range start stop step => exact Stream.ofList_tame (rangeItems_tame start stop step)
  | view part entries => exact Stream.ofList_tame (viewItems_tame part (entriesTame_iff.mp tame))
  | iterator name items fault => exact ⟨itemsTame_iff.mp tame.1, tame.2⟩
  | undefined forbidden => exact Stream.ofList_tame (List.forall_mem_nil _)
  | null | bool | int | float | method | global | thing | record => rfl

theorem elements_caught {v : Value} (tame : v.Tame) :
    Caught (fun items => ∀ item ∈ items, item.Tame) (elements v) :=
  (stream_caught tame).bind fun _ tame => tame.drain

theorem generator_tame {s : Stream} (tame : s.Tame) : (generator s).Tame :=
  ⟨itemsTame_iff.mpr tame.items, tame.fault⟩

theorem deferred_tame {s : Except Fault Stream} (caught : Caught Stream.Tame s) :
    (deferred s).Tame := by
  unfold deferred
  split
  · exact generator_tame caught
  · exact generator_tame (Stream.tame_of_fault caught)

theorem length_survives (v : Value) : Survives (length v) := by
  cases v <;> trivial

end StaticSite.Operation
