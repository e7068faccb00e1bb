import StaticSite.Operation.Member
import StaticSite.Proofs.Value.Faults

/-!
# Members, items and slices of tame values

What a tame value holds under a name or an index is tame, and asking for it fails in a fault of
evaluation at most.
-/

namespace StaticSite.Operation

open StaticSite.Text StaticSite.Value

theorem property?_tame {v found : Value} {name : String} (tame : v.Tame)
    (has : property? v name = some found) : found.Tame := by
  unfold property? at has
  split at has
  -- What numbers and ranges have is a number; a group has two elements, a record its parts.
  case h_5 key items =>
    obtain ⟨first, second, _⟩ := tame
    split at has
    · cases has
      exact first
    · split at has
      · cases has
        exact second
      · contradiction
  case h_6 =>
    obtain ⟨front, rest, rfl, _⟩ := List.lookup_eq_some_iff.mp has
    exact partsTame_iff.mp tame _ (List.mem_append_right front List.mem_cons_self)
  all_goals
    repeat' split at has
    all_goals cases has
    all_goals trivial

theorem attribute?_tame {v found : Value} {name : String} (tame : v.Tame)
    (has : attribute? v name = some found) : found.Tame := by
  unfold attribute? at has
  split at has
  · cases has
    trivial
  split at has
  next there =>
    cases has
    exact property?_tame tame there
  · split at has
    · cases has
      exact tame
    · cases has

theorem elementAt?_mem {α : Type} {items : List α} {index : Int} {a : α}
    (found : elementAt? items index = some a) : a ∈ items := by
  unfold elementAt? at found
  generalize (if index < 0 then index + items.length else index) = place at found
  dsimp only at found
  split at found
  · contradiction
  · exact List.mem_of_getElem? found

/-- The element at an index, if there is one. -/
theorem element_caught {element? : Option Value} : (∀ element ∈ element?, element.Tame) →
    Caught Tame (match element? with
      | some element => .ok element
      | none => .error .missingIndex) := by
  intro each
  cases element? with
  | none => rfl
  | some element => exact each element rfl

theorem subscript_caught {v : Value} (index : Value) (tame : v.Tame) :
    Caught Tame (subscript v index) := by
  unfold subscript
  dsimp only
  split
  · exact isEvaluation_undefinedFault _
  -- A mapping is asked for a key, whatever kind of value that is.
  · split
    · split
      next element found => exact Mapping.lookup?_tame (entriesTame_iff.mp tame) found
      · rfl
    · rfl
  · split
    · rfl
    · split
      · exact element_caught fun element there => itemsTame_iff.mp tame element (elementAt?_mem there)
      · exact element_caught fun element there => itemsTame_iff.mp tame element (elementAt?_mem there)
      · refine element_caught fun element there => ?_
        obtain ⟨c, _, rfl⟩ := Option.map_eq_some_iff.mp there
        trivial
      · refine element_caught fun element there => ?_
        obtain ⟨c, _, rfl⟩ := Option.map_eq_some_iff.mp there
        trivial
      · exact element_caught fun element there => rangeItems_tame _ _ _ element (elementAt?_mem there)
      · rfl

theorem member_caught {v : Value} (name : String) (tame : v.Tame) :
    Caught Tame (member v name) := by
  unfold member
  split
  next found has => exact attribute?_tame tame has
  · have asked := subscript_caught (.str name) tame
    split
    next found has => exact asked.of_eq_ok has
    next fault stops =>
      split
      · trivial
      · exact asked.of_eq_error stops

theorem item_caught {v : Value} (index : Value) (tame : v.Tame) : Caught Tame (item v index) := by
  have asked := subscript_caught index tame
  unfold item
  split
  next found has => exact asked.of_eq_ok has
  next fault stops =>
    split
    · cases named : index.text?.bind (attribute? v) with
      | none => trivial
      | some found =>
        obtain ⟨name, _, has⟩ := Option.bind_eq_some_iff.mp named
        exact attribute?_tame tame has
    · exact asked.of_eq_error stops

/-! ### Slices -/

theorem sliceBound_survives (v : Option Value) : Survives (sliceBound v) := by
  unfold sliceBound
  split
  · trivial
  · trivial
  · split
    · trivial
    · rfl

theorem sliceOf_survives (start stop step : Option Value) : Survives (sliceOf start stop step) := by
  unfold sliceOf
  refine (sliceBound_survives step).bind fun stride _ => ?_
  dsimp only
  split
  · rfl
  · refine (sliceBound_survives start).bind fun first _ => ?_
    exact (sliceBound_survives stop).bind fun last _ => trivial

theorem Slice.apply_subset {α : Type} (s : Slice) (items : List α) : s.apply items ⊆ items := by
  intro a taken
  obtain ⟨place, _, there⟩ := List.mem_filterMap.mp taken
  exact Array.mem_toList_iff.mpr (Array.mem_of_getElem? there)

theorem Slice.select_caught {v : Value} (s : Slice) (tame : v.Tame) : Caught Tame (s.select v) := by
  unfold Slice.select
  split
  · trivial
  · trivial
  · exact itemsTame_iff.mpr fun item taken => itemsTame_iff.mp tame item (s.apply_subset _ taken)
  · exact itemsTame_iff.mpr fun item taken => itemsTame_iff.mp tame item (s.apply_subset _ taken)
  · trivial
  · rfl
  · exact isEvaluation_undefinedFault _
  · rfl

theorem slice_caught {v : Value} (start stop step : Option Value) (tame : v.Tame) :
    Caught Tame (slice v start stop step) := by
  unfold slice
  split
  · exact isEvaluation_undefinedFault _
  · split
    · exact (sliceOf_survives start stop step).bind fun s _ => s.select_caught tame
    · split <;> rfl

end StaticSite.Operation
