import StaticSite.Operation.SequenceFilter
import StaticSite.Proofs.Operation.Operators

/-!
# Filters on texts without arguments

A filter that is given no arguments makes a tame value of a tame one, or fails in a fault of
evaluation: it *works*. One lemma for each filter of the table says so of what it does; a filter that
requires an argument is refused.
-/

namespace StaticSite.Operation

open StaticSite.Text StaticSite.Value

/-! ### Parameters without values -/

/-- No parameter has a value. -/
abbrev Vacant (given : Bound) : Prop := ∀ value? ∈ given, value? = none

namespace Vacant

variable {given : Bound}

theorem join_getElem? (vacant : Vacant given) (place : Nat) : given[place]?.join = none := by
  cases there : given[place]? with
  | none => rfl
  | some value? =>
    rw [vacant value? (List.mem_of_getElem? there)]
    rfl

theorem get (vacant : Vacant given) (place : Nat) (otherwise : Value) :
    given.get place otherwise = otherwise := by
  rw [Bound.get, vacant.join_getElem?]
  rfl

theorem isTrue (vacant : Vacant given) (place : Nat) (otherwise : Bool) :
    given.isTrue place otherwise = otherwise := by
  rw [Bound.isTrue, vacant.join_getElem?]

end Vacant

theorem fillParameters_none (parameters : List String) :
    fillParameters [] parameters [] = .ok (parameters.map fun _ => none) := by
  induction parameters with
  | nil => rfl
  | cons name parameters ih => rw [fillParameters, ih]; rfl

theorem bind_none (parameters : List String) :
    bind parameters 0 .none = .ok (parameters.map fun _ => none) := by
  rw [bind, Actuals.none, fillParameters_none]
  rfl

namespace Filter

/-- Applied without arguments, a filter gives something tame or fails in a fault of evaluation. -/
def Works (filter : Filter) : Prop :=
  ∀ v : Value, v.Tame → Caught Tame (do filter.run v (← bind filter.parameters filter.required .none))

variable {filter : Filter}

theorem Works.of_free (free : filter.required = 0)
    (run : ∀ v given, Value.Tame v → Vacant given → Caught Tame (filter.run v given)) :
    filter.Works := by
  intro v tame
  rw [free, bind_none]
  refine run v _ tame fun value? listed => ?_
  obtain ⟨_, _, rfl⟩ := List.mem_map.mp listed
  rfl

theorem Works.of_refused (refused : bind filter.parameters filter.required .none = .error .wrongType) :
    filter.Works := by
  intro v _
  rw [refused]
  rfl

end Filter

/-! ### Filters on texts -/

theorem onText_tame (change : List Char → List Char) (v : Value) : (onText change v).Tame := by
  unfold onText
  split <;> trivial

theorem textFilter_works (change : List Char → List Char) : (textFilter change).Works :=
  .of_free rfl fun v _ _ _ => onText_tame change v

/-- A filter that always gives a text. -/
theorem works_of_text {f : Value → Value} (texts : ∀ v, (f v).Tame) :
    Filter.Works ⟨[], 0, fun value _ => .ok (f value)⟩ :=
  .of_free rfl fun v _ _ _ => texts v

theorem writeInt_survives (n : Int) : Survives (Json.writeInt n) := by
  unfold Json.writeInt
  split
  · rfl
  · trivial

theorem keyText_survives (key : Value) : Survives (Json.keyText key) := by
  unfold Json.keyText
  split
  · trivial
  · trivial
  · trivial
  · trivial
  · trivial
  · exact writeInt_survives _
  · rfl

theorem printed_survives (v : Value) : Survives v.printed := by
  unfold Value.printed
  split
  · trivial
  · rfl

theorem arrange_survives (style : Json.Style) (members : List (Value × List Char)) :
    Survives (Json.arrange style members) := by
  unfold Json.arrange
  split
  · have sorted := sortWith_caught
      (fun (a b : Value × List Char) => lessThan_survives a.1 b.1)
      (fun _ _ => trivial : ∀ a ∈ members, True)
    exact sorted.forget
  · trivial

mutual

theorem write_survives (style : Json.Style) (depth : Nat) (v : Value) :
    Survives (Json.write style depth v) := by
  unfold Json.write
  split
  · trivial
  · trivial
  · exact writeInt_survives _
  · trivial
  · trivial
  · trivial
  · exact (writeItems_survives style (depth + 1) _).map fun _ _ => trivial
  · exact (writeItems_survives style (depth + 1) _).map fun _ _ => trivial
  · exact (writeMembers_survives style (depth + 1) _).bind fun members _ =>
      (arrange_survives style members).bind fun _ _ => trivial
  · split
    · exact (printed_survives _).map fun _ _ => trivial
    · rfl

theorem writeItems_survives (style : Json.Style) (depth : Nat) (items : List Value) :
    Survives (Json.writeItems style depth items) := by
  match items with
  | [] => trivial
  | item :: rest =>
    rw [Json.writeItems]
    exact (write_survives style depth item).bind fun _ _ =>
      (writeItems_survives style depth rest).bind fun _ _ => trivial

theorem writeMembers_survives (style : Json.Style) (depth : Nat)
    (entries : List (Value × Value)) : Survives (Json.writeMembers style depth entries) := by
  match entries with
  | [] => trivial
  | (key, item) :: rest =>
    rw [Json.writeMembers]
    exact (keyText_survives key).bind fun _ _ => (write_survives style depth item).bind fun _ _ =>
      (writeMembers_survives style depth rest).bind fun _ _ => trivial

end

theorem centerFilter_works : centerFilter.Works := by
  refine .of_free rfl fun v given tame vacant => ?_
  simp only [centerFilter, vacant.get]
  exact onText_tame _ v

theorem trimFilter_works : trimFilter.Works := by
  refine .of_free rfl fun v given tame vacant => ?_
  simp only [trimFilter, vacant.get]
  exact onText_tame _ v

theorem indentFilter_works : indentFilter.Works := by
  refine .of_free rfl fun v given tame vacant => ?_
  simp only [indentFilter, vacant.get, vacant.isTrue]
  refine .ok_bind ?_
  split
  · exact onText_tame _ _
  · exact onText_tame _ _
  · exact isEvaluation_undefinedFault _
  · rfl
  · rfl

theorem truncateFilter_works : truncateFilter.Works := by
  refine .of_free rfl fun v given tame vacant => ?_
  simp only [truncateFilter, vacant.get, vacant.isTrue]
  refine .ok_bind (.ok_bind (.ok_bind ?_))
  -- The limit of 255 leaves room for the ending.
  rw [if_neg (by decide)]
  refine (length_survives v).bind fun size _ => ?_
  split
  · exact tame
  · split
    · trivial
    · trivial
    · rfl
    · rfl
    · rfl

theorem wordWrapFilter_works : wordWrapFilter.Works := by
  refine .of_free rfl fun v given tame vacant => ?_
  simp only [wordWrapFilter, vacant.get, vacant.isTrue]
  refine .ok_bind (.ok_bind ?_)
  split
  · trivial
  · trivial
  · exact isEvaluation_undefinedFault _
  · rfl

/-- A part of a query has a key and a value. -/
theorem queryPart_survives (parts : List Value) : Survives (match parts with
    | [key, item] => return queryText key ++ '=' :: queryText item
    | _ => .error .wrongValue) := by
  split
  · trivial
  · rfl

theorem urlencodeFilter_works : urlencodeFilter.Works := by
  refine .of_free rfl fun v given tame vacant => ?_
  simp only [urlencodeFilter]
  -- The pairs of a query are tame, so each of them can be taken apart.
  have query {pairs : List Value} {write : List Value → Except Fault (List Char)}
      (writes : ∀ parts, Survives (write parts)) (each : ∀ pair ∈ pairs, pair.Tame) :
      Survives (pairs.mapM fun pair => elements pair >>= write) := by
    refine (Confined.mapM fun pair listed => ?_ : Caught (∀ b ∈ ·, True) _).forget
    exact (elements_caught (each pair listed)).bind fun parts _ => writes parts
  split
  · trivial
  · trivial
  next entries =>
    exact (query queryPart_survives (viewItems_tame .items (entriesTame_iff.mp tame))).bind fun _ _ => trivial
  · have streamed := stream_caught tame
    split
    next s given =>
      have drained := (streamed.of_eq_ok given).drain
      cases all : s.drain with
      | error fault => exact drained.of_eq_error all
      | ok items => exact (query queryPart_survives (drained.of_eq_ok all)).bind fun _ _ => trivial
    · trivial

theorem xmlattrFilter_works : xmlattrFilter.Works := by
  refine .of_free rfl fun v given tame vacant => ?_
  simp only [xmlattrFilter, vacant.isTrue]
  split
  · -- What is undefined is left out; a name with a forbidden character is refused.
    refine Confined.bind (Confined.filterMapM fun entry _ => ?_) fun _ _ => trivial
    split
    · trivial
    · trivial
    · split
      · split
        · rfl
        · trivial
      · rfl
  · exact isEvaluation_undefinedFault _
  · rfl

theorem tojsonFilter_works : tojsonFilter.Works := by
  refine .of_free rfl fun v given tame vacant => ?_
  simp only [tojsonFilter, vacant.get]
  exact (write_survives _ 0 v).bind fun _ _ => trivial

theorem urlizeFilter_works : urlizeFilter.Works := by
  refine .of_free rfl fun v given tame vacant => ?_
  simp only [urlizeFilter, vacant.join_getElem?]
  trivial

theorem textFilters_work : ∀ entry ∈ textFilters, entry.2.Works := by
  simp only [textFilters, List.forall_mem_cons]
  refine ⟨textFilter_works _, textFilter_works _, textFilter_works _, textFilter_works _,
    works_of_text fun _ => trivial, centerFilter_works, trimFilter_works, .of_refused rfl,
    indentFilter_works, truncateFilter_works, works_of_text fun _ => trivial,
    wordWrapFilter_works, works_of_text fun _ => trivial, works_of_text fun _ => trivial,
    works_of_text fun _ => trivial, works_of_text fun _ => trivial,
    works_of_text fun _ => trivial, urlencodeFilter_works, urlizeFilter_works,
    xmlattrFilter_works, tojsonFilter_works, works_of_text fun _ => trivial,
    List.forall_mem_nil _⟩

end StaticSite.Operation
