import StaticSite.Operation.Filter
import StaticSite.Proofs.Operation.TextFilters

/-!
# Filters without arguments

The filters on numbers and on sequences work without arguments, and so does every filter of the
tables. A filter that applies another operation to each element has none to apply; the fault shows
when the elements are asked for.
-/

namespace StaticSite.Operation

open StaticSite.Text StaticSite.Value

/-! ### Filters on numbers -/

theorem readFloat_survives (v : Value) : Survives (readFloat v) := by
  unfold readFloat
  split
  · split
    · trivial
    · rfl
  · exact toFloat_survives v

theorem readInt_survives (base v : Value) : Survives (readInt base v) := by
  unfold readInt
  split
  · split
    · rfl
    · split
      · trivial
      · rfl
  · exact toInt_survives v

theorem floatFilter_works : floatFilter.Works := by
  refine .of_free rfl fun v given tame vacant => ?_
  simp only [floatFilter, vacant.get]
  split
  · trivial
  next fault stops =>
    split
    · trivial
    · exact (readFloat_survives v).of_eq_error stops

theorem intFilter_works : intFilter.Works := by
  refine .of_free rfl fun v given tame vacant => ?_
  simp only [intFilter, vacant.get]
  split
  · trivial
  next fault stops =>
    split
    · have again : Survives ((readFloat v).bind fun x => toInt (.float x)) :=
        (readFloat_survives v).bind fun x _ => toInt_survives (.float x)
      split
      · trivial
      next fault stops =>
        split
        · trivial
        · exact again.of_eq_error stops
    · exact (readInt_survives _ v).of_eq_error stops

theorem absFilter_works : absFilter.Works := by
  refine .of_free rfl fun v given tame vacant => ?_
  simp only [absFilter]
  split
  · trivial
  · split
    · trivial
    · rfl

theorem rounded_caught (v : Value) (places : Option Int) : Caught Tame (rounded v places) := by
  unfold rounded
  split
  · trivial
  · split
    · exact (toInt_survives _).map fun _ _ => trivial
    · show Fault.isEvaluation (if _ then _ else _) = true
      split <;> rfl
  · split
    · trivial
    · rfl

theorem roundFilter_works : roundFilter.Works := by
  refine .of_free rfl fun v given tame vacant => ?_
  simp only [roundFilter, vacant.get]
  -- Without a method the common one is taken.
  split
  · split
    · exact .ok_bind (rounded_caught _ _)
    · exact .ok_bind (rounded_caught _ _)
    · rfl
  next ceil => exact absurd ceil (by decide)
  next floor => exact absurd floor (by decide)
  · rfl

theorem fileSizeFilter_works : fileSizeFilter.Works := by
  refine .of_free rfl fun v given tame vacant => ?_
  simp only [fileSizeFilter, vacant.isTrue]
  refine (readFloat_survives v).bind fun bytes _ => ?_
  split
  · trivial
  · generalize (if false = true then 1024 else 1000) = base
    split
    · exact (toInt_survives _).bind fun _ _ => trivial
    · trivial

theorem numberFilters_work : ∀ entry ∈ numberFilters, entry.2.Works := by
  simp only [numberFilters, List.forall_mem_cons]
  exact ⟨absFilter_works, intFilter_works, floatFilter_works, roundFilter_works,
    fileSizeFilter_works, List.forall_mem_nil _⟩

/-! ### Filters on sequences -/

theorem defaultFilter_works : defaultFilter.Works := by
  refine .of_free rfl fun v given tame vacant => ?_
  simp only [defaultFilter, vacant.get, vacant.isTrue]
  show Value.Tame (if _ then _ else _)
  split
  · trivial
  · exact tame

theorem mapStream_caught {f : Value → Except Fault Value} {v : Value} (tame : v.Tame)
    (each : ∀ item, item.Tame → Caught Tame (f item)) : Caught Stream.Tame (mapStream f v) :=
  (stream_caught tame).bind fun _ tame =>
    Stream.mapUntil_tame (fun item listed => each item (tame.items item listed)) tame.fault

/-- Where no attribute is named, the elements stand for themselves. -/
theorem followed_caught {v : Value} (tame : v.Tame) :
    Caught Stream.Tame (mapStream (follow .null · []) v) :=
  mapStream_caught tame fun _ tame => tame

theorem joinFilter_works : joinFilter.Works := by
  refine .of_free rfl fun v given tame vacant => ?_
  simp only [joinFilter, vacant.get]
  refine .ok_bind ?_
  refine (followed_caught tame).bind fun s tame => ?_
  exact tame.drain.bind fun _ _ => trivial

theorem firstFilter_works : firstFilter.Works := by
  refine .of_free rfl fun v given tame vacant => ?_
  refine (stream_caught tame).bind fun s tame => tame.head.bind fun item? first => ?_
  cases item? with
  | none => trivial
  | some item => exact first item rfl

theorem reversed?_tame {v : Value} {name : String} {items : List Value} (tame : v.Tame)
    (found : reversed? v = some (name, items)) : ∀ item ∈ items, item.Tame := by
  have backward {all : List Value} (each : ∀ item ∈ all, item.Tame) :
      ∀ item ∈ all.reverse, item.Tame := fun item listed => each item (List.mem_reverse.mp listed)
  cases v with
  | list all | tuple all =>
    cases found
    exact backward (itemsTame_iff.mp tame)
  | str s | markup s =>
    cases found
    exact backward (characters_tame s)
  | mapping entries =>
    cases found
    exact backward (viewItems_tame .keys (entriesTame_iff.mp tame))
  | range start stop step =>
    cases found
    exact backward (rangeItems_tame start stop step)
  | view part entries =>
    have each := viewItems_tame part (entriesTame_iff.mp tame)
    cases part <;> (cases found; exact backward each)
  | undefined forbidden =>
    cases found
    exact List.forall_mem_nil _
  | null | bool | int | float | iterator | method | global | thing | record => contradiction

theorem lastFilter_works : lastFilter.Works := by
  refine .of_free rfl fun v given tame vacant => ?_
  simp only [lastFilter]
  split
  next name items found =>
    cases items with
    | nil => trivial
    | cons item items => exact reversed?_tame tame found item List.mem_cons_self
  · rfl

theorem reverseFilter_works : reverseFilter.Works := by
  refine .of_free rfl fun v given tame vacant => ?_
  simp only [reverseFilter]
  split
  · trivial
  · trivial
  · split
    next name items found =>
      exact ⟨itemsTame_iff.mpr (reversed?_tame tame found), forall_mem_none⟩
    · have streamed := stream_caught tame
      split
      next s given =>
        refine (streamed.of_eq_ok given).drain.map fun items each => ?_
        exact itemsTame_iff.mpr fun item listed => each item (List.mem_reverse.mp listed)
      · rfl

theorem lengthFilter_works : lengthFilter.Works := by
  refine .of_free rfl fun v given tame vacant => ?_
  simp only [lengthFilter]
  have size : Survives (do return (↑(← length v) : Int)) :=
    (length_survives v).bind fun _ _ => trivial
  exact size.map fun _ _ => trivial

theorem listFilter_works : listFilter.Works := by
  refine .of_free rfl fun v given tame vacant => ?_
  simp only [listFilter]
  exact (elements_caught tame).map fun _ each => itemsTame_iff.mpr each

/-- Pairs of a key and a tame element. -/
theorem keyed_caught {key : Value → Except Fault Value} {items : List Value}
    (keys : ∀ item ∈ items, Survives (key item)) (each : ∀ item ∈ items, item.Tame) :
    Caught (fun pairs => ∀ pair ∈ pairs, pair.2.Tame) (keyed key items) :=
  Confined.mapM fun item listed => (keys item listed).bind fun _ _ => each item listed

theorem sortKeyed_caught {pairs : List (Value × Value)} (falling : Bool)
    (each : ∀ pair ∈ pairs, pair.2.Tame) :
    Caught (fun sorted => ∀ pair ∈ sorted, pair.2.Tame) (sortKeyed falling pairs) := by
  refine sortWith_caught (fun a b => ?_) each
  split
  · exact lessThan_survives _ _
  · exact lessThan_survives _ _

theorem seconds_tame {pairs : List (Value × Value)} (each : ∀ pair ∈ pairs, pair.2.Tame) :
    (Value.list (pairs.map Prod.snd)).Tame := by
  refine itemsTame_iff.mpr fun item listed => ?_
  obtain ⟨pair, there, rfl⟩ := List.mem_map.mp listed
  exact each pair there

theorem sortFilter_works : sortFilter.Works := by
  refine .of_free rfl fun v given tame vacant => ?_
  simp only [sortFilter, vacant.get, vacant.isTrue]
  refine .ok_bind ((elements_caught tame).bind fun items each => ?_)
  refine (keyed_caught (fun item listed => ?_) each).bind fun pairs each => ?_
  · refine .ok_bind ?_
    trivial
  · exact (sortKeyed_caught false each).bind fun sorted each => seconds_tame each

theorem extreme_caught {greatest : Bool} {best : Value × Value} {pairs : List (Value × Value)}
    (first : best.2.Tame) (each : ∀ pair ∈ pairs, pair.2.Tame) :
    Caught Tame (extreme greatest best pairs) := by
  induction pairs generalizing best with
  | nil => exact first
  | cons pair pairs ih =>
    obtain ⟨here, there⟩ := List.forall_mem_cons.mp each
    rw [extreme]
    have compared : Survives (if greatest then lessThan best.1 pair.1 else lessThan pair.1 best.1) := by
      split
      · exact lessThan_survives _ _
      · exact lessThan_survives _ _
    refine compared.bind fun better _ => ?_
    split
    · exact ih here there
    · exact ih first there

theorem extremeFilter_works (greatest : Bool) : (extremeFilter greatest).Works := by
  refine .of_free rfl fun v given tame vacant => ?_
  simp only [extremeFilter, vacant.get, vacant.isTrue]
  refine (stream_caught tame).bind fun s streamed => streamed.head.bind fun item? _ => ?_
  split
  · trivial
  · refine .ok_bind ((elements_caught tame).bind fun items each => ?_)
    refine (keyed_caught (fun item listed => ?_) each).bind fun pairs each => ?_
    · trivial
    · split
      · trivial
      · obtain ⟨here, there⟩ := List.forall_mem_cons.mp each
        exact extreme_caught here there

theorem dictsortFilter_works : dictsortFilter.Works := by
  refine .of_free rfl fun v given tame vacant => ?_
  simp only [dictsortFilter, vacant.get, vacant.isTrue]
  rw [if_neg (by decide)]
  split
  next entries =>
    refine (sortKeyed_caught false fun pair listed => ?_).bind fun sorted each => seconds_tame each
    obtain ⟨entry, there, rfl⟩ := List.mem_map.mp listed
    exact viewItems_tame .items (entriesTame_iff.mp tame) _ (List.mem_map_of_mem there)
  · exact isEvaluation_undefinedFault _
  · rfl

theorem itemsFilter_works : itemsFilter.Works := by
  refine .of_free rfl fun v given tame vacant => ?_
  simp only [itemsFilter]
  refine generator_tame ?_
  split
  next entries => exact Stream.ofList_tame (viewItems_tame .items (entriesTame_iff.mp tame))
  · exact Stream.ofList_tame (List.forall_mem_nil _)
  · exact Stream.tame_of_fault rfl

mutual

theorem general_caught {start : Value} {items : List Value} (first : start.Tame)
    (each : ∀ item ∈ items, item.Tame) : Caught Tame (sumFrom.general start items) := by
  match items with
  | [] => exact first
  | item :: rest =>
    obtain ⟨here, there⟩ := List.forall_mem_cons.mp each
    rw [sumFrom.general]
    refine (add_caught first here).bind fun next tame => ?_
    split
    · exact floats_caught _ there
    · exact general_caught tame there

theorem floats_caught (total : Total) {items : List Value} (each : ∀ item ∈ items, item.Tame) :
    Caught Tame (sumFrom.floats total items) := by
  rw [sumFrom.floats.eq_def]
  split
  · trivial
  · exact floats_caught _ (List.forall_mem_cons.mp each).2
  next item rest _ =>
    obtain ⟨here, there⟩ := List.forall_mem_cons.mp each
    split
    · exact (floatOfInt_survives _).bind fun x _ => floats_caught _ there
    · have sum : (Value.float total.value).Tame := trivial
      exact (add_caught sum here).bind fun next tame => general_caught tame there

end

theorem sumFrom_caught {start : Value} {items : List Value} (first : start.Tame)
    (each : ∀ item ∈ items, item.Tame) : Caught Tame (sumFrom start items) := by
  cases start with
  | float x => exact floats_caught ⟨x, 0⟩ each
  | _ => exact general_caught first each

theorem sumFilter_works : sumFilter.Works := by
  refine .of_free rfl fun v given tame vacant => ?_
  simp only [sumFilter, vacant.get]
  refine .ok_bind ?_
  refine (followed_caught tame).bind fun s tame => ?_
  rw [if_neg (by decide)]
  have start : (Value.int 0).Tame := trivial
  refine (sumFrom_caught start tame.items).bind fun total summed => ?_
  split
  next fault ends => exact tame.fault fault ends
  · exact summed

theorem distinctFrom_tame {key : Value → Except Fault Value} {last : Option Fault}
    {seen items : List Value} (keys : ∀ item ∈ items, Survives (key item))
    (each : ∀ item ∈ items, item.Tame) (ends : ∀ fault ∈ last, fault.isEvaluation = true) :
    (distinctFrom key last seen items).Tame := by
  induction items generalizing seen with
  | nil => exact ⟨List.forall_mem_nil _, ends⟩
  | cons item items ih =>
    obtain ⟨named, later⟩ := List.forall_mem_cons.mp keys
    obtain ⟨here, there⟩ := List.forall_mem_cons.mp each
    rw [distinctFrom]
    split
    next fault stops => exact Stream.tame_of_fault (named.of_eq_error stops)
    · split
      · exact Stream.tame_of_fault rfl
      split
      · exact ih later there
      · exact .cons here (ih later there)

theorem uniqueFilter_works : uniqueFilter.Works := by
  refine .of_free rfl fun v given tame vacant => ?_
  simp only [uniqueFilter, vacant.get, vacant.isTrue]
  refine deferred_tame (.ok_bind ((stream_caught tame).bind fun s tame => ?_))
  exact distinctFrom_tame (fun _ _ => trivial) tame.items tame.fault

theorem randomFilter_works : randomFilter.Works := by
  refine .of_free rfl fun v given tame vacant => ?_
  simp only [randomFilter]
  split
  · rfl
  · refine (length_survives v).bind fun _ _ => (elements_caught tame).bind fun items each => ?_
    cases items with
    | nil => trivial
    | cons item items => exact each item List.mem_cons_self

theorem sequenceFilters_work : ∀ entry ∈ sequenceFilters, entry.2.Works := by
  simp only [sequenceFilters, List.forall_mem_cons]
  exact ⟨defaultFilter_works, defaultFilter_works, joinFilter_works, firstFilter_works,
    lastFilter_works, reverseFilter_works, lengthFilter_works, lengthFilter_works,
    listFilter_works, sortFilter_works, extremeFilter_works false, extremeFilter_works true,
    dictsortFilter_works, itemsFilter_works, sumFilter_works, uniqueFilter_works,
    .of_refused rfl, .of_refused rfl, .of_refused rfl, .of_refused rfl, randomFilter_works,
    List.forall_mem_nil _⟩

/-! ### Filters by name -/

theorem plainFilters_work : ∀ entry ∈ plainFilters, entry.2.Works := by
  intro entry listed
  simp only [plainFilters, List.mem_append] at listed
  rcases listed with (text | number) | sequence
  · exact textFilters_work entry text
  · exact numberFilters_work entry number
  · exact sequenceFilters_work entry sequence

theorem selected_tame {keep : Bool} {prepare : Except Fault (Value → Except Fault Bool)} {v : Value}
    (tame : v.Tame) (prepared : Caught (fun holds => ∀ item, Survives (holds item)) prepare) :
    (selected keep prepare v).Tame := by
  unfold selected
  split
  · exact generator_tame (Stream.ofList_tame (List.forall_mem_nil _))
  · refine deferred_tame (prepared.bind fun holds survives => ?_)
    refine (stream_caught tame).bind fun s tame => ?_
    exact Stream.filterUntil_tame
      (fun item listed => ⟨tame.items item listed, (survives item).map fun _ _ => trivial⟩) tame.fault

theorem formatFilter_caught (v : Value) : Caught Tame (formatFilter v .none) := by
  unfold formatFilter
  refine .ok_bind ?_
  split
  · exact (formatWith_survives true _ _).bind fun _ _ => trivial
  · exact (formatWith_survives false _ _).bind fun _ _ => trivial

/-- A filter without arguments, whatever its name. -/
theorem filter_caught {v : Value} (name : String) (tame : v.Tame) :
    Caught Tame (filter name v .none) := by
  show Caught Tame (applyWith .none (mapAttribute []) name v)
  unfold applyWith
  split
  next f found =>
    obtain ⟨front, rest, same, _⟩ := List.lookup_eq_some_iff.mp found
    have listed : (name, f) ∈ plainFilters := by
      rw [same]
      exact List.mem_append_right front List.mem_cons_self
    exact plainFilters_work (name, f) listed v tame
  · -- An operation that is applied to each element is missing: there is no argument to name it.
    split
    · show Value.Tame (if _ then _ else _)
      split
      · exact deferred_tame rfl
      · exact generator_tame (Stream.ofList_tame (List.forall_mem_nil _))
    · exact selected_tame tame fun _ => trivial
    · exact selected_tame tame fun _ => trivial
    · exact selected_tame tame rfl
    · exact selected_tame tame rfl
    · exact formatFilter_caught v
    · rfl

end StaticSite.Operation
