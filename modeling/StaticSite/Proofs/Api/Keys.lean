import StaticSite.Proofs.Api.Gathering

/-!
# Data under one key

Data that is fetched without a name of its own goes under the word characters of its endpoint. These
do not tell all endpoints apart, and not the groups either, so one entry can take the place of
another one: what is there in the end is what arrived last.
-/

namespace StaticSite.Api.Source

variable (source : Source)

/-- The endpoint of a served entry and its data, if that has arrived. -/
def arrival? : Value × Option Value → Option (String × Value)
  | (.mapping entry, some body) => some (Field.dataSource.text entry, body)
  | _ => none

variable {source} {component : Component}

/-- An entry that is fetched and does not ask for a name. -/
def IsUnnamed (entry : Mapping.Entries) : Prop :=
  isFetched entry = true → (Field.injectAs.value entry).isTrue = false

/-- Data arrives only for what is fetched. -/
theorem isFetched_of_served {sent : List Request} {entries : List Value} {fields : Mapping.Entries}
    {body : Value} (listed : (.mapping fields, some body) ∈ source.served sent entries) :
    isFetched fields = true := by
  induction entries generalizing sent with
  | nil => contradiction
  | cons entry rest ih =>
    rcases List.mem_cons.mp listed with here | later
    · obtain ⟨rfl, arrives⟩ := Prod.mk.inj here
      by_contra unasked
      rw [(arriving?_unasked (Bool.eq_false_iff.mpr unasked)).2] at arrives
      contradiction
    · exact ih later

theorem injectAs_of_served {entries : List Value}
    (unnamed : ∀ fields, .mapping fields ∈ entries → IsUnnamed fields) {fields : Mapping.Entries}
    {body : Value} (listed : (.mapping fields, some body) ∈ source.served [] entries) :
    (Field.injectAs.value fields).isTrue = false :=
  unnamed fields (mem_of_mem_served listed) (isFetched_of_served listed)

theorem deliveries_unnamed {entries : List Value}
    (unnamed : ∀ fields, .mapping fields ∈ entries → IsUnnamed fields) :
    (source.served [] entries).filterMap delivery?
      = ((source.served [] entries).filterMap arrival?).map
          fun arrival => (.str (plainName arrival.1), arrival.2) := by
  rw [List.map_filterMap]
  refine List.filterMap_congr fun pair listed => ?_
  obtain ⟨entry, data?⟩ := pair
  cases entry with
  | mapping fields =>
    cases data? with
    | none => rfl
    | some body =>
      -- Without a name of its own, it goes under the word characters of its endpoint.
      have endpoint : key fields = .str (plainName (Field.dataSource.text fields)) := by
        rw [key, Field.valueOr, injectAs_of_served unnamed listed]
        rfl
      rw [delivery?, arrival?, endpoint, Option.map_some]
  | _ => rfl

theorem isTrue_of_noKey {value : Value} (noKey : NoKey value) : value.isTrue = true := by
  cases noKey with
  | list nonempty => simpa [Value.isTrue] using nonempty
  | mapping nonempty => simpa [Value.isTrue] using nonempty

/-- Without a name of its own, data can always be stored. -/
theorem not_fails_unnamed {entries : List Value}
    (unnamed : ∀ fields, .mapping fields ∈ entries → IsUnnamed fields)
    (signed : ∀ fields, .mapping fields ∈ entries → ¬ source.Unsigned fields) :
    ∀ pair ∈ source.served [] entries, ¬ source.Fails pair := by
  intro pair listed fails
  cases fails with
  | unsigned unsigned => exact signed _ (mem_of_mem_served listed) unsigned
  | unstorable noKey =>
    have counts := injectAs_of_served unnamed listed
    exact absurd (isTrue_of_noKey noKey) (Bool.eq_false_iff.mp counts)

/-- The data of the last arrival under a name. -/
def lastUnder (name : String) (arrivals : List (String × Value)) : Option Value :=
  (arrivals.reverse.find? fun arrival => plainName arrival.1 = name).map Prod.snd

theorem get?_plainNames (name : String) (arrivals : List (String × Value)) :
    Mapping.get? name
        (arrivals.map fun arrival => (Value.str (plainName arrival.1), arrival.2))
      = (arrivals.find? fun arrival => plainName arrival.1 = name).map Prod.snd := by
  induction arrivals with
  | nil => rfl
  | cons arrival rest ih =>
    rw [List.map_cons, Mapping.get?_cons, ih, List.find?_cons]
    by_cases here : plainName arrival.1 = name <;> simp [here]

theorem get?_merge_arrivals (name : String) (fetched : Mapping.Entries)
    (arrivals : List (String × Value)) :
    Mapping.get? name (Mapping.merge fetched
        (arrivals.map fun arrival => (.str (plainName arrival.1), arrival.2)))
      = (lastUnder name arrivals).or (Mapping.get? name fetched) := by
  rw [Mapping.get?_merge_reverse, ← List.map_reverse, get?_plainNames, lastUnder]

/-- The last arrival under a name of one that is there is among them, and goes under that name. -/
theorem lastUnder_of_mem {arrivals : List (String × Value)} {arrival : String × Value}
    (inside : arrival ∈ arrivals) : ∃ last ∈ arrivals, plainName last.1 = plainName arrival.1 ∧
      lastUnder (plainName arrival.1) arrivals = some last.2 := by
  -- Read from the end, the arrival itself is found at the latest.
  have found : (arrivals.reverse.find? fun other =>
      plainName other.1 = plainName arrival.1).isSome = true := by
    rw [List.find?_isSome]
    exact ⟨arrival, List.mem_reverse.mpr inside, decide_eq_true rfl⟩
  obtain ⟨last, here⟩ := Option.isSome_iff_exists.mp found
  refine ⟨last, List.mem_reverse.mp (List.mem_of_find?_eq_some here), ?_, ?_⟩
  · have named := List.find?_some here
    exact of_decide_eq_true named
  · rw [lastUnder, here]
    rfl

/-- Data stays visible exactly if nothing else arrives under its name. -/
theorem all_lastUnder_iff {arrivals : List (String × Value)} :
    (∀ arrival ∈ arrivals, lastUnder (plainName arrival.1) arrivals = some arrival.2) ↔
      ∀ first ∈ arrivals, ∀ second ∈ arrivals,
        plainName first.1 = plainName second.1 → first.2 = second.2 := by
  constructor
  · intro visible first one second other alike
    have seen := visible first one
    rw [alike, visible second other] at seen
    exact (Option.some.inj seen).symm
  · intro agree arrival inside
    obtain ⟨last, among, alike, shown⟩ := lastUnder_of_mem inside
    rw [shown, agree last among arrival inside alike]

variable (source) (component) in
/-- Loading a list whose entries do not ask for names shows, under each name, what arrived last
under it, or else what was there before. All that arrives can be seen in the end exactly if no two
endpoints with the same word characters bring different data. -/
theorem loader_shows_last {entries : List Value} (data : Component.Data)
    (listed : Mapping.get? "api" component.config = some (.list entries))
    (plain : ∀ entry ∈ entries, entry.IsPlain)
    (unnamed : ∀ fields, .mapping fields ∈ entries → IsUnnamed fields)
    (signed : ∀ fields, .mapping fields ∈ entries → ¬ source.Unsigned fields) :
    let loading := source.loader component data
    let arrivals := (source.served [] entries).filterMap arrival?
    loading.outcome = .ok () ∧
    (∀ name, Mapping.get? name loading.data.fetched
      = (lastUnder name arrivals).or (Mapping.get? name data.fetched)) ∧
    ((∀ arrival ∈ arrivals,
        Mapping.get? (plainName arrival.1) loading.data.fetched = some arrival.2) ↔
      ∀ first ∈ arrivals, ∀ second ∈ arrivals,
        plainName first.1 = plainName second.1 → first.2 = second.2) := by
  intro loading arrivals
  obtain ⟨ended, gathered, -⟩ :=
    source.loader_adds component data listed plain (not_fails_unnamed unnamed signed)
  -- What arrived is merged in order, so that the last of a name is there.
  have shown (name : String) : Mapping.get? name loading.data.fetched
      = (lastUnder name arrivals).or (Mapping.get? name data.fetched) := by
    rw [show loading.data = _ from gathered, deliveries_unnamed unnamed]
    exact get?_merge_arrivals name data.fetched arrivals
  refine ⟨ended, shown, Iff.trans ?_ all_lastUnder_iff⟩
  refine forall₂_congr fun arrival inside => ?_
  obtain ⟨last, -, -, found⟩ := lastUnder_of_mem inside
  rw [shown, found, Option.some_or]

/-- A network that answers every request with its address. -/
def echo : Source :=
  ⟨⟨fun _ request => .answered (some (.str request.address)), [("cms", "https://cms.example")],
    .null⟩, [], fun _ => none⟩

/-- The entries that fetch some endpoints. -/
def fetchingEach (endpoints : List String) : List Value :=
  endpoints.map fun endpoint => .mapping (fetchingFrom "get_type" endpoint .null)

theorem isPlain_fetchingEach (endpoints : List String) :
    ∀ entry ∈ fetchingEach endpoints, entry.IsPlain := by
  intro entry listed
  obtain ⟨endpoint, -, rfl⟩ := List.mem_map.mp listed
  exact isPlain_fetchingFrom "get_type" endpoint .null

theorem isUnnamed_fetchingEach (endpoints : List String) :
    ∀ fields, .mapping fields ∈ fetchingEach endpoints → IsUnnamed fields := by
  intro fields listed _
  obtain ⟨endpoint, -, same⟩ := List.mem_map.mp listed
  cases same
  cbv

theorem not_unsigned_fetchingEach (endpoints : List String) :
    ∀ fields, .mapping fields ∈ fetchingEach endpoints → ¬ source.Unsigned fields := by
  intro fields listed unsigned
  obtain ⟨endpoint, -, same⟩ := List.mem_map.mp listed
  cases same
  have unposted :
      (Field.postType.value (fetchingFrom "get_type" endpoint .null)).isTrue = false := by cbv
  exact absurd unsigned.posted (by rw [unposted]; exact Bool.false_ne_true)

theorem arrival?_echo {endpoint : String} (nonempty : endpoint ≠ "") :
    arrival? (.mapping (fetchingFrom "get_type" endpoint .null),
        echo.arriving? [] (.mapping (fetchingFrom "get_type" endpoint .null)))
      = some (endpoint, .str ("https://cms.example" ++ endpoint)) := by
  have group : Field.dataGroup.text (fetchingFrom "get_type" endpoint .null) = "cms" := by cbv
  have asked : isFetched (fetchingFrom "get_type" endpoint .null) = true := by cbv
  have given : Field.dataSource.value (fetchingFrom "get_type" endpoint .null) = .str endpoint := by
    cbv
  have named : Field.dataSource.text (fetchingFrom "get_type" endpoint .null) = endpoint := by
    simp [Field.text, given, Value.isTrue, Value.plain, nonempty]
  have arrives : echo.arriving? [] (.mapping (fetchingFrom "get_type" endpoint .null))
      = some (.str ("https://cms.example" ++ endpoint)) := by
    rw [arriving?, request?, asked, group, named]
    rfl
  rw [arrives, arrival?, named]

theorem arrivals_echo {endpoints : List String} (nonempty : ∀ endpoint ∈ endpoints, endpoint ≠ "") :
    (echo.served [] (fetchingEach endpoints)).filterMap arrival?
      = endpoints.map fun endpoint => (endpoint, .str ("https://cms.example" ++ endpoint)) := by
  rw [served_of_steady fun _ _ => rfl, List.filterMap_map, fetchingEach, List.filterMap_map]
  exact List.filterMap_eq_map_iff_forall_eq_some.mpr fun endpoint listed =>
    arrival?_echo (nonempty endpoint listed)

/-- Two endpoints of a group differ in a character that is no word character: both arrive, and only
the second one can be seen. -/
theorem loader_hides :
    let loading := echo.loader (listing (fetchingEach ["/a-b", "/ab"])) .fresh
    (echo.served [] (fetchingEach ["/a-b", "/ab"])).filterMap arrival?
      = [("/a-b", .str "https://cms.example/a-b"), ("/ab", .str "https://cms.example/ab")] ∧
    loading.outcome = .ok () ∧
    loading.data.fetched = [(.str "ab", .str "https://cms.example/ab")] := by
  intro loading
  have arrivals : (echo.served [] (fetchingEach ["/a-b", "/ab"])).filterMap arrival?
      = [("/a-b", .str "https://cms.example/a-b"), ("/ab", .str "https://cms.example/ab")] := by
    rw [arrivals_echo (by decide)]
    rfl
  obtain ⟨ended, gathered, -⟩ := echo.loader_adds _ .fresh (get?_listing _)
    (isPlain_fetchingEach ["/a-b", "/ab"])
    (not_fails_unnamed (isUnnamed_fetchingEach _) (not_unsigned_fetchingEach _))
  refine ⟨arrivals, ended, ?_⟩
  rw [show loading.data = _ from gathered, deliveries_unnamed (isUnnamed_fetchingEach _), arrivals]
  cbv

/-- What arrives last under a name is shown; with a third endpoint, the first of them is still not
visible. -/
theorem loader_shows_last_echo :
    let loading := echo.loader (listing (fetchingEach ["/a-b", "/c", "/ab"])) .fresh
    loading.outcome = .ok () ∧
    Mapping.get? "ab" loading.data.fetched = some (.str "https://cms.example/ab") ∧
    Mapping.get? "c" loading.data.fetched = some (.str "https://cms.example/c") ∧
    ¬ ∀ arrival ∈ (echo.served [] (fetchingEach ["/a-b", "/c", "/ab"])).filterMap arrival?,
      Mapping.get? (plainName arrival.1) loading.data.fetched = some arrival.2 := by
  intro loading
  obtain ⟨ended, shown, visible⟩ := echo.loader_shows_last
    (listing (fetchingEach ["/a-b", "/c", "/ab"])) .fresh (get?_listing _) (isPlain_fetchingEach _)
    (isUnnamed_fetchingEach _) (not_unsigned_fetchingEach _)
  rw [arrivals_echo (by decide)] at shown visible ⊢
  refine ⟨ended, ?_, ?_, fun all => ?_⟩
  · rw [shown]
    cbv
  · rw [shown]
    cbv
  · have alike := visible.mp all ("/a-b", .str "https://cms.example/a-b") (by simp)
      ("/ab", .str "https://cms.example/ab") (by simp) (by cbv)
    simp at alike

end StaticSite.Api.Source
