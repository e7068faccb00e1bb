import StaticSite.Proofs.Api.Serving

/-!
# What loading comes to

Each entry of a component's list adds its part and leaves what the others have added: data that
arrives is written over what was there, and a source that is posted to gives a script. So the list
comes to the data and the scripts of its entries, in their order. An entry that brings nothing may
as well be missing, and it does not matter in which of its spellings a field is given.
-/

namespace StaticSite.Api.Source

variable {source : Source} {component : Component} {entry : Mapping.Entries}

/-! ### Entries that bring nothing -/

/-- A served entry that brings nothing: it is no mapping, or no data has arrived for it and it is not
posted to. -/
inductive Idle : Value × Option Value → Prop where
  | malformed {entry : Value} {data? : Option Value} (other : ∀ fields, entry ≠ .mapping fields) :
      Idle (entry, data?)
  | barren {fields : Mapping.Entries} (unposted : (Field.postType.value fields).isTrue = false) :
      Idle (.mapping fields, none)

/-- A list of served entries without some of those that bring nothing. -/
inductive Thinned : List (Value × Option Value) → List (Value × Option Value) → Prop where
  | nil : Thinned [] []
  | keep {pair : Value × Option Value} {all less : List (Value × Option Value)}
      (rest : Thinned all less) : Thinned (pair :: all) (pair :: less)
  | drop {pair : Value × Option Value} {all less : List (Value × Option Value)} (idle : Idle pair)
      (rest : Thinned all less) : Thinned (pair :: all) less

namespace Idle

variable {pair : Value × Option Value}

theorem delivery?_eq (idle : Idle pair) : delivery? pair = none := by
  cases idle with
  | @malformed entry data? other =>
    cases entry with
    | mapping fields => exact absurd rfl (other fields)
    | _ => rfl
  | barren unposted => rfl

theorem script?_eq (source : Source) (idle : Idle pair) : source.script? pair.1 = none := by
  cases idle with
  | @malformed entry data? other =>
    cases entry with
    | mapping fields => exact absurd rfl (other fields)
    | _ => rfl
  | barren unposted => simp [script?, unposted]

end Idle

namespace Thinned

variable {all less : List (Value × Option Value)}

/-- What finds nothing in an entry that brings nothing finds the same without it. -/
theorem filterMap_eq {β : Type} {f : Value × Option Value → Option β}
    (nothing : ∀ pair, Idle pair → f pair = none) (thinned : Thinned all less) :
    less.filterMap f = all.filterMap f := by
  induction thinned with
  | nil => rfl
  | keep rest ih => rw [filterMap_cons_append, filterMap_cons_append, ih]
  | drop idle rest ih => rw [List.filterMap_cons_none (nothing _ idle), ih]

theorem filterMap_map_fst {β : Type} {f : Value → Option β}
    (nothing : ∀ pair, Idle pair → f pair.1 = none) (thinned : Thinned all less) :
    (less.map Prod.fst).filterMap f = (all.map Prod.fst).filterMap f := by
  rw [List.filterMap_map, List.filterMap_map]
  exact thinned.filterMap_eq nothing

theorem mem {pair : Value × Option Value} (thinned : Thinned all less) (listed : pair ∈ less) :
    pair ∈ all := by
  induction thinned with
  | nil => exact listed
  | keep rest ih =>
    rcases List.mem_cons.mp listed with rfl | listed
    · exact List.mem_cons_self
    · exact List.mem_cons_of_mem _ (ih listed)
  | drop idle rest ih => exact List.mem_cons_of_mem _ (ih listed)

end Thinned

/-! ### Fields in another spelling -/

/-- Puts what stands under one name under another one. -/
def rename (old new : String) (entry : Mapping.Entries) : Mapping.Entries :=
  entry.map fun pair => if pair.1.text? = some old then (.str new, pair.2) else pair

/-- The fields that entries are read for. -/
def fields : List Field :=
  [.dataGroup, .dataSource, .getType, .injectAs, .postType, .postName]

/-- A key is spelled in another way: the first name of a field becomes its other one, or neither
name is one of a field. -/
inductive Respelling : String → String → Prop where
  | field {field : Field} (listed : field ∈ fields) : Respelling field.name field.otherName
  | unread {old new : String}
      (before : ∀ field ∈ fields, old ≠ field.name ∧ old ≠ field.otherName)
      (after : ∀ field ∈ fields, new ≠ field.name ∧ new ≠ field.otherName) : Respelling old new

/-- An entry with some of its keys in another spelling, one after the other. No key takes the place
of one that is there. -/
inductive Respelled : Value → Value → Prop where
  | same (entry : Value) : Respelled entry entry
  | key {entry : Mapping.Entries} {old new : String} {other : Value}
      (spelled : Respelling old new) (lacking : Mapping.get? new entry = none)
      (rest : Respelled (.mapping (rename old new entry)) other) :
      Respelled (.mapping entry) other

@[simp] theorem text?_str (name : String) : (Value.str name).text? = some name := rfl

theorem get?_rename_of_ne {name old new : String} (apart : name ≠ old) (differs : name ≠ new)
    (entry : Mapping.Entries) :
    Mapping.get? name (rename old new entry) = Mapping.get? name entry := by
  induction entry with
  | nil => rfl
  | cons pair rest ih =>
    rw [rename, List.map_cons, Mapping.get?_cons, Mapping.get?_cons, ← ih, rename]
    by_cases here : pair.1.text? = some old
    · simp [here, apart.symm, differs.symm]
    · rw [if_neg here]

theorem get?_rename_old {old new : String} (apart : old ≠ new) (entry : Mapping.Entries) :
    Mapping.get? old (rename old new entry) = none := by
  induction entry with
  | nil => rfl
  | cons pair rest ih =>
    rw [rename] at ih
    rw [rename, List.map_cons, Mapping.get?_cons, ih]
    by_cases here : pair.1.text? = some old
    · simp [here, apart.symm]
    · simp [here]

theorem get?_rename_new {old new : String} {entry : Mapping.Entries}
    (lacking : Mapping.get? new entry = none) :
    Mapping.get? new (rename old new entry) = Mapping.get? old entry := by
  induction entry with
  | nil => rfl
  | cons pair rest ih =>
    rw [Mapping.get?_cons] at lacking
    split at lacking
    next => contradiction
    next other =>
      rw [rename, List.map_cons, Mapping.get?_cons, Mapping.get?_cons, ← ih lacking, rename]
      by_cases here : pair.1.text? = some old
      · simp [here]
      · simp [here, other]

/-- No two fields share a name, and the two names of a field differ. -/
theorem fields_apart : ∀ first ∈ fields, first.name ≠ first.otherName ∧ ∀ second ∈ fields,
    (second.name = first.name ∧ second.otherName = first.otherName) ∨
    (second.name ≠ first.name ∧ second.name ≠ first.otherName ∧
      second.otherName ≠ first.name ∧ second.otherName ≠ first.otherName) := by
  decide

theorem value_rename {old new : String} {field : Field} (spelled : Respelling old new)
    (lacking : Mapping.get? new entry = none) (listed : field ∈ fields) :
    field.value (rename old new entry) = field.value entry := by
  cases spelled with
  | @field first inside =>
    obtain ⟨differ, others⟩ := fields_apart first inside
    rcases others field listed with ⟨name, otherName⟩ | ⟨one, two, three, four⟩
    · -- The field itself: found under its other name now, and only there.
      rw [Field.value, Field.value, name, otherName, get?_rename_old differ,
        get?_rename_new lacking, lacking]
      cases Mapping.get? first.name entry <;> rfl
    · rw [Field.value, Field.value, get?_rename_of_ne one two, get?_rename_of_ne three four]
  | unread before after =>
    obtain ⟨one, three⟩ := before field listed
    obtain ⟨two, four⟩ := after field listed
    rw [Field.value, Field.value, get?_rename_of_ne one.symm two.symm,
      get?_rename_of_ne three.symm four.symm]

/-- What becomes of an entry depends on the values of its fields only. -/
theorem gatherEntry_congr {first second : Mapping.Entries} {other : Component}
    (same : ∀ field ∈ fields, field.value first = field.value second) :
    source.gatherEntry component (.mapping first) = source.gatherEntry other (.mapping second) := by
  simp only [fields, List.forall_mem_cons] at same
  obtain ⟨group, endpoint, kind, inject, post, name, -⟩ := same
  -- Every step reads the entry through one of these fields.
  have asked : isFetched first = isFetched second := by rw [isFetched, kind, isFetched]
  have groups : Field.dataGroup.text first = Field.dataGroup.text second := by
    rw [Field.text, group, Field.text]
  have endpoints : Field.dataSource.text first = Field.dataSource.text second := by
    rw [Field.text, endpoint, Field.text]
  have keys : Field.injectAs.valueOr first = Field.injectAs.valueOr second := by
    funext other
    rw [Field.valueOr, inject, Field.valueOr]
  have names : Field.postName.valueOr first = Field.postName.valueOr second := by
    funext other
    rw [Field.valueOr, name, Field.valueOr]
  have fetched : source.fetchInto first = source.fetchInto second := by
    unfold fetchInto
    rw [groups, endpoints, keys]
  have posted : source.postScript first = source.postScript second := by
    unfold postScript
    rw [groups, endpoints, names]
  rw [gatherEntry_mapping, gatherEntry_mapping, asked, fetched, post, posted]

theorem gatherEntry_respelled {first second : Value} {other : Component}
    (named : other.name = component.name) (respelled : Respelled first second) :
    source.gatherEntry component first = source.gatherEntry other second := by
  induction respelled with
  | same entry =>
    cases entry with
    | mapping fields => exact gatherEntry_congr fun _ _ => rfl
    | _ => simp only [gatherEntry, named]
  | key spelled lacking _ ih =>
    -- One key at a time: whatever is read of the entry is still there.
    rw [← ih]
    exact gatherEntry_congr fun field listed => (value_rename spelled lacking listed).symm

theorem gatherAll_respelled {entries others : List Value} {other : Component}
    (named : other.name = component.name) (respelled : List.Forall₂ Respelled entries others) :
    source.gatherAll component entries = source.gatherAll other others := by
  induction respelled with
  | nil => rfl
  | cons first _ ih => rw [gatherAll, gatherAll, gatherEntry_respelled named first, ih]

/-! ### The whole list -/

/-- An entry that asks for its data under a text, or under no name of its own, can be stored, and
the token of a group that is named by a text can be looked up. -/
theorem not_fails {entries : List Value}
    (keyed : ∀ fields, .mapping fields ∈ entries →
      Field.injectAs.value fields = .null ∨ ∃ name, Field.injectAs.value fields = .str name)
    (signed : ∀ fields, ¬ source.Unsigned fields) :
    ∀ pair ∈ source.served [] entries, ¬ source.Fails pair := by
  intro pair listed fails
  have entry := mem_of_mem_served listed
  cases fails with
  | unstorable noKey =>
    rcases keyed _ entry with none | ⟨name, text⟩
    · rw [none] at noKey
      contradiction
    · rw [text] at noKey
      contradiction
  | unsigned unsigned => exact signed _ unsigned

theorem not_unsigned (signed : ∀ group settings name,
      Mapping.get? group source.auth = some (.mapping settings) →
      Mapping.get? "token" settings = some name → ∃ text, name = .str text)
    (fields : Mapping.Entries) : ¬ source.Unsigned fields := by
  intro unsigned
  obtain ⟨settings, name, found, given, -, other⟩ := unsigned.named
  obtain ⟨text, same⟩ := signed _ settings name found given
  exact other text same

theorem isSome_script? {entry : Value} (plain : entry.IsPlain)
    (signed : ∀ fields, ¬ source.Unsigned fields) :
    (source.script? entry).isSome = isPosted entry := by
  cases entry with
  | mapping fields =>
    rw [script?, isPosted]
    split
    next asked =>
      obtain ⟨script, written⟩ := postScript_succeeds plain asked (signed fields)
      rw [written, asked]
      rfl
    next other => exact (Bool.eq_false_iff.mpr other).symm
  | _ => rfl

/-- The same source on another network. -/
def onNetwork (source : Source) (network : Network) : Source :=
  { source with client := { source.client with network := network } }

/-- The network that answers one request after the other with some data. -/
def replaying (answers : List (Option Value)) : Network := fun sent _ =>
  .answered (answers[sent.length]?.getD none)

/-- What is to arrive for the requests of some entries. -/
def answers (source : Source) (pairs : List (Value × Option Value)) : List (Option Value) :=
  pairs.filterMap fun pair => (source.request? pair.1).map fun _ => pair.2

theorem served_replaying {pairs : List (Value × Option Value)}
    (unasked : ∀ pair ∈ pairs, source.request? pair.1 = none → pair.2 = none)
    (before : List (Option Value)) (sent : List Request) (same : before.length = sent.length) :
    (source.onNetwork (replaying (before ++ source.answers pairs))).served sent
      (pairs.map Prod.fst) = pairs := by
  induction pairs generalizing before sent with
  | nil => rfl
  | cons pair rest ih =>
    obtain ⟨entry, data?⟩ := pair
    obtain ⟨here, later⟩ := List.forall_mem_cons.mp unasked
    have request (network : Network) :
        (source.onNetwork network).request? entry = source.request? entry := by
      cases entry <;> rfl
    -- The answers to the rest follow the one to this entry, if there is one.
    have next := ih later (before ++ ((source.request? entry).map fun _ => data?).toList)
      (sent ++ (source.request? entry).toList) (by cases source.request? entry <;> simp [same])
    rw [List.append_assoc] at next
    rw [answers, filterMap_cons_append, ← answers, List.map_cons, served, request, next, arriving?,
      request]
    cases asked : source.request? entry with
    | none =>
      rw [show data? = none from here asked]
      rfl
    | some request' => simp [onNetwork, replaying, Response.data?, ← same]

/-- Whatever is to arrive for the entries that requests are sent for, some network serves it. -/
theorem exists_serving {pairs : List (Value × Option Value)}
    (unasked : ∀ pair ∈ pairs, source.request? pair.1 = none → pair.2 = none) :
    ∃ network, (source.onNetwork network).served [] (pairs.map Prod.fst) = pairs :=
  ⟨_, served_replaying unasked [] [] rfl⟩

/-- Scripts are written without the network. -/
theorem script?_onNetwork (network : Network) :
    (source.onNetwork network).script? = source.script? := by
  funext entry
  cases entry <;> rfl

variable (source) (component) in
/-- Each entry of a list does its part, whatever comes of the others. If entries ask for their data
under texts or not by name, and tokens are named by texts, then loading goes through for entries of
all kinds, all answers of the network and whatever was there before: one request after the other is
sent for the entries that are fetched, the data is written over with what arrives, in the order of
the list, and the scripts are one for each entry that is posted to, in that order. Taking out entries
that bring nothing changes neither data nor scripts, if the others are served as before, and giving
keys in their other spelling changes nothing at all. -/
theorem loader_gathers {entries : List Value} (data : Component.Data)
    (listed : Mapping.get? "api" component.config = some (.list entries))
    (plain : ∀ entry ∈ entries, entry.IsPlain)
    (keyed : ∀ fields, .mapping fields ∈ entries →
      Field.injectAs.value fields = .null ∨ ∃ name, Field.injectAs.value fields = .str name)
    (signed : ∀ group settings name, Mapping.get? group source.auth = some (.mapping settings) →
      Mapping.get? "token" settings = some name → ∃ text, name = .str text) :
    let loading := source.loader component data
    (loading.outcome = .ok () ∧
      loading.data = { data with
        fetched := Mapping.merge data.fetched ((source.served [] entries).filterMap delivery?)
        scripts := entries.filterMap source.script? } ∧
      loading.journal.requests = entries.filterMap source.request? ∧
      ∀ entry ∈ entries, (source.script? entry).isSome = isPosted entry) ∧
    (∀ (other : Component) (network : Network) (rest : List Value),
      Mapping.get? "api" other.config = some (.list rest) →
      Thinned (source.served [] entries) ((source.onNetwork network).served [] rest) →
      ((source.onNetwork network).loader other data).outcome = .ok () ∧
      ((source.onNetwork network).loader other data).data = loading.data) ∧
    ∀ (other : Component) (others : List Value),
      Mapping.get? "api" other.config = some (.list others) → other.name = component.name →
      List.Forall₂ Respelled entries others → source.loader other data = loading := by
  intro loading
  have written := not_unsigned signed
  obtain ⟨ended, gathered, asked⟩ :=
    source.loader_adds component data listed plain (not_fails keyed written)
  refine ⟨⟨ended, gathered, asked, fun entry inside => isSome_script? (plain entry inside) written⟩,
    fun other network rest left thinned => ?_, fun other others given named respelled => ?_⟩
  · have inside : ∀ entry ∈ rest, entry ∈ entries := by
      intro entry kept
      rw [← (source.onNetwork network).map_fst_served [] rest] at kept
      obtain ⟨pair, served, rfl⟩ := List.mem_map.mp kept
      exact mem_of_mem_served (thinned.mem served)
    obtain ⟨goes, less, -⟩ := (source.onNetwork network).loader_adds other data left
      (fun entry kept => plain entry (inside entry kept))
      (not_fails (fun fields kept => keyed fields (inside _ kept)) (not_unsigned signed))
    -- What brings nothing delivers nothing and writes no script, so neither list loses by it.
    have fetched := thinned.filterMap_eq (f := delivery?) fun _ idle => idle.delivery?_eq
    have scripts := thinned.filterMap_map_fst fun _ idle => idle.script?_eq source
    rw [map_fst_served, map_fst_served] at scripts
    rw [script?_onNetwork, fetched, scripts] at less
    exact ⟨goes, less.trans gathered.symm⟩
  · -- A respelled list is gathered step by step like the list itself.
    have same : source.gather other = source.gather component := by
      simp only [gather, given, listed, gatherAll_respelled named respelled]
    show (source.loader other data) = source.loader component data
    rw [loader, same]
    rfl

/-- A network that answers its first request, if that is for the address it knows. -/
def partly : Source :=
  ⟨⟨fun sent request =>
      if request.address = "https://cms.example/posts" ∧ sent.isEmpty then
        .answered (some (.list [.int 1])) else .failed "no route",
    [("cms", "https://cms.example")], .null⟩, [], fun _ => none⟩

theorem network_partly (sent : List Request) (request : Request) :
    partly.client.network sent request
      = if request.address = "https://cms.example/posts" ∧ sent.isEmpty then
          .answered (some (.list [.int 1])) else .failed "no route" := rfl

/-- An entry that fetches an endpoint, with a script if it is posted to. -/
def fetchingFrom (kind endpoint : String) (post : Value) : Mapping.Entries :=
  [(.str "data_group", .str "cms"), (.str kind, .str "static"), (.str "data_source", .str endpoint),
    (.str "post_type", post)]

def listing (entries : List Value) : Component :=
  { (default : Component) with config := [(.str "api", .list entries)] }

/-- A malformed entry, one that is fetched, one whose data does not arrive and that is posted to,
and one that asks again for what has been fetched. -/
def mixed (kind : String) : List Value :=
  [.str "posts", .mapping (fetchingFrom kind "/posts" .null),
    .mapping (fetchingFrom kind "/gone" (.str "json")), .mapping (fetchingFrom kind "/posts" .null)]

theorem get?_listing (entries : List Value) :
    Mapping.get? "api" (listing entries).config = some (.list entries) := by
  simp [listing, Mapping.get?_cons]

theorem isPlain_fetchingFrom (kind endpoint : String) {post : Value} (plain : post.IsPlain) :
    (Value.mapping (fetchingFrom kind endpoint post)).IsPlain := by
  refine Mapping.isPlain_mapping.mpr fun field listed => ?_
  simp only [fetchingFrom, List.mem_cons, List.not_mem_nil, or_false] at listed
  rcases listed with rfl | rfl | rfl | rfl
  · exact ⟨⟨_, rfl⟩, .str _⟩
  · exact ⟨⟨_, rfl⟩, .str _⟩
  · exact ⟨⟨_, rfl⟩, .str _⟩
  · exact ⟨⟨_, rfl⟩, plain⟩

theorem respelled_fetchingFrom (endpoint : String) (post : Value) :
    Respelled (.mapping (fetchingFrom "get_type" endpoint post))
      (.mapping (fetchingFrom "getType" endpoint post)) := by
  have listed : Field.getType ∈ fields := by simp [fields]
  refine .key (.field listed) (by cbv) ?_
  have renamed : rename Field.getType.name Field.getType.otherName
      (fetchingFrom "get_type" endpoint post) = fetchingFrom "getType" endpoint post := by
    simp [rename, fetchingFrom, Field.getType]
  rw [renamed]
  exact .same _

/-- The entries of the list that bring something. -/
def bringing : List Value :=
  [.mapping (fetchingFrom "get_type" "/posts" .null),
    .mapping (fetchingFrom "get_type" "/gone" (.str "json"))]

theorem request?_fetchingFrom {endpoint : String} {post : Value}
    (named : Field.dataSource.text (fetchingFrom "get_type" endpoint post) = endpoint) :
    partly.request? (.mapping (fetchingFrom "get_type" endpoint post))
      = some ⟨"https://cms.example" ++ endpoint, .null⟩ := by
  have group : Field.dataGroup.text (fetchingFrom "get_type" endpoint post) = "cms" := by cbv
  have asked : isFetched (fetchingFrom "get_type" endpoint post) = true := by cbv
  rw [request?, asked, group, named]
  rfl

theorem request?_posts : partly.request? (.mapping (fetchingFrom "get_type" "/posts" .null))
    = some ⟨"https://cms.example/posts", .null⟩ :=
  request?_fetchingFrom (by cbv)

theorem request?_gone : partly.request? (.mapping (fetchingFrom "get_type" "/gone" (.str "json")))
    = some ⟨"https://cms.example/gone", .null⟩ :=
  request?_fetchingFrom (by cbv)

theorem served_mixed : partly.served [] (mixed "get_type")
    = [(.str "posts", none),
      (.mapping (fetchingFrom "get_type" "/posts" .null), some (.list [.int 1])),
      (.mapping (fetchingFrom "get_type" "/gone" (.str "json")), none),
      (.mapping (fetchingFrom "get_type" "/posts" .null), none)] := by
  have malformed : partly.request? (.str "posts") = none := rfl
  simp [mixed, served, arriving?, malformed, request?_posts, request?_gone, network_partly,
    Response.data?]

theorem served_bringing : partly.served [] bringing
    = [(.mapping (fetchingFrom "get_type" "/posts" .null), some (.list [.int 1])),
      (.mapping (fetchingFrom "get_type" "/gone" (.str "json")), none)] := by
  simp [bringing, served, arriving?, request?_posts, request?_gone, network_partly, Response.data?]

theorem delivery?_posts (body : Value) :
    delivery? (.mapping (fetchingFrom "get_type" "/posts" .null), some body)
      = some (.str "posts", body) := by
  have named : Field.dataSource.text (fetchingFrom "get_type" "/posts" .null) = "/posts" := by cbv
  have unnamed : Field.injectAs.value (fetchingFrom "get_type" "/posts" .null) = .null := by cbv
  rw [delivery?, key, named, Field.valueOr, unnamed]
  rfl

/-- One entry brings data and another one a script; the other two may be missing, though one of them
asks for what has been answered before. -/
theorem loader_gathers_partly :
    ((partly.loader (listing (mixed "get_type")) .fresh).data.fetched
        = [(.str "posts", .list [.int 1])] ∧
      (partly.loader (listing (mixed "get_type")) .fresh).data.scripts.length = 1) ∧
    (partly.loader (listing bringing) .fresh).data
      = (partly.loader (listing (mixed "get_type")) .fresh).data ∧
    partly.loader (listing (mixed "getType")) .fresh
      = partly.loader (listing (mixed "get_type")) .fresh := by
  have plain : ∀ entry ∈ mixed "get_type", entry.IsPlain := by
    simp only [mixed, List.forall_mem_cons, List.not_mem_nil, false_implies, implies_true, and_true]
    exact ⟨.str _, isPlain_fetchingFrom _ _ .null, isPlain_fetchingFrom _ _ (.str _),
      isPlain_fetchingFrom _ _ .null⟩
  have keyed : ∀ fields, .mapping fields ∈ mixed "get_type" →
      Field.injectAs.value fields = .null ∨ ∃ name, Field.injectAs.value fields = .str name := by
    intro fields listed
    simp only [mixed, List.mem_cons, List.not_mem_nil, or_false, Value.mapping.injEq, reduceCtorEq,
      false_or] at listed
    have unnamed (endpoint : String) (post : Value) :
        Field.injectAs.value (fetchingFrom "get_type" endpoint post) = .null := by cbv
    rcases listed with rfl | rfl | rfl <;> exact .inl (unnamed _ _)
  have signed : ∀ group settings name,
      Mapping.get? group partly.auth = some (.mapping settings) →
      Mapping.get? "token" settings = some name → ∃ text, name = .str text := by
    intro group settings name found
    contradiction
  obtain ⟨⟨-, gathered, -, scripts⟩, less, spelled⟩ :=
    partly.loader_gathers (listing (mixed "get_type")) .fresh (get?_listing _) plain keyed signed
  have posted (endpoint : String) (post : Value) :
      isPosted (.mapping (fetchingFrom "get_type" endpoint post)) = post.isTrue := by cbv
  refine ⟨⟨?_, ?_⟩, ?_, ?_⟩
  · -- Of the four entries only the second one brings data.
    rw [gathered, served_mixed]
    simp only [filterMap_cons_append, delivery?_posts, List.filterMap_nil]
    rfl
  · -- Only the third one is posted to.
    rw [gathered, List.length_filterMap_eq_countP, List.countP_congr fun entry listed => by
      rw [scripts entry listed]]
    have unposted : isPosted (.str "posts") = false := rfl
    simp [mixed, unposted, posted, Value.isTrue]
  · have thinned : Thinned (partly.served [] (mixed "get_type")) (partly.served [] bringing) := by
      rw [served_mixed, served_bringing]
      have unposted := posted "/posts" .null
      refine .drop (.malformed fun fields same => ?_) (.keep (.keep (.drop (.barren unposted) .nil)))
      cases same
    exact (less (listing bringing) partly.client.network _ (get?_listing _) thinned).2
  · refine spelled _ _ (get?_listing _) rfl ?_
    exact .cons (.same _) (.cons (respelled_fetchingFrom _ _) (.cons (respelled_fetchingFrom _ _)
      (.cons (respelled_fetchingFrom _ _) .nil)))

end StaticSite.Api.Source
