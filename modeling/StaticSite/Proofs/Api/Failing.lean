import StaticSite.Proofs.Api.Serving
import StaticSite.Proofs.Component.Discovery

/-!
# When loading fails

Nothing that the network answers makes loading fail by itself. Two settings do: data that arrives and
is to be stored under a list or a mapping, which cannot be a key, and a group whose token is named by
something that is no text. An entry with one of them fails the whole load; every other entry that
JSON can express goes through. Texts are of characters, so that half of a surrogate pair, which the
environment could not be asked for, does not occur in a name.
-/

namespace StaticSite.Api.Source

variable (source : Source) (component : Component)

/-- Without a list of sources there is nothing to do. -/
theorem loader_unlisted (data : Component.Data)
    (unlisted : ∀ entries, Mapping.get? "api" component.config ≠ some (.list entries)) :
    (source.loader component data).outcome = .ok () := by
  have idle : source.gather component = pure () := by
    unfold gather
    split
    next entries found => exact absurd found (unlisted entries)
    next => rfl
  rw [loader, idle]
  rfl

/-- Some entry of the list of a component fails. -/
def HasFailing : Prop :=
  ∃ entries, Mapping.get? "api" component.config = some (.list entries) ∧
    ∃ pair ∈ source.served [] entries, source.Fails pair

/-- Loading goes through, or an entry fails and something has the wrong type. -/
theorem loader_ends (data : Component.Data) (plain : (Value.mapping component.config).IsPlain) :
    ¬ source.HasFailing component ∧ (source.loader component data).outcome = .ok () ∨
    source.HasFailing component ∧ (source.loader component data).outcome = .error .wrongType := by
  have each {entries : List Value}
      (found : Mapping.get? "api" component.config = some (.list entries)) :
      ∀ entry ∈ entries, entry.IsPlain := by
    cases Mapping.isPlain_get? plain found with
    | list each => exact each
  by_cases failing : source.HasFailing component
  · obtain ⟨entries, found, fails⟩ := failing
    have refused := source.loader_refuses component data found (each found) fails
    exact .inr ⟨⟨entries, found, fails⟩, refused⟩
  refine .inl ⟨failing, ?_⟩
  -- A component without a list has nothing that could fail.
  by_cases listed : ∃ entries, Mapping.get? "api" component.config = some (.list entries)
  · obtain ⟨entries, found⟩ := listed
    refine (source.loader_adds component data found (each found) fun pair inside fails => ?_).1
    exact failing ⟨entries, found, pair, inside, fails⟩
  · exact source.loader_unlisted component data fun entries found => listed ⟨entries, found⟩

/-- The components that are found on a disk can be loaded unless one of their entries fails. -/
theorem discovered_loads {disk : Disk} {roots : List Path} {registry : Registry}
    (found : (Registry.discover disk roots).outcome = .ok registry) :
    ∀ component ∈ registry.components, ¬ source.HasFailing component →
      ∀ data, (source.loader component data).outcome = .ok () := by
  intro component listed fine data
  have plain := Component.isPlain_of_discover found component listed
  rcases source.loader_ends component data plain with ⟨-, goes⟩ | ⟨failing, -⟩
  · exact goes
  · exact absurd failing fine

/-- Loading goes through for every configuration that JSON can express, every environment and every
answer of the network, unless an entry asks for data under a list or a mapping and the data arrives,
or asks for a script while the token of its group is named by something else than a text. -/
theorem loader_ok_iff (data : Component.Data) (plain : (Value.mapping component.config).IsPlain) :
    (source.loader component data).outcome = .ok () ↔
      ∀ entries, Mapping.get? "api" component.config = some (.list entries) →
        ∀ pair ∈ source.served [] entries, ¬ source.Fails pair := by
  have all : (∀ entries, Mapping.get? "api" component.config = some (.list entries) →
      ∀ pair ∈ source.served [] entries, ¬ source.Fails pair) ↔ ¬ source.HasFailing component := by
    simp only [HasFailing, not_exists, not_and]
  rw [all]
  rcases source.loader_ends component data plain with ⟨fine, goes⟩ | ⟨failing, refuses⟩
  · exact ⟨fun _ => fine, fun _ => goes⟩
  · refine ⟨fun goes => ?_, fun fine => absurd failing fine⟩
    rw [refuses] at goes
    contradiction

/-- A network that answers every request with a list. -/
def answering : Source :=
  ⟨⟨fun _ _ => .answered (some (.list [.int 1])), [("cms", "https://cms.example")], .null⟩, [],
    fun _ => none⟩

/-- A fetched source whose data goes under a key. -/
def fetchedEntry (key : Value) : Mapping.Entries :=
  [(.str "data_group", .str "cms"), (.str "data_source", .str "/posts"),
    (.str "get_type", .str "static"), (.str "inject_as", key)]

def fetching (key : Value) : Component :=
  { (default : Component) with config := [(.str "api", .list [.mapping (fetchedEntry key)])] }

theorem isPlain_fetching {key : Value} (plain : key.IsPlain) :
    (Value.mapping (fetching key).config).IsPlain := by
  have entry : (Value.mapping (fetchedEntry key)).IsPlain := by
    refine Mapping.isPlain_mapping.mpr fun field listed => ?_
    simp only [fetchedEntry, List.mem_cons, List.not_mem_nil, or_false] at listed
    rcases listed with rfl | rfl | rfl | rfl
    · exact ⟨⟨_, rfl⟩, .str _⟩
    · exact ⟨⟨_, rfl⟩, .str _⟩
    · exact ⟨⟨_, rfl⟩, .str _⟩
    · exact ⟨⟨_, rfl⟩, plain⟩
  refine Mapping.isPlain_mapping.mpr (List.forall_mem_singleton.mpr ⟨⟨_, rfl⟩, .list ?_⟩)
  exact List.forall_mem_singleton.mpr entry

theorem get?_fetching (key : Value) :
    Mapping.get? "api" (fetching key).config = some (.list [.mapping (fetchedEntry key)]) := by
  simp [fetching, Mapping.get?_cons, Value.text?]

theorem injectAs_fetchedEntry (key : Value) : Field.injectAs.value (fetchedEntry key) = key := by
  simp [Field.value, Field.injectAs, fetchedEntry, Mapping.get?_cons, Value.text?]

/-- Data is stored under a text, and not under a list. -/
theorem loader_ok_iff_fetching :
    (answering.loader (fetching (.str "posts")) .fresh).outcome = .ok () ∧
    (answering.loader (fetching (.list [.str "posts"])) .fresh).outcome ≠ .ok () := by
  constructor
  · refine (answering.loader_ok_iff _ .fresh (isPlain_fetching (.str _))).mpr ?_
    intro entries found pair inside fails
    cases (get?_fetching _).symm.trans found
    have entry := mem_of_mem_served inside
    cases fails with
    | @unstorable fields _ noKey =>
      cases List.mem_singleton.mp entry
      rw [injectAs_fetchedEntry] at noKey
      contradiction
    | unsigned unsigned =>
      -- The group has no settings, so no token is named.
      obtain ⟨_, _, found, _⟩ := unsigned.named
      contradiction
  · intro ended
    have plain : (Value.list [.str "posts"]).IsPlain :=
      .list (List.forall_mem_singleton.mpr (.str _))
    have fine := (answering.loader_ok_iff _ .fresh (isPlain_fetching plain)).mp ended
    have group : Field.dataGroup.text (fetchedEntry (.list [.str "posts"])) = "cms" := by cbv
    have asked : isFetched (fetchedEntry (.list [.str "posts"])) = true := by cbv
    have arrives : answering.served [] [.mapping (fetchedEntry (.list [.str "posts"]))]
        = [(.mapping (fetchedEntry (.list [.str "posts"])), some (.list [.int 1]))] := by
      rw [served, served, arriving?, request?, asked, group]
      rfl
    refine fine _ (get?_fetching _) _ (by rw [arrives]; exact List.mem_singleton_self _) ?_
    refine .unstorable ?_
    rw [injectAs_fetchedEntry]
    exact .list (List.cons_ne_nil _ _)

end StaticSite.Api.Source
