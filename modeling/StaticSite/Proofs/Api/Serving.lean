import Mathlib
import StaticSite.Proofs.Api.Loading
import StaticSite.Proofs.Json.Values
import StaticSite.Proofs.Value.Lookup

/-!
# What comes for the entries of a list

The entries of a component's list are handled one after the other. What comes for an entry is decided
by the network, which may answer by what it has been asked before, so it takes the whole list to say
what comes for each of its entries (`Source.served`).

An entry then fails the load, or it adds its part to what has been gathered and leaves the rest alone.
Two settings make it fail, and nothing that the network answers does: data that arrives and is to be
stored under a list or a mapping, which cannot be a key, and a group whose token is named by something
that is no text.
-/

namespace StaticSite

namespace Mapping

theorem isPlain_get? {name : String} {value : Value} {entries : Entries}
    (plain : (Value.mapping entries).IsPlain) (found : get? name entries = some value) :
    value.IsPlain := by
  obtain ⟨key, listed⟩ := mem_of_get? found
  exact (isPlain_mapping.mp plain _ listed).2

theorem merge_append (entries first second : Entries) :
    merge entries (first ++ second) = merge (merge entries first) second :=
  List.foldl_append

end Mapping

namespace Api

/-- The data in an answer. -/
def Response.data? : Response → Option Value
  | .failed _ => none
  | .answered body => body

theorem toOption_readResponse (address : String) (response : Response) :
    (readResponse address response).toOption = response.data? := by
  cases response with
  | failed reason => rfl
  | answered body => cases body <;> rfl

theorem filterMap_cons_append {α β : Type} (f : α → Option β) (a : α) (rest : List α) :
    (a :: rest).filterMap f = (f a).toList ++ rest.filterMap f := by
  cases found : f a <;> simp [found]

namespace Field

theorem isPlain_value {field : Field} {entry : Mapping.Entries}
    (plain : (Value.mapping entry).IsPlain) : (field.value entry).IsPlain := by
  unfold value
  split
  next value found => exact Mapping.isPlain_get? plain found
  next =>
    cases found : Mapping.get? field.otherName entry with
    | none => exact .null
    | some value => exact Mapping.isPlain_get? plain found

theorem isPlain_valueOr {field : Field} {entry : Mapping.Entries} {other : Value}
    (plain : (Value.mapping entry).IsPlain) (default : other.IsPlain) :
    (field.valueOr entry other).IsPlain := by
  unfold valueOr
  dsimp only
  split
  · exact isPlain_value plain
  · exact default

end Field

/-! ### Actions that add, and actions that refuse -/

/-- An action that ends well after the requests that have been sent. It sends some more, and adds
data and scripts to what has been gathered, whatever that is. -/
def Adds (sent requests : List Request) (fetched : Mapping.Entries) (scripts : List String)
    (action : Action Gathering Unit) : Prop :=
  ∀ gathering, gathering.exchange.journal.requests = sent → ∃ exchange,
    exchange.journal.requests = sent ++ requests ∧
    action gathering = (.ok (), ⟨exchange, { gathering.data with
      fetched := Mapping.merge gathering.data.fetched fetched
      scripts := gathering.data.scripts ++ scripts }⟩)

/-- An action that fails after the requests that have been sent, because something has the wrong
type. -/
def Refuses (sent : List Request) (action : Action Gathering Unit) : Prop :=
  ∀ gathering, gathering.exchange.journal.requests = sent →
    (action gathering).1 = .error .wrongType

variable {sent requests : List Request} {fetched : Mapping.Entries} {scripts : List String}

namespace Adds

theorem pure : Adds sent [] [] [] (Pure.pure ()) := by
  intro gathering here
  refine ⟨gathering.exchange, by rw [here, List.append_nil], ?_⟩
  simp [Mapping.merge]

theorem bind {later : List Request} {more : Mapping.Entries} {others : List String}
    {action next : Action Gathering Unit} (first : Adds sent requests fetched scripts action)
    (second : Adds (sent ++ requests) later more others next) :
    Adds sent (requests ++ later) (fetched ++ more) (scripts ++ others)
      (action >>= fun _ => next) := by
  intro gathering here
  obtain ⟨exchange, asked, ran⟩ := first gathering here
  obtain ⟨last, then', ended⟩ := second ⟨exchange, { gathering.data with
    fetched := Mapping.merge gathering.data.fetched fetched
    scripts := gathering.data.scripts ++ scripts }⟩ asked
  refine ⟨last, by rw [then', List.append_assoc], ?_⟩
  rw [Action.bind_of_ok ran, ended, Mapping.merge_append, List.append_assoc]

/-- What is refused is refused also after something has been added. -/
theorem refuses {action next : Action Gathering Unit}
    (first : Adds sent requests fetched scripts action) (second : Refuses (sent ++ requests) next) :
    Refuses sent (action >>= fun _ => next) := by
  intro gathering here
  obtain ⟨exchange, asked, ran⟩ := first gathering here
  rw [Action.bind_of_ok ran]
  exact second _ asked

end Adds

/-- A notice is no request. -/
theorem Adds.note (severity : Severity) (text : String) :
    Adds sent [] [] [] (Gathering.inExchange (Exchange.note severity text)) := by
  intro gathering here
  refine ⟨gathering.exchange.record (.ofNotices [⟨severity, .api, text⟩]), ?_, ?_⟩
  · show gathering.exchange.journal.requests ++ [] = sent ++ []
    rw [here]
  · simp [Gathering.inExchange, Action.within, Exchange.note, Action.modify, Mapping.merge]

/-- What comes after a failure makes no difference. -/
theorem Refuses.bind {action next : Action Gathering Unit} (refuses : Refuses sent action) :
    Refuses sent (action >>= fun _ => next) := by
  intro gathering here
  have ended := refuses gathering here
  rcases run : action gathering with ⟨outcome, after⟩
  rw [run] at ended
  obtain rfl : outcome = .error .wrongType := ended
  rw [Action.bind_of_error run]

/-- The request for an endpoint of a group. Nothing is asked of a group without a base address. -/
def Client.request? (client : Client) (group endpoint : String) : Option Request :=
  match client.groups.lookup group with
  | none => none
  | some base => if base = "" then none else some ⟨base ++ endpoint, client.timeout⟩

/-- A fetch sends its request and gives the data in what comes back for it. -/
theorem Client.fetch_run (client : Client) (group endpoint : String) (exchange : Exchange) :
    ∃ outcome after, client.fetch group endpoint exchange = (outcome, after) ∧
      after.journal.requests
        = exchange.journal.requests ++ (client.request? group endpoint).toList ∧
      outcome.toOption = (client.request? group endpoint).bind fun request =>
        (client.network exchange.journal.requests request).data? := by
  unfold Client.fetch Client.request?
  generalize client.groups.lookup group = base
  -- Without a base address the fetch fails before anything is sent.
  split
  next => exact ⟨_, _, rfl, (List.append_nil _).symm, rfl⟩
  next => exact ⟨_, _, rfl, (List.append_nil _).symm, rfl⟩
  next base known =>
    have nonempty : base ≠ "" := fun same => known (same ▸ rfl)
    dsimp only
    rw [if_neg nonempty]
    exact ⟨_, _, rfl, rfl, toOption_readResponse _ _⟩

namespace Source

variable (source : Source)

/-! ### Requests and answers -/

/-- The request that is sent for an entry, if it is fetched. -/
def request? : Value → Option Request
  | .mapping entry =>
    if isFetched entry then
      source.client.request? (Field.dataGroup.text entry) (Field.dataSource.text entry)
    else none
  | _ => none

/-- The data that arrives for an entry after some requests. -/
def arriving? (sent : List Request) (entry : Value) : Option Value :=
  (source.request? entry).bind fun request => (source.client.network sent request).data?

/-- The entries of a list, each with the data that arrives for it. -/
def served (sent : List Request) : List Value → List (Value × Option Value)
  | [] => []
  | entry :: rest =>
    (entry, source.arriving? sent entry) :: served (sent ++ (source.request? entry).toList) rest

/-- The key under which the data of an entry goes: what it asks for, or else its endpoint as a
name. -/
def key (entry : Mapping.Entries) : Value :=
  Field.injectAs.valueOr entry (.str (plainName (Field.dataSource.text entry)))

/-- The data that a served entry brings, with its key. -/
def delivery? : Value × Option Value → Option (Value × Value)
  | (.mapping entry, some body) => some (key entry, body)
  | _ => none

/-- Whether an entry is posted to. -/
def isPosted : Value → Bool
  | .mapping entry => (Field.postType.value entry).isTrue
  | _ => false

/-- The script of an entry that is posted to. -/
def script? : Value → Option String
  | .mapping entry =>
    if (Field.postType.value entry).isTrue then
      (source.postScript entry).toOption.map String.ofList
    else none
  | _ => none

/-- A list or a mapping that is not empty: it counts as true and cannot be a key. -/
inductive NoKey : Value → Prop where
  | list {items : List Value} (nonempty : items ≠ []) : NoKey (.list items)
  | mapping {entries : List (Value × Value)} (nonempty : entries ≠ []) : NoKey (.mapping entries)

/-- An entry asks for a script, and the token of its group is named by something that counts as
true and is no text. -/
structure Unsigned (entry : Mapping.Entries) : Prop where
  posted : (Field.postType.value entry).isTrue = true
  named : ∃ settings name, Mapping.get? (Field.dataGroup.text entry) source.auth
      = some (.mapping settings) ∧
    Mapping.get? "token" settings = some name ∧ name.isTrue = true ∧ ∀ text, name ≠ .str text

/-- A served entry that fails the load: data has arrived for it that cannot be stored where it asks
for, or it asks for a script that cannot be written. -/
inductive Fails : Value × Option Value → Prop where
  | unstorable {entry : Mapping.Entries} {body : Value}
      (noKey : NoKey (Field.injectAs.value entry)) : Fails (.mapping entry, some body)
  | unsigned {entry : Mapping.Entries} {data? : Option Value}
      (unsigned : source.Unsigned entry) : Fails (.mapping entry, data?)

variable {source} {component : Component} {entry : Mapping.Entries}

/-! ### What is served -/

theorem map_fst_served (sent : List Request) (entries : List Value) :
    (source.served sent entries).map Prod.fst = entries := by
  induction entries generalizing sent with
  | nil => rfl
  | cons entry rest ih => rw [served, List.map_cons, ih]

theorem mem_of_mem_served {entries : List Value} {pair : Value × Option Value}
    (listed : pair ∈ source.served sent entries) : pair.1 ∈ entries := by
  rw [← source.map_fst_served sent entries]
  exact List.mem_map_of_mem listed

/-- A network that does not mind what it has been asked before serves every entry by itself. -/
theorem served_of_steady (steady : ∀ sent request,
      source.client.network sent request = source.client.network [] request)
    (sent : List Request) (entries : List Value) :
    source.served sent entries = entries.map fun entry => (entry, source.arriving? [] entry) := by
  induction entries generalizing sent with
  | nil => rfl
  | cons entry rest ih =>
    have alone : source.arriving? sent entry = source.arriving? [] entry := by
      rw [arriving?, arriving?]
      exact Option.bind_congr fun request _ => by rw [steady]
    rw [served, List.map_cons, ih, alone]

/-! ### Fetching -/

theorem isFetched_iff : isFetched entry = true ↔
    Field.getType.value entry = .str "static" ∨ Field.getType.value entry = .str "dynamic" := by
  unfold isFetched
  split
  next kind same => simp [same]
  next other =>
    constructor
    · intro same
      contradiction
    · rintro (same | same)
      · exact absurd same (other _)
      · exact absurd same (other _)

/-- Data arrives only for what is fetched. -/
theorem arriving?_unasked (unasked : isFetched entry = false) :
    source.request? (.mapping entry) = none ∧ source.arriving? sent (.mapping entry) = none := by
  have nothing : source.request? (.mapping entry) = none := by
    rw [request?, unasked]
    rfl
  exact ⟨nothing, by rw [arriving?, nothing]; rfl⟩

/-- Fetching an entry sends its request and gives the data that arrives for it. -/
theorem fetch_run (asked : isFetched entry = true) (exchange : Exchange) : ∃ outcome after,
    source.client.fetch (Field.dataGroup.text entry) (Field.dataSource.text entry) exchange
      = (outcome, after) ∧
    after.journal.requests
      = exchange.journal.requests ++ (source.request? (.mapping entry)).toList ∧
    outcome.toOption = source.arriving? exchange.journal.requests (.mapping entry) := by
  have request : source.request? (.mapping entry)
      = source.client.request? (Field.dataGroup.text entry) (Field.dataSource.text entry) := by
    rw [request?, asked, if_pos rfl]
  rw [arriving?, request]
  exact source.client.fetch_run _ _ exchange

/-- What an entry gives as the key of its data can be one, unless it is a list or a mapping. -/
theorem isHashable_key (plain : (Value.mapping entry).IsPlain) (name : String) :
    Value.isHashable (Field.injectAs.valueOr entry (.str name)) = false ↔
      NoKey (Field.injectAs.value entry) := by
  have given : (Field.injectAs.value entry).IsPlain := Field.isPlain_value plain
  unfold Field.valueOr
  dsimp only
  generalize Field.injectAs.value entry = value at given ⊢
  constructor
  · intro refused
    -- A value that counts as false gives way to the name, which is a text.
    split at refused
    next counts =>
      cases given with
      | list each => exact .list fun empty => by simp [empty, Value.isTrue] at counts
      | mapping named each => exact .mapping fun empty => by simp [empty, Value.isTrue] at counts
      | _ => contradiction
    next => contradiction
  · intro noKey
    cases noKey with
    | list nonempty => simp [Value.isTrue, Value.isHashable, nonempty]
    | mapping nonempty => simp [Value.isTrue, Value.isHashable, nonempty]

/-- A fetch is tried, so that its fault leaves what was gathered as it was. -/
theorem attempt_run {action : Action Exchange Value} {gathering : Gathering}
    {outcome : Except Fault Value} {exchange : Exchange}
    (run : action gathering.exchange = (outcome, exchange)) :
    Gathering.inExchange action.attempt gathering
      = (.ok outcome, { gathering with exchange := exchange }) := by
  simp [Gathering.inExchange, Action.within, Action.attempt, run]

theorem fetchInto_adds (asked : isFetched entry = true)
    (keyed : ∀ body, source.arriving? sent (.mapping entry) = some body →
      Value.isHashable (key entry) = true) :
    Adds sent (source.request? (.mapping entry)).toList
      (delivery? (.mapping entry, source.arriving? sent (.mapping entry))).toList []
      (source.fetchInto entry) := by
  intro gathering here
  obtain ⟨outcome, exchange, run, after, arrived⟩ := fetch_run asked gathering.exchange
  rw [here] at after arrived
  unfold fetchInto
  rw [Action.bind_of_ok (attempt_run run), ← arrived]
  -- Without data, all that is left of the fetch is a notice.
  cases outcome with
  | error fault =>
    obtain ⟨last, still, noted⟩ := Adds.note .error ("API fetch failed for "
      ++ Field.dataSource.text entry ++ ": " ++ fault.text) { gathering with exchange } after
    exact ⟨last, still.trans (List.append_nil _), noted⟩
  | ok body =>
    have stored := keyed body arrived.symm
    refine ⟨exchange, after, ?_⟩
    rw [key] at stored
    dsimp only
    rw [if_pos stored, List.append_nil]
    rfl

theorem fetchInto_refuses (plain : (Value.mapping entry).IsPlain) (asked : isFetched entry = true)
    {body : Value} (arrives : source.arriving? sent (.mapping entry) = some body)
    (noKey : NoKey (Field.injectAs.value entry)) : Refuses sent (source.fetchInto entry) := by
  intro gathering here
  obtain ⟨outcome, exchange, run, -, arrived⟩ := fetch_run asked gathering.exchange
  rw [here, arrives] at arrived
  unfold fetchInto
  rw [Action.bind_of_ok (attempt_run run)]
  cases outcome with
  | error fault => contradiction
  | ok body =>
    dsimp only
    rw [(isHashable_key plain _).mpr noKey, if_neg Bool.false_ne_true]
    rfl

/-! ### Posting -/

theorem token_error (unsigned : source.Unsigned entry) :
    source.token (Field.dataGroup.text entry) = .error .wrongType := by
  obtain ⟨settings, name, found, given, counts, other⟩ := unsigned.named
  unfold token
  rw [found]
  dsimp only
  rw [given, Option.getD_some]
  cases name with
  | str text => exact absurd rfl (other text)
  | _ => simp only [counts, if_true]

theorem token_ok {group : String} (fine : ∀ settings name,
    Mapping.get? group source.auth = some (.mapping settings) →
      Mapping.get? "token" settings = some name → name.isTrue = true → ∃ text, name = .str text) :
    ∃ token, source.token group = .ok token := by
  unfold token
  split
  next settings found =>
    split
    next name given => exact ⟨_, rfl⟩
    -- A name that counts is a text, which the case before has taken.
    next other none =>
      cases given : Mapping.get? "token" settings with
      | none => exact ⟨"", rfl⟩
      | some name =>
        rw [Option.getD_some]
        split
        next counts =>
          obtain ⟨text, rfl⟩ := fine settings name found given counts
          exact absurd (by rw [given]; rfl) (none text)
        next => exact ⟨"", rfl⟩
  next => exact ⟨"", rfl⟩

theorem post_ok {name : Value} (plain : name.IsPlain) (base endpoint token : String) :
    ∃ script, Script.post name (.str base) (.str endpoint) (.str token) = .ok script := by
  obtain ⟨named, first⟩ := Json.scriptLiteral_succeeds plain
  obtain ⟨address, second⟩ := Json.scriptLiteral_succeeds
    (.str (String.ofList (base.toList ++ endpoint.toList)))
  obtain ⟨sign, third⟩ := Json.scriptLiteral_succeeds
    (.str (String.ofList ("Bearer ".toList ++ token.toList)))
  have printed (s : String) : (Value.str s).printed = .ok s.toList := rfl
  unfold Script.post
  simp only [printed, first, Value.ofString, second, third, bind, Except.bind]
  exact ⟨_, rfl⟩

theorem postScript_ok (plain : (Value.mapping entry).IsPlain) {token : String}
    (signed : source.token (Field.dataGroup.text entry) = .ok token) :
    ∃ script, source.postScript entry = .ok script := by
  unfold postScript
  simp only [signed, bind, Except.bind]
  exact post_ok (Field.isPlain_valueOr plain (.str _)) _ _ _

theorem postScript_error (unsigned : source.Unsigned entry) :
    source.postScript entry = .error .wrongType := by
  unfold postScript
  simp only [token_error unsigned, bind, Except.bind]

/-- Every entry that is posted to has a script, unless the token of its group is named by something
that is no text. -/
theorem postScript_succeeds (plain : (Value.mapping entry).IsPlain)
    (asked : (Field.postType.value entry).isTrue = true) (fine : ¬ source.Unsigned entry) :
    ∃ script, source.postScript entry = .ok script := by
  obtain ⟨token, signed⟩ : ∃ token, source.token (Field.dataGroup.text entry) = .ok token := by
    refine token_ok fun settings name found given counts => ?_
    by_contra none
    exact fine ⟨asked, settings, name, found, given, counts, fun text same => none ⟨text, same⟩⟩
  exact postScript_ok plain signed

/-! ### One entry -/

theorem fetched_adds (plain : (Value.mapping entry).IsPlain)
    (fine : ∀ body, source.arriving? sent (.mapping entry) = some body →
      ¬ NoKey (Field.injectAs.value entry)) :
    Adds sent (source.request? (.mapping entry)).toList
      (delivery? (.mapping entry, source.arriving? sent (.mapping entry))).toList []
      (if isFetched entry then source.fetchInto entry else pure ()) := by
  cases asked : isFetched entry with
  | true =>
    refine fetchInto_adds asked fun body arrives => ?_
    rw [← Bool.not_eq_false, key, isHashable_key plain]
    exact fine body arrives
  | false =>
    have unasked : source.request? (.mapping entry) = none ∧
        source.arriving? sent (.mapping entry) = none := arriving?_unasked asked
    rw [unasked.1, unasked.2]
    exact .pure

theorem fetched_refuses (plain : (Value.mapping entry).IsPlain) {body : Value}
    (arrives : source.arriving? sent (.mapping entry) = some body)
    (noKey : NoKey (Field.injectAs.value entry)) :
    Refuses sent (if isFetched entry then source.fetchInto entry else pure ()) := by
  cases asked : isFetched entry with
  | true => exact fetchInto_refuses plain asked arrives noKey
  | false =>
    rw [(arriving?_unasked asked).2] at arrives
    contradiction

theorem posted_adds (plain : (Value.mapping entry).IsPlain) (fine : ¬ source.Unsigned entry) :
    Adds sent [] [] (source.script? (.mapping entry)).toList
      (if (Field.postType.value entry).isTrue then
        Action.lift (source.postScript entry) >>= Gathering.addScript else pure ()) := by
  rw [script?]
  split
  next asked =>
    obtain ⟨script, written⟩ := postScript_succeeds plain asked fine
    -- Writing a script sends nothing.
    intro gathering here
    rw [written]
    exact ⟨gathering.exchange, here.trans (List.append_nil sent).symm, rfl⟩
  next => exact .pure

theorem posted_refuses (unsigned : source.Unsigned entry) :
    Refuses sent (if (Field.postType.value entry).isTrue then
      Action.lift (source.postScript entry) >>= Gathering.addScript else pure ()) := by
  intro gathering _
  rw [if_pos unsigned.posted, postScript_error unsigned]
  rfl

theorem gatherEntry_adds {entry : Value} (plain : entry.IsPlain)
    (fine : ¬ source.Fails (entry, source.arriving? sent entry)) :
    Adds sent (source.request? entry).toList
      (delivery? (entry, source.arriving? sent entry)).toList (source.script? entry).toList
      (source.gatherEntry component entry) := by
  cases entry with
  | mapping fields =>
    have fetched : Adds sent _ _ [] (if isFetched fields then source.fetchInto fields else pure ()) :=
      fetched_adds plain fun body arrives noKey => by
        rw [arrives] at fine
        exact fine (.unstorable noKey)
    have both := fetched.bind (posted_adds plain fun unsigned => fine (.unsigned unsigned))
    rw [List.append_nil, List.append_nil, List.nil_append] at both
    rw [gatherEntry_mapping]
    exact both
  | _ => exact Adds.note .warning ("Ignoring malformed api entry in " ++ component.name ++ ".")

/-- An entry whose script is refused fails in the same way, whether its data was stored or not. -/
theorem gatherEntry_refuses {entry : Value} (plain : entry.IsPlain)
    (fails : source.Fails (entry, source.arriving? sent entry)) :
    Refuses sent (source.gatherEntry component entry) := by
  generalize arrived : source.arriving? sent entry = data? at fails
  cases fails with
  | unstorable noKey =>
    rw [gatherEntry_mapping]
    exact (fetched_refuses plain arrived noKey).bind
  | @unsigned fields _ unsigned =>
    rw [gatherEntry_mapping]
    by_cases stored : ∃ body, source.arriving? sent (.mapping fields) = some body ∧
        NoKey (Field.injectAs.value fields)
    · obtain ⟨body, arrives, noKey⟩ := stored
      exact (fetched_refuses plain arrives noKey).bind
    · refine (fetched_adds plain fun body arrives noKey => ?_).refuses (posted_refuses unsigned)
      exact stored ⟨body, arrives, noKey⟩

/-! ### All entries -/

theorem gatherAll_adds {entries : List Value} (plain : ∀ entry ∈ entries, entry.IsPlain)
    (fine : ∀ pair ∈ source.served sent entries, ¬ source.Fails pair) :
    Adds sent (entries.filterMap source.request?)
      ((source.served sent entries).filterMap delivery?) (entries.filterMap source.script?)
      (source.gatherAll component entries) := by
  induction entries generalizing sent with
  | nil => exact .pure
  | cons entry rest ih =>
    obtain ⟨first, others⟩ := List.forall_mem_cons.mp plain
    obtain ⟨here, there⟩ := List.forall_mem_cons.mp fine
    rw [served, filterMap_cons_append, filterMap_cons_append, filterMap_cons_append]
    -- The rest is served after the request of the first entry, if it has one.
    exact (gatherEntry_adds first here).bind (ih others there)

/-- The first entry that fails is reached with the requests of those before it. -/
theorem gatherAll_refuses {entries : List Value} (plain : ∀ entry ∈ entries, entry.IsPlain)
    (fails : ∃ pair ∈ source.served sent entries, source.Fails pair) :
    Refuses sent (source.gatherAll component entries) := by
  induction entries generalizing sent with
  | nil =>
    obtain ⟨_, listed, _⟩ := fails
    contradiction
  | cons entry rest ih =>
    obtain ⟨first, others⟩ := List.forall_mem_cons.mp plain
    by_cases here : source.Fails (entry, source.arriving? sent entry)
    · exact (gatherEntry_refuses first here).bind
    · have later : ∃ pair ∈ source.served (sent ++ (source.request? entry).toList) rest,
          source.Fails pair := by
        obtain ⟨other, listed, failing⟩ := fails
        rcases List.mem_cons.mp listed with rfl | listed
        · exact absurd failing here
        · exact ⟨other, listed, failing⟩
      exact (gatherEntry_adds first here).refuses (ih others later)

/-! ### Loading -/

/-- A list of entries is gathered after the scripts have been taken away. -/
theorem gather_listed {entries : List Value}
    (listed : Mapping.get? "api" component.config = some (.list entries)) (data : Component.Data) :
    source.gather component ⟨.start, data⟩
      = source.gatherAll component entries ⟨.start, { data with scripts := [] }⟩ := by
  rw [gather, listed]
  rfl

variable (source) (component)

/-- What loading a list of entries comes to, if none of them fails. -/
theorem loader_adds {entries : List Value} (data : Component.Data)
    (listed : Mapping.get? "api" component.config = some (.list entries))
    (plain : ∀ entry ∈ entries, entry.IsPlain)
    (fine : ∀ pair ∈ source.served [] entries, ¬ source.Fails pair) :
    (source.loader component data).outcome = .ok () ∧
    (source.loader component data).data = { data with
      fetched := Mapping.merge data.fetched ((source.served [] entries).filterMap delivery?)
      scripts := entries.filterMap source.script? } ∧
    (source.loader component data).journal.requests = entries.filterMap source.request? := by
  have added : Adds [] _ _ _ (source.gatherAll component entries) := gatherAll_adds plain fine
  obtain ⟨exchange, asked, ran⟩ := added ⟨.start, { data with scripts := [] }⟩ rfl
  rw [List.nil_append] at asked ran
  simp only [loader, gather_listed listed, ran, asked, and_self]

/-- An entry that fails makes loading fail. -/
theorem loader_refuses {entries : List Value} (data : Component.Data)
    (listed : Mapping.get? "api" component.config = some (.list entries))
    (plain : ∀ entry ∈ entries, entry.IsPlain)
    (fails : ∃ pair ∈ source.served [] entries, source.Fails pair) :
    (source.loader component data).outcome = .error .wrongType := by
  have refused : Refuses [] (source.gatherAll component entries) := gatherAll_refuses plain fails
  show (source.gather component ⟨.start, data⟩).1 = _
  rw [gather_listed listed]
  exact refused _ rfl

end Source

end Api

end StaticSite
