import StaticSite.Proofs.Settings.Deciding

/-!
# Settings in normal form

What raw settings are decided as is in normal form unless the raw settings are untidy: a single
source keeps the blanks around it, and a group for which null is given gets the text of null. In a
list the blanks around a source are taken away, so a source given by itself and the same source in a
list are two different settings.
-/

namespace StaticSite.Settings

open StaticSite.Text
open Mapping (Entries get? insert get?_insert_str)

variable {raw : Entries} {settings : Settings} {root : Path}

/-! ### Normal form -/

/-- What every later step relies on. -/
structure Normal (raw : Entries) (settings : Settings) : Prop where
  positive : 1 ≤ settings.maxDepth
  placeholders : settings.placeholders = .silent ∨ settings.placeholders = .strict
  authEndpoint : ∀ endpoint ∈ settings.authEndpoint, Trimmed endpoint.toList
  ruleSources : ∀ source ∈ settings.rules.sources, Trimmed source.toList
  processorSources : ∀ source ∈ settings.postProcess.sources, Trimmed source.toList
  apiGroups : ∀ group ∈ settings.apiGroups, ∃ value, value ≠ .null
    ∧ lastNamed group.1 (groupsGiven raw) = some value ∧ value.plainString = group.2

/-- No single source has blanks around it, and no group is null. -/
structure Tidy (raw : Entries) : Prop where
  ruleSources : ¬ Loose (rulesGiven raw)
  processorSources : ¬ Loose (processorsGiven raw)
  apiGroups : ∀ name, lastNamed name (groupsGiven raw) ≠ some .null

theorem Decided.normal_iff (decided : Decided raw settings) : Normal raw settings ↔ Tidy raw := by
  constructor
  · intro normal
    refine ⟨decided.ruleSources.trimmed_iff.mp normal.ruleSources,
      decided.processorSources.trimmed_iff.mp normal.processorSources, fun name given => ?_⟩
    have listed := (decided.apiGroups name _).mpr ⟨.null, given, rfl⟩
    obtain ⟨value, some, last, -⟩ := normal.apiGroups _ listed
    exact some (Option.some.inj (last.symm.trans given))
  · intro tidy
    refine ⟨decided.positive, ?_, decided.authEndpoint.trimmed,
      decided.ruleSources.trimmed_iff.mpr tidy.ruleSources,
      decided.processorSources.trimmed_iff.mpr tidy.processorSources, fun group listed => ?_⟩
    · cases settings.placeholders
      · exact .inl rfl
      · exact .inr rfl
    · obtain ⟨value, last, shown⟩ := (decided.apiGroups group.1 group.2).mp listed
      exact ⟨value, fun null => tidy.apiGroups group.1 (null ▸ last), last, shown⟩

/-! ### One source or a list of one -/

/-- A value is given for the sources of a section. -/
def sourced (place : String) (entries : Entries) (value : Value) (raw : Entries) : Entries :=
  insert (.str place) (.mapping (insert (.str "sources") value entries)) raw

/-- A text without the blanks around it. -/
def strip (s : String) : String := String.ofList (trim s.toList)

theorem texts_relisted (field s : String) :
    texts field (.list [.str s]) = List.map strip <$> texts field (.str s) := by
  cases left : trim s.toList <;>
    simp [texts, optionalText, Value.printed, Value.legible, Value.plain, left, strip, Except.map]

theorem Lists.map_strip_eq_iff {s : String} {sources : List String}
    (lists : Lists (.str s) sources) : sources.map strip = sources ↔ ¬ Loose (.str s) := by
  rw [← lists.trimmed_iff]
  -- A blank text gives no source in either way, so that only a single one is left to look at.
  cases lists with
  | blank => exact ⟨fun _ => nofun, fun _ => rfl⟩
  | one solid =>
    rw [List.map_singleton, List.singleton_inj, List.forall_mem_singleton, strip]
    constructor
    · intro same
      have kept : trim s.toList = s.toList := by rw [← String.toList_ofList (l := trim _), same]
      exact kept ▸ trimmed_trim (trim_ne_nil_iff.mpr solid)
    · intro trimmed
      rw [trimmed.trim_eq, String.ofList_toList]

theorem setting_insert_self (name : String) (value : Value) (entries : Entries) :
    setting name (insert (.str name) value entries) = value := by
  rw [setting_insert, if_pos rfl]

theorem setting_insert_other {name read : String} (other : name ≠ read) (value : Value)
    (entries : Entries) :
    setting read (insert (.str name) value entries) = setting read entries := by
  rw [setting_insert, if_neg other]

theorem rulesIn_relisted (entries : Entries) (s : String) :
    rulesIn (.mapping (insert (.str "sources") (.list [.str s]) entries))
      = (fun rules => { rules with sources := rules.sources.map strip }) <$>
        rulesIn (.mapping (insert (.str "sources") (.str s) entries)) := by
  have other : "sources" ≠ "enabled" ∧ "sources" ≠ "strict" := by decide
  show ruleSettings _ = _ <$> ruleSettings _
  simp only [ruleSettings, setting_insert_self, setting_insert_other other.1,
    setting_insert_other other.2, texts_relisted, bind_map_left, map_bind, map_pure]

theorem postProcessIn_relisted (entries : Entries) (s : String) :
    postProcessIn (.mapping (insert (.str "sources") (.list [.str s]) entries))
      = (fun postProcess => { postProcess with sources := postProcess.sources.map strip }) <$>
        postProcessIn (.mapping (insert (.str "sources") (.str s) entries)) := by
  have other : "sources" ≠ "enabled" := by decide
  show postProcessSettings _ = _ <$> postProcessSettings _
  simp only [postProcessSettings, setting_insert_self, setting_insert_other other,
    texts_relisted, bind_map_left, map_bind, map_pure]

/-- The sources of a section without the blanks around each of them. -/
def stripSources (place : String) (settings : Settings) : Settings :=
  if place = "rules" then
    { settings with rules :=
        { settings.rules with sources := settings.rules.sources.map strip } }
  else
    { settings with postProcess :=
        { settings.postProcess with sources := settings.postProcess.sources.map strip } }

/-- The names under which there are sections with sources. -/
def sourcePlaces : List String := ["rules", "post_process", "postProcess"]

/-- The section under a name is read: the second spelling counts if the first one is not there. -/
inductive IsRead (raw : Entries) : String → Prop where
  | rules : IsRead raw "rules"
  | processors : IsRead raw "post_process"
  | respelled (bare : get? "post_process" raw = none) : IsRead raw "postProcess"

theorem isRead_or_hidden {place : String} (listed : place ∈ sourcePlaces) : IsRead raw place
    ∨ place = "postProcess" ∧ ∃ first, get? "post_process" raw = some first := by
  simp only [sourcePlaces, List.mem_cons, List.not_mem_nil, or_false] at listed
  rcases listed with rfl | rfl | rfl
  · exact .inl .rules
  · exact .inl .processors
  · cases found : get? "post_process" raw with
    | none => exact .inl (.respelled found)
    | some first => exact .inr ⟨rfl, first, rfl⟩

/-- What stands in a section that is not read makes no difference. -/
theorem ofRaw_unread {place : String} (listed : place ∈ sourcePlaces) (unread : ¬ IsRead raw place)
    (entries : Entries) (value other : Value) :
    ofRaw root (sourced place entries value raw)
      = ofRaw root (sourced place entries other raw) := by
  rcases isRead_or_hidden listed with read | ⟨rfl, first, found⟩
  · contradiction
  · rw [ofRaw_eq, ofRaw_eq]
    simp [sourced, setting_insert, settingOf_pair, get?_insert_str, found]

/-- Giving one source in a list takes the blanks around it away, and changes nothing else. -/
theorem ofRaw_relisted {place : String} (read : IsRead raw place) (entries : Entries) (s : String) :
    ofRaw root (sourced place entries (.list [.str s]) raw)
      = stripSources place <$> ofRaw root (sourced place entries (.str s) raw) := by
  rw [ofRaw_eq, ofRaw_eq]
  -- Under every other name the two runs see the same.
  cases read with
  | rules =>
    simp [sourced, setting_insert, settingOf_pair, get?_insert_str, rulesIn_relisted, stripSources]
  | processors =>
    simp [sourced, setting_insert, settingOf_pair, get?_insert_str, postProcessIn_relisted,
      stripSources]
  | respelled bare =>
    simp [sourced, setting_insert, settingOf_pair, get?_insert_str, bare, postProcessIn_relisted,
      stripSources]

/-- The sources of the section under a name. -/
def sourcesOf (place : String) (settings : Settings) : List String :=
  if place = "rules" then settings.rules.sources else settings.postProcess.sources

theorem stripSources_eq_iff (place : String) (settings : Settings) :
    stripSources place settings = settings
      ↔ (sourcesOf place settings).map strip = sourcesOf place settings := by
  rw [stripSources, sourcesOf]
  split
  · exact ⟨congrArg fun settings : Settings => settings.rules.sources, fun same => by rw [same]⟩
  · exact ⟨congrArg fun settings : Settings => settings.postProcess.sources,
      fun same => by rw [same]⟩

theorem Decided.lists_sourced {place : String} (read : IsRead raw place) {entries : Entries}
    {value : Value} (decided : Decided (sourced place entries value raw) settings) :
    Lists value (sourcesOf place settings) := by
  have rules := decided.ruleSources
  have processors := decided.processorSources
  cases read with
  | rules => simpa [rulesGiven, sourced, setting_insert, entriesOf, sourcesOf] using rules
  | processors =>
    simpa [processorsGiven, sourced, settingOf_pair, setting_insert, get?_insert_str, entriesOf,
      sourcesOf] using processors
  | respelled bare =>
    simpa [processorsGiven, sourced, settingOf_pair, setting_insert, get?_insert_str, bare,
      entriesOf, sourcesOf] using processors

theorem ofRaw_relisted_eq_iff {place : String} (listed : place ∈ sourcePlaces)
    (entries : Entries) (s : String) :
    ofRaw root (sourced place entries (.str s) raw)
        = ofRaw root (sourced place entries (.list [.str s]) raw)
      ↔ ¬ Loose (.str s) ∨ ¬ IsRead raw place
        ∨ ∃ fault, ofRaw root (sourced place entries (.str s) raw) = .error fault := by
  by_cases read : IsRead raw place
  · rw [ofRaw_relisted read]
    cases decision : ofRaw root (sourced place entries (.str s) raw) with
    | error fault => exact ⟨fun _ => .inr (.inr ⟨fault, rfl⟩), fun _ => rfl⟩
    | ok settings =>
      have decided := (ofRaw_confined root _).of_eq_ok decision
      have tidy := (decided.lists_sourced read).map_strip_eq_iff
      show Except.ok settings = Except.ok (stripSources place settings) ↔ _
      rw [Except.ok.injEq, eq_comm, stripSources_eq_iff, tidy]
      simp [read]
  · exact ⟨fun _ => .inr (.inl read), fun _ => ofRaw_unread listed read entries _ _⟩

/-! ### All raw settings -/

/-- Raw settings are refused, or hold an integer that is too long to be written, or are decided.
What they are decided as is in normal form exactly if they are tidy. A source that is given by
itself comes to the same as a list of it exactly if there are no blanks around it, or its section is
not read, or nothing is decided. -/
theorem ofRaw_normal (root : Path) (raw : Entries) :
    (∀ fault, ofRaw root raw = .error fault → Trouble (.mapping raw) fault)
    ∧ (∀ settings, ofRaw root raw = .ok settings →
      Decided raw settings ∧ (Normal raw settings ↔ Tidy raw))
    ∧ ∀ place ∈ sourcePlaces, ∀ entries s,
      ofRaw root (sourced place entries (.str s) raw)
          = ofRaw root (sourced place entries (.list [.str s]) raw)
        ↔ ¬ Loose (.str s) ∨ ¬ IsRead raw place
          ∨ ∃ fault, ofRaw root (sourced place entries (.str s) raw) = .error fault := by
  refine ⟨fun fault refused => ?_, fun settings decision => ?_, fun place listed entries s => ?_⟩
  · exact (ofRaw_confined root raw).of_eq_error refused
  · have decided := (ofRaw_confined root raw).of_eq_ok decision
    exact ⟨decided, decided.normal_iff⟩
  · exact ofRaw_relisted_eq_iff listed entries s

/-- A single source with blanks around it. -/
def spaced : Entries := sourced "rules" [] (.str " a ") []

/-- The blanks stay around the source, which is not so in a list; a depth of zero is refused. -/
theorem ofRaw_normal_spaced :
    (∃ settings, ofRaw .here spaced = .ok settings ∧ settings.rules.sources = [" a "]
      ∧ Decided spaced settings ∧ ¬ Normal spaced settings)
    ∧ ("rules" ∈ sourcePlaces ∧ ofRaw .here (sourced "rules" [] (.str " a ") [])
      ≠ ofRaw .here (sourced "rules" [] (.list [.str " a "]) []))
    ∧ ∃ fault, ofRaw .here [(.str "max_depth", .int 0)] = .error fault
      ∧ Trouble (.mapping [(.str "max_depth", .int 0)]) fault := by
  have loose : Loose (.str " a ") := by
    refine ⟨" a ", rfl, ⟨'a', by decide, by decide⟩, fun trimmed => ?_⟩
    exact absurd (trimmed.front ' ' (by decide)) (by decide)
  have sources : (ofRaw .here spaced).map (fun settings => settings.rules.sources)
      = .ok [" a "] := by decide +kernel
  obtain ⟨settings, decision, kept⟩ := Fault.map_eq_ok sources
  refine ⟨⟨settings, decision, kept, ?_⟩, ⟨by decide, fun same => ?_⟩, ?_⟩
  · obtain ⟨decided, normal⟩ := (ofRaw_normal .here spaced).2.1 settings decision
    have given : rulesGiven spaced = .str " a " := by
      simp [rulesGiven, spaced, sourced, setting_insert, entriesOf]
    exact ⟨decided, fun all => (normal.mp all).ruleSources (given ▸ loose)⟩
  · -- The two would be one only if the text were tidy, unread or refused.
    rcases ((ofRaw_normal .here []).2.2 "rules" (by decide) [] " a ").mp same
      with tidy | unread | ⟨fault, refused⟩
    · exact tidy loose
    · exact unread .rules
    · have ended : ofRaw .here spaced = .error fault := refused
      rw [decision] at ended
      contradiction
  · have refused : (ofRaw .here [(.str "max_depth", .int 0)]).map (fun _ => ())
        = .error (.invalidSettings "'max_depth' must be a positive integer, got 0.") := by
      decide +kernel
    cases ended : ofRaw .here [(.str "max_depth", .int 0)] with
    | error fault => exact ⟨fault, rfl, (ofRaw_normal _ _).1 fault ended⟩
    | ok settings =>
      rw [ended] at refused
      contradiction

end StaticSite.Settings
