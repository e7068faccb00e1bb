import StaticSite.Proofs.Value.Lookup
import StaticSite.Settings.Reader

/-!
# Empty settings

A setting that is null is decided as if it were missing. The readers see raw settings only through
the values under their names, and each of them takes null for its standard. The greatest depth
asks whether it is there, and so do the settings with two spellings: the first spelling counts
where it is present, even if it is null, so that a null there hides the second one.
-/

namespace StaticSite

namespace Mapping

theorem get?_erase (name other : String) (entries : Entries) :
    get? name (erase (.str other) entries)
      = if other = name then none else get? name entries := by
  induction entries with
  | nil => exact (ite_self none).symm
  | cons entry rest ih =>
    -- Keys are compared as values, and a key of the other name may be a text or a markup.
    have same := Value.same_str entry.1 other
    rw [erase, List.filter_cons]
    cases erased : Value.same entry.1 (.str other) with
    | true =>
      have named := same.mp erased
      rw [get?_cons, named]
      simp only [Bool.not_true, Bool.false_eq_true, if_false, Option.some.injEq]
      rw [← erase, ih]
      split <;> rfl
    | false =>
      have apart : entry.1.text? ≠ some other := fun named => by
        rw [same.mpr named] at erased
        contradiction
      simp only [Bool.not_false, if_true]
      rw [get?_cons, get?_cons, ← erase, ih]
      by_cases here : other = name
      · subst here
        rw [if_neg apart, if_pos rfl, if_pos rfl]
      · rw [if_neg here, if_neg here]

theorem get?_insert_str (name other : String) (value : Value) (entries : Entries) :
    get? name (insert (.str other) value entries)
      = if other = name then some value else get? name entries := by
  rw [get?_insert]
  simp only [Value.text?, Option.some.injEq]

end Mapping

namespace Settings

open Mapping (Entries get? insert erase get?_erase get?_insert_str)

variable {raw other : Entries} {root : Path}

/-- The settings with two spellings. The first one counts where both are present. -/
def spellings : List (String × String) :=
  [("post_process", "postProcess"), ("api_groups", "apiGroups"), ("api_auth", "apiAuth")]

/-- The names under which there are settings inside of a setting. -/
def sectionNames : List String := ["rules", "post_process", "postProcess", "auth"]

/-- The setting of a name is null. -/
def emptied (name : String) (raw : Entries) : Entries := insert (.str name) .null raw

def without (name : String) (raw : Entries) : Entries := erase (.str name) raw

/-! ### What the readers see -/

theorem setting_insert (name read : String) (value : Value) (raw : Entries) :
    setting read (insert (.str name) value raw)
      = if name = read then value else setting read raw := by
  rw [setting, setting, get?_insert_str]
  split <;> rfl

theorem setting_without (name read : String) (raw : Entries) :
    setting read (without name raw) = if name = read then .null else setting read raw := by
  rw [setting, setting, without, get?_erase]
  split <;> rfl

theorem setting_emptied (name read : String) (raw : Entries) :
    setting read (emptied name raw) = setting read (without name raw) := by
  rw [emptied, setting_insert, setting_without]

theorem settingOf_pair (first second : String) (raw : Entries) :
    settingOf [first, second] raw = ((get? first raw).or (get? second raw)).getD .null := by
  rw [settingOf, List.findSome?_cons, List.findSome?_singleton]
  cases get? first raw <;> rfl

/-- A null hides nothing unless it stands under the first spelling and there is a second one. -/
theorem settingOf_emptied {name first second : String}
    (bare : name = first → get? second raw = none) :
    settingOf [first, second] (emptied name raw) = settingOf [first, second] (without name raw) := by
  rw [settingOf_pair, settingOf_pair, emptied, without, get?_insert_str, get?_insert_str, get?_erase,
    get?_erase]
  by_cases one : name = first
  · rw [if_pos one, if_pos one, bare one]
    split <;> rfl
  · rw [if_neg one, if_neg one]
    by_cases two : name = second
    · rw [if_pos two, if_pos two]
      cases get? first raw <;> rfl
    · rw [if_neg two, if_neg two]

/-! ### Sections -/

/-- What is decided inside of a section, from the value under its name. -/
def endpointIn (auth : Value) : Except Fault Value := do
  return setting "endpoint" (← section? "auth" auth)

def rulesIn (rules : Value) : Except Fault RuleSettings := do
  ruleSettings (← section? "rules" rules)

def postProcessIn (postProcess : Value) : Except Fault PostProcessSettings := do
  postProcessSettings (← section? "post_process" postProcess)

/-- Whichever section has the two values, the same is decided inside of it. -/
structure SectionAlike (v w : Value) : Prop where
  endpoint : endpointIn v = endpointIn w
  rules : rulesIn v = rulesIn w
  postProcess : postProcessIn v = postProcessIn w

theorem SectionAlike.of_eq {v w : Value} (same : v = w) : SectionAlike v w := by
  subst same
  exact ⟨rfl, rfl, rfl⟩

theorem sectionAlike_emptied (name : String) (entries : Entries) :
    SectionAlike (.mapping (emptied name entries)) (.mapping (without name entries)) where
  endpoint := congrArg Except.ok (setting_emptied name _ entries)
  rules := by
    show ruleSettings (emptied name entries) = ruleSettings (without name entries)
    simp only [ruleSettings, setting_emptied]
  postProcess := by
    show postProcessSettings (emptied name entries) = postProcessSettings (without name entries)
    simp only [postProcessSettings, setting_emptied]

variable {v w : Value}

theorem SectionAlike.setting (alike : SectionAlike v w) (name read : String) (raw : Entries) :
    SectionAlike (setting read (insert (.str name) v raw))
      (Settings.setting read (insert (.str name) w raw)) := by
  rw [setting_insert, setting_insert]
  split
  · exact alike
  · exact .of_eq rfl

theorem SectionAlike.settingOf (alike : SectionAlike v w) (name first second : String)
    (raw : Entries) :
    SectionAlike (settingOf [first, second] (insert (.str name) v raw))
      (Settings.settingOf [first, second] (insert (.str name) w raw)) := by
  rw [settingOf_pair, settingOf_pair]
  simp only [get?_insert_str]
  by_cases one : name = first
  · rw [if_pos one, if_pos one]
    exact alike
  · rw [if_neg one, if_neg one]
    split
    · cases get? first raw with
      | none => exact alike
      | some value => exact .of_eq rfl
    · exact .of_eq rfl

/-! ### Raw settings that are decided alike -/

/-- The readers see the same in two raw settings. -/
structure Alike (raw other : Entries) : Prop where
  placeholders : setting "placeholders" raw = setting "placeholders" other
  depth : get? "max_depth" raw = get? "max_depth" other
  auth : SectionAlike (setting "auth" raw) (setting "auth" other)
  rules : SectionAlike (setting "rules" raw) (setting "rules" other)
  postProcess : SectionAlike (settingOf ["post_process", "postProcess"] raw)
    (settingOf ["post_process", "postProcess"] other)
  apiGroups : settingOf ["api_groups", "apiGroups"] raw = settingOf ["api_groups", "apiGroups"] other
  apiAuth : settingOf ["api_auth", "apiAuth"] raw = settingOf ["api_auth", "apiAuth"] other
  components : setting "components_dir" raw = setting "components_dir" other
  output : setting "output_dir" raw = setting "output_dir" other
  assets : setting "assets_dir" raw = setting "assets_dir" other

theorem ofRaw_eq (root : Path) (raw : Entries) : ofRaw root raw = do
    let placeholders ← placeholderMode (setting "placeholders" raw)
    let maxDepth ← depth (get? "max_depth" raw)
    let endpoint ← endpointIn (setting "auth" raw)
    let componentsFolder ← folder (standard root).componentsFolder (setting "components_dir" raw)
    let outputFolder ← folder (standard root).outputFolder (setting "output_dir" raw)
    let assetsFolder ← folder (standard root).assetsFolder (setting "assets_dir" raw)
    let rules ← rulesIn (setting "rules" raw)
    let postProcess ← postProcessIn (settingOf ["post_process", "postProcess"] raw)
    let apiGroups ← groupTexts (settingOf ["api_groups", "apiGroups"] raw)
    let apiAuth ← section? "api_auth" (settingOf ["api_auth", "apiAuth"] raw)
    let authEndpoint ← optionalText endpoint
    return {
      projectRoot := root
      componentsFolder := componentsFolder
      outputFolder := outputFolder
      assetsFolder := assetsFolder
      placeholders := placeholders
      maxDepth := maxDepth
      rules := rules
      postProcess := postProcess
      apiGroups := apiGroups
      apiAuth := apiAuth
      authEndpoint := authEndpoint } := by
  simp only [ofRaw, endpointIn, rulesIn, postProcessIn, bind_assoc, pure_bind]

theorem Alike.ofRaw (alike : Alike raw other) : ofRaw root raw = Settings.ofRaw root other := by
  rw [ofRaw_eq, ofRaw_eq, alike.placeholders, alike.depth, alike.auth.endpoint, alike.rules.rules,
    alike.postProcess.postProcess, alike.apiGroups, alike.apiAuth, alike.components, alike.output,
    alike.assets]

theorem alike_emptied {name : String} (other : name ≠ "max_depth")
    (bare : ∀ pair ∈ spellings, name = pair.1 → get? pair.2 raw = none) :
    Alike (emptied name raw) (without name raw) where
  placeholders := setting_emptied ..
  depth := by rw [emptied, without, get?_insert_str, get?_erase, if_neg other, if_neg other]
  auth := .of_eq (setting_emptied ..)
  rules := .of_eq (setting_emptied ..)
  postProcess := .of_eq (settingOf_emptied (bare ("post_process", "postProcess") (by decide)))
  apiGroups := settingOf_emptied (bare ("api_groups", "apiGroups") (by decide))
  apiAuth := settingOf_emptied (bare ("api_auth", "apiAuth") (by decide))
  components := setting_emptied ..
  output := setting_emptied ..
  assets := setting_emptied ..

/-- A null under the first spelling counts, so the second one might as well be missing. -/
theorem alike_spellings {pair : String × String} (listed : pair ∈ spellings) :
    Alike (emptied pair.1 raw) (without pair.1 (without pair.2 raw)) := by
  -- Besides the null, a second spelling is taken away, which no setting with one spelling has.
  have apart : ∀ pair ∈ spellings, ∀ read ∈ ["placeholders", "auth", "rules", "components_dir",
      "output_dir", "assets_dir"], pair.2 ≠ read := by decide
  have single {read : String} (known : read ∈ ["placeholders", "auth", "rules", "components_dir",
      "output_dir", "assets_dir"]) :
      setting read (emptied pair.1 raw) = setting read (without pair.1 (without pair.2 raw)) := by
    rw [setting_emptied, setting_without, setting_without, setting_without,
      if_neg (apart pair listed read known)]
  have double {first second : String} (known : (first, second) ∈ spellings) :
      settingOf [first, second] (emptied pair.1 raw)
        = settingOf [first, second] (without pair.1 (without pair.2 raw)) := by
    have names : ∀ pair ∈ spellings, ∀ other ∈ spellings, other = pair
        ∨ (pair.1 ≠ other.1 ∧ pair.1 ≠ other.2 ∧ pair.2 ≠ other.1 ∧ pair.2 ≠ other.2) := by decide
    simp only [settingOf_pair, emptied, without, get?_insert_str, get?_erase]
    rcases names pair listed (first, second) known with rfl | ⟨one, two, three, four⟩
    · -- Null on the one side, nothing on the other, and both are read as null.
      simp
    · rw [if_neg one, if_neg two, if_neg one, if_neg two, if_neg three, if_neg four]
  exact {
    placeholders := single (by decide)
    depth := by
      have names : ∀ pair ∈ spellings, pair.1 ≠ "max_depth" ∧ pair.2 ≠ "max_depth" := by decide
      obtain ⟨one, two⟩ := names pair listed
      rw [emptied, without, without, get?_insert_str, get?_erase, get?_erase, if_neg one, if_neg one,
        if_neg two]
    auth := .of_eq (single (by decide))
    rules := .of_eq (single (by decide))
    postProcess := .of_eq (double (by decide))
    apiGroups := double (by decide)
    apiAuth := double (by decide)
    components := single (by decide)
    output := single (by decide)
    assets := single (by decide) }

/-- What stands in a section matters only through what is decided inside of it. -/
theorem alike_section {name : String} (listed : name ∈ sectionNames) (alike : SectionAlike v w) :
    Alike (insert (.str name) v raw) (insert (.str name) w raw) := by
  -- Names that are no sections are read past the one that has changed.
  have single {read : String} (apart : read ∉ sectionNames) :
      get? read (insert (.str name) v raw) = get? read (insert (.str name) w raw) := by
    have other : name ≠ read := fun same => apart (same ▸ listed)
    rw [get?_insert_str, get?_insert_str, if_neg other, if_neg other]
  have double {first second : String} (one : first ∉ sectionNames) (two : second ∉ sectionNames) :
      settingOf [first, second] (insert (.str name) v raw)
        = settingOf [first, second] (insert (.str name) w raw) := by
    rw [settingOf_pair, settingOf_pair, single one, single two]
  exact {
    placeholders := congrArg (·.getD .null) (single (by decide))
    depth := single (by decide)
    auth := alike.setting ..
    rules := alike.setting ..
    postProcess := alike.settingOf ..
    apiGroups := double (by decide) (by decide)
    apiAuth := double (by decide) (by decide)
    components := congrArg (·.getD .null) (single (by decide))
    output := congrArg (·.getD .null) (single (by decide))
    assets := congrArg (·.getD .null) (single (by decide)) }

/-! ### Null and missing -/

/-- A setting that is null is decided as if it were missing, also inside of a section. The first
spelling of a setting counts even if it is null: the second one is then as good as missing. -/
theorem ofRaw_null (root : Path) (raw : Entries) :
    (∀ name, name ≠ "max_depth" →
      (∀ pair ∈ spellings, name = pair.1 → get? pair.2 raw = none) →
      ofRaw root (emptied name raw) = ofRaw root (without name raw))
    ∧ (∀ pair ∈ spellings,
      ofRaw root (emptied pair.1 raw) = ofRaw root (without pair.1 (without pair.2 raw)))
    ∧ ∀ place ∈ sectionNames, ∀ entries name,
      ofRaw root (insert (.str place) (.mapping (emptied name entries)) raw)
        = ofRaw root (insert (.str place) (.mapping (without name entries)) raw) := by
  refine ⟨fun name other bare => ?_, fun pair listed => ?_, fun place listed entries name => ?_⟩
  · exact (alike_emptied other bare).ofRaw
  · exact (alike_spellings listed).ofRaw
  · exact (alike_section listed (sectionAlike_emptied name entries)).ofRaw

/-- Processors under the second spelling of their setting. -/
def respelled : Entries :=
  [(.str "postProcess", .mapping [(.str "enabled", .bool true), (.str "sources", .str "a")]),
    (.str "rules", .mapping [(.str "enabled", .int 1)])]

/-- Rules that cannot be read count no more once they are null, and so do the sources of the
processors; a null under the first spelling leaves no processors at all. -/
theorem ofRaw_null_respelled :
    ("rules" ≠ "max_depth"
      ∧ (∀ pair ∈ spellings, "rules" = pair.1 → get? pair.2 respelled = none)
      ∧ ofRaw .here (emptied "rules" respelled) = ofRaw .here (without "rules" respelled))
    ∧ (("post_process", "postProcess") ∈ spellings
      ∧ ofRaw .here (emptied "post_process" respelled)
        = ofRaw .here (without "post_process" (without "postProcess" respelled)))
    ∧ "postProcess" ∈ sectionNames
      ∧ ofRaw .here (insert (.str "postProcess")
          (.mapping (emptied "sources" [(.str "enabled", .bool true)])) respelled)
        = ofRaw .here (insert (.str "postProcess")
          (.mapping (without "sources" [(.str "enabled", .bool true)])) respelled) := by
  obtain ⟨missing, hidden, inside⟩ := ofRaw_null .here respelled
  have other : "rules" ≠ "max_depth" := by decide
  have bare : ∀ pair ∈ spellings, "rules" = pair.1 → get? pair.2 respelled = none := by
    intro pair listed same
    exact absurd (same ▸ List.mem_map_of_mem listed : "rules" ∈ spellings.map Prod.fst) (by decide)
  exact ⟨⟨other, bare, missing "rules" other bare⟩,
    ⟨by decide, hidden ("post_process", "postProcess") (by decide)⟩,
    by decide, inside "postProcess" (by decide) _ "sources"⟩

/-- Processors under the second spelling, and nothing else. -/
def secondSpelling : Entries := [(.str "postProcess", .mapping [(.str "enabled", .bool true)])]

/-- A null under the first spelling hides what stands under the second one. -/
theorem ofRaw_null_hides :
    ofRaw .here (emptied "post_process" secondSpelling)
      ≠ ofRaw .here (without "post_process" secondSpelling) := by
  intro same
  have decided := congrArg (Except.map fun settings => settings.postProcess.isEnabled) same
  have hidden : (ofRaw .here (emptied "post_process" secondSpelling)).map
      (fun settings => settings.postProcess.isEnabled) = .ok false := by decide +kernel
  have shown : (ofRaw .here (without "post_process" secondSpelling)).map
      (fun settings => settings.postProcess.isEnabled) = .ok true := by decide +kernel
  rw [hidden, shown] at decided
  contradiction

end Settings

end StaticSite
