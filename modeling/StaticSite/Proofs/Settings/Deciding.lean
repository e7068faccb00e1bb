import Mathlib.Data.List.ReduceOption
import StaticSite.Proofs.Catching
import StaticSite.Proofs.Settings.Missing
import StaticSite.Proofs.Text.Trimming
import StaticSite.Proofs.Traversing
import StaticSite.Proofs.Value.Legible

/-!
# What settings are decided as

Each setting is decided from the value under its name. `Reads`, `Lists` and `lastNamed` say what a
value comes to as a text, as sources and as the addresses of groups; `Decided` says it of all
settings together. Raw settings that are not decided are refused, unless a value would have to be
written out that holds an integer too long for that.
-/

namespace StaticSite.Settings

open StaticSite.Text
open Mapping (Entries get? insert)

variable {raw : Entries} {v whole part : Value} {fault : Fault}

/-! ### Faults -/

/-- A value is refused, or it would have to be written out and cannot be. -/
def Trouble (value : Value) (fault : Fault) : Prop :=
  (∃ message, fault = .invalidSettings message) ∨ (fault = .wrongValue ∧ value.legible = false)

theorem Trouble.refused (message : String) : Trouble v (.invalidSettings message) :=
  .inl ⟨message, rfl⟩

theorem Trouble.unwritten (illegible : v.legible = false) : Trouble v .wrongValue :=
  .inr ⟨rfl, illegible⟩

theorem Trouble.around (inside : whole.legible = true → part.legible = true)
    (trouble : Trouble part fault) : Trouble whole fault := by
  rcases trouble with refused | ⟨same, illegible⟩
  · exact .inl refused
  · refine .inr ⟨same, Bool.eq_false_iff.mpr fun legible => ?_⟩
    rw [inside legible] at illegible
    contradiction

theorem confined_around {α : Type} {good : α → Prop} {result : Except Fault α}
    (inside : whole.legible = true → part.legible = true)
    (ends : Confined (Trouble part) good result) : Confined (Trouble whole) good result :=
  ends.mono (fun _ => Trouble.around inside) fun _ => id

theorem legible_getD (all : (Value.mapping raw).legible = true) {found : Option Value}
    (there : ∀ value ∈ found, ∃ name, get? name raw = some value) :
    (found.getD .null).legible = true := by
  cases found with
  | none => rfl
  | some value =>
    obtain ⟨name, here⟩ := there value rfl
    exact Mapping.legible_get? all here

theorem legible_setting (name : String) (all : (Value.mapping raw).legible = true) :
    (setting name raw).legible = true :=
  legible_getD all fun _ found => ⟨name, found⟩

theorem legible_settingOf (first second : String) (all : (Value.mapping raw).legible = true) :
    (settingOf [first, second] raw).legible = true := by
  rw [settingOf_pair]
  refine legible_getD all fun value found => ?_
  rcases Option.or_eq_some_iff.mp found with here | ⟨-, here⟩
  · exact ⟨first, here⟩
  · exact ⟨second, here⟩

/-! ### Texts -/

/-- The text of a value without the blanks around it; null and blank texts count as none. -/
inductive Reads : Value → Option String → Prop where
  | null : Reads .null none
  | blank {v : Value} {text : List Char} (other : v ≠ .null) (written : v.printed = .ok text)
      (blank : ∀ c ∈ text, isBlank c = true) : Reads v none
  | text {v : Value} {before behind : List Char} {inner : String} (other : v ≠ .null)
      (written : v.printed = .ok (before ++ inner.toList ++ behind))
      (first : ∀ c ∈ before, isBlank c = true) (last : ∀ c ∈ behind, isBlank c = true)
      (trimmed : Trimmed inner.toList) : Reads v (some inner)

theorem Reads.trimmed {found : Option String} (reads : Reads v found) :
    ∀ s ∈ found, Trimmed s.toList := by
  cases reads with
  | null | blank => exact forall_mem_none
  | text _ _ _ _ trimmed => exact forall_mem_some trimmed

theorem optionalText_of_ne_null (other : v ≠ .null) :
    optionalText v = v.printed.map fun text => match trim text with
      | [] => none
      | text => some (String.ofList text) := by
  cases v with
  | null => contradiction
  | _ => rfl

theorem optionalText_confined (v : Value) : Confined (Trouble v) (Reads v) (optionalText v) := by
  by_cases other : v = .null
  · subst other
    exact .null
  · rw [optionalText_of_ne_null other]
    -- A value is written as a text first, and counts as missing if only blanks are left.
    cases written : v.printed with
    | error fault =>
      obtain ⟨illegible, rfl⟩ := Value.printed_eq_error_iff.mp written
      exact .unwritten illegible
    | ok text =>
      show Reads v (match trim text with
        | [] => none
        | text => some (String.ofList text))
      split
      next none => exact .blank other written (trim_eq_nil_iff.mp none)
      next left =>
        obtain ⟨before, behind, shape, first, last⟩ := exists_trim text
        rw [shape] at written
        rw [← String.toList_ofList (l := trim text)] at written
        exact .text other written first last
          (by rw [String.toList_ofList]; exact trimmed_trim left)

/-! ### Sources -/

/-- The sources that a value gives: one text as it stands, or the texts of a list. -/
inductive Lists : Value → List String → Prop where
  | null : Lists .null []
  | blank {s : String} (blank : ∀ c ∈ s.toList, isBlank c = true) : Lists (.str s) []
  | one {s : String} (solid : ∃ c ∈ s.toList, isBlank c = false) : Lists (.str s) [s]
  | many {items : List Value} {found : List (Option String)}
      (each : List.Forall₂ Reads items found) : Lists (.list items) found.reduceOption

/-- A single source with blanks around it. -/
def Loose (value : Value) : Prop :=
  ∃ s, value = .str s ∧ (∃ c ∈ s.toList, isBlank c = false) ∧ ¬ Trimmed s.toList

theorem Lists.trimmed_iff {sources : List String} (lists : Lists v sources) :
    (∀ source ∈ sources, Trimmed source.toList) ↔ ¬ Loose v := by
  cases lists with
  | null =>
    refine ⟨fun _ => ?_, fun _ => nofun⟩
    rintro ⟨s, ⟨⟩, -⟩
  | blank blank =>
    refine ⟨fun _ => ?_, fun _ => nofun⟩
    rintro ⟨s, ⟨⟩, ⟨c, listed, solid⟩, -⟩
    exact Bool.eq_false_iff.mp solid (blank c listed)
  | one solid =>
    -- A single string is taken as it is, with the blanks around it.
    rw [List.forall_mem_singleton]
    constructor
    · rintro trimmed ⟨s, ⟨⟩, -, loose⟩
      exact loose trimmed
    · intro tidy
      by_contra loose
      exact tidy ⟨_, rfl, solid, loose⟩
  | many each =>
    refine ⟨fun _ => ?_, fun _ source listed => ?_⟩
    · rintro ⟨s, ⟨⟩, -⟩
    · have read := exists_partner each.flip _ (List.reduceOption_mem_iff.mp listed)
      obtain ⟨item, -, reads⟩ := read
      exact reads.trimmed source rfl

theorem texts_confined (field : String) (v : Value) :
    Confined (Trouble v) (Lists v) (texts field v) := by
  cases v with
  | null => exact .null
  | str s =>
    show Lists (.str s) (if (trim s.toList).isEmpty then [] else [s])
    split
    next none => exact .blank (trim_eq_nil_iff.mp (List.isEmpty_iff.mp none))
    next left => exact .one (trim_ne_nil_iff.mp fun none => left (List.isEmpty_iff.mpr none))
  | list items =>
    cases run : items.mapM optionalText with
    | error fault =>
      obtain ⟨front, item, back, rfl, -, ended⟩ := Fault.mapM_eq_error_iff.mp run
      have trouble := (optionalText_confined item).of_eq_error ended
      rw [texts, run]
      -- An item that cannot be written keeps the whole list from being written.
      refine Trouble.around (fun legible => ?_) trouble
      exact Value.legible_list.mp legible item (List.mem_append_right _ List.mem_cons_self)
    | ok found =>
      rw [texts, run]
      exact .many ((Fault.mapM_eq_ok_iff.mp run).imp fun item _ ended =>
        (optionalText_confined item).of_eq_ok ended)
  | _ => exact .refused _

/-! ### Other settings -/

theorem refuseShowing_confined {α : Type} {good : α → Prop} (message : String) (v : Value) :
    Confined (Trouble v) good (refuseShowing message v) := by
  rw [refuseShowing]
  split
  next => exact .refused _
  next illegible => exact .unwritten (Bool.eq_false_iff.mpr illegible)

theorem flag_confined (field : String) (v : Value) :
    Confined (Trouble v) (fun _ => True) (flag field v) := by
  cases v with
  | null | bool => trivial
  | _ => exact refuseShowing_confined _ _

/-- What is in a section; null counts as an empty one. -/
def entriesOf : Value → Entries
  | .mapping entries => entries
  | _ => []

theorem section?_confined (field : String) (v : Value) :
    Confined (Trouble v) (fun entries => entries = entriesOf v) (section? field v) := by
  cases v with
  | null | mapping => rfl
  | _ => exact .refused _

theorem legible_entriesOf (legible : v.legible = true) :
    (Value.mapping (entriesOf v)).legible = true := by
  cases v with
  | mapping => exact legible
  | _ => rfl

theorem depth_confined (value : Option Value) : Confined (Trouble (value.getD .null))
    (fun n => value.getD (.int defaultMaxDepth) = .int n ∧ 1 ≤ n) (depth value) := by
  cases value with
  | none => exact ⟨rfl, by decide⟩
  | some value =>
    cases value with
    | int n =>
      show Confined _ _ (if 1 ≤ n then _ else _)
      split
      next enough => exact ⟨rfl, enough⟩
      next => exact refuseShowing_confined _ _
    | _ => exact refuseShowing_confined _ _

/-- The text that asks for a placeholder mode. -/
def modeName : Template.PlaceholderMode → String
  | .silent => "silent"
  | .strict => "strict"

theorem placeholderMode_confined (v : Value) : Confined (Trouble v)
    (fun mode => ∃ text, Reads v text ∧ text.getD "silent" = modeName mode)
    (placeholderMode v) := by
  refine (optionalText_confined v).bind fun text reads => ?_
  split
  · exact ⟨_, reads, rfl⟩
  · exact ⟨_, reads, rfl⟩
  · exact ⟨_, reads, rfl⟩
  · exact .refused _

theorem folder_confined (standard : Path) (v : Value) :
    Confined (Trouble v) (fun _ => True) (folder standard v) :=
  (optionalText_confined v).map fun _ _ => trivial

theorem ruleSettings_confined (raw : Entries) : Confined (Trouble (.mapping raw))
    (fun rules => Lists (setting "sources" raw) rules.sources) (ruleSettings raw) := by
  refine (confined_around (legible_setting "enabled") (flag_confined _ _)).bind fun _ _ => ?_
  refine (confined_around (legible_setting "strict") (flag_confined _ _)).bind fun _ _ => ?_
  exact (confined_around (legible_setting "sources") (texts_confined _ _)).bind fun _ lists => lists

theorem postProcessSettings_confined (raw : Entries) : Confined (Trouble (.mapping raw))
    (fun postProcess => Lists (setting "sources" raw) postProcess.sources)
    (postProcessSettings raw) := by
  refine (confined_around (legible_setting "enabled") (flag_confined _ _)).bind fun _ _ => ?_
  exact (confined_around (legible_setting "sources") (texts_confined _ _)).bind fun _ lists => lists

/-! ### Groups -/

/-- The value that stands last under a key with a text. -/
def lastNamed (name : String) (entries : Entries) : Option Value :=
  (entries.reverse.find? fun entry => entry.1.plainString = name).map Prod.snd

theorem lastNamed_concat (name : String) (entries : Entries) (entry : Value × Value) :
    lastNamed name (entries ++ [entry])
      = if entry.1.plainString = name then some entry.2 else lastNamed name entries := by
  rw [lastNamed, List.reverse_append, List.reverse_singleton, List.singleton_append,
    List.find?_cons]
  by_cases here : entry.1.plainString = name <;> simp [here, lastNamed]

variable {name text other address : String} {named : List (String × String)}

theorem mem_names_assign :
    other ∈ (assign name text named).map Prod.fst ↔ other = name ∨ other ∈ named.map Prod.fst := by
  induction named with
  | nil => simp [assign]
  | cons entry rest ih =>
    rw [assign]
    split
    next here => simp [here]
    next => rw [List.map_cons, List.mem_cons, ih, List.map_cons, List.mem_cons, or_left_comm]

theorem nodup_assign (distinct : (named.map Prod.fst).Nodup) :
    ((assign name text named).map Prod.fst).Nodup := by
  induction named with
  | nil => exact List.nodup_singleton name
  | cons entry rest ih =>
    obtain ⟨alone, apart⟩ := List.nodup_cons.mp distinct
    rw [assign]
    split
    next here => exact List.nodup_cons.mpr ⟨here ▸ alone, apart⟩
    next differs =>
      refine List.nodup_cons.mpr ⟨fun inside => ?_, ih apart⟩
      exact (mem_names_assign.mp inside).elim differs alone

/-- The text that is put under a name is the only one there, and the others stay. -/
theorem mem_assign (distinct : (named.map Prod.fst).Nodup) :
    (other, address) ∈ assign name text named ↔
      if other = name then address = text else (other, address) ∈ named := by
  induction named with
  | nil =>
    rw [assign, List.mem_singleton, Prod.mk.injEq]
    split <;> simp [*]
  | cons entry rest ih =>
    obtain ⟨alone, apart⟩ := List.nodup_cons.mp distinct
    rw [assign]
    split
    next here =>
      rw [List.mem_cons, List.mem_cons, Prod.mk.injEq]
      split
      next same =>
        subst same
        -- The names are distinct, so the old text under this one was here and nowhere behind.
        have absent : (other, address) ∉ rest := fun inside =>
          alone (here ▸ List.mem_map_of_mem inside)
        simp [absent]
      next differs =>
        have first : (other, address) ≠ entry := fun whole => differs (by rw [← here, ← whole])
        simp [differs, first]
    next elsewhere =>
      rw [List.mem_cons, ih apart, List.mem_cons]
      split
      next same =>
        have first : (other, address) ≠ entry := fun whole => elsewhere (by rw [← whole, same])
        simp [first]
      next => rfl

/-- Every name has one address, the text of the value that was given for it last. -/
theorem mem_textMapping (entries : Entries) : ((textMapping entries).map Prod.fst).Nodup ∧
    ∀ name address, (name, address) ∈ textMapping entries ↔
      ∃ value, lastNamed name entries = some value ∧ value.plainString = address := by
  -- From the end, since the value given last decides.
  induction entries using List.reverseRecOn with
  | nil => exact ⟨List.nodup_nil, fun name address => by simp [textMapping, lastNamed]⟩
  | append_singleton front entry ih =>
    obtain ⟨distinct, shown⟩ := ih
    have step : textMapping (front ++ [entry])
        = assign entry.1.plainString entry.2.plainString (textMapping front) := by
      rw [textMapping, List.foldl_append]
      rfl
    rw [step]
    refine ⟨nodup_assign distinct, fun name address => ?_⟩
    rw [mem_assign distinct, lastNamed_concat]
    by_cases here : name = entry.1.plainString
    · rw [if_pos here, if_pos here.symm]
      simp [eq_comm]
    · rw [if_neg here, if_neg (Ne.symm here)]
      exact shown name address

/-! ### All settings -/

theorem groupTexts_confined (v : Value) :
    Confined (Trouble v) (fun groups => groups = textMapping (entriesOf v)) (groupTexts v) := by
  refine (section?_confined _ v).bind fun entries opened => ?_
  subst opened
  split
  next => rfl
  next illegible =>
    exact .around legible_entriesOf (.unwritten (Bool.eq_false_iff.mpr illegible))

theorem endpointIn_confined (v : Value) : Confined (Trouble v)
    (fun endpoint => endpoint = setting "endpoint" (entriesOf v)) (endpointIn v) :=
  (section?_confined _ v).bind fun _ opened => congrArg (setting "endpoint") opened

theorem rulesIn_confined (v : Value) : Confined (Trouble v)
    (fun rules => Lists (setting "sources" (entriesOf v)) rules.sources) (rulesIn v) := by
  refine (section?_confined _ v).bind fun entries opened => ?_
  subst opened
  exact confined_around legible_entriesOf (ruleSettings_confined _)

theorem postProcessIn_confined (v : Value) : Confined (Trouble v)
    (fun postProcess => Lists (setting "sources" (entriesOf v)) postProcess.sources)
    (postProcessIn v) := by
  refine (section?_confined _ v).bind fun entries opened => ?_
  subst opened
  exact confined_around legible_entriesOf (postProcessSettings_confined _)

/-- The value that is given for the sources of rules. -/
def rulesGiven (raw : Entries) : Value := setting "sources" (entriesOf (setting "rules" raw))

/-- The value that is given for the sources of processors. -/
def processorsGiven (raw : Entries) : Value :=
  setting "sources" (entriesOf (settingOf ["post_process", "postProcess"] raw))

/-- The groups that are given. -/
def groupsGiven (raw : Entries) : Entries := entriesOf (settingOf ["api_groups", "apiGroups"] raw)

/-- What raw settings say and what they are decided as. -/
structure Decided (raw : Entries) (settings : Settings) : Prop where
  depth : (get? "max_depth" raw).getD (.int defaultMaxDepth) = .int settings.maxDepth
  positive : 1 ≤ settings.maxDepth
  placeholders : ∃ text, Reads (setting "placeholders" raw) text
    ∧ text.getD "silent" = modeName settings.placeholders
  authEndpoint : Reads (setting "endpoint" (entriesOf (setting "auth" raw))) settings.authEndpoint
  ruleSources : Lists (rulesGiven raw) settings.rules.sources
  processorSources : Lists (processorsGiven raw) settings.postProcess.sources
  apiGroups : ∀ name address, (name, address) ∈ settings.apiGroups ↔
    ∃ value, lastNamed name (groupsGiven raw) = some value ∧ value.plainString = address

theorem ofRaw_confined (root : Path) (raw : Entries) :
    Confined (Trouble (.mapping raw)) (Decided raw) (ofRaw root raw) := by
  have seen (name : String) : (Value.mapping raw).legible = true →
      (setting name raw).legible = true := legible_setting name
  have either (first second : String) : (Value.mapping raw).legible = true →
      (settingOf [first, second] raw).legible = true := legible_settingOf first second
  rw [ofRaw_eq]
  -- Every value that is read stands in the raw settings, so what hinders it hinders the whole.
  refine (confined_around (seen _) (placeholderMode_confined _)).bind fun mode placeholders => ?_
  refine (confined_around ?depth (depth_confined _)).bind fun maxDepth depth => ?_
  case depth => exact fun all => legible_getD all fun _ found => ⟨_, found⟩
  refine (confined_around (seen _) (endpointIn_confined _)).bind fun endpoint given => ?_
  refine (confined_around (seen _) (folder_confined _ _)).bind fun _ _ => ?_
  refine (confined_around (seen _) (folder_confined _ _)).bind fun _ _ => ?_
  refine (confined_around (seen _) (folder_confined _ _)).bind fun _ _ => ?_
  refine (confined_around (seen _) (rulesIn_confined _)).bind fun rules ruleSources => ?_
  refine (confined_around (either _ _) (postProcessIn_confined _)).bind fun _ processorSources => ?_
  refine (confined_around (either _ _) (groupTexts_confined _)).bind fun groups named => ?_
  refine (confined_around (either _ _) (section?_confined _ _)).bind fun _ _ => ?_
  subst given named
  refine (confined_around ?endpoint (optionalText_confined _)).bind fun _ authEndpoint => ?_
  case endpoint => exact fun all => legible_setting _ (legible_entriesOf (seen _ all))
  exact {
    depth := depth.1
    positive := depth.2
    placeholders
    authEndpoint
    ruleSources
    processorSources
    apiGroups := (mem_textMapping _).2 }

/-- Null is no depth: it is refused, unless the placeholders have been refused before. A depth that is
missing is the standard one. -/
theorem ofRaw_null_depth (root : Path) (raw : Entries) :
    (ofRaw root (emptied "max_depth" raw)
      = (placeholderMode (setting "placeholders" raw)).bind fun _ =>
        .error (.invalidSettings "'max_depth' must be a positive integer, got None."))
    ∧ ∀ settings, ofRaw root (without "max_depth" raw) = .ok settings →
      settings.maxDepth = defaultMaxDepth := by
  constructor
  · have placeholders : setting "placeholders" (emptied "max_depth" raw)
        = setting "placeholders" raw := by
      rw [emptied, setting_insert, if_neg (by decide)]
    have given : get? "max_depth" (emptied "max_depth" raw) = some .null := by
      rw [emptied, Mapping.get?_insert_str, if_pos rfl]
    have refused : depth (some .null)
        = .error (.invalidSettings "'max_depth' must be a positive integer, got None.") := by
      decide +kernel
    rw [ofRaw_eq, placeholders, given, refused]
    rfl
  · intro settings decided
    have depth := ((ofRaw_confined root (without "max_depth" raw)).of_eq_ok decided).depth
    rw [without, Mapping.get?_erase, if_pos rfl] at depth
    exact (Value.int.inj depth).symm

end StaticSite.Settings
