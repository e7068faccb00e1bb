import StaticSite.Disk
import StaticSite.Settings.Basic
import StaticSite.Yaml.Reader

/-!
# Reading settings

Raw settings are a mapping of any values. Each setting has one reader, which decides the setting or
refuses its value with a text that names it. Settings that are not known are left alone. A value
that has to be written out must not hold an integer that is too long for that.
-/

namespace StaticSite.Settings

open StaticSite.Text

def refuse {α : Type} (message : String) : Except Fault α := .error (.invalidSettings message)

/-- The value under a name, null if it is missing. -/
def setting (name : String) (raw : Mapping.Entries) : Value := (Mapping.get? name raw).getD .null

/-- The value under the first of several names that is present. -/
def settingOf (names : List String) (raw : Mapping.Entries) : Value :=
  (names.findSome? fun name => Mapping.get? name raw).getD .null

/-- The text of a value without the blanks around it, if anything is left. -/
def optionalText (value : Value) : Except Fault (Option String) :=
  if value matches .null then .ok none
  else value.printed.map fun text => match trim text with
    | [] => none
    | text => some (String.ofList text)

/-- A refusal that shows the value, if that can be written. -/
def refuseShowing {α : Type} (message : String) (value : Value) : Except Fault α :=
  if value.legible then refuse (message ++ ", got " ++ value.quotedString ++ ".")
  else .error .wrongValue

/-- A truth value; null counts as false. -/
def flag (field : String) (value : Value) : Except Fault Bool := match value with
  | .null => .ok false
  | .bool b => .ok b
  | _ => refuseShowing ("'" ++ field ++ "' must be true or false") value

/-- A text, or a list of which the empty items are left out. -/
def texts (field : String) (value : Value) : Except Fault (List String) := match value with
  | .null => .ok []
  | .str s => .ok (if (trim s.toList).isEmpty then [] else [s])
  | .list items => (items.mapM optionalText).map List.reduceOption
  | _ => refuse ("'" ++ field ++ "' must be a string or a list of strings.")

/-- A mapping; null counts as an empty one. -/
def section? (field : String) (value : Value) : Except Fault Mapping.Entries := match value with
  | .null => .ok []
  | .mapping entries => .ok entries
  | _ => refuse ("'" ++ field ++ "' must be a mapping.")

/-- Puts a text under a name, in its old place if the name is present. -/
def assign (name text : String) : List (String × String) → List (String × String)
  | [] => [(name, text)]
  | entry :: rest =>
    if entry.1 = name then (name, text) :: rest else entry :: assign name text rest

/-- A mapping of names to texts; keys and values of other kinds are written as text. -/
def textMapping (entries : Mapping.Entries) : List (String × String) :=
  entries.foldl
    (fun named entry => assign (String.ofList entry.1.plain) (String.ofList entry.2.plain) named) []

/-- A mapping of names to texts, if all of it can be written. -/
def groupTexts (value : Value) : Except Fault (List (String × String)) := do
  let entries ← section? "api_groups" value
  if Value.legible (.mapping entries) then return textMapping entries else .error .wrongValue

def placeholderMode (value : Value) : Except Fault Template.PlaceholderMode := do
  match ← optionalText value with
  | none | some "silent" => .ok .silent
  | some "strict" => .ok .strict
  | some other =>
    refuse ("Unknown placeholder mode '" ++ other ++ "'. Expected one of: silent, strict")

/-- The greatest length of a chain of components. -/
def depth (value : Option Value) : Except Fault Int :=
  let value := value.getD (.int defaultMaxDepth)
  let refused := refuseShowing "'max_depth' must be a positive integer" value
  match value with
  | .int n => if 1 ≤ n then .ok n else refused
  | _ => refused

def folder (standard : Path) (value : Value) : Except Fault Path :=
  (optionalText value).map fun text => (text.map Path.ofString).getD standard

def ruleSettings (raw : Mapping.Entries) : Except Fault RuleSettings := do
  let isEnabled ← flag "rules.enabled" (setting "enabled" raw)
  let isStrict ← flag "rules.strict" (setting "strict" raw)
  let sources ← texts "rules.sources" (setting "sources" raw)
  return ⟨isEnabled, isStrict, sources⟩

def postProcessSettings (raw : Mapping.Entries) : Except Fault PostProcessSettings := do
  let isEnabled ← flag "post_process.enabled" (setting "enabled" raw)
  let sources ← texts "post_process.sources" (setting "sources" raw)
  return ⟨isEnabled, sources⟩

/-- Decides every setting. -/
def ofRaw (projectRoot : Path) (raw : Mapping.Entries) : Except Fault Settings := do
  let standard := standard projectRoot
  let placeholders ← placeholderMode (setting "placeholders" raw)
  let maxDepth ← depth (Mapping.get? "max_depth" raw)
  -- The first setting that is refused is the one reported, in this order.
  let auth ← section? "auth" (setting "auth" raw)
  let componentsFolder ← folder standard.componentsFolder (setting "components_dir" raw)
  let outputFolder ← folder standard.outputFolder (setting "output_dir" raw)
  let assetsFolder ← folder standard.assetsFolder (setting "assets_dir" raw)
  let rules ← ruleSettings (← section? "rules" (setting "rules" raw))
  let postProcess ← postProcessSettings
    (← section? "post_process" (settingOf ["post_process", "postProcess"] raw))
  let apiGroups ← groupTexts (settingOf ["api_groups", "apiGroups"] raw)
  let apiAuth ← section? "api_auth" (settingOf ["api_auth", "apiAuth"] raw)
  let authEndpoint ← optionalText (setting "endpoint" auth)
  return {
    projectRoot := projectRoot
    componentsFolder := componentsFolder
    outputFolder := outputFolder
    assetsFolder := assetsFolder
    placeholders := placeholders
    maxDepth := maxDepth
    rules := rules
    postProcess := postProcess
    apiGroups := apiGroups
    apiAuth := apiAuth
    authEndpoint := authEndpoint }

/-- Reads the settings file at a path. Relative paths in it start at the project root, or at the
folder of the file if none is given. A missing file is a fault unless that is allowed. -/
def load (disk : Disk) (path : Path) (projectRoot : Option Path) (missingOk : Bool) :
    Except Fault Settings := do
  let root := projectRoot.getD path.parent
  if !disk.contains path then
    if missingOk then return standard root else .error (.settingsMissing path.text)
  else
    match ← Yaml.read (← disk.readText path) with
    | .mapping raw => ofRaw root raw
    | other => if other.isTrue then .error .settingsNotMapping else ofRaw root []

end StaticSite.Settings
