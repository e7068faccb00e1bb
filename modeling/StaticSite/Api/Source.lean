import StaticSite.Api.Client
import StaticSite.Component.Render
import StaticSite.Script

/-!
# Data of components

A component lists its data sources in its configuration. A source that is fetched puts its data
under a name of the component; a source that is posted to gives the page a script. A source that
cannot be fetched is reported and leaves the others alone.
-/

namespace StaticSite.Api

open StaticSite.Text

/-- Where the data of components comes from. -/
structure Source where
  client : Client
  /-- How each group is signed in to. -/
  auth : Mapping.Entries
  /-- The variables of the environment. -/
  environment : String → Option String

/-- The state of loading one component. -/
structure Gathering where
  exchange : Exchange
  data : Component.Data

namespace Gathering

def inExchange {α : Type} (action : Action Exchange α) : Action Gathering α :=
  action.within Gathering.exchange fun exchange gathering => { gathering with exchange := exchange }

def setFetched (key value : Value) : Action Gathering Unit :=
  .modify fun gathering => { gathering with data :=
    { gathering.data with fetched := Mapping.insert key value gathering.data.fetched } }

def clearScripts : Action Gathering Unit :=
  .modify fun gathering => { gathering with data := { gathering.data with scripts := [] } }

def addScript (script : List Char) : Action Gathering Unit :=
  .modify fun gathering => { gathering with data :=
    { gathering.data with scripts := gathering.data.scripts ++ [String.ofList script] } }

end Gathering

/-- The names under which an entry may give a field, the first one winning. -/
structure Field where
  name : String
  otherName : String

namespace Field

def dataGroup : Field := ⟨"data_group", "dataGroup"⟩

def dataSource : Field := ⟨"data_source", "dataSource"⟩

def getType : Field := ⟨"get_type", "getType"⟩

def injectAs : Field := ⟨"inject_as", "injectAs"⟩

def postType : Field := ⟨"post_type", "postType"⟩

def postName : Field := ⟨"post_name", "postName"⟩

/-- The value of a field in an entry, null if it is not given. -/
def value (field : Field) (entry : Mapping.Entries) : Value :=
  match Mapping.get? field.name entry with
  | some value => value
  | none => (Mapping.get? field.otherName entry).getD .null

/-- The text of a field; a value that counts as false is empty. -/
def text (field : Field) (entry : Mapping.Entries) : String :=
  let value := field.value entry
  if value.isTrue then String.ofList value.plain else ""

/-- The value of a field, or another one if it counts as false. -/
def valueOr (field : Field) (entry : Mapping.Entries) (other : Value) : Value :=
  let value := field.value entry
  if value.isTrue then value else other

end Field

/-- Whether the data of an entry is fetched. -/
def isFetched (entry : Mapping.Entries) : Bool := match Field.getType.value entry with
  | .str kind => kind = "static" || kind = "dynamic"
  | _ => false

/-- An endpoint as a name: its word characters. -/
def plainName (endpoint : String) : String := String.ofList (endpoint.toList.filter isWord)

namespace Source

/-- The token for a group: the variable that its settings name, empty if there is none. -/
def token (source : Source) (group : String) : Except Fault String :=
  match Mapping.get? group source.auth with
  | some (.mapping settings) => match (Mapping.get? "token" settings).getD .null with
    | .str name => .ok (if name = "" then "" else (source.environment name).getD "")
    | other => if other.isTrue then .error .wrongType else .ok ""
  | _ => .ok ""

/-- The script that posts to the endpoint of an entry. -/
def postScript (source : Source) (entry : Mapping.Entries) : Except Fault (List Char) := do
  let group := Field.dataGroup.text entry
  let endpoint := Field.dataSource.text entry
  let token ← source.token group
  let name := Field.postName.valueOr entry (.str ("postTo" ++ plainName endpoint))
  let base := (source.client.groups.lookup group).getD ""
  Script.post name (.str base) (.str endpoint) (.str token)

/-- Fetches the data of an entry and puts it under its name. -/
def fetchInto (source : Source) (entry : Mapping.Entries) : Action Gathering Unit := do
  let endpoint := Field.dataSource.text entry
  let fetched := (source.client.fetch (Field.dataGroup.text entry) endpoint).attempt
  match ← Gathering.inExchange fetched with
  | .error fault =>
    Gathering.inExchange
      (Exchange.note .error ("API fetch failed for " ++ endpoint ++ ": " ++ fault.text))
  | .ok value =>
    let key := Field.injectAs.valueOr entry (.str (plainName endpoint))
    if Value.isHashable key then Gathering.setFetched key value else .fail .wrongType

/-- Handles one entry of a component's list of sources. -/
def gatherEntry (source : Source) (component : Component) : Value → Action Gathering Unit
  | .mapping entry => do
    -- One entry can be both fetched and posted to.
    if isFetched entry then source.fetchInto entry
    if (Field.postType.value entry).isTrue then
      Gathering.addScript (← .lift (source.postScript entry))
  | _ => Gathering.inExchange
      (Exchange.note .warning ("Ignoring malformed api entry in " ++ component.name ++ "."))

def gatherAll (source : Source) (component : Component) : List Value → Action Gathering Unit
  | [] => pure ()
  | entry :: rest => do
    source.gatherEntry component entry
    source.gatherAll component rest

/-- Loads the data of a component. A component without a list of sources keeps what it has; one
with a list gets new scripts. -/
def gather (source : Source) (component : Component) : Action Gathering Unit :=
  match Mapping.get? "api" component.config with
  | some (.list entries) => do
    Gathering.clearScripts
    source.gatherAll component entries
  | _ => pure ()

/-- The loader that takes its data from a source. -/
def loader (source : Source) : Loader := fun component data =>
  let (outcome, gathering) := source.gather component ⟨.start, data⟩
  ⟨gathering.data, gathering.exchange.journal, outcome⟩

end Source

end StaticSite.Api
