import StaticSite.Disk
import StaticSite.Value.Mapping

/-!
# Components

A component is a markup file with the configuration of its folder. Names are not unique; what tells
two components apart is their place in a registry.
-/

namespace StaticSite

structure Component where
  name : String
  /-- The folder that holds the markup file. -/
  folder : Path
  entryFile : String
  /-- Where its page goes, relative to the folder of the built site. -/
  outputPath : Path
  config : Mapping.Entries
  deriving Inhabited

namespace Component

def indexFile : String := "index.html"

/-- The name of the base that wraps the component, if it has one. -/
def base? (component : Component) : Option String :=
  match Mapping.get? "extends" component.config with
  | some (.str name) => if name = "" then none else some name
  | _ => none

/-- Whether the component is a page of its own. -/
def isPage (component : Component) : Bool :=
  match Mapping.get? "render" component.config with
  | some (.bool b) => b
  | _ => false

/-- Whether the page asks for the sign-in script. -/
def wantsAuth (component : Component) : Bool :=
  match Mapping.get? "auth" component.config with
  | some (.bool b) => b
  | _ => false

def entryPath (component : Component) : Path := component.folder.child component.entryFile

def readMarkup (disk : Disk) (component : Component) : Except Fault (List Char) :=
  disk.readText component.entryPath

/-- What has been loaded for a component. -/
structure Data where
  fetched : Mapping.Entries
  scripts : List String
  isLoaded : Bool
  deriving Inhabited

namespace Data

/-- Nothing has been loaded yet. -/
def fresh : Data := ⟨[], [], false⟩

end Data

/-- The names a component's templates can use: its configuration, over it what was fetched, over
that what is given. -/
def scope (component : Component) (data : Data) (given : Scope) : Scope :=
  Mapping.merge (Mapping.merge component.config data.fetched) given

/-- The base of a component that names none. -/
def defaultBase : String := "BaseComponent"

/-- The components that never have a base. -/
def rootBases : List String := ["BasePage", "BaseComponent"]

/-- A configuration with its base decided: none for the root bases, the default base where the
name of the base is missing or empty, else what stands there. -/
def resolveBase (name : String) (config : Mapping.Entries) : Mapping.Entries :=
  if rootBases.elem name then Mapping.insertName "extends" .null config
  else match Mapping.get? "extends" config with
    | none | some (.str "") => Mapping.insertName "extends" (.str defaultBase) config
    | some _ => config

end Component

end StaticSite
