import StaticSite.Component.Basic
import StaticSite.Json.Reader
import StaticSite.Reported

/-!
# Registries

A registry lists components in the order in which they were found. A name stands for the first
component of that name, so earlier folders shadow later ones.

Every markup file below a folder is a component: `index.html` is named after its folder, any other
file after itself. The files of a folder come before its sub-folders, both in the order of their
names.
-/

namespace StaticSite

structure Registry where
  components : List Component
  deriving Inhabited

namespace Registry

/-- A component and its place in the registry. -/
structure Entry where
  place : Nat
  component : Component

def entries (registry : Registry) : List Entry :=
  registry.components.mapIdx fun place component => ⟨place, component⟩

def size (registry : Registry) : Nat := registry.components.length

def names (registry : Registry) : List String := registry.components.map Component.name

def add (component : Component) (registry : Registry) : Registry :=
  ⟨registry.components ++ [component]⟩

/-- The first component of a name. -/
def find? (registry : Registry) (name : String) : Option Entry :=
  registry.entries.find? fun entry => entry.component.name = name

def contains (registry : Registry) (name : String) : Bool := (registry.find? name).isSome

/-- The components that are pages of their own. -/
def pages (registry : Registry) : List Entry :=
  registry.entries.filter fun entry => entry.component.isPage

end Registry

namespace Component

def configFile : String := "config.json"

/-- The configuration that stands in a folder. A file that cannot be read, or that holds no
object, is reported and counts as empty. -/
def readConfig (folder : Path) (entries : Node.Entries) : Reported Mapping.Entries :=
  match entries.lookup configFile with
  | none => pure []
  | some node =>
    let path := (folder.child configFile).text
    match node.text.bind Json.read with
    | .ok (.mapping config) => pure config
    | .ok _ => do
      .note .error .discovery ("Ignoring " ++ path ++ ": top-level JSON must be an object.")
      return []
    | .error fault =>
      if fault.isFileAccess || fault = .malformedJson then do
        .note .error .discovery ("Error parsing " ++ path ++ ": " ++ fault.text)
        return []
      else .fail fault

def isMarkupFile (entry : String × Node) : Bool :=
  !entry.2.isFolder && (Path.ofSegments [entry.1]).suffix = ".html"

/-- The component of a markup file; `below` leads from the components folder to the file's. -/
def ofFile (folder below : Path) (siblings : Node.Entries) (file : String) :
    Reported Component := do
  let stem := (Path.ofSegments [file]).stem
  -- An index file stands for its folder, any other file for itself.
  let name := if file = indexFile then folder.name else stem
  let outputFolder := if file = indexFile then below else below.child stem
  let config ← readConfig folder siblings
  return ⟨name, folder, file, outputFolder.child indexFile, resolveBase name config⟩

/-- Named things in the order of their names. -/
def byName {α : Type} (items : List (String × α)) : List (String × α) :=
  items.mergeSort fun a b => !(b.1 < a.1)

theorem byName_of_sorted {α : Type} {items : List (String × α)}
    (sorted : items.Pairwise fun a b => ¬ b.1 < a.1) : byName items = items :=
  List.mergeSort_of_pairwise (sorted.imp fun ordered => by simpa using ordered)

/-- The components of the markup files that stand in a folder itself. -/
def inFolder (folder below : Path) (entries : Node.Entries) : Reported (List Component) :=
  (byName (entries.filter isMarkupFile)).mapM fun entry => ofFile folder below entries entry.1

/-- The results of named parts, in the order of their names. -/
def joinByName (parts : List (String × Reported (List Component))) : Reported (List Component) := do
  return ((← (byName parts).mapM Prod.snd)).flatten

mutual

/-- The components at and below a folder. -/
def discoverAt (folder below : Path) : Node → Reported (List Component)
  | .file _ => pure []
  | .folder entries => do
    let own ← inFolder folder below entries
    return own ++ (← joinByName (discoverEach folder below entries))

def discoverEach (folder below : Path) :
    List (String × Node) → List (String × Reported (List Component))
  | [] => []
  | (name, node) :: rest =>
    (name, discoverAt (folder.child name) (below.child name) node) :: discoverEach folder below rest

end

/-- The components below one of the folders that are searched. -/
def discoverRoot (disk : Disk) (root : Path) : Reported (List Component) :=
  match disk.node? root with
  | some (.folder entries) => discoverAt root .here (.folder entries)
  | _ => do
    .warn .discovery ("Components directory not found at " ++ root.text ++ ".")
    return []

end Component

/-- Searches folders in order. -/
def Registry.discover (disk : Disk) (roots : List Path) : Reported Registry := do
  return ⟨(← roots.mapM (Component.discoverRoot disk)).flatten⟩

end StaticSite
