import StaticSite.Plugin.Shipped
import StaticSite.Text.Quoted

/-!
# Plugin sources

A source is the text by which the settings name an object of plugin code: a file or a module, and
after a colon, if wanted, one of the things it exports.
-/

namespace StaticSite.Plugin

open StaticSite.Text

/-- What sources are looked up in. -/
structure Library where
  disk : Disk
  /-- The folder that relative files are found from. -/
  base : Path
  /-- The exports of a file with plugin code, or the text with which the code fails. -/
  interpret : List Char → Except String Exports
  modules : List Shipped.Module

namespace Library

/-- The ending of files with plugin code. -/
def codeSuffix : List Char := ['.', 'p', 'y']

/-- Whether a reference names a file. -/
def isFile (reference : List Char) : Bool :=
  endsWith codeSuffix reference || startsWith ['.'] reference || startsWith ['/'] reference

/-- The module name of a file with plugin code. -/
def fileModuleName (path : Path) : String := "essencekit.plugins.loaded." ++ path.stem

/-- The exports of a file, or the text with which it fails. -/
def fileExports (library : Library) (path : Path) : Except String Exports :=
  match library.disk.readText path with
  | .ok code => library.interpret code
  | .error fault => .error fault.text

/-- The module of a file. -/
def loadFile (library : Library) (path : Path) : Except Fault Object := do
  if !(← library.disk.findFile path) then
    .error (.plugin ("Plugin file not found: " ++ path.text))
  else if path.suffix ≠ String.ofList codeSuffix then
    .error (.plugin ("Cannot load plugin file: " ++ path.text))
  else match library.fileExports path with
    | .ok exported => return .bundle (fileModuleName path) exported
    | .error message =>
      .error (.plugin ("Plugin file " ++ path.text ++ " failed to import: " ++ message))

def find? (library : Library) (name : String) : Option Shipped.Module :=
  library.modules.find? (·.name = name)

/-- What outermost modules stand in. -/
def outermost : Shipped.Module := ⟨"", true, .ok []⟩

/-- The name of a module that stands in another one. -/
def nameBelow (above : Shipped.Module) (segment : String) : String :=
  if above.name.isEmpty then segment else above.name ++ "." ++ segment

/-- Why there is no module below another one. -/
def missingText (above : Shipped.Module) (segment : String) : String :=
  "No module named " ++ quotedString (nameBelow above segment) ++
    if above.isPackage then "" else "; " ++ quotedString above.name ++ " is not a package"

/-- The module that segments lead to from another one. The code of each module on the way is run. -/
def importBelow (library : Library) (above : Shipped.Module) :
    (segments : List String) → Except Fault Shipped.Module
  | [] => .ok above
  | segment :: rest =>
    match library.find? (nameBelow above segment) with
    | none => .error (.importFailed (missingText above segment))
    | some found => do
      let _ ← found.exported
      library.importBelow found rest

/-- The module of a name. Other faults of its code than a failed import are not turned into
reports about a plugin. -/
def loadModule (library : Library) (name : List Char) : Except Fault Object :=
  match library.importBelow outermost ((splitOn ['.'] name).map String.ofList) with
  | .ok found => found.exported.map (.bundle found.name)
  | .error (.importFailed message) => .error (.plugin
      ("Cannot import plugin module " ++ String.ofList (quoted name) ++ ": " ++ message))
  | .error fault => .error fault

/-- A source cut at its first colon. -/
def cutSource (source : List Char) : List Char × List Char :=
  match cutAt? [':'] source with
  | some (reference, selected) => (trim reference, selected)
  | none => (trim source, [])

/-- What a reference names. -/
def loadReference (library : Library) (reference : List Char) : Except Fault Object :=
  if isFile reference then library.loadFile (library.base ++ Path.ofList reference)
  else library.loadModule reference

/-- What an object holds under a name; without a name, the object. -/
def select (source : String) (selected : List Char) (object : Object) : Except Fault Object :=
  if selected.isEmpty then .ok object
  else match object.attribute? (String.ofList selected) with
    | some found => .ok found
    | none => .error (.plugin ("Plugin source " ++ quotedString source ++ " has no attribute "
        ++ String.ofList (quoted selected)))

/-- The object that a source names. -/
def load (library : Library) (source : String) : Except Fault Object :=
  let (reference, selected) := cutSource source.toList
  if reference.isEmpty then .error (.plugin ("Empty plugin source: " ++ quotedString source))
  else library.loadReference reference >>= select source selected

end Library

end StaticSite.Plugin
