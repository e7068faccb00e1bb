import StaticSite.CommandLine
import StaticSite.Component.Shipped
import StaticSite.Expression.Program

/-!
# The program

Reads the tree below the working folder, runs the command line on it, and writes what has changed
back to the tree. There is no network, and plugin code is not run.
-/

namespace StaticSite.Program

/-- Where the shipped components stand on the disk that a run sees. -/
def shippedFolder : Path := .ofString "/shipped/components"

/-- The tree below a folder. -/
partial def readTree (folder : String) : IO Node := do
  let listed ← ((← IO.currentDir) / folder).readDir
  let mut entries : Node.Entries := []
  for entry in listed do
    let path := folder ++ "/" ++ entry.fileName
    let below ← if ← entry.path.isDir then readTree path
      else do pure (.file (← IO.FS.readBinFile path).toList)
    entries := entries ++ [(entry.fileName, below)]
  return .folder entries

/-- Makes the tree below a folder what it should be. -/
partial def writeTree (folder : String) (before after : Node.Entries) : IO Unit := do
  for (name, _) in before do
    if (after.lookup name).isNone then
      let path := folder ++ "/" ++ name
      if ← ((← IO.currentDir) / path).isDir then IO.FS.removeDirAll path else IO.FS.removeFile path
  for (name, node) in after do
    let path := folder ++ "/" ++ name
    match node, before.lookup name with
    | .file bytes, some (.file old) =>
      unless bytes = old do IO.FS.writeBinFile path ⟨bytes.toArray⟩
    | .file bytes, some (.folder _) => do
      IO.FS.removeDirAll path
      IO.FS.writeBinFile path ⟨bytes.toArray⟩
    | .file bytes, none => IO.FS.writeBinFile path ⟨bytes.toArray⟩
    | .folder entries, some (.folder old) => writeTree path old entries
    | .folder entries, some (.file _) => do
      IO.FS.removeFile path
      IO.FS.createDirAll path
      writeTree path [] entries
    | .folder entries, none => do
      IO.FS.createDirAll path
      writeTree path [] entries

/-- Plugin code is not run. -/
def refuseCode (_ : List Char) : Except String Plugin.Exports := .error "plugin code is not run"

/-- A disk with the working folder and the shipped components. -/
def diskOf (here : Path) (tree : Node) : Disk :=
  let made := (Disk.makeFolders shippedFolder.parent >>= fun _ => Disk.makeFolders here).run
    ⟨.empty, here.segments⟩
  let placed := made.2.root.modifyAt (fun _ => tree) here.segments
  ⟨placed.insertAt shippedFolder.parent.segments shippedFolder.name Component.Shipped.folder,
    here.segments⟩

def severityText : Severity → String
  | .warning => "WARNING"
  | .error => "ERROR"

/-- A text that does not occur in the pages of a site by chance. -/
def freshNonce : IO (List Char) := do
  return Text.hex 8 (← IO.rand 0 (Number.twoTo 32 - 1))

/-- The variables that the settings of a site name are looked up once, before the run. -/
def environmentOf (names : List String) : IO (String → Option String) := do
  let values ← names.mapM fun name => do return (name, ← IO.getEnv name)
  return fun name => (values.lookup name).join

/-- The names of variables that sign in to the data groups of a site. -/
def tokenNames (settings : Settings) : List String :=
  settings.apiAuth.filterMap fun entry => match entry.2 with
    | .mapping fields => (Mapping.get? "token" fields).bind Value.text?
    | _ => none

/-- The settings a command reads. -/
def settingsOf (disk : Disk) : CommandLine.Command → Except Fault Settings
  | .build options | .render _ options =>
    ((CommandLine.loadSettings options).run ⟨disk, .start⟩).1

def report (workspace : Workspace) : IO Unit := do
  for notice in workspace.session.journal.notices do
    IO.eprintln (severityText notice.severity ++ ": " ++ notice.text)

/-- Runs the program and gives its exit status. -/
def run (arguments : List String) : IO UInt32 := do
  let here := Path.ofString (← IO.currentDir).toString
  let disk := diskOf here (← readTree ".")
  let names := match (CommandLine.Command.ofArguments? arguments).map (settingsOf disk) with
    | some (.ok settings) => tokenNames settings
    | _ => []
  let host : Host := ⟨Expression.evaluate, Api.noNetwork, ← environmentOf names, refuseCode,
    ← freshNonce, some shippedFolder, none⟩
  let (ending, workspace) := CommandLine.run host arguments ⟨disk, .start⟩
  let entries (disk : Disk) := ((disk.node? here).getD .empty).entries
  writeTree "." (entries disk) (entries workspace.disk)
  report workspace
  match ending with
  | .done printed => do
    IO.print (String.ofList printed)
    return 0
  | .refused => return 1
  | .failed fault => do
    IO.eprintln (fault.kind ++ (fault.message?.map fun text => ": " ++ text).getD "")
    return 1

end StaticSite.Program

def main (arguments : List String) : IO UInt32 := StaticSite.Program.run arguments
