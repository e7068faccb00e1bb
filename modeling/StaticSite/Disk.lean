import StaticSite.Action
import StaticSite.Disk.Node
import StaticSite.Path
import StaticSite.Text.Utf8

/-!
# The disk

A disk is a file tree with a working folder. A path is followed segment by segment: each segment
but the last must be a folder that exists, and a doubled point leads to the folder above. Text
files are UTF-8, with every line end read as a line feed.
-/

namespace StaticSite

open StaticSite.Text

structure Disk where
  root : Node
  /-- Where relative paths start. -/
  here : Location
  deriving Inhabited

namespace Disk

/-- The location that segments lead to from a location. -/
def follow (root : Node) (place : Location) : List String → Except Fault Location
  | [] => .ok place
  | segment :: rest =>
    match root.at? place with
    | none => .error .fileNotFound
    | some (.file _) => .error .notADirectory
    | some (.folder _) =>
      follow root (if segment = ".." then place.dropLast else place ++ [segment]) rest

/-- The location of a path. There may be nothing at it yet. -/
def locate (disk : Disk) (path : Path) : Except Fault Location :=
  if path.segments.any fun segment => segment.toList.elem '\x00' then .error .wrongValue
  else follow disk.root (if path.isAbsolute then [] else disk.here) path.segments

/-- The node at a path. -/
def node (disk : Disk) (path : Path) : Except Fault Node := do
  match disk.root.at? (← disk.locate path) with
  | some found => .ok found
  | none => .error .fileNotFound

def node? (disk : Disk) (path : Path) : Option Node := (disk.node path).toOption

def contains (disk : Disk) (path : Path) : Bool := (disk.node? path).isSome

def isFolder (disk : Disk) (path : Path) : Bool := ((disk.node? path).map Node.isFolder).getD false

def isFile (disk : Disk) (path : Path) : Bool :=
  ((disk.node? path).map fun found => !found.isFolder).getD false

/-- The most bytes of a name, and of a whole path, that the system looks up. -/
def nameLimit : Nat := 255

def pathLimit : Nat := 4095

/-- Whether following segments comes to a name that is too long. -/
def meetsLongName (root : Node) (place : Location) : List String → Bool
  | [] => false
  | segment :: rest => match root.at? place with
    | some (.folder _) => segment.utf8ByteSize > nameLimit
      || meetsLongName root (if segment = ".." then place.dropLast else place ++ [segment]) rest
    | _ => false

/-- Whether the system refuses to look for a path because of its length. -/
def isTooLong (disk : Disk) (path : Path) : Bool :=
  path.text.utf8ByteSize > pathLimit
    || meetsLongName disk.root (if path.isAbsolute then [] else disk.here) path.segments

/-- Whether there is a file at a path that comes from outside, and may be of any length. -/
def findFile (disk : Disk) (path : Path) : Except Fault Bool :=
  -- A zero character is noticed before the system is asked.
  if path.segments.any fun segment => segment.toList.elem '\x00' then .ok false
  else if disk.isTooLong path then .error .nameTooLong
  else .ok (disk.isFile path)

/-- The text of a file. -/
def readText (disk : Disk) (path : Path) : Except Fault (List Char) := do (← disk.node path).text

/-- Makes a new folder. -/
def makeFolder (path : Path) (disk : Disk) : Except Fault Disk := do
  let place ← disk.locate path
  match disk.root.at? place, place.getLast? with
  | none, some name =>
    return { disk with root := disk.root.insertAt place.dropLast name .empty }
  | _, _ => .error .fileExists

/-- Makes a folder unless it is there. -/
def ensureFolder (path : Path) (disk : Disk) : Except Fault Disk :=
  match disk.makeFolder path with
  | .ok next => .ok next
  | .error .fileNotFound => .error .fileNotFound
  | .error fault => if disk.isFolder path then .ok disk else .error fault

/-- Makes a folder unless it is there, and the missing folders above it; the segments are given
last first. -/
def ensureAll (slashes : Nat) : (reversed : List String) → Action Disk Unit
  | [] => .change (ensureFolder ⟨slashes, []⟩)
  | name :: rest => do
    let path : Path := ⟨slashes, (name :: rest).reverse⟩
    match ← (Action.change (ensureFolder path)).attempt with
    -- The folder above is made first only where it is missing.
    | .error .fileNotFound =>
      ensureAll slashes rest
      .change (ensureFolder path)
    | outcome => .lift outcome

def makeFolders (path : Path) : Action Disk Unit := ensureAll path.slashes path.segments.reverse

/-- Makes a new folder and the missing folders above it. -/
def makeNewFolder (path : Path) : Action Disk Unit := do
  match ← (Action.change (makeFolder path)).attempt with
  | .error .fileNotFound =>
    makeFolders path.parent
    .change (makeFolder path)
  | outcome => .lift outcome

/-- Writes a file, over the old one if there is one. -/
def write (path : Path) (bytes : List UInt8) (disk : Disk) : Except Fault Disk := do
  let place ← disk.locate path
  match disk.root.at? place, place.getLast? with
  | some (.folder _), _ => .error .isADirectory
  | _, some name => return { disk with root := disk.root.insertAt place.dropLast name (.file bytes) }
  | _, none => .error .isADirectory

def writeText (path : Path) (s : List Char) : Disk → Except Fault Disk :=
  write path (encodeUtf8 s)

/-- Removes an empty folder. -/
def removeFolder (path : Path) (disk : Disk) : Except Fault Disk := do
  let place ← disk.locate path
  match disk.root.at? place, place.getLast? with
  | some (.folder []), some name =>
    return { disk with root := disk.root.removeAt place.dropLast name }
  | some (.folder _), _ => .error .directoryNotEmpty
  | some (.file _), _ => .error .notADirectory
  | none, _ => .error .fileNotFound

/-- Removes everything below a folder. -/
def emptyFolder (path : Path) (disk : Disk) : Except Fault Disk := do
  let place ← disk.locate path
  match disk.root.at? place with
  | some (.folder _) => return { disk with root := disk.root.modifyAt (fun _ => .empty) place }
  | some (.file _) => .error .notADirectory
  | none => .error .fileNotFound

/-- Removes a folder and everything below it. The path is followed once more when the folder is
empty, so one that passes through the folder itself leads nowhere by then. -/
def removeTree (path : Path) : Action Disk Unit := do
  .change (emptyFolder path)
  .change (removeFolder path)

/-- Removes a file. -/
def removeFile (path : Path) (disk : Disk) : Except Fault Disk := do
  let place ← disk.locate path
  match disk.root.at? place, place.getLast? with
  | some (.file _), some name =>
    return { disk with root := disk.root.removeAt place.dropLast name }
  | some _, _ => .error .isADirectory
  | none, _ => .error .fileNotFound

/-- Whether a folder may take the place of what stands at a location: of nothing, or of an empty
folder. -/
def checkVacant : Option Node → Except Fault Unit
  | none => .ok ()
  | some (.folder []) => .ok ()
  | some (.folder _) => .error .directoryNotEmpty
  | some (.file _) => .error .notADirectory

/-- Moves a folder to another path. -/
def rename (source target : Path) (disk : Disk) : Except Fault Disk := do
  let old ← disk.locate source
  let new ← disk.locate target
  match disk.root.at? old, old.getLast?, new.getLast? with
  | none, _, _ => .error .fileNotFound
  | some moved, some oldName, some newName =>
    if old = new then return disk
    -- A folder cannot move into itself.
    else if old.isPrefixOf new then .error .directoryNotEmpty
    else do
      checkVacant (disk.root.at? new)
      return { disk with root :=
        (disk.root.removeAt old.dropLast oldName).insertAt new.dropLast newName moved }
  | _, _, _ => .error .directoryNotEmpty

/-- Copies everything in one folder into another one, made if it is missing. What cannot be copied
is left out and makes the copy fail at its end. -/
def copyTree (source target : Path) : Action Disk Unit := do
  let before ← .get
  let old ← .lift (before.locate source)
  let copied ← .lift (before.node source)
  makeFolders target
  let disk ← .get
  let new ← .lift (disk.locate target)
  if old.isPrefixOf new.dropLast && old != new.dropLast || old = new then .fail .copyConflict
  else do
    let merged := Node.overlay copied.entries ((disk.root.at? new).getD .empty).entries
    .modify fun disk => { disk with root := disk.root.modifyAt (fun _ => .folder merged.1) new }
    if merged.2 then return () else .fail .copyConflict

end Disk

end StaticSite
