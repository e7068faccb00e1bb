import StaticSite.Fault
import StaticSite.Text.Search
import StaticSite.Text.Utf8

/-!
# File trees

A node is a file with its bytes or a folder with named entries. A location is the list of names
that leads from a folder to a node below it.
-/

namespace StaticSite

open StaticSite.Text

inductive Node where
  | file (bytes : List UInt8)
  | folder (entries : List (String × Node))
  deriving Inhabited

abbrev Location := List String

namespace Node

abbrev Entries := List (String × Node)

def empty : Node := .folder []

def entries : Node → Entries
  | .file _ => []
  | .folder entries => entries

def isFolder : Node → Bool
  | .folder _ => true
  | .file _ => false

/-- The node at a location. -/
def at? (node : Node) : Location → Option Node
  | [] => some node
  | name :: rest => match node with
    | .folder entries => match entries.lookup name with
      | some inner => inner.at? rest
      | none => none
    | .file _ => none

/-- The text of a file. -/
def text : Node → Except Fault (List Char)
  | .folder _ => .error .isADirectory
  | .file bytes => match decodeUtf8? bytes with
    | some s => .ok (normalizeLines s)
    | none => .error .undecodableText

/-- Puts a node under a name: in place of an entry of that name, else after all entries. -/
def setEntry (name : String) (node : Node) : Entries → Entries
  | [] => [(name, node)]
  | entry :: rest => if entry.1 = name then (name, node) :: rest else entry :: setEntry name node rest

def dropEntry (name : String) (entries : Entries) : Entries :=
  entries.filter fun entry => entry.1 != name

/-- Changes the node at a location; a location that leads nowhere changes nothing. -/
def modifyAt (change : Node → Node) : Location → Node → Node
  | [], node => change node
  | name :: rest, .folder entries =>
    .folder (entries.map fun entry =>
      if entry.1 = name then (name, modifyAt change rest entry.2) else entry)
  | _ :: _, .file bytes => .file bytes

/-- Puts a node into the folder at a location. -/
def insertAt (tree : Node) (folder : Location) (name : String) (node : Node) : Node :=
  tree.modifyAt
    (fun
      | .folder entries => .folder (setEntry name node entries)
      | other => other)
    folder

/-- Removes an entry from the folder at a location. -/
def removeAt (tree : Node) (folder : Location) (name : String) : Node :=
  tree.modifyAt
    (fun
      | .folder entries => .folder (dropEntry name entries)
      | other => other)
    folder

mutual

/-- The files at and below a node, each with its location. -/
def files : Node → List (Location × List UInt8)
  | .file bytes => [([], bytes)]
  | .folder entries => filesOf entries

def filesOf : List (String × Node) → List (Location × List UInt8)
  | [] => []
  | (name, node) :: rest =>
    (files node).map (fun found => (name :: found.1, found.2)) ++ filesOf rest

end

/-- Puts a file under a name, or into the folder of that name; a folder there that holds a folder
of that name again cannot take it. -/
def overlayFile (name : String) (bytes : List UInt8) (target : Entries) : Entries × Bool :=
  match target.lookup name with
  | some (.folder inner) => match inner.lookup name with
    | some (.folder _) => (target, false)
    | _ => (setEntry name (.folder (setEntry name (.file bytes) inner)) target, true)
  | _ => (setEntry name (.file bytes) target, true)

mutual

/-- Copies entries over those of a folder, and whether all of them could be copied. -/
def overlay : List (String × Node) → Entries → Entries × Bool
  | [], target => (target, true)
  | entry :: rest, target =>
    let (next, done) := overlayEntry entry target
    let (final, others) := overlay rest next
    (final, done && others)

def overlayEntry : String × Node → Entries → Entries × Bool
  | (name, node), target => overlayNode name node target

/-- Copies a node under a name: a folder cannot take the place of a file. -/
def overlayNode (name : String) : Node → Entries → Entries × Bool
  | .file bytes, target => overlayFile name bytes target
  | .folder entries, target => match target.lookup name with
    | none =>
      let (inner, clean) := overlay entries []
      (setEntry name (.folder inner) target, clean)
    | some (.folder present) =>
      let (inner, clean) := overlay entries present
      (setEntry name (.folder inner) target, clean)
    | some (.file _) => (target, false)

end

end Node

end StaticSite
