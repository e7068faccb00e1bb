import StaticSite.Text.Search

/-!
# Paths

A path is a list of segments below the working folder or below the root. Empty segments and single
points are dropped when a path is read; doubled points stay, because what they mean depends on the
disk.
-/

namespace StaticSite

open StaticSite.Text

structure Path where
  /-- The number of slashes in front: none for a relative path. -/
  slashes : Nat
  segments : List String
  deriving DecidableEq, Repr, Inhabited

namespace Path

def here : Path := ⟨0, []⟩

def ofSegments (segments : List String) : Path := ⟨0, segments⟩

/-- Exactly two slashes in front are kept apart from one; more count as one. -/
def leadingSlashes (s : List Char) : Nat :=
  match (s.takeWhile (· = '/')).length with
  | 0 => 0
  | 2 => 2
  | _ => 1

def isSegment (segment : List Char) : Bool := !segment.isEmpty && segment != ['.']

def ofList (s : List Char) : Path :=
  ⟨leadingSlashes s, ((splitOn ['/'] s).filter isSegment).map String.ofList⟩

def ofString (s : String) : Path := ofList s.toList

def isAbsolute (path : Path) : Bool := path.slashes ≠ 0

/-- A path below another one; an absolute path stands for itself. -/
def join (path below : Path) : Path :=
  if below.isAbsolute then below else ⟨path.slashes, path.segments ++ below.segments⟩

instance : Append Path := ⟨join⟩

def child (path : Path) (segment : String) : Path := path ++ ofString segment

/-- The last segment, empty if there is none. -/
def name (path : Path) : String := path.segments.getLast?.getD ""

def parent (path : Path) : Path := ⟨path.slashes, path.segments.dropLast⟩

/-- The name up to its last point and the rest; a point at either end of the name does not count. -/
def cutName (name : List Char) : List Char × List Char :=
  match cutAtLast? ['.'] name with
  | some (stem, rest) =>
    if stem.isEmpty || rest.isEmpty then (name, []) else (stem, '.' :: rest)
  | none => (name, [])

def stem (path : Path) : String := String.ofList (cutName path.name.toList).1

def suffix (path : Path) : String := String.ofList (cutName path.name.toList).2

def text (path : Path) : String :=
  match path.slashes, path.segments with
  | 0, [] => "."
  | slashes, segments =>
    String.ofList (List.replicate slashes '/') ++ String.intercalate "/" segments

instance : ToString Path := ⟨text⟩

def dropSegments? : List String → List String → Option (List String)
  | [], rest => some rest
  | a :: front, b :: rest => if a = b then dropSegments? front rest else none
  | _ :: _, [] => none

/-- The path below a folder that leads to a path, if it lies there. -/
def below? (folder path : Path) : Option Path :=
  if folder.slashes = path.slashes then
    (dropSegments? folder.segments path.segments).map ofSegments
  else none

end Path

end StaticSite
