import StaticSite.Value.Display
import StaticSite.Value.Order
import StaticSite.Text.Split

/-!
# Values over several lines

`Value.lines` writes a value as `Value.quoted` does, with the keys of every mapping in order, and
breaks what is wider than the page: one element or entry to a line, and long texts between words.
-/

namespace StaticSite.Value.Lines

open StaticSite.Text

/-- How many columns a line has. -/
def pageWidth : Nat := 80

/-- Keys that have no order stand in the order of the names of their types. -/
def keyBefore (a b : Value) : Bool := match lessThan a b with
  | .ok before => before
  | .error _ => a.typeName < b.typeName

def insertEntry (entry : Value × Value) : List (Value × Value) → List (Value × Value)
  | [] => [entry]
  | other :: rest =>
    if keyBefore other.1 entry.1 then other :: insertEntry entry rest else entry :: other :: rest

mutual

/-- The value with the entries of its mappings in the order of their keys. -/
def arranged : Value → Value
  | .list items => .list (arrangedItems items)
  | .tuple items => .tuple (arrangedItems items)
  | .mapping entries => .mapping (arrangedEntries entries)
  | value => value

def arrangedItems : List Value → List Value
  | [] => []
  | item :: rest => arranged item :: arrangedItems rest

def arrangedEntries : List (Value × Value) → List (Value × Value)
  | [] => []
  | (key, item) :: rest => insertEntry (arranged key, arranged item) (arrangedEntries rest)

end

/-- Where a value is written: the column of its first character, how many columns what follows it
on its last line needs, and whether it is the whole text. -/
structure Position where
  column : Nat
  reserved : Nat
  isWhole : Bool

/-- A position inside the brackets of a value; `closing` is the width of the end bracket. -/
def Position.inside (place : Position) (closing : Nat) : Position :=
  ⟨place.column + 1, place.reserved + closing, false⟩

/-- The position of an element that a comma follows. -/
def Position.beforeComma (place : Position) : Position := { place with reserved := 1 }

def Position.after (place : Position) (width : Nat) : Position :=
  { place with column := place.column + width }

def Position.newLine (place : Position) : List Char := '\n' :: List.replicate place.column ' '

def Position.fits (place : Position) (text : List Char) : Bool :=
  text.length + place.column + place.reserved ≤ pageWidth

/-- Words, each with the blanks after it. -/
def spacedWords (word : List Char) : List Char → List (List Char)
  | [] => if word.isEmpty then [] else [word.reverse]
  | c :: s => match word with
    | last :: _ =>
      if isBlank last && !isBlank c then word.reverse :: spacedWords [c] s
      else spacedWords (c :: word) s
    | [] => spacedWords [c] s

/-- Packs words into quoted pieces that fit; `piece` is the piece under way. -/
def packed (place : Position) (piece : List Char) : List (List Char) → List (List Char)
  | [] => if piece.isEmpty then [] else [Text.quoted piece]
  | word :: rest =>
    let place' := if rest.isEmpty then place else { place with reserved := 0 }
    if place'.fits (Text.quoted (piece ++ word)) then packed place (piece ++ word) rest
    else if piece.isEmpty then packed place word rest
    else Text.quoted piece :: packed place word rest

/-- The quoted pieces of the lines of a text. -/
def pieces (place : Position) : List (List Char) → List (List Char)
  | [] => []
  | line :: rest =>
    let place' := if rest.isEmpty then place else { place with reserved := 0 }
    (if place'.fits (Text.quoted line) then [Text.quoted line]
      else packed place' [] (spacedWords [] line)) ++ pieces place rest

/-- A text in pieces one below the other, in brackets if it stands alone. -/
def textLines (place : Position) (s : List Char) : List Char :=
  let inner := if place.isWhole then place.inside 1 else place
  match pieces inner (linesFrom true [] s) with
  | [] | [_] => Text.quoted s
  | all =>
    let shown := joinWith inner.newLine all
    if place.isWhole then '(' :: shown ++ [')'] else shown

mutual

/-- A value, its mappings arranged, at a position. -/
def write (place : Position) : Value → List Char
  | .list items =>
    broken place (.list items) '[' (writeItems (place.inside 1) items) [']']
  | .tuple items =>
    let closing := if items.length = 1 then [',', ')'] else [')']
    broken place (.tuple items) '(' (writeItems (place.inside closing.length) items) closing
  | .mapping entries =>
    broken place (.mapping entries) '\x7b' (writeEntries (place.inside 1) entries) ['\x7d']
  | .str s =>
    if place.fits (Text.quoted s.toList) then Text.quoted s.toList else textLines place s.toList
  | value => value.quoted
where
  broken (place : Position) (value : Value) (opening : Char) (inner closing : List Char) :
      List Char :=
    if place.fits value.quoted then value.quoted else opening :: inner ++ closing

def writeItems (place : Position) : List Value → List Char
  | [] => []
  | item :: rest =>
    if rest.isEmpty then write place item
    else write place.beforeComma item ++ ',' :: place.newLine ++ writeItems place rest

def writeEntries (place : Position) : List (Value × Value) → List Char
  | [] => []
  | (key, item) :: rest =>
    let front := key.quoted ++ [':', ' ']
    if rest.isEmpty then front ++ write (place.after front.length) item
    else front ++ write (place.beforeComma.after front.length) item ++ ',' :: place.newLine
      ++ writeEntries place rest

end

end Lines

/-- The text of a value over as many lines as it needs. -/
def lines (value : Value) : List Char := Lines.write ⟨0, 0, true⟩ (Lines.arranged value)

end StaticSite.Value
