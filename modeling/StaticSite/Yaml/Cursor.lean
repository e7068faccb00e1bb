import StaticSite.Fault

/-!
# Cursors

A cursor is a place in a YAML text: what follows it, and its line and column, which decide how the
text is nested.
-/

namespace StaticSite.Yaml

structure Cursor where
  rest : List Char
  /-- The number of characters passed. -/
  index : Nat
  line : Nat
  column : Nat

def malformed {α : Type} : Except Fault α := .error .malformedYaml

def isBreak (c : Char) : Bool :=
  c = '\n' || c.toNat = 0x85 || c.toNat = 0x2028 || c.toNat = 0x2029

/-- Whether a line ends here; the two rare separators do not end a scalar. -/
def endsLine : Option Char → Bool
  | none => true
  | some c => c = '\n' || c.toNat = 0x85

/-- Whether an indicator before this character stands alone. -/
def endsWord : Option Char → Bool
  | some ' ' | some '\t' => true
  | c => endsLine c

namespace Cursor

def ofList (s : List Char) : Cursor := ⟨s, 0, 0, 0⟩

def next? (cursor : Cursor) : Option Char := cursor.rest.head?

def peek? (cursor : Cursor) (distance : Nat) : Option Char := cursor.rest[distance]?

/-- Passes one character. A byte order mark takes no column. -/
def step (cursor : Cursor) : Cursor := match cursor.rest with
  | [] => cursor
  | c :: rest =>
    if isBreak c then ⟨rest, cursor.index + 1, cursor.line + 1, 0⟩
    else if c = '\uFEFF' then ⟨rest, cursor.index + 1, cursor.line, cursor.column⟩
    else ⟨rest, cursor.index + 1, cursor.line, cursor.column + 1⟩

def forward : (count : Nat) → Cursor → Cursor
  | 0, cursor => cursor
  | count + 1, cursor => forward count cursor.step

/-- The characters up to the first that fails a test, and the cursor behind them. -/
def span (keep : Char → Bool) (cursor : Cursor) : List Char × Cursor :=
  let run := cursor.rest.takeWhile keep
  (run, cursor.forward run.length)

def skip (drop : Char → Bool) (cursor : Cursor) : Cursor := (cursor.span drop).2

/-- The line break at a cursor; the common ones are all read as a line feed. -/
def break? (cursor : Cursor) : Option (Char × Cursor) := match cursor.next? with
  | some c =>
    if !isBreak c then none
    else some (if c.toNat = 0x2028 || c.toNat = 0x2029 then c else '\n', cursor.step)
  | none => none

/-- Whether three of a character stand here alone. -/
def tripled (c : Char) (cursor : Cursor) : Bool :=
  cursor.rest.take 3 == [c, c, c] && endsWord (cursor.peek? 3)

/-- Whether a line that starts here would be a document marker. -/
def atMarker (cursor : Cursor) : Bool := cursor.tripled '-' || cursor.tripled '.'

end Cursor

end StaticSite.Yaml
