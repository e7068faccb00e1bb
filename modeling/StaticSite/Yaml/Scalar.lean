import StaticSite.Text.Class
import StaticSite.Yaml.Cursor

/-!
# Scalar texts

A scalar is written plain, between quotes, or as a block of lines. A line break inside the first
two is folded: one break is a blank, and of several the first is dropped. Every reader gives the
text and the cursor behind it; a loop takes at least one character each time, so the length of the
text bounds it.
-/

namespace StaticSite.Yaml

open StaticSite.Text

/-- The blank or the line breaks that stand for a break and the breaks after it. -/
def foldBreaks (first : Char) (more : List Char) : List Char :=
  if first != '\n' then first :: more else if more.isEmpty then [' '] else more

/-! ### Quoted scalars -/

def isGap (c : Char) : Bool := c = ' ' || c = '\t'

/-- Line breaks and the blanks around them. No document marker may stand between quotes. -/
def quotedBreaks : (fuel : Nat) → Cursor → Except Fault (List Char × Cursor)
  | 0, _ => malformed
  | fuel + 1, cursor =>
    if cursor.atMarker then malformed
    else
      let cursor := cursor.skip isGap
      match cursor.break? with
      | some (c, next) => (quotedBreaks fuel next).map fun found => (c :: found.1, found.2)
      | none => .ok ([], cursor)

def shortEscapes : List (Char × Nat) :=
  [('0', 0), ('a', 7), ('b', 8), ('t', 9), ('\t', 9), ('n', 10), ('v', 11), ('f', 12), ('r', 13),
    ('e', 27), (' ', 32), ('"', 34), ('/', 47), ('\\', 92), ('N', 0x85), ('_', 0xA0),
    ('L', 0x2028), ('P', 0x2029)]

def numberEscapes : List (Char × Nat) := [('x', 2), ('u', 4), ('U', 8)]

def hexNumber? : List Char → (value : Nat) → Option Nat
  | [], value => some value
  | c :: rest, value => (hexValue? c).bind fun digit => hexNumber? rest (value * 16 + digit)

/-- The character of a number; half of a pair alone stands for no character. -/
def numbered (code : Nat) : Char :=
  if 0xD800 ≤ code && code < 0xE000 then '\uFFFD' else Char.ofNat code

/-- The text of an escape, from the character after the backslash. -/
def escape (fuel : Nat) (cursor : Cursor) : Except Fault (List Char × Cursor) :=
  match cursor.next? with
  | none => malformed
  | some c => match shortEscapes.lookup c, numberEscapes.lookup c with
    | some code, _ => .ok ([Char.ofNat code], cursor.step)
    | none, some width =>
      let digits := cursor.step.rest.take width
      if digits.length < width then malformed
      else match hexNumber? digits 0 with
        | none => malformed
        | some code =>
          if code > 0x10FFFF then .error .wrongValue
          else .ok ([numbered code], cursor.forward (width + 1))
    | none, none => match cursor.break? with
      | some (_, next) => quotedBreaks fuel next
      | none => malformed

/-- The text between quotes, from the character after the first one. -/
def quotedFrom (double : Bool) : (fuel : Nat) → Cursor → Except Fault (List Char × Cursor)
  | 0, _ => malformed
  | fuel + 1, cursor => match cursor.next? with
    | none => malformed
    | some c =>
      let further (front : List Char) (next : Cursor) :=
        (quotedFrom double fuel next).map fun found => (front ++ found.1, found.2)
      if isGap c || isBreak c then
        let (gap, next) := cursor.span isGap
        match next.break? with
        | some (first, next) => do
          let (more, next) ← quotedBreaks fuel next
          further (foldBreaks first more) next
        | none => further gap next
      else if double then
        if c = '"' then .ok ([], cursor.step)
        else if c = '\\' then do
          let (front, next) ← escape fuel cursor.step
          further front next
        else further [c] cursor.step
      else if c = '\'' then
        if cursor.peek? 1 = some '\'' then further ['\''] (cursor.forward 2)
        else .ok ([], cursor.step)
      else further [c] cursor.step

def quoted (double : Bool) (cursor : Cursor) : Except Fault (List Char × Cursor) :=
  quotedFrom double (cursor.rest.length + 1) cursor.step

/-! ### Plain scalars -/

def isFlowMark (c : Char) : Bool :=
  c = ',' || c = '[' || c = ']' || c = '\x7b' || c = '\x7d'

/-- The part of a plain scalar up to the next gap: a colon that stands alone ends it, and between
brackets every mark of a collection does. -/
def plainRun (inFlow older : Bool) : List Char → List Char
  | [] => []
  | c :: rest =>
    let alone := endsWord rest.head?
    if c = ':' then if alone then [] else c :: plainRun inFlow older rest
    else if c = '?' && inFlow && older then []
    else if endsWord (some c) || (inFlow && isFlowMark c) then []
    else c :: plainRun inFlow older rest

/-- Line breaks and the blanks between them, up to a document marker. -/
def plainBreaks : (fuel : Nat) → Cursor → Option (List Char) × Cursor
  | 0, cursor => (none, cursor)
  | fuel + 1, cursor =>
    if cursor.column = 0 && cursor.atMarker then (none, cursor)
    else
      let cursor := cursor.skip (· = ' ')
      match cursor.break? with
      | some (c, next) =>
        let (more, final) := plainBreaks fuel next
        (more.map (c :: ·), final)
      | none => (some [], cursor)

/-- A gap inside a plain scalar. -/
structure Gap where
  text : List Char
  cursor : Cursor
  /-- Whether the gap goes over a line break. -/
  isBroken : Bool

/-- The gap after a part of a plain scalar; an empty text ends the scalar. -/
def plainGap (cursor : Cursor) : Gap :=
  let (blanks, next) := cursor.span (· = ' ')
  match next.break? with
  | some (first, next) =>
    match plainBreaks (next.rest.length + 1) next with
    | (some more, final) => ⟨foldBreaks first more, final, true⟩
    | (none, final) => ⟨[], final, true⟩
  | none => ⟨blanks, next, false⟩

structure PlainScalar where
  text : List Char
  cursor : Cursor
  /-- Whether a key can start behind the scalar. -/
  allowsKey : Bool

/-- The parts of a plain scalar and the gaps between them. Outside of brackets a further line must
be indented to `indent`. -/
def plainFrom (inFlow older : Bool) (indent : Int) :
    (fuel : Nat) → (gap : List Char) → (broken : Bool) → Cursor → PlainScalar
  | 0, _, broken, cursor => ⟨[], cursor, broken⟩
  | fuel + 1, gap, broken, cursor =>
    match plainRun inFlow older cursor.rest with
    | [] => ⟨[], cursor, broken⟩
    | c :: run =>
      if c = '#' then ⟨[], cursor, broken⟩
      else
        let part := gap ++ c :: run
        let next := plainGap (cursor.forward (run.length + 1))
        if next.text.isEmpty || (!inFlow && (next.cursor.column : Int) < indent) then
          ⟨part, next.cursor, next.isBroken⟩
        else
          let others := plainFrom inFlow older indent fuel next.text next.isBroken next.cursor
          ⟨part ++ others.text, others.cursor, others.allowsKey⟩

def plain (inFlow older : Bool) (indent : Int) (cursor : Cursor) : PlainScalar :=
  plainFrom inFlow older indent (cursor.rest.length + 1) [] false cursor

/-! ### Block scalars -/

/-- What becomes of the line breaks at the end of a block. -/
inductive Chomping where
  | clip
  | strip
  | keep
  deriving DecidableEq

def chomping? : Option Char → Option Chomping
  | some '+' => some .keep
  | some '-' => some .strip
  | _ => none

def increment? (c? : Option Char) : Except Fault (Option Nat) := match c? with
  | some c =>
    if !isAsciiDigit c then .ok none else if c = '0' then malformed else .ok (some (c.toNat - 48))
  | none => .ok none

/-- The header of a block after its mark: how its end is chomped and how far it is indented. -/
def blockHeader (cursor : Cursor) : Except Fault ((Chomping × Option Nat) × Cursor) := do
  let ((chomping, increment), next) ← match chomping? cursor.next? with
    | some chomping => do
      let increment ← increment? (cursor.peek? 1)
      pure ((chomping, increment), cursor.forward (if increment.isSome then 2 else 1))
    | none => do
      match ← increment? cursor.next? with
      | some increment => match chomping? (cursor.peek? 1) with
        | some chomping => pure ((chomping, some increment), cursor.forward 2)
        | none => pure ((.clip, some increment), cursor.step)
      | none => pure ((.clip, none), cursor)
  if next.next? = some ' ' || endsLine next.next? then
    let next := next.skip (· = ' ')
    let next := if next.next? = some '#' then next.skip (fun c => !endsLine (some c)) else next
    if endsLine next.next? then return ((chomping, increment), next.step) else malformed
  else malformed

/-- The empty lines before a block without a given indentation. -/
structure Lead where
  breaks : List Char
  cursor : Cursor
  /-- The column of the first line break, if it was not at the start of its line. -/
  firstColumn? : Option Nat
  deepest : Nat

def lead : (fuel : Nat) → Lead → Lead
  | 0, found => found
  | fuel + 1, found =>
    match found.cursor.break? with
    | some (c, next) => lead fuel
      { found with
        breaks := found.breaks ++ [c], cursor := next,
        firstColumn? := found.firstColumn?.or (some found.cursor.column) }
    | none =>
      if found.cursor.next? = some ' ' then
        let next := found.cursor.step
        lead fuel { found with cursor := next, deepest := max found.deepest next.column }
      else found

/-- Line breaks, with the indentation of each line skipped. -/
def blockBreaks (indent : Int) : (fuel : Nat) → Cursor → List Char × Cursor
  | 0, cursor => ([], cursor)
  | fuel + 1, cursor =>
    let present := (cursor.rest.takeWhile (· = ' ')).length
    let cursor := cursor.forward (min present (indent - cursor.column).toNat)
    match cursor.break? with
    | some (c, next) =>
      let (more, final) := blockBreaks indent fuel next
      (c :: more, final)
    | none => ([], cursor)

/-- What a block of lines comes to. -/
structure BlockLines where
  /-- The text up to the end of the last line. -/
  text : List Char
  /-- The line break of the last line. -/
  lastBreak : List Char
  /-- The line breaks after that. -/
  breaks : List Char
  cursor : Cursor

/-- The lines of a block from the first one that is not empty. -/
def blockLines (folded : Bool) (indent : Int) (atMargin : Bool) :
    (fuel : Nat) → (breaks lastBreak : List Char) → Cursor → BlockLines
  | 0, breaks, lastBreak, cursor => ⟨[], lastBreak, breaks, cursor⟩
  | fuel + 1, breaks, lastBreak, cursor =>
    if (cursor.column : Int) = indent && cursor.next?.isSome then
      let opensInText := !(cursor.next?.map isGap).getD false
      let (line, atEnd) := cursor.span fun c => !endsLine (some c)
      let (ending, next) := match atEnd.break? with
        | some (c, next) => ([c], next)
        | none => ([], atEnd)
      let (more, next) := blockBreaks indent (next.rest.length + 1) next
      if atMargin && next.column = 0 && next.atMarker then
        ⟨breaks ++ line, ending, more, next⟩
      else if (next.column : Int) = indent && next.next?.isSome then
        let joint :=
          if folded && ending == ['\n'] && opensInText && !(next.next?.map isGap).getD false then
            if more.isEmpty then [' '] else []
          else ending
        let others := blockLines folded indent atMargin fuel more ending next
        { others with text := breaks ++ line ++ joint ++ others.text }
      else ⟨breaks ++ line, ending, more, next⟩
    else ⟨[], lastBreak, breaks, cursor⟩

/-- A block scalar from its mark. `parent` is the indentation of the node that holds it. -/
def block (folded : Bool) (parent : Int) (cursor : Cursor) : Except Fault (List Char × Cursor) := do
  let ((chomping, increment), start) ← blockHeader cursor.step
  let fuel := start.rest.length + 1
  let least := parent + 1
  let (indent, breaks, start) ← match increment with
    | some increment =>
      let indent := max least 1 + increment - 1
      let (breaks, next) := blockBreaks indent fuel start
      pure (indent, breaks, next)
    | none =>
      let found := lead fuel ⟨[], start, none, 0⟩
      match found.firstColumn? with
      | some column =>
        if column > 0 && found.deepest > column then malformed
        else pure (max least found.deepest, found.breaks, found.cursor)
      | none => pure (max least found.deepest, found.breaks, found.cursor)
  let lines := blockLines folded indent (increment.isNone && least ≤ 0) fuel breaks [] start
  let ending := match chomping with
    | .strip => []
    | .clip => lines.lastBreak
    | .keep => lines.lastBreak ++ lines.breaks
  return (lines.text ++ ending, lines.cursor)

end StaticSite.Yaml
