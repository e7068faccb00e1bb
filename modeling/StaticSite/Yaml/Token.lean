import StaticSite.Text.Utf8
import StaticSite.Yaml.Scalar

/-!
# Tokens of YAML

Tokens make the nesting of a text explicit: indentation becomes the start and end of collections,
and a key is announced in front of it. Whether a scalar is a key is known only at the colon behind
it, so each place where a key may start is remembered until then; a key stands on one line.
-/

namespace StaticSite.Yaml

open StaticSite.Text

inductive Directive where
  | version (major minor : Nat)
  | handle (name : List Char) (stands : List Char)
  | unknown
  deriving Repr, DecidableEq

inductive Token where
  | directive (directive : Directive)
  | documentStart
  | documentEnd
  | blockSequence
  | blockMapping
  | blockEnd
  | flowSequence
  | flowSequenceEnd
  | flowMapping
  | flowMappingEnd
  | blockEntry
  | flowEntry
  | key
  | value
  | alias (name : List Char)
  | anchor (name : List Char)
  /-- A tag: a handle, if there is one, and what follows it. -/
  | tag (handle : Option (List Char)) (suffix : List Char)
  | scalar (text : List Char) (isPlain : Bool)
  deriving Repr, DecidableEq

namespace Token

/-- A place where a key may have started. -/
structure PossibleKey where
  /-- How many tokens came before it. -/
  tokens : Nat
  index : Nat
  line : Nat
  column : Nat
  /-- Nothing but a key can stand there. -/
  isRequired : Bool

/-- How far a text has been read. -/
structure Scan where
  cursor : Cursor
  tokens : List Token
  /-- The column of the innermost block collection, and those around it. -/
  indent : Int
  outer : List Int
  /-- The brackets that are open, innermost first. -/
  brackets : List Char
  allowsKey : Bool
  /-- The possible keys by the number of brackets around them. -/
  keys : List (Nat × PossibleKey)
  /-- Whether the text asks for the older version of the format. -/
  older : Bool

namespace Scan

def start (s : List Char) : Scan := ⟨.ofList s, [], -1, [], [], true, [], false⟩

def depth (scan : Scan) : Nat := scan.brackets.length

def inFlow (scan : Scan) : Bool := !scan.brackets.isEmpty

def push (token : Token) (scan : Scan) : Scan := { scan with tokens := scan.tokens ++ [token] }

def pass (count : Nat) (scan : Scan) : Scan := { scan with cursor := scan.cursor.forward count }

def setKeys (allowed : Bool) (scan : Scan) : Scan := { scan with allowsKey := allowed }

def insert (place : Nat) (token : Token) (scan : Scan) : Scan :=
  { scan with tokens := scan.tokens.take place ++ token :: scan.tokens.drop place }

/-- Forgets the possible key at this depth, which must not be a required one. -/
def forgetKey (scan : Scan) : Except Fault Scan :=
  match scan.keys.lookup scan.depth with
  | some possible =>
    if possible.isRequired then malformed
    else .ok { scan with keys := scan.keys.filter fun entry => entry.1 != scan.depth }
  | none => .ok scan

/-- Remembers that a key may start here. -/
def markKey (scan : Scan) : Except Fault Scan := do
  if scan.allowsKey then
    let cursor := scan.cursor
    -- At the column of the innermost block nothing but a key can stand.
    let required := !scan.inFlow && scan.indent == (cursor.column : Int)
    let scan ← scan.forgetKey
    let here : PossibleKey :=
      ⟨scan.tokens.length, cursor.index, cursor.line, cursor.column, required⟩
    return { scan with keys := (scan.depth, here) :: scan.keys }
  else return scan

def keyLimit : Nat := 1024

/-- Forgets the possible keys of earlier lines and those too far back. -/
def dropStale (scan : Scan) : Except Fault Scan :=
  let isStale (possible : PossibleKey) :=
    possible.line != scan.cursor.line || scan.cursor.index - possible.index > keyLimit
  if scan.keys.any fun entry => isStale entry.2 && entry.2.isRequired then malformed
  else .ok { scan with keys := scan.keys.filter fun entry => !isStale entry.2 }

/-- Ends the block collections that are indented further than a column. -/
def unwindTo (column : Int) : (outer : List Int) → Scan → Scan
  | [], scan => scan
  | parent :: outer, scan =>
    if scan.indent > column then
      unwindTo column outer { scan.push .blockEnd with indent := parent, outer := outer }
    else scan

def unwind (column : Int) (scan : Scan) : Scan :=
  if scan.inFlow then scan else unwindTo column scan.outer scan

/-- Enters a block collection at a column unless one is open there. -/
def enterBlock (column : Nat) (scan : Scan) : Bool × Scan :=
  if scan.indent < column then
    (true, { scan with indent := column, outer := scan.indent :: scan.outer })
  else (false, scan)

/-- Skips blanks, comments and line breaks; after a line break a key can start. -/
def skipBlank : (fuel : Nat) → Scan → Scan
  | 0, scan => scan
  | fuel + 1, scan =>
    let cursor := scan.cursor.skip fun c => c = ' ' || (scan.inFlow && c = '\t')
    let cursor :=
      if cursor.next? = some '#' then cursor.skip (fun c => !endsLine (some c)) else cursor
    match cursor.break? with
    | some (_, next) =>
      skipBlank fuel { scan with cursor := next, allowsKey := scan.allowsKey || !scan.inFlow }
    | none => { scan with cursor := cursor }

/-! ### Single tokens -/

/-- A token that stands at the margin and ends every block. -/
def marker (token : Token) (length : Nat) (scan : Scan) : Except Fault Scan := do
  let scan ← (scan.unwind (-1)).forgetKey
  return ((scan.setKeys false).pass length).push token

def openFlow (bracket : Char) (token : Token) (scan : Scan) : Except Fault Scan := do
  let scan ← scan.markKey
  return (({ scan with brackets := bracket :: scan.brackets }.setKeys true).pass 1).push token

def closeFlow (token : Token) (scan : Scan) : Except Fault Scan := do
  let scan ← scan.forgetKey
  return (({ scan with brackets := scan.brackets.tail }.setKeys false).pass 1).push token

def flowEntry (scan : Scan) : Except Fault Scan := do
  let scan ← (scan.setKeys true).forgetKey
  return (scan.pass 1).push .flowEntry

/-- Enters a block collection here, where a key could start, if none is open. -/
def openBlock (token : Token) (scan : Scan) : Except Fault Scan :=
  if scan.inFlow then .ok scan
  else if !scan.allowsKey then malformed
  else
    let (isNew, scan) := scan.enterBlock scan.cursor.column
    .ok (if isNew then scan.push token else scan)

def blockEntry (scan : Scan) : Except Fault Scan := do
  let scan ← ((← scan.openBlock .blockSequence).setKeys true).forgetKey
  return (scan.pass 1).push .blockEntry

def explicitKey (scan : Scan) : Except Fault Scan := do
  let scan ← scan.openBlock .blockMapping
  let scan ← (scan.setKeys (!scan.inFlow)).forgetKey
  return (scan.pass 1).push .key

/-- A colon: behind a possible key it makes that a key, else it stands for itself. -/
def mappingValue (scan : Scan) : Except Fault Scan := do
  match scan.keys.lookup scan.depth with
  | some possible =>
    let scan := { scan with keys := scan.keys.filter fun entry => entry.1 != scan.depth }
    -- The mapping, if this key opens one, starts in front of the key.
    let scan := scan.insert possible.tokens .key
    let (isNew, scan) := if scan.inFlow then (false, scan) else scan.enterBlock possible.column
    let scan := if isNew then scan.insert possible.tokens .blockMapping else scan
    return ((scan.setKeys false).pass 1).push .value
  | none =>
    let scan ← scan.openBlock .blockMapping
    let scan ← (scan.setKeys (!scan.inFlow)).forgetKey
    return (scan.pass 1).push .value

/-- Characters of the names of anchors. -/
def isAnchorChar (c : Char) : Bool :=
  !isFlowMark c && ((33 ≤ c.toNat && c.toNat ≤ 126) || (0xA0 ≤ c.toNat && c != '\uFEFF'))

def anchorEnd (c? : Option Char) : Bool := match c? with
  | none => true
  | some c => isBreak c || " \t?:,[]\x7b\x7d%@".toList.elem c || c.toNat = 96

def reference (make : List Char → Token) (scan : Scan) : Except Fault Scan := do
  let scan := (← scan.markKey).setKeys false
  let (name, next) := scan.cursor.step.span isAnchorChar
  if name.isEmpty || !anchorEnd next.next? then malformed
  else return { scan with cursor := next }.push (make name)

def isHandleChar (c : Char) : Bool :=
  isAsciiDigit c || isAsciiLower c || isAsciiUpper c || c = '-' || c = '_'

/-- A tag handle: an exclamation mark, or a word between two of them. -/
def handle (cursor : Cursor) : Except Fault (List Char × Cursor) :=
  if cursor.next? != some '!' then malformed
  else if cursor.peek? 1 = some ' ' then .ok (['!'], cursor.step)
  else
    let (word, next) := cursor.step.span isHandleChar
    if next.next? = some '!' then .ok ('!' :: word ++ ['!'], next.step) else malformed

def isUriChar (older : Bool) (c : Char) : Bool :=
  isAsciiDigit c || isAsciiLower c || isAsciiUpper c || "-;/?:@&=+$,_.!~*'()[]".toList.elem c
    || (c = '#' && !older)

/-- The characters of the bytes written as percent escapes at the front. -/
def uriBytes : (fuel : Nat) → List Char → Except Fault (List UInt8 × List Char)
  | fuel + 1, '%' :: a :: b :: rest => match hexValue? a, hexValue? b with
    | some high, some low =>
      (uriBytes fuel rest).map fun found => (UInt8.ofNat (high * 16 + low) :: found.1, found.2)
    | _, _ => malformed
  | _, '%' :: _ => malformed
  | _, rest => .ok ([], rest)

def uriFrom (older : Bool) : (fuel : Nat) → List Char → Except Fault (List Char × List Char)
  | 0, _ => malformed
  | fuel + 1, s => match s with
    | '%' :: _ => do
      let (bytes, rest) ← uriBytes fuel s
      match decodeUtf8? bytes with
      | some front => (uriFrom older fuel rest).map fun found => (front ++ found.1, found.2)
      | none => malformed
    | c :: rest =>
      if isUriChar older c then
        (uriFrom older fuel rest).map fun found => (c :: found.1, found.2)
      else .ok ([], s)
    | [] => .ok ([], [])

/-- The text of a tag or of a directive that names one; it is not empty. -/
def uri (older : Bool) (cursor : Cursor) : Except Fault (List Char × Cursor) := do
  let (text, rest) ← uriFrom older (cursor.rest.length + 1) cursor.rest
  if text.isEmpty then malformed
  else return (text, cursor.forward (cursor.rest.length - rest.length))

def endsTag (c? : Option Char) : Bool := match c? with
  | none => true
  | some c => c = ' ' || isBreak c

/-- Whether a second exclamation mark ends a handle. -/
def hasHandle (s : List Char) : Bool :=
  (s.takeWhile fun c => !endsTag (some c)).elem '!'

def tagText (older : Bool) (cursor : Cursor) :
    Except Fault ((Option (List Char) × List Char) × Cursor) := do
  if cursor.peek? 1 = some '<' then
    let (text, next) ← uri older (cursor.forward 2)
    if next.next? = some '>' then return ((none, text), next.step) else malformed
  else if endsWord (cursor.peek? 1) then return ((none, ['!']), cursor.step)
  else
    let (name, next) ← if hasHandle cursor.step.rest then handle cursor else pure (['!'], cursor.step)
    let (text, next) ← uri older next
    return ((some name, text), next)

def tag (scan : Scan) : Except Fault Scan := do
  let scan := (← scan.markKey).setKeys false
  let ((name?, text), next) ← tagText scan.older scan.cursor
  if endsTag next.next? then return { scan with cursor := next }.push (.tag name? text)
  else malformed

def blockScalar (folded : Bool) (scan : Scan) : Except Fault Scan := do
  let scan ← (scan.setKeys true).forgetKey
  let (text, next) ← block folded scan.indent scan.cursor
  return { scan with cursor := next }.push (.scalar text false)

def quotedScalar (double : Bool) (scan : Scan) : Except Fault Scan := do
  let scan := (← scan.markKey).setKeys false
  let (text, next) ← quoted double scan.cursor
  return { scan with cursor := next }.push (.scalar text false)

def plainScalar (scan : Scan) : Except Fault Scan := do
  let scan ← scan.markKey
  let found := plain scan.inFlow scan.older (scan.indent + 1) scan.cursor
  return { scan with cursor := found.cursor, allowsKey := found.allowsKey }.push
    (.scalar found.text true)

/-! ### Directives -/

def digits (cursor : Cursor) : Except Fault (Nat × Cursor) :=
  match cursor.span isAsciiDigit with
  | ([], _) => malformed
  | (digits, next) => .ok (digits.foldl (fun n c => n * 10 + (c.toNat - 48)) 0, next)

def skipSpaces (cursor : Cursor) : Cursor := cursor.skip (· = ' ')

def versionDirective (cursor : Cursor) : Except Fault (Directive × Cursor) := do
  let (major, next) ← digits (skipSpaces cursor)
  if next.next? != some '.' then malformed
  else
    let (minor, next) ← digits next.step
    if endsTag next.next? then return (.version major minor, next) else malformed

def handleDirective (older : Bool) (cursor : Cursor) : Except Fault (Directive × Cursor) := do
  let (name, next) ← handle (skipSpaces cursor)
  if next.next? != some ' ' then malformed
  else
    let (text, next) ← uri older (skipSpaces next)
    if endsTag next.next? then return (.handle name text, next) else malformed

/-- The rest of a directive's line, which may hold a comment. -/
def lineEnd (cursor : Cursor) : Except Fault Cursor :=
  let next := skipSpaces cursor
  let next := if next.next? = some '#' then next.skip (fun c => !endsLine (some c)) else next
  if endsLine next.next? then .ok next.step else malformed

def directive (scan : Scan) : Except Fault Scan := do
  let scan := (← (scan.unwind (-1)).forgetKey).setKeys false
  let (name, next) := scan.cursor.step.span isHandleChar
  if name.isEmpty || !endsTag next.next? then malformed
  else
    let (found, next) ←
      if name = "YAML".toList then versionDirective next
      else if name = "TAG".toList then handleDirective scan.older next
      else pure (.unknown, next.skip fun c => !endsLine (some c))
    let next ← lineEnd next
    let older := match found with
      | .version major minor => major = 1 && minor ≤ 1
      | _ => scan.older
    return { scan with cursor := next, older := older }.push (.directive found)

/-! ### The next token -/

/-- Whether a colon stands for itself here. -/
def isValueMark (scan : Scan) : Bool :=
  let alone := endsWord (scan.cursor.peek? 1)
  if scan.older then scan.inFlow || alone
  else match scan.brackets with
    | [] => alone
    | bracket :: _ =>
      bracket = '\x7b' && scan.tokens.getLast? != some .value || alone

/-- Characters that cannot start a plain scalar wherever they stand. -/
def isIndicator (c : Char) : Bool :=
  isFlowMark c || "-?:#&*!|>'\"%@".toList.elem c || c.toNat = 96

/-- Whether a plain scalar starts here: not with an indicator, except that three of them may start
one if they do not stand alone. -/
def startsPlain (scan : Scan) (c : Char) : Bool :=
  let next := scan.cursor.peek? 1
  if !isIndicator c && !isBreak c && !isGap c then true
  else if c = '-' then !endsWord next
  else if c = ':' && scan.inFlow then !scan.older && next != some ' ' && next != some '\t'
  else (c = '?' || c = ':') && !scan.inFlow && !endsWord next

/-- Reads the token that starts with a character. -/
def token (c : Char) (scan : Scan) : Except Fault Scan :=
  let atMargin := scan.cursor.column = 0
  let alone := endsWord (scan.cursor.peek? 1)
  if c = '%' && atMargin then scan.directive
  else if atMargin && scan.cursor.tripled '-' then scan.marker .documentStart 3
  else if atMargin && scan.cursor.tripled '.' then scan.marker .documentEnd 3
  else if c = '[' then scan.openFlow c .flowSequence
  else if c = '\x7b' then scan.openFlow c .flowMapping
  else if c = ']' then scan.closeFlow .flowSequenceEnd
  else if c = '\x7d' then scan.closeFlow .flowMappingEnd
  else if c = ',' then scan.flowEntry
  else if c = '-' && alone then scan.blockEntry
  else if c = '?' && (scan.inFlow || alone) then scan.explicitKey
  else if c = ':' && scan.isValueMark then scan.mappingValue
  else if c = '*' then scan.reference .alias
  else if c = '&' then scan.reference .anchor
  else if c = '!' then scan.tag
  else if c = '|' && !scan.inFlow then scan.blockScalar false
  else if c = '>' && !scan.inFlow then scan.blockScalar true
  else if c = '\'' then scan.quotedScalar false
  else if c = '"' then scan.quotedScalar true
  else if scan.startsPlain c then scan.plainScalar
  else malformed

def run : (fuel : Nat) → Scan → Except Fault (List Token)
  | 0, _ => malformed
  | fuel + 1, scan => do
    let scan ← (skipBlank (scan.cursor.rest.length + 1) scan).dropStale
    -- A token that stands further left than its block ends the block.
    let scan := scan.unwind scan.cursor.column
    match scan.cursor.next? with
    | some c => run fuel (← scan.token c)
    | none => return (← (scan.unwind (-1)).forgetKey).tokens

end Scan

/-- Characters that a text may hold. -/
def isAllowed (c : Char) : Bool :=
  let n := c.toNat
  n = 9 || n = 10 || n = 13 || (32 ≤ n && n ≤ 126) || n = 0x85 || (0xA0 ≤ n && n ≤ 0xFFFD)
    || 0x10000 ≤ n

/-- A byte order mark at the start says nothing. -/
def dropMark : List Char → List Char
  | '\uFEFF' :: s => s
  | s => s

/-- The tokens of a text. -/
def ofText (s : List Char) : Except Fault (List Token) :=
  if s.all isAllowed then Scan.run (s.length + 1) (.start (dropMark s)) else malformed

end Token

end StaticSite.Yaml
