import StaticSite.Json.Writer
import StaticSite.Operation.Argument
import StaticSite.Operation.Arithmetic
import StaticSite.Text.Case
import StaticSite.Text.Entity
import StaticSite.Text.Split
import StaticSite.Value.Lines

/-!
# Filters on texts

A filter on a text takes any value and reads it as its plain text; escaped text stays escaped
where a filter only changes letters or blanks.
-/

namespace StaticSite.Operation

open StaticSite.Text StaticSite.Value

/-- A filter: its parameters after the value, how many of them are required, and its result. -/
structure Filter where
  parameters : List String
  required : Nat
  run : Value → Bound → Except Fault Value

/-- Changes a text and keeps its kind. -/
def onText (change : List Char → List Char) : Value → Value
  | .markup s => markupOf (change s.toList)
  | value => .ofString (change value.plain)

def textFilter (change : List Char → List Char) : Filter :=
  ⟨[], 0, fun value _ => .ok (onText change value)⟩

/-- Characters between which a word starts. -/
def startsWord (c : Char) : Bool :=
  c = '-' || isBlank c || c = '(' || c = '\x7b' || c = '[' || c = '<'

/-- Raises the first letter of a word and lowers the others. -/
def wordTitle : List Char → List Char
  | [] => []
  | c :: rest => upperChar c ++ lower rest

/-- Gives every word its title form; `word` collects, in reverse, the word under way. -/
def titleFromWord (word : List Char) : List Char → List Char
  | [] => wordTitle word.reverse
  | c :: s =>
    if startsWord c then wordTitle word.reverse ++ c :: titleFromWord [] s
    else titleFromWord (c :: word) s

def titleOf (s : List Char) : List Char := titleFromWord [] s

def centerFilter : Filter := ⟨["width"], 0, fun value given => do
  let width ← intArgument (given.get 0 (.int 80))
  return onText (center width.toNat ' ') value⟩

def trimFilter : Filter := ⟨["chars"], 0, fun value given =>
  match given.get 0 .null with
  | .null => .ok (onText trim value)
  | set => do
    let set ← textArgument set
    return onText (trimOf fun c => set.elem c) value⟩

def replaceFilter : Filter := ⟨["old", "new", "count"], 2, fun value given => do
  let s := value.plain
  let limit ← match given.get 2 .null with
    | .null => .ok (s.length + 1)
    | n => (intArgument n).map fun n => if n < 0 then s.length + 1 else n.toNat
  return .ofString (replaceUpTo limit (given.get 0 .null).plain (given.get 1 .null).plain s)⟩

/-- The text that indents: some blanks, or a text. -/
def indention : Value → Except Fault (List Char)
  | .str s | .markup s => .ok s.toList
  | value => (intArgument value).map fun n => List.replicate n.toNat ' '

def indented (unit : List Char) (first blank : Bool) (s : List Char) : List Char :=
  let all := lines (s ++ ['\n'])
  let body :=
    if blank then joinWith ('\n' :: unit) all
    else match all with
      | [] => []
      | line :: rest =>
        joinWith ['\n'] (line :: rest.map fun line => if line.isEmpty then line else unit ++ line)
  (if first then unit else []) ++ body

def indentFilter : Filter := ⟨["width", "first", "blank"], 0, fun value given => do
  let unit ← indention (given.get 0 (.int 4))
  let change := indented unit (given.isTrue 1 false) (given.isTrue 2 false)
  match value with
  | .str _ | .markup _ => return onText change value
  | .undefined f => .error (undefinedFault f)
  | .list _ => .error .missingAttribute
  | _ => .error .wrongType⟩

/-- Cuts a text that is longer than a limit, at a blank unless words may be cut. -/
def truncated (length : Nat) (killWords : Bool) (ending s : List Char) : List Char :=
  let front := s.take (length - ending.length)
  if killWords then front ++ ending
  else (match cutAtLast? [' '] front with
    | some (before, _) => before
    | none => front) ++ ending

def truncateFilter : Filter := ⟨["length", "killwords", "end", "leeway"], 0, fun value given => do
  let leeway ← match given.get 3 .null with
    | .null => .ok 5
    | n => intArgument n
  let limit ← intArgument (given.get 0 (.int 255))
  let ending := given.get 2 (.str "...")
  if limit < (← length ending) || leeway < 0 then .error .requirement
  if (← length value) ≤ limit + leeway then return value
  match value, ending.text? with
  | .str s, some t =>
    return .ofString (truncated limit.toNat (given.isTrue 1 false) t.toList s.toList)
  | .markup s, some _ =>
    return markupOf (truncated limit.toNat (given.isTrue 1 false) (escapedText ending) s.toList)
  | .str _, none | .markup _, none => .error .wrongType
  | _, _ => .error (if given.isTrue 1 false then .wrongType else .missingAttribute)⟩

/-- The words of a text, runs of word characters. -/
def wordCount (s : List Char) : Nat := go false s
where
  go (inside : Bool) : List Char → Nat
    | [] => 0
    | c :: s => if isWord c then (if inside then 0 else 1) + go true s else go false s

/-- Breaks one line into lines of at most `width` characters; longer words are broken if asked
for. `line` is the line under way. -/
def wrapWords (width : Nat) (breakLong : Bool) (line : List Char) :
    (fuel : Nat) → List (List Char) → List (List Char)
  | 0, _ => [line]
  | _, [] => if line.isEmpty then [] else [trimBackOf isBlank line]
  | fuel + 1, word :: rest =>
    if line.length + word.length ≤ width then wrapWords width breakLong (line ++ word) fuel rest
    else if word.length ≤ width || (!breakLong && line.isEmpty) then
      if line.isEmpty then word :: wrapWords width breakLong [] fuel rest
      else trimBackOf isBlank line
        :: wrapWords width breakLong [] fuel (if word.all isBlank then rest else word :: rest)
    else if breakLong then
      let space := width - line.length
      if space = 0 then trimBackOf isBlank line :: wrapWords width breakLong [] fuel (word :: rest)
      else (line ++ word.take space)
        :: wrapWords width breakLong [] fuel (word.drop space :: rest)
    else trimBackOf isBlank line :: wrapWords width breakLong [] fuel (word :: rest)

/-- The words of a line and the blanks between them, in order; a hyphen inside a word ends a
chunk. -/
def chunks (hyphens : Bool) (chunk : List Char) : List Char → List (List Char)
  | [] => if chunk.isEmpty then [] else [chunk.reverse]
  | c :: s => match chunk with
    | [] => chunks hyphens [c] s
    | last :: _ =>
      if isBlank last != isBlank c then chunk.reverse :: chunks hyphens [c] s
      else if hyphens && last = '-' && isAlphabetic c && chunk.length > 1
          && (chunk[1]?.map isAlphabetic).getD false then
        chunk.reverse :: chunks hyphens [c] s
      else chunks hyphens (c :: chunk) s

def wrapped (width : Nat) (breakLong hyphens : Bool) (s : List Char) : List (List Char) :=
  wrapWords width breakLong [] (2 * s.length + 2) (chunks hyphens [] s)

def wordWrapFilter : Filter :=
  ⟨["width", "break_long_words", "wrapstring", "break_on_hyphens"], 0, fun value given => do
    let width ← intArgument (given.get 0 (.int 79))
    let mark ← match given.get 2 .null with
      | .null => .ok ['\n']
      | text => textArgument text
    match value with
    | .str _ | .markup _ =>
      if width ≤ 0 then .error .wrongValue
      return .ofString (joinWith mark ((lines value.plain).map fun line =>
        joinWith mark (wrapped width.toNat (given.isTrue 1 true) (given.isTrue 3 true) line)))
    | .undefined f => .error (undefinedFault f)
    | _ => .error .missingAttribute⟩

/-- Bytes that an address shows as they are. -/
def isPlainByte (keep : List Char) (n : Nat) : Bool :=
  let c := Char.ofNat n
  n < 128 && (isAsciiDigit c || isAsciiLower c || isAsciiUpper c
    || ['_', '.', '-', '~'].elem c || keep.elem c)

def addressText (keep : List Char) (s : List Char) : List Char :=
  (String.ofList s).toUTF8.toList.flatMap fun byte =>
    if isPlainByte keep byte.toNat then [Char.ofNat byte.toNat]
    else '%' :: upperHex byte.toNat
where
  upperHex (n : Nat) : List Char :=
    (hex 2 n).map fun c => if isAsciiLower c then Char.ofNat (c.toNat - 32) else c

/-- A key or value of a query, blanks written as a plus sign. -/
def queryText (value : Value) : List Char :=
  replaceAll ['%', '2', '0'] ['+'] (addressText [] value.plain)

def urlencodeFilter : Filter := ⟨[], 0, fun value _ => do
  let pairs : Option (List Value) ← match value with
    | .str _ | .markup _ => pure none
    | .mapping entries => pure (some (viewItems .items entries))
    | other => match stream other with
      | .ok s => (s.drain).map some
      | .error _ => pure none
  match pairs with
  | none => return .ofString (addressText ['/'] value.plain)
  | some pairs =>
    let parts ← pairs.mapM fun pair => do
      match ← elements pair with
      | [key, item] => return queryText key ++ '=' :: queryText item
      | _ => .error .wrongValue
    return .ofString (joinWith ['&'] parts)⟩

/-- Attributes of an element, written with escaped values; what has no value is left out. -/
def xmlattrFilter : Filter := ⟨["autospace"], 0, fun value given => do
  match value with
  | .mapping entries =>
    let parts ← entries.filterMapM fun entry => do
      match entry.2 with
      | .null | .undefined _ => return none
      | item =>
        let key := entry.1
        match key.text? with
        | some name =>
          if name.toList.any fun c => isBlank c || c = '/' || c = '>' || c = '=' then
            .error .wrongValue
        | none => .error .wrongType
        return some (escapedText key ++ '=' :: '"' :: escapedText item ++ ['"'])
    let text := joinWith [' '] parts
    return .ofString (if given.isTrue 0 true && !text.isEmpty then ' ' :: text else text)
  | .undefined f => .error (undefinedFault f)
  | _ => .error .missingAttribute⟩

/-- The text that indents one level of written data. -/
def levelIndent : Value → Except Fault (Option (List Char))
  | .null => .ok none
  | .str s | .markup s => .ok (some s.toList)
  | value => (intArgument value).map fun n => some (List.replicate n.toNat ' ')

def tojsonFilter : Filter := ⟨["indent"], 0, fun value given => do
  let style := Json.scriptStyle (← levelIndent (given.get 0 .null))
  return markupOf (Json.escapeForScript (← Json.write style 0 value))⟩

/-- Whether a word is an address of the web. -/
def isAddress (word : List Char) : Bool :=
  startsWith "http://".toList word || startsWith "https://".toList word
    || startsWith "www.".toList word

/-- A word, as a link if it is an address. -/
def linked (limit : Option Nat) (word : List Char) : List Char :=
  if isAddress word then
    let target := if startsWith "www.".toList word then "https://".toList ++ word else word
    let shown := match limit with
      | some n => if word.length > n then word.take n ++ "...".toList else word
      | none => word
    "<a href=\"".toList ++ target ++ "\" rel=\"noopener\">".toList ++ shown ++ "</a>".toList
  else word

def urlizeFilter : Filter :=
  ⟨["trim_url_limit", "nofollow", "target", "rel", "extra_schemes"], 0, fun value given => do
    let limit ← optionalInt (given[0]?.join)
    let text := (chunks false [] (escapedText value)).flatMap (linked (limit.map Int.toNat))
    return .ofString text⟩

def textFilters : List (String × Filter) :=
  [("capitalize", textFilter capitalize),
    ("lower", textFilter lower),
    ("upper", textFilter upper),
    ("string", textFilter id),
    ("title", ⟨[], 0, fun value _ => .ok (.ofString (titleOf value.plain))⟩),
    ("center", centerFilter),
    ("trim", trimFilter),
    ("replace", replaceFilter),
    ("indent", indentFilter),
    ("truncate", truncateFilter),
    ("wordcount", ⟨[], 0, fun value _ => .ok (.int (wordCount value.plain))⟩),
    ("wordwrap", wordWrapFilter),
    ("escape", ⟨[], 0, fun value _ => .ok (markupOf (escapedText value))⟩),
    ("e", ⟨[], 0, fun value _ => .ok (markupOf (escapedText value))⟩),
    ("forceescape", ⟨[], 0, fun value _ => .ok (markupOf (escaped value.plain))⟩),
    ("safe", ⟨[], 0, fun value _ => .ok (markupOf value.plain)⟩),
    ("striptags", ⟨[], 0, fun value _ => .ok (.ofString (textOfMarkup value.plain))⟩),
    ("urlencode", urlencodeFilter),
    ("urlize", urlizeFilter),
    ("xmlattr", xmlattrFilter),
    ("tojson", tojsonFilter),
    ("pprint", ⟨[], 0, fun value _ => .ok (.ofString value.lines)⟩)]

end StaticSite.Operation
