import StaticSite.Operation.FieldFormat
import StaticSite.Text.Case
import StaticSite.Text.Split

/-!
# Operations of texts

Operations of escaped text give escaped text. They take their arguments by position, apart from
the few that name them.
-/

namespace StaticSite.Operation

open StaticSite.Text StaticSite.Value

/-- Rebuilds a text of the kind of the receiver. -/
def textLike (isMarkup : Bool) (s : List Char) : Value := if isMarkup then markupOf s else .ofString s

/-- The predicates on texts. -/
def textPredicate? (name : String) : Option (List Char → Bool) :=
  let some_ (p : Char → Bool) (s : List Char) : Bool := !s.isEmpty && s.all p
  match name with
  | "isalnum" => some (some_ isAlphanumeric)
  | "isalpha" => some (some_ isAlphabetic)
  | "isascii" => some (·.all isAscii)
  | "isdecimal" => some (some_ isDecimal)
  | "isdigit" => some (some_ isDigit)
  | "isnumeric" => some (some_ isNumeric)
  | "isidentifier" => some isIdentifier
  | "isprintable" => some (·.all isPrintable)
  | "isspace" => some (some_ isBlank)
  | "islower" => some isLower
  | "isupper" => some isUpper
  | "istitle" => some isTitle
  | _ => none

/-- The changes of a whole text that need no argument. -/
def textChange? (name : String) : Option (List Char → List Char) := match name with
  | "capitalize" => some capitalize
  | "casefold" => some fold
  | "lower" => some lower
  | "upper" => some upper
  | "swapcase" => some swapCase
  | "title" => some titleCase
  | _ => none

/-- The optional bounds of a search, as places. -/
def searchBounds (length : Nat) (start stop : Option Value) : Except Fault (Int × Int) := do
  let place (n : Int) : Int := if n < 0 then max 0 (n + length) else n
  let start ← optionalInt start
  let stop ← optionalInt stop
  return (place (start.getD 0), min length (place (stop.getD length)))

/-- The part of a text between the bounds of a search, none if they cross. -/
def searched? (s : List Char) (bounds : Int × Int) : Option (List Char) :=
  if bounds.1 > bounds.2 then none
  else some ((s.drop bounds.1.toNat).take (bounds.2 - bounds.1).toNat)

def firstPlace? (mark s : List Char) (bounds : Int × Int) : Option Int :=
  ((searched? s bounds).bind (indexOf? mark)).map fun n => bounds.1 + n

def lastPlace? (mark s : List Char) (bounds : Int × Int) : Option Int :=
  ((searched? s bounds).bind (cutAtLast? mark)).map fun cut => bounds.1 + cut.1.length

/-- The candidates of a test on one end of a text. -/
def affixes : Value → Except Fault (List (List Char))
  | .tuple items => items.mapM textArgument
  | value => (textArgument value).map ([·])

def fillCharacter : Option Value → Except Fault Char
  | none => .ok ' '
  | some value => do
    match ← textArgument value with
    | [c] => return c
    | _ => .error .wrongType

/-- Characters to drop from an end: blanks unless some are given. -/
def dropped : Option Value → Except Fault (Char → Bool)
  | none | some .null => .ok isBlank
  | some value => (textArgument value).map fun set c => set.elem c

/-- A limit on a number of steps; a negative one is none. -/
def limitOf (value : Value) (length : Nat) : Except Fault Nat := do
  let n ← intArgument value
  return if n < 0 then length + 1 else n.toNat

def cutText (isMarkup : Bool) (pieces : List (List Char)) : Value :=
  .list (pieces.map (textLike isMarkup))

def cutTriple (isMarkup : Bool) (a b c : List Char) : Value :=
  .tuple ([a, b, c].map (textLike isMarkup))

/-- Joins texts with the receiver between them. -/
def joinTexts (isMarkup : Bool) (s : List Char) (source : Value) : Except Fault Value := do
  let items ← elements source
  let pieces ← items.mapM fun item =>
    if isMarkup then .ok (escapedText item) else textArgument item
  return textLike isMarkup (joinWith s pieces)

/-- The text for a character under a table from code points. -/
def translated (table : Value) (c : Char) : Except Fault (List Char) :=
  match subscript table (.int c.toNat) with
  | .ok .null => .ok []
  | .ok (.int n) =>
    if n < 0 || n > 0x10FFFF then .error .wrongValue else .ok [Char.ofNat n.toNat]
  | .ok value => textArgument value
  | .error .missingKey | .error .missingIndex => .ok [c]
  | .error fault => .error fault

/-- A text as its bytes, shown in the way of texts. -/
def encodedText (s : List Char) : Value :=
  let bytes := (String.ofList s).toUTF8.toList
  let shown := bytes.flatMap fun byte =>
    let c := Char.ofNat byte.toNat
    if c = '\'' || c = '\\' then ['\\', c]
    else if c = '\n' then ['\\', 'n']
    else if c = '\r' then ['\\', 'r']
    else if c = '\t' then ['\\', 't']
    else if 32 ≤ byte.toNat && byte.toNat < 127 then [c]
    else '\\' :: 'x' :: hex 2 byte.toNat
  let text := String.ofList ('b' :: '\'' :: shown ++ ['\''])
  .thing "bytes" text text

/-- A table from code points, for `translate`. -/
def translationTable : List Value → Except Fault Value
  | [.mapping entries] => do
    let rows ← entries.mapM fun entry => match entry.1 with
      | .int n => .ok (Value.int n, entry.2)
      | .str s => match s.toList with
        | [c] => .ok (.int c.toNat, entry.2)
        | _ => .error .wrongValue
      | _ => .error .wrongType
    return .mapping (Mapping.ofList rows)
  | [_] => .error .wrongType
  | source :: target :: rest => do
    let source ← textArgument source
    let target ← textArgument target
    if source.length ≠ target.length then .error .wrongValue
    let without ← match rest with
      | value :: _ => textArgument value
      | [] => .ok []
    let code (c : Char) : Value := .int c.toNat
    return .mapping (Mapping.ofList
      ((source.zip target).map (fun pair => (code pair.1, code pair.2))
        ++ without.map fun c => (code c, .null)))
  | [] => .error .wrongType

/-- Applies an operation of a text. -/
def textMethod (isMarkup : Bool) (s : List Char) (name : String) (actuals : Actuals) :
    Except Fault Value := do
  match textPredicate? name, textChange? name with
  | some holds, _ =>
    let _ ← byPosition 0 0 actuals
    return .bool (holds s)
  | _, some change =>
    let _ ← byPosition 0 0 actuals
    return textLike isMarkup (change s)
  | none, none =>
    match name with
    | "strip" | "lstrip" | "rstrip" =>
      let drop ← dropped (← byPosition 0 1 actuals).head?
      return textLike isMarkup (if name = "strip" then trimOf drop s
        else if name = "lstrip" then trimFrontOf drop s else trimBackOf drop s)
    | "center" | "ljust" | "rjust" =>
      let given ← byPosition 1 2 actuals
      let width ← intArgument (given.headD .null)
      let fill ← fillCharacter given[1]?
      let width := width.toNat
      return textLike isMarkup (if name = "center" then center width fill s
        else if name = "ljust" then padRight width fill s else padLeft width fill s)
    | "zfill" =>
      let width ← intArgument ((← byPosition 1 1 actuals).headD .null)
      return textLike isMarkup (zeroFill width.toNat s)
    | "expandtabs" =>
      let bound ← bind ["tabsize"] 0 actuals
      return textLike isMarkup (expandTabs (← intArgument (bound.get 0 (.int 8))).toNat s)
    | "count" | "find" | "index" | "rfind" | "rindex" =>
      let given ← byPosition 1 3 actuals
      let mark ← textArgument (given.headD .null)
      let bounds ← searchBounds s.length given[1]? given[2]?
      if name = "count" then
        return .int (((searched? s bounds).map (Text.count mark)).getD 0)
      else
        let place? := if name = "find" || name = "index" then firstPlace? mark s bounds
          else lastPlace? mark s bounds
        match place? with
        | some place => return .int place
        | none => if name = "find" || name = "rfind" then return .int (-1) else .error .wrongValue
    | "startswith" | "endswith" =>
      let given ← byPosition 1 3 actuals
      let marks ← affixes (given.headD .null)
      let bounds ← searchBounds s.length given[1]? given[2]?
      let test := if name = "startswith" then startsWith else endsWith
      return .bool (match searched? s bounds with
        | some part => marks.any fun mark => test mark part
        | none => false)
    | "replace" =>
      let bound ← bind ["old", "new", "count"] 2 actuals
      let old ← textArgument (bound.get 0 .null)
      let new ← if isMarkup then .ok (escapedText (bound.get 1 .null))
        else textArgument (bound.get 1 .null)
      let limit ← limitOf (bound.get 2 (.int (-1))) s.length
      return textLike isMarkup (replaceUpTo limit old new s)
    | "removeprefix" | "removesuffix" =>
      let mark ← textArgument ((← byPosition 1 1 actuals).headD .null)
      return textLike isMarkup (if name = "removeprefix" then (dropFront? mark s).getD s
        else if endsWith mark s then s.take (s.length - mark.length) else s)
    | "split" | "rsplit" =>
      let bound ← bind ["sep", "maxsplit"] 0 actuals
      let limit ← limitOf (bound.get 1 (.int (-1))) s.length
      match bound.get 0 .null with
      | .null =>
        return cutText isMarkup (if name = "split" then wordsUpTo limit s else wordsFromEnd limit s)
      | mark =>
        let mark ← textArgument mark
        if mark.isEmpty then .error .wrongValue
        return cutText isMarkup
          (if name = "split" then splitUpTo limit mark s else splitFromEnd limit mark s)
    | "splitlines" =>
      let bound ← bind ["keepends"] 0 actuals
      return cutText isMarkup (linesFrom (bound.isTrue 0 false) [] s)
    | "partition" | "rpartition" =>
      let mark ← textArgument ((← byPosition 1 1 actuals).headD .null)
      if mark.isEmpty then .error .wrongValue
      if name = "partition" then match cutAt? mark s with
        | some (before, after) => return cutTriple isMarkup before mark after
        | none => return cutTriple isMarkup s [] []
      else match cutAtLast? mark s with
        | some (before, after) => return cutTriple isMarkup before mark after
        | none => return cutTriple isMarkup [] [] s
    | "join" => joinTexts isMarkup s ((← byPosition 1 1 actuals).headD .null)
    | "format" => return textLike isMarkup (← formatFields isMarkup s actuals)
    | "format_map" =>
      match ← byPosition 1 1 actuals with
      | [.mapping entries] =>
        let named := entries.filterMap fun entry => entry.1.text?.map fun key => (key, entry.2)
        return textLike isMarkup (← formatFields isMarkup s ⟨[], named⟩)
      | _ => .error .wrongType
    | "encode" =>
      let _ ← bind ["encoding", "errors"] 0 actuals
      return encodedText s
    | "translate" =>
      let table := (← byPosition 1 1 actuals).headD .null
      return textLike isMarkup (← s.mapM (translated table)).flatten
    | "maketrans" => translationTable (← byPosition 1 3 actuals)
    | "escape" => return markupOf (escapedText ((← byPosition 1 1 actuals).headD .null))
    | _ => .error .wrongType

end StaticSite.Operation
