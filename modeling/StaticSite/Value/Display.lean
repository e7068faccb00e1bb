import StaticSite.Value.Basic
import StaticSite.Number.Decimal
import StaticSite.Number.Reading
import StaticSite.Text.Quoted

/-!
# Values as text

`Value.quoted` writes a value so that its kind can be seen: strings in quotes, containers with
their brackets. `Value.plain` differs on strings, which stand for themselves, and on undefined
values, which are empty. `Value.printed` refuses a value whose text would show an integer that is
too long to be written.
-/

namespace StaticSite.Value

open StaticSite.Text

def commaSeparated : List (List Char) → List Char := joinWords
where
  joinWords : List (List Char) → List Char
    | [] => []
    | [word] => word
    | word :: rest => word ++ ',' :: ' ' :: joinWords rest

def enclosed (opening : String) (words : List (List Char)) (closing : String) : List Char :=
  opening.toList ++ commaSeparated words ++ closing.toList

/-- A tuple of one element keeps its comma. -/
def enclosedTuple : List (List Char) → List Char
  | [word] => '(' :: word ++ [',', ')']
  | words => enclosed "(" words ")"

def rangeText (start stop step : Int) : List Char :=
  enclosed "range(" ((if step = 1 then [start, stop] else [start, stop, step]).map Decimal.intText)
    ")"

mutual

def quoted : Value → List Char
  | .null => "None".toList
  | .bool b => (if b then "True" else "False").toList
  | .int n => Decimal.intText n
  | .float x => Decimal.floatText x
  | .str s => Text.quoted s.toList
  | .list items => enclosed "[" (quotedItems items) "]"
  | .tuple items => enclosedTuple (quotedItems items)
  | .mapping entries => enclosed "\x7b" (quotedEntries entries) "\x7d"
  | .markup s => "Markup(".toList ++ Text.quoted s.toList ++ [')']
  | .undefined _ => "Undefined".toList
  | .range start stop step => rangeText start stop step
  | .iterator name .. => "<".toList ++ name.toList ++ " object>".toList
  | .view part entries => match part with
    | .keys => enclosed "dict_keys([" (quotedKeys entries) "])"
    | .values => enclosed "dict_values([" (quotedValues entries) "])"
    | .items => enclosed "dict_items([" (quotedPairs entries) "])"
  | .method _ name => "<built-in method ".toList ++ name.toList ++ ">".toList
  | .global name => "<".toList ++ name.toList ++ ">".toList
  | .thing _ _ shown => shown.toList
  | .record name parts => '<' :: name.toList ++ enclosed " \x7b" (quotedParts parts) "\x7d>"

def quotedItems : List Value → List (List Char)
  | [] => []
  | item :: rest => quoted item :: quotedItems rest

def quotedEntries : List (Value × Value) → List (List Char)
  | [] => []
  | (key, value) :: rest => (quoted key ++ ':' :: ' ' :: quoted value) :: quotedEntries rest

def quotedParts : List (String × Value) → List (List Char)
  | [] => []
  | (name, value) :: rest => (Text.quoted name.toList ++ ':' :: ' ' :: quoted value) :: quotedParts rest

def quotedKeys : List (Value × Value) → List (List Char)
  | [] => []
  | (key, _) :: rest => quoted key :: quotedKeys rest

def quotedValues : List (Value × Value) → List (List Char)
  | [] => []
  | (_, value) :: rest => quoted value :: quotedValues rest

def quotedPairs : List (Value × Value) → List (List Char)
  | [] => []
  | (key, value) :: rest => enclosedTuple [quoted key, quoted value] :: quotedPairs rest

end

/-- The text of a value where it is printed by itself. -/
def plain : Value → List Char
  | .str s => s.toList
  | .markup s => s.toList
  | .undefined _ => []
  | .thing _ text _ => text.toList
  | value => quoted value

def plainString (value : Value) : String := String.ofList value.plain

def quotedString (value : Value) : String := String.ofList value.quoted

def isShort (n : Int) : Bool := (Decimal.natText n.natAbs).length ≤ Number.digitLimit

mutual

/-- Whether every integer that the text of a value shows is short enough to be written. -/
def legible : Value → Bool
  | .int n => isShort n
  | .list items | .tuple items => legibleItems items
  | .mapping entries => legibleEntries true true entries
  | .range start stop step => isShort start && isShort stop && (step = 1 || isShort step)
  | .view part entries => legibleEntries (part != .values) (part != .keys) entries
  | .record _ parts => legibleParts parts
  | _ => true

def legibleItems : List Value → Bool
  | [] => true
  | item :: rest => legible item && legibleItems rest

/-- Looks at the keys, the values or both. -/
def legibleEntries (keys values : Bool) : List (Value × Value) → Bool
  | [] => true
  | (key, value) :: rest =>
    (!keys || legible key) && (!values || legible value) && legibleEntries keys values rest

def legibleParts : List (String × Value) → Bool
  | [] => true
  | (_, value) :: rest => legible value && legibleParts rest

end

/-- The text of a value where it is printed by itself, if it can be written. -/
def printed (value : Value) : Except Fault (List Char) :=
  if value.legible then .ok value.plain else .error .wrongValue

end StaticSite.Value
