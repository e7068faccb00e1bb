import StaticSite.Operation.Member
import StaticSite.Number.Reading
import StaticSite.Text.Case

/-!
# Attribute paths

Filters over sequences take an attribute: a dotted path of names and indices, or one key of any
kind. A getter follows the path from an element; where a step finds nothing, a default takes its
place. Texts can be compared without regard to case.
-/

namespace StaticSite.Operation

open StaticSite.Text StaticSite.Value

/-- A segment of a path: an index if it has digits only, else a name. -/
def pathSegment (segment : List Char) : Except Fault Value :=
  if !segment.isEmpty && segment.all isDigit then match Number.int? 10 segment with
    | some n => .ok (.int n)
    | none => .error .wrongValue
  else .ok (.ofString segment)

def pathOf (s : List Char) : Except Fault (List Value) := (splitOn ['.'] s).mapM pathSegment

/-- The steps of an attribute argument; the null value is the element itself. -/
def attributeSteps : Value → Except Fault (List Value)
  | .null => .ok []
  | .str s => pathOf s.toList
  | .markup s => pathOf s.toList
  | other => .ok [other]

/-- Texts in lower case, other values as they are. -/
def ignoringCase : Value → Value
  | .str s => .ofString (lower s.toList)
  | .markup s => markupOf (lower s.toList)
  | value => value

def caseKey (caseSensitive : Bool) (value : Value) : Value :=
  if caseSensitive then value else ignoringCase value

/-- Follows the steps from a value. -/
def follow (otherwise : Value) (value : Value) (steps : List Value) : Except Fault Value :=
  steps.foldlM
    (fun current step => do
      let next ← item current step
      return match next, otherwise with
        | .undefined _, .null => next
        | .undefined _, other => other
        | _, _ => next)
    value

/-- The path pieces of an attribute argument that may name several attributes. -/
def attributeLists : Value → Except Fault (List (List Value))
  | .str s => (splitOn [','] s.toList).mapM pathOf
  | .markup s => (splitOn [','] s.toList).mapM pathOf
  | other => do return [← attributeSteps other]

/-- Puts a key in front of every element. -/
def keyed (key : Value → Except Fault Value) (items : List Value) :
    Except Fault (List (Value × Value)) :=
  items.mapM fun item => do return (← key item, item)

/-- A stable sort by keys, in rising or falling order. -/
def sortKeyed (falling : Bool) (pairs : List (Value × Value)) :
    Except Fault (List (Value × Value)) :=
  sortWith (fun a b => if falling then lessThan b.1 a.1 else lessThan a.1 b.1) pairs

end StaticSite.Operation
