import StaticSite.Operation.CollectionMethod
import StaticSite.Operation.TextMethod
import StaticSite.Text.Entity

/-!
# Calls

An operation of a value is called on the value it was read from. The globals build ranges and
mappings; a range that would be too long is refused. Nothing else can be called.
-/

namespace StaticSite.Operation

open StaticSite.Value

def globalNames : List String := ["range", "dict", "lipsum", "cycler", "joiner", "namespace"]

/-- The longest range an expression may build. -/
def rangeLimit : Nat := 100000

def rangeOf (actuals : Actuals) : Except Fault Value := do
  let bounds ← (← byPosition 1 3 actuals).mapM intArgument
  let (start, stop, step) : Int × Int × Int := match bounds with
    | [stop] => (0, stop, 1)
    | [start, stop] => (start, stop, 1)
    | start :: stop :: step :: _ => (start, stop, step)
    | [] => (0, 0, 1)
  if step = 0 then .error .wrongValue
  else if rangeLength start stop step > rangeLimit then .error .overflow
  else return .range start stop step

/-- Values that are shown in turn, the first one first. -/
def cyclerOf (items : List Value) : Value :=
  .record "Cycler" [("current", items.headD .null), ("items", .tuple items), ("pos", .int 0)]

/-- Names with values. -/
def namespaceOf : Value → Value
  | .mapping entries => .record "Namespace" (entries.filterMap fun entry =>
      entry.1.text?.map fun name => (name, entry.2))
  | _ => .record "Namespace" []

def callGlobal (name : String) (actuals : Actuals) : Except Fault Value :=
  match name with
  | "range" => rangeOf actuals
  | "dict" => mappingOf actuals
  | "cycler" =>
    if actuals.positional.isEmpty then .error (.raised "at least one item has to be provided")
    else if actuals.named.isEmpty then .ok (cyclerOf actuals.positional) else .error .wrongType
  | "joiner" => (bind ["sep"] 0 actuals).map fun given =>
      .record "Joiner" [("sep", given.get 0 (.str ", ")), ("used", .bool false)]
  | "namespace" => (mappingOf actuals).map namespaceOf
  | "lipsum" =>
    (bind ["n", "html", "min", "max"] 0 actuals).map fun _ => .thing "Markup" "" ""
  | _ => .error .wrongType

def callMethod (receiver : Value) (name : String) (actuals : Actuals) : Except Fault Value :=
  match receiver with
  | .str s => textMethod false s.toList name actuals
  | .markup s =>
    if name = "striptags" then
      (byPosition 0 0 actuals).map fun _ => .ofString (Text.textOfMarkup s.toList)
    else if name = "unescape" then
      (byPosition 0 0 actuals).map fun _ => .ofString (Text.unescape s.toList)
    else textMethod true s.toList name actuals
  | .list items => listMethod items name actuals
  | .tuple items => tupleMethod items name actuals
  | .mapping entries => mappingMethod entries name actuals
  | .float x => floatMethod x name actuals
  | .range start stop step => tupleMethod (rangeItems start stop step) name actuals
  | .view part entries => viewMethod part entries name actuals
  | .iterator .. => .ok .null
  | .record _ parts => (byPosition 0 0 actuals).map fun _ =>
      if name = "next" then (parts.lookup "current").getD .null else .null
  | other => match other.int? with
    | some n => intMethod n name actuals
    | none => .error .wrongType

/-- Calls a value. -/
def call (target : Value) (actuals : Actuals) : Except Fault Value :=
  match target with
  | .method receiver name => callMethod receiver name actuals
  | .global name => callGlobal name actuals
  | .record "Joiner" _ => (byPosition 0 0 actuals).map fun _ => .str ""
  | .undefined f => .error (undefinedFault f)
  | _ => .error .wrongType

end StaticSite.Operation
