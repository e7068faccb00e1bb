import StaticSite.Component.Basic
import StaticSite.Value.Display

/-!
# Plugin objects

What plugin code exports: plain values, calls that work on markup, and the objects, classes,
mappings and modules that gather them under names. `Object.call?` is what can be called,
`Object.attribute?` what an object holds under a name.
-/

namespace StaticSite.Plugin

/-- A call works on markup, its component, and the path of its page where there is one. -/
abbrev Call := List Char → Component → Option Path → Except Fault Value

/-- A named check of rendered markup. -/
structure Rule where
  name : String
  description : String
  check : Call

inductive Object where
  | data (value : Value)
  | list (items : List Object)
  | tuple (items : List Object)
  | function (name : String) (description? : Option String) (call : Call)
  | record (members : List (String × Object))
  | mapping (members : List (String × Object))
  | ofClass (name : String) (members : List (String × Object))
  | rule (rule : Rule)
  | bundle (name : String) (exported : List (String × Object))

/-- The exports of a module, each under its name. -/
abbrev Exports := List (String × Object)

namespace Object

instance : Inhabited Object := ⟨.data .null⟩

/-- A call that takes other arguments than those a plugin is given. -/
def refusingCall : Call := fun _ _ _ => .error .wrongType

/-- The call an object stands for. A class can be called, though not with markup. -/
def call? : Object → Option Call
  | .function _ _ call => some call
  | .ofClass .. => some refusingCall
  | _ => none

def text (s : String) : Object := .data (.str s)

/-- What an object holds under a name. -/
def attribute? (name : String) : Object → Option Object
  | .record members | .ofClass _ members => members.lookup name
  | .bundle ownName exported =>
    if name = "__name__" then some (text ownName) else exported.lookup name
  | .rule held => match name with
    | "name" => some (text held.name)
    | "description" => some (text held.description)
    | "check" => some (.function held.name none held.check)
    | _ => none
  | _ => none

/-- The entry of a mapping, or the attribute of another object. -/
def part? (name : String) : Object → Option Object
  | .mapping members => members.lookup name
  | object => object.attribute? name

mutual

/-- An object as a value. Of what is no plain data only the type shows. -/
def asValue : Object → Value
  | .data value => value
  | .list items => .list (itemValues items)
  | .tuple items => .tuple (itemValues items)
  | .mapping members => .mapping (memberValues members)
  | .function name .. => .thing "function" name name
  | .record _ => .thing "object" "object" "object"
  | .ofClass name _ => .thing "type" name name
  | .rule held => .thing "Rule" held.name held.name
  | .bundle name _ => .thing "module" name name

def itemValues : List Object → List Value
  | [] => []
  | item :: items => asValue item :: itemValues items

def memberValues : List (String × Object) → List (Value × Value)
  | [] => []
  | (name, object) :: members => (.str name, asValue object) :: memberValues members

end

mutual

/-- A value as an object, its lists being lists of objects. -/
def ofValue : Value → Object
  | .list items => .list (ofValues items)
  | .tuple items => .tuple (ofValues items)
  | value => .data value

def ofValues : List Value → List Object
  | [] => []
  | value :: values => ofValue value :: ofValues values

end

def isNull : Object → Bool
  | .data .null => true
  | _ => false

end Object

end StaticSite.Plugin
