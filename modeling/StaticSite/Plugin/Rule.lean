import StaticSite.Plugin.Object
import StaticSite.Reported
import StaticSite.Settings.Basic
import StaticSite.Text.Margin
import StaticSite.Text.Quoted

/-!
# Rules

A rule looks at rendered markup and says what is wrong with it, if anything. What a source exports
is brought into the form of a list of rules when it is loaded: a source gives all of its rules or,
if any part of it cannot be read as a rule, none. A rule that fails itself says nothing about the
markup.
-/

namespace StaticSite.Plugin

open StaticSite.Text

namespace Rule

/-- The name of a rule that has none. -/
def unnamed : String := "unnamed-rule"

/-- The name under which a module exports its rules. -/
def exportName : String := "RULES"

/-- The text of a part of a rule; a part that is missing or empty gives the text for that case. -/
def textOr (other : String) (part : Option Object) : Except Fault String :=
  match part.map Object.asValue with
  | some value => if value.isTrue then value.printed.map String.ofList else .ok other
  | none => .ok other

/-- The name of a rule that is a bare function. -/
def hyphenated (name : String) : String :=
  String.ofList (replaceAll ['_'] ['-'] name.toList)

def describe (documentation : Option String) : String :=
  match documentation with
  | some s => String.ofList (withoutMargin s.toList)
  | none => ""

/-- The documentation of a class, if it is a text. -/
def documentation? (members : List (String × Object)) : Option String :=
  match members.lookup "__doc__" with
  | some (.data (.str s)) => some s
  | _ => none

/-- The rule that an object describes: one with a check that can be called, or a bare call. -/
def ofObject? (object : Object) : Except Fault (Option Rule) :=
  match (object.part? "check").bind Object.call?, object with
  | some check, _ => do
    let name ← textOr unnamed (object.part? "name")
    let description ← textOr "" (object.part? "description")
    return some ⟨name, description, check⟩
  | none, .function name documentation call =>
    .ok (some ⟨hyphenated name, describe documentation, call⟩)
  | none, .ofClass name members =>
    .ok (some ⟨hyphenated name, describe (documentation? members), Object.refusingCall⟩)
  | none, _ => .ok none

/-- The fault of an object that is no rule. Its report shows the object, if that can be printed. -/
def unsupported (source : String) (object : Object) : Fault :=
  if object.asValue.legible then
    .plugin ("Rule source " ++ quotedString source ++ " exported an unsupported object: "
      ++ object.asValue.quotedString)
  else .wrongValue

def noRules (source : String) : Fault :=
  .plugin ("Rule module " ++ quotedString source ++ " does not export RULES")

mutual

/-- The rules of an object; lists give the rules of their items. -/
def ofPart (source : String) : Object → Except Fault (List Rule)
  | .rule rule => .ok [rule]
  | .list items => ofItems source items
  | .tuple items => ofItems source items
  | object => match ofObject? object with
    | .ok (some rule) => .ok [rule]
    | .ok none => .error (unsupported source object)
    | .error fault => .error fault

def ofItems (source : String) : List Object → Except Fault (List Rule)
  | [] => .ok []
  | .bundle _ exported :: items => do
    return (← ofExports source exported) ++ (← ofItems source items)
  | item :: items => do return (← ofPart source item) ++ (← ofItems source items)

/-- The rules a module exports. -/
def ofExports (source : String) : List (String × Object) → Except Fault (List Rule)
  | [] => .error (noRules source)
  | (name, object) :: exported =>
    -- The first export of the name decides.
    if name = exportName then
      if object.isNull then .error (noRules source) else ofPart source object
    else ofExports source exported

end

/-- The rules of what a source exports. -/
def ofExport (source : String) : Object → Except Fault (List Rule)
  | .bundle _ exported => ofExports source exported
  | object => ofPart source object

/-- A rule that found something wrong. -/
structure Failure where
  name : String
  description : String
  message : String
  deriving Repr, DecidableEq

def Failure.text (failure : Failure) : String := failure.name ++ ": " ++ failure.message

/-- What a rule says about the markup of a component. -/
def judge (markup : List Char) (component : Component) (rule : Rule) :
    Reported (List Failure) :=
  match rule.check markup component none with
  | .error _ => do
    .warn .rules
      ("Rule \"" ++ rule.name ++ "\" raised while checking " ++ component.name ++ "; skipping it.")
    return []
  | .ok verdict =>
    if verdict.isTrue then do
      let message ← .lift verdict.printed
      return [⟨rule.name, rule.description, String.ofList message⟩]
    else pure []

/-- What the rules say, in order. -/
def judgeAll (markup : List Char) (component : Component) : List Rule → Reported (List Failure)
  | [] => pure []
  | rule :: rules => do
    let failures ← judge markup component rule
    return failures ++ (← judgeAll markup component rules)

/-- The rules of a source. One that cannot be loaded gives none, and a notice. -/
def loadSource (load : String → Except Fault Object) (source : String) : Reported (List Rule) :=
  match load source >>= ofExport source with
  | .ok rules => pure rules
  | .error (.plugin message) => do
    .warn .rules ("Failed to load rule source " ++ source ++ ": " ++ message)
    return []
  | .error fault => .fail fault

def loadSources (load : String → Except Fault Object) : List String → Reported (List Rule)
  | [] => pure []
  | source :: sources => do
    let rules ← loadSource load source
    return rules ++ (← loadSources load sources)

/-- The rules of a site. -/
def loadAll (load : String → Except Fault Object) (settings : RuleSettings) :
    Reported (List Rule) :=
  if settings.isEnabled then loadSources load settings.sources else pure []

end Rule

end StaticSite.Plugin
