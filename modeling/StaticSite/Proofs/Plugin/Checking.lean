import StaticSite.Proofs.Plugin.Exports
import StaticSite.Proofs.Plugin.Sources
import StaticSite.Proofs.Value.Printing

/-!
# Checking markup by rules

Each source gives what it would give alone, in the order of the sources, and a source that is
reported gives nothing. Each rule finds what it would find alone, and one that fails finds nothing.
What can stop a run is a fault that nothing waits for: one of a source that breaks, or of a value
that has no text because an integer in it is too long to be written.
-/

namespace StaticSite.Plugin.Rule

variable {markup : List Char} {component : Component}

/-! ### What rules find -/

/-- What a rule finds wrong with markup. -/
inductive Finds (markup : List Char) (component : Component) (rule : Rule) :
    List Failure → Prop where
  | raised {fault : Fault} (ended : rule.check markup component none = .error fault) :
      Finds markup component rule []
  | passed {verdict : Value} (ended : rule.check markup component none = .ok verdict)
      (fine : verdict.isTrue = false) : Finds markup component rule []
  | failed {verdict : Value} (ended : rule.check markup component none = .ok verdict)
      (wrong : verdict.isTrue = true) (shown : verdict.legible = true) :
      Finds markup component rule [⟨rule.name, rule.description, verdict.plainString⟩]

/-- What the rules of some sources find wrong with markup. -/
def runAll (load : String → Except Fault Object) (sources : List String) (markup : List Char)
    (component : Component) : Reported (List Failure) := do
  judgeAll markup component (← loadSources load sources)

variable {load : String → Except Fault Object} {source : String}

/-- What the rules of one source find wrong with markup: nothing if the source is not loaded or one
of its items is no rule, else what each of them finds. -/
inductive Gives (load : String → Except Fault Object) (markup : List Char) (component : Component)
    (source : String) : List Failure → Prop where
  | unloaded {message : String} (ended : load source = .error (.plugin message)) :
      Gives load markup component source []
  | unsupported {object : Object} {front back : List Item} {item : Item} {message : String}
      (loaded : load source = .ok object) (shape : items object = front ++ item :: back)
      (before : ∀ other ∈ front, ∃ rule, ofItem source other = .ok rule)
      (refused : ofItem source item = .error (.plugin message)) :
      Gives load markup component source []
  | rules {object : Object} {rules : List Rule} {each : List (List Failure)}
      (loaded : load source = .ok object)
      (read : List.Forall₂ (fun item rule => ofItem source item = .ok rule) (items object) rules)
      (found : List.Forall₂ (Finds markup component) rules each) :
      Gives load markup component source each.flatten

/-- A source that stops a run: it breaks, or an item that is no rule or the verdict of a rule cannot
be printed. -/
inductive Stops (library : Library) (markup : List Char) (component : Component) (source : String) :
    Prop where
  | breaks {fault : Fault} (breaks : library.Breaks source fault) :
      Stops library markup component source
  | item {object : Object} {front back : List Item} {item : Item}
      (loaded : library.load source = .ok object) (shape : items object = front ++ item :: back)
      (before : ∀ other ∈ front, ∃ rule, ofItem source other = .ok rule)
      (refused : ofItem source item = .error .wrongValue) : Stops library markup component source
  | verdict {object : Object} {rules : List Rule} {rule : Rule} {verdict : Value}
      (loaded : library.load source = .ok object)
      (read : List.Forall₂ (fun item rule => ofItem source item = .ok rule) (items object) rules)
      (listed : rule ∈ rules) (ended : rule.check markup component none = .ok verdict)
      (wrong : verdict.isTrue = true) (hidden : verdict.legible = false) :
      Stops library markup component source

variable {library : Library}

end StaticSite.Plugin.Rule
