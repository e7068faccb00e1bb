import StaticSite.Plugin.Processor
import StaticSite.Proofs.Plugin.Checking

/-!
# Plugins that fail

A plugin that fails takes nothing with it but itself: the rules and processors of the other sources
are there, each rule finds what it finds, and each processor works on the markup that the last good
one before it left.
-/

namespace StaticSite.Plugin

namespace Processor

variable {load : String → Except Fault Object} {source : String}

/-- The processors of one source: none if it is not loaded or has nothing to call, else one. -/
inductive Gives (load : String → Except Fault Object) (source : String) : List Processor → Prop where
  | unloaded {message : String} (ended : load source = .error (.plugin message)) :
      Gives load source []
  | unsupported {object : Object} (loaded : load source = .ok object)
      (mute : entryOf? object = none) : Gives load source []
  | entry {object : Object} {call : Call} (loaded : load source = .ok object)
      (found : entryOf? object = some call) : Gives load source [⟨source, call⟩]

/-- The markup that a processor leaves. One that fails, or gives no text, leaves what it got. -/
def leaves (component : Component) (output : Path) (markup : List Char) (processor : Processor) :
    List Char :=
  match processor.call markup component (some output) with
  | .ok value => (value.text?.map String.toList).getD markup
  | .error _ => markup

variable {component : Component} {output : Path}

end Processor

end StaticSite.Plugin
