import StaticSite.Plugin.Object
import StaticSite.Reported
import StaticSite.Settings.Basic
import StaticSite.Text.Quoted

/-!
# Processors

A processor changes the markup of a page just before it is written. Processors work one after the
other; one that fails, or gives something else than markup, leaves the markup as it was.
-/

namespace StaticSite.Plugin

open StaticSite.Text

structure Processor where
  source : String
  call : Call

namespace Processor

/-- The name under which an object or a module holds its call. -/
def entryName : String := "process"

/-- The call of an object: the one it holds, else itself if it is a function. -/
def callOf? (object : Object) : Option Call :=
  match (object.attribute? entryName).bind Object.call?, object with
  | some call, _ => some call
  | none, .function _ _ call => some call
  | none, _ => none

/-- The call a source exports. Of a module only what stands under the name counts. -/
def entryOf? : Object → Option Call
  | .bundle _ exported => (exported.lookup entryName).bind callOf?
  | object => callOf? object

def ofExport (source : String) (object : Object) : Except Fault Call :=
  match entryOf? object with
  | some call => .ok call
  | none => .error (.plugin
      ("Post-process source " ++ quotedString source ++ " has no callable entry point"))

/-- The markup after a processor. -/
def apply (component : Component) (output : Path) (markup : List Char) (processor : Processor) :
    Reported (List Char) :=
  match processor.call markup component (some output) with
  | .error _ => do
    .note .error .postProcessing
      ("Post-process \"" ++ processor.source ++ "\" failed for " ++ component.name ++ ".")
    return markup
  | .ok value => match value.text? with
    | some text => pure text.toList
    | none => do
      .warn .postProcessing ("Post-process \"" ++ processor.source ++ "\" returned "
        ++ value.typeName ++ " instead of markup; ignoring it.")
      return markup

/-- The markup after all processors, in order. -/
def applyAll (component : Component) (output : Path) :
    List Processor → List Char → Reported (List Char)
  | [], markup => pure markup
  | processor :: processors, markup => do
    applyAll component output processors (← apply component output markup processor)

/-- The processor of a source. One that cannot be loaded gives none, and a notice. -/
def loadSource (load : String → Except Fault Object) (source : String) :
    Reported (List Processor) :=
  match load source >>= ofExport source with
  | .ok call => pure [⟨source, call⟩]
  | .error (.plugin message) => do
    .warn .postProcessing ("Failed to load post-process source " ++ source ++ ": " ++ message)
    return []
  | .error fault => .fail fault

def loadSources (load : String → Except Fault Object) : List String → Reported (List Processor)
  | [] => pure []
  | source :: sources => do
    let processors ← loadSource load source
    return processors ++ (← loadSources load sources)

/-- The processors of a site. -/
def loadAll (load : String → Except Fault Object) (settings : PostProcessSettings) :
    Reported (List Processor) :=
  if settings.isEnabled then loadSources load settings.sources else pure []

end Processor

end StaticSite.Plugin
