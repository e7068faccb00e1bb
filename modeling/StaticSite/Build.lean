import StaticSite.Api.Source
import StaticSite.Component.Render
import StaticSite.Plugin.Processor
import StaticSite.Plugin.Rule
import StaticSite.Plugin.Source
import StaticSite.Script
import StaticSite.Settings.Basic

/-!
# Builds

A build renders every page of a site into a staging folder and puts that folder in the place of
the site's output for one environment when all pages are done. A build that fails before takes the
staging folder away again.

Each page is rendered, checked by the rules, given its scripts, changed by the processors and
written. In a strict build a page that fails a rule stops the build.
-/

namespace StaticSite

/-- What a build works on: the disk, and what renders leave. -/
structure Workspace where
  disk : Disk
  session : Session

namespace Workspace

def onDisk {α : Type} (action : Action Disk α) : Action Workspace α :=
  action.within Workspace.disk fun disk workspace => { workspace with disk := disk }

def inSession {α : Type} (action : Action Session α) : Action Workspace α :=
  action.within Workspace.session fun session workspace => { workspace with session := session }

def report {α : Type} (result : Reported α) : Action Workspace α :=
  inSession (Session.report result)

end Workspace

structure Builder where
  settings : Settings
  /-- The environment that is built for; it names the folder of the output. -/
  env : String
  /-- Tells the tokens of a render from the text of a page. -/
  nonce : List Char
  /-- What evaluates the expressions of templates. -/
  evaluate : Template.Evaluator
  /-- The folder of the shipped components, if they take part. -/
  shipped? : Option Path
  loader? : Option Loader
  rules : List Plugin.Rule
  processors : List Plugin.Processor

namespace Builder

/-- A builder with the plugins that its settings name. -/
def ofSettings (library : Plugin.Library) (settings : Settings) (env : String) (nonce : List Char)
    (evaluate : Template.Evaluator) (shipped? : Option Path) (loader? : Option Loader) :
    Reported Builder := do
  let rules ← Plugin.Rule.loadAll library.load settings.rules
  let processors ← Plugin.Processor.loadAll library.load settings.postProcess
  return ⟨settings, env, nonce, evaluate, shipped?, loader?, rules, processors⟩

def outputRoot (builder : Builder) : Path := builder.settings.resolve builder.settings.outputFolder

/-- Where the output of the environment goes. -/
def target (builder : Builder) : Path := builder.outputRoot.child builder.env

/-- Where the output stands until it is complete. -/
def staging (builder : Builder) : Path := builder.outputRoot.child (".staging-" ++ builder.env)

def isStrict (builder : Builder) : Bool := builder.settings.isStrictBuild builder.env

/-- The components of the site, the shipped ones last. -/
def discover (builder : Builder) : Action Workspace Registry := do
  let workspace ← .get
  let own := builder.settings.resolve builder.settings.componentsFolder
  Workspace.report (Registry.discover workspace.disk (own :: builder.shipped?.toList))

def renderer (builder : Builder) (registry : Registry) (disk : Disk) : Renderer where
  disk := disk
  registry := registry
  env := builder.env.toList
  evaluate := builder.evaluate
  mode := builder.settings.placeholders
  maxDepth := builder.settings.maxDepth
  loader? := builder.loader?

def renderPage (builder : Builder) (registry : Registry) (entry : Registry.Entry) :
    Action Workspace (List Char) := do
  let workspace ← .get
  Workspace.inSession ((builder.renderer registry workspace.disk).render builder.nonce entry [] [])

/-! ### Rules -/

def failureText (component : Component) (failure : Plugin.Rule.Failure) : String :=
  "Rule " ++ failure.text ++ " failed for " ++ component.name

def strictFault (component : Component) (failures : List Plugin.Rule.Failure) : Fault :=
  .build ("Build stopped: " ++ component.name ++ " failed rule(s) "
    ++ String.intercalate ", " (failures.map fun failure => failure.name) ++ ".")

/-- Gives a notice for each failure. -/
def noteFailures (severity : Severity) (component : Component) :
    List Plugin.Rule.Failure → Reported Unit
  | [] => pure ()
  | failure :: failures => do
    .note severity .build (failureText component failure)
    noteFailures severity component failures

/-- Checks the markup of a component by the rules. -/
def check (builder : Builder) (markup : List Char) (component : Component) : Reported Unit := do
  let failures ← Plugin.Rule.judgeAll markup component builder.rules
  if failures.isEmpty then return ()
  else if builder.isStrict then do
    noteFailures .error component failures
    .fail (strictFault component failures)
  else noteFailures .warning component failures

/-! ### Scripts -/

/-- The sign-in script, if the component asks for it and there is somewhere to sign in. -/
def authScripts (builder : Builder) (component : Component) : Reported (List (List Char)) :=
  if component.wantsAuth then
    match builder.settings.authEndpoint with
    | some endpoint => do return [← .lift (Script.auth (.str endpoint))]
    | none => do
      .warn .build (component.name ++ " requests auth but no auth endpoint is configured.")
      return []
  else pure []

/-- Puts the scripts of a component into its markup. -/
def addScripts (builder : Builder) (entry : Registry.Entry) (markup : List Char) :
    Action Workspace (List Char) := do
  let authScripts ← Workspace.report (builder.authScripts entry.component)
  let workspace ← .get
  let own := (workspace.session.data entry.place).scripts.map String.toList
  return Script.inject markup (authScripts ++ own)

/-! ### Pages -/

/-- The markup of a component with its scripts; neither rules nor processors see it. -/
def renderNamed (builder : Builder) (name : String) : Action Workspace (List Char) := do
  let registry ← builder.discover
  match registry.find? name with
  | none => .fail (.build ("Component \"" ++ name ++ "\" not found."))
  | some entry => do
    Workspace.inSession (.modify Session.resetData)
    builder.addScripts entry (← builder.renderPage registry entry)

/-- Builds one page in the staging folder. -/
def buildPage (builder : Builder) (registry : Registry) (entry : Registry.Entry) :
    Action Workspace Path := do
  let component := entry.component
  let markup ← builder.renderPage registry entry
  Workspace.report (builder.check markup component)
  -- The rules have seen the markup alone; the processors see it with its scripts.
  let complete ← builder.addScripts entry markup
  let destination := builder.staging ++ component.outputPath
  let processed ← Workspace.report
    (Plugin.Processor.applyAll component destination builder.processors complete)
  Workspace.onDisk (Disk.makeFolders destination.parent)
  Workspace.onDisk (.change (Disk.writeText destination processed))
  return component.outputPath

def buildPages (builder : Builder) (registry : Registry) :
    List Registry.Entry → Action Workspace (List Path)
  | [] => pure []
  | entry :: entries => do
    let path ← builder.buildPage registry entry
    return path :: (← buildPages builder registry entries)

/-- Copies the assets, if there is a folder of them. -/
def copyAssets (builder : Builder) : Action Disk Unit := do
  let assets := builder.settings.resolve builder.settings.assetsFolder
  let disk ← .get
  if disk.isFolder assets then Disk.copyTree assets (builder.staging.child "assets")
  else return ()

/-! ### The whole site -/

/-- Removes a folder if there is something at its path. -/
def clear (path : Path) : Action Disk Unit := do
  let disk ← .get
  if disk.contains path then Disk.removeTree path else return ()

/-- An empty staging folder. -/
def prepare (builder : Builder) : Action Disk Unit := do
  clear builder.staging
  Disk.makeNewFolder builder.staging

/-- Fills the staging folder, and gives the paths of the pages in it. -/
def fill (builder : Builder) (registry : Registry) : Action Workspace (List Path) := do
  let written ← builder.buildPages registry registry.pages
  Workspace.onDisk builder.copyAssets
  return written

/-- Puts the staging folder in the place of the output. -/
def publish (builder : Builder) : Action Disk Unit := do
  clear builder.target
  .change (Disk.rename builder.staging builder.target)

/-- Builds the site, and gives the paths of its pages. -/
def run (builder : Builder) : Action Workspace (List Path) := do
  let registry ← builder.discover
  Workspace.inSession (.modify Session.resetData)
  Workspace.onDisk builder.prepare
  -- From here on there is a staging folder, which a fault must not leave behind.
  let written ← (builder.fill registry).onFault
    (Workspace.onDisk (Disk.removeTree builder.staging))
  Workspace.onDisk builder.publish
  return written.map (builder.target ++ ·)

end Builder

end StaticSite
