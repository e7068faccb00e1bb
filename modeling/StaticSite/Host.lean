import StaticSite.Build

/-!
# Hosts

A host is what a site is built with and does not decide itself: the evaluation of expressions, the
network, the environment variables, the way plugin code is read, and the shipped components and
plugins.
-/

namespace StaticSite

structure Host where
  /-- What evaluates the expressions of templates. -/
  evaluate : Template.Evaluator
  network : Api.Network
  environment : String → Option String
  /-- The exports of a file with plugin code, or the text with which the code fails. -/
  interpret : List Char → Except String Plugin.Exports
  /-- Tells the tokens of a render from the text of a page. -/
  nonce : List Char
  /-- The folder of the shipped components, if they take part. -/
  shipped? : Option Path
  /-- Takes the place of the data of the site's own groups. -/
  loader? : Option Loader

namespace Host

/-- What the plugin sources of a site are looked up in. -/
def library (host : Host) (disk : Disk) (base : Path) : Plugin.Library :=
  ⟨disk, base, host.interpret, Plugin.Shipped.modules host.nonce⟩

/-- Loads the data of components from the groups of a site. -/
def source (host : Host) (settings : Settings) : Api.Source :=
  ⟨⟨host.network, settings.apiGroups, Api.standardTimeout⟩, settings.apiAuth, host.environment⟩

def loader (host : Host) (settings : Settings) : Loader :=
  host.loader?.getD (host.source settings).loader

/-- The builder of a site, its plugins loaded. -/
def builder (host : Host) (settings : Settings) (env : String) : Action Workspace Builder := do
  let workspace ← .get
  Workspace.report (Builder.ofSettings (host.library workspace.disk settings.projectRoot) settings
    env host.nonce host.evaluate host.shipped? (some (host.loader settings)))

/-- Builds a site for an environment. -/
def build (host : Host) (settings : Settings) (env : String) : Action Workspace (List Path) := do
  (← host.builder settings env).run

/-- Renders one component of a site. -/
def render (host : Host) (settings : Settings) (env name : String) :
    Action Workspace (List Char) := do
  (← host.builder settings env).renderNamed name

end Host

end StaticSite
