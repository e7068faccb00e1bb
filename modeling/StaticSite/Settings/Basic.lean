import StaticSite.Path
import StaticSite.Template.Placeholder

/-!
# Settings

The settings of a site, every one of them decided.
-/

namespace StaticSite

structure RuleSettings where
  isEnabled : Bool
  isStrict : Bool
  sources : List String
  deriving Repr, DecidableEq, Inhabited

structure PostProcessSettings where
  isEnabled : Bool
  sources : List String
  deriving Repr, DecidableEq, Inhabited

structure Settings where
  /-- What relative paths are resolved against. -/
  projectRoot : Path
  componentsFolder : Path
  outputFolder : Path
  assetsFolder : Path
  placeholders : Template.PlaceholderMode
  maxDepth : Int
  rules : RuleSettings
  postProcess : PostProcessSettings
  /-- The base address of each data group. -/
  apiGroups : List (String × String)
  /-- How each data group is signed in to. -/
  apiAuth : Mapping.Entries
  authEndpoint : Option String

namespace Settings

def defaultMaxDepth : Int := 50

/-- The settings of a site that says nothing. -/
def standard (projectRoot : Path) : Settings where
  projectRoot := projectRoot
  componentsFolder := .ofSegments ["components"]
  outputFolder := .ofSegments ["public"]
  assetsFolder := .ofSegments ["assets"]
  placeholders := .silent
  maxDepth := defaultMaxDepth
  rules := ⟨false, false, []⟩
  postProcess := ⟨false, []⟩
  apiGroups := []
  apiAuth := []
  authEndpoint := none

instance : Inhabited Settings := ⟨standard .here⟩

/-- A path of the site, from the project root unless it is absolute. -/
def resolve (settings : Settings) (path : Path) : Path := settings.projectRoot ++ path

/-- The environment in which every build is strict. -/
def strictEnvironment : String := "prod"

/-- Whether failing rules stop a build. -/
def isStrictBuild (settings : Settings) (env : String) : Bool :=
  env = strictEnvironment || settings.rules.isStrict

end Settings

end StaticSite
