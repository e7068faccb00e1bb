import StaticSite.Text.Search

/-!
# Environment tokens

`@ENV@` stands for the name of the build environment and `@ASSETS@` for the public folder of its
assets.
-/

namespace StaticSite.Markup

open StaticSite.Text

def environmentToken : List Char := ['@', 'E', 'N', 'V', '@']

def assetsToken : List Char := ['@', 'A', 'S', 'S', 'E', 'T', 'S', '@']

/-- The public folder of an environment's assets. -/
def assetsPath (env : List Char) : List Char :=
  '/' :: env ++ ['/', 'a', 's', 's', 'e', 't', 's']

/-- Replaces the environment token, then the assets token, throughout. -/
def substituteEnvironment (env s : List Char) : List Char :=
  replaceAll assetsToken (assetsPath env) (replaceAll environmentToken env s)

end StaticSite.Markup
