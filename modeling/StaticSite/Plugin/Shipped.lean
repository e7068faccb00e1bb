import StaticSite.Markup.Minify
import StaticSite.Plugin.Object
import StaticSite.Value.Mapping

/-!
# Shipped plugins

Two rules that ask for what a page should have, and a processor that minifies markup.
-/

namespace StaticSite.Plugin.Shipped

/-- A check that a component's configuration has a setting. -/
def requireSetting (name : String) : Call := fun _ component _ =>
  let isThere := ((Mapping.get? name component.config).map Value.isTrue).getD false
  .ok (if isThere then .null
    else .str ("Missing " ++ name ++ " in component: " ++ component.name))

def rules : List Rule :=
  [⟨"title-required", "Component config must have a title.", requireSetting "title"⟩,
    ⟨"description-required", "Component config must have a description.",
      requireSetting "description"⟩]

def minifyDescription : String := String.intercalate "\n"
  ["Return ``markup`` without comments and redundant whitespace.", "",
    "``<pre>``, ``<code>``, ``<textarea>``, ``<script>`` and ``<style>``",
    "contents are kept byte for byte."]

def minify (nonce : List Char) : Call := fun markup _ _ =>
  (Markup.minify nonce markup).map Value.ofString

/-- A module that a source can name. -/
structure Module where
  name : String
  /-- Whether further modules may stand below it. -/
  isPackage : Bool
  /-- What the module exports, or the fault in which its code ends. -/
  exported : Except Fault Exports

/-- The modules that sources can name. -/
def modules (nonce : List Char) : List Module :=
  [⟨"essencekit", true, .ok []⟩,
    ⟨"essencekit.plugins", true, .ok []⟩,
    ⟨"essencekit.plugins.builtin_rules", false, .ok [("RULES", .list (rules.map .rule))]⟩,
    ⟨"essencekit.plugins.minify", false, .ok
      [("minify_html", .function "minify_html" (some minifyDescription) (minify nonce)),
        ("PRESERVED_TAGS", .tuple (Markup.preservedTags.map fun tag =>
          .data (.ofString tag)))]⟩]

end StaticSite.Plugin.Shipped
