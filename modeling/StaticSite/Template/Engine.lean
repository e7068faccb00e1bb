import StaticSite.Template.Loop

/-!
# The template pass

One pass over a text resolves its conditionals, then expands its loops, then fills its
placeholders. Each step reads what the step before it has written.
-/

namespace StaticSite.Template

/-- Runs one template pass over a text. -/
def render (evaluate : Evaluator) (mode : PlaceholderMode) (scope : Scope) (s : List Char) :
    Reported (List Char) := do
  let resolved ← resolveConditionals evaluate scope s
  let expanded ← expandLoops evaluate mode scope resolved
  .lift (fillPlaceholders mode scope expanded)

end StaticSite.Template
