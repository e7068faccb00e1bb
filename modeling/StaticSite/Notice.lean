/-!
# Notices

A notice is a line for the person who runs the program: where it comes from, how grave it is, and
its text.
-/

namespace StaticSite

inductive Severity where
  | warning
  | error
  deriving Repr, DecidableEq

/-- The part of the program a notice comes from. -/
inductive Channel where
  | templates
  | rendering
  | discovery
  | api
  | rules
  | postProcessing
  | build
  | commandLine
  deriving Repr, DecidableEq

structure Notice where
  severity : Severity
  channel : Channel
  text : String
  deriving Repr, DecidableEq

end StaticSite
