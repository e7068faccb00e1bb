/-!
# Faults

Every way in which an operation can fail is a constructor here. `Fault.kind` is the label under
which a fault is reported, `Fault.message?` the text of those faults that carry one, and
`Fault.text` what a notice says about a fault.
-/

namespace StaticSite

inductive Fault where
  /-- The text of an expression cannot be read. -/
  | malformedExpression
  /-- A filter or test that does not exist, found when an expression is prepared. -/
  | unknownOperation
  /-- A filter or test that does not exist, found when an expression is evaluated. -/
  | missingOperation
  | filterArgument
  /-- An undefined value was used. -/
  | undefinedValue
  /-- A value that expressions must not reach was used. -/
  | forbiddenValue
  | divisionByZero
  | overflow
  | missingAttribute
  | missingKey
  | missingIndex
  | wrongType
  | wrongValue
  /-- A constant that has no literal form. -/
  | unboundName
  /-- An expression that is well formed by itself and cannot be arranged for evaluation. -/
  | illFormedProgram
  | lookup
  /-- A requirement on an argument does not hold. -/
  | requirement
  | undecodableText
  | malformedJson
  | malformedYaml
  | fileNotFound
  | notADirectory
  | isADirectory
  | fileExists
  | permission
  | directoryNotEmpty
  /-- The system does not look up names or paths of this length. -/
  | nameTooLong
  /-- Copying a tree met entries that could not be copied. -/
  | copyConflict
  | invalidSettings (message : String)
  | settingsNotMapping
  | settingsMissing (path : String)
  | storeMissing
  | api (message : String)
  | plugin (message : String)
  /-- A module cannot be imported. -/
  | importFailed (message : String)
  | build (message : String)
  | cycle (chain : List String)
  | depth (limit : Int) (chain : List String)
  /-- A plugin failed with a text of its own. -/
  | raised (message : String)
  deriving Repr, DecidableEq, Inhabited

namespace Fault

def chainText (chain : List String) : String := String.intercalate " -> " chain

/-- The label of a fault. -/
def kind : Fault → String
  | malformedExpression => "TemplateSyntaxError"
  | unknownOperation => "TemplateAssertionError"
  | missingOperation => "TemplateRuntimeError"
  | filterArgument => "FilterArgumentError"
  | undefinedValue => "UndefinedError"
  | forbiddenValue => "SecurityError"
  | divisionByZero => "ZeroDivisionError"
  | overflow => "OverflowError"
  | missingAttribute => "AttributeError"
  | missingKey => "KeyError"
  | missingIndex => "IndexError"
  | wrongType => "TypeError"
  | wrongValue => "ValueError"
  | unboundName => "NameError"
  | illFormedProgram => "SyntaxError"
  | lookup => "LookupError"
  | requirement => "AssertionError"
  | undecodableText => "UnicodeDecodeError"
  | malformedJson => "JSONDecodeError"
  | malformedYaml => "YAMLError"
  | fileNotFound => "FileNotFoundError"
  | notADirectory => "NotADirectoryError"
  | isADirectory => "IsADirectoryError"
  | fileExists => "FileExistsError"
  | permission => "PermissionError"
  | directoryNotEmpty => "OSError"
  | nameTooLong => "OSError"
  | copyConflict => "Error"
  | invalidSettings _ => "SiteConfigError"
  | settingsNotMapping => "TypeError"
  | settingsMissing _ => "FileNotFoundError"
  | storeMissing => "ValueError"
  | api _ => "ApiError"
  | plugin _ => "PluginLoadError"
  | importFailed _ => "ImportError"
  | build _ => "BuildError"
  | cycle _ => "ComponentCycleError"
  | depth .. => "RenderDepthError"
  | raised _ => "RuntimeError"

/-- The text of the faults that carry one. -/
def message? : Fault → Option String
  | invalidSettings message => some message
  | settingsNotMapping => some "Top-level YAML structure must be a mapping."
  | settingsMissing path => some ("Configuration file '" ++ path ++ "' not found.")
  | storeMissing => some "Nested renders must share the root call's block store."
  | api message => some message
  | plugin message => some message
  | build message => some message
  | cycle chain => some ("Cyclic component reference: " ++ chainText chain)
  | depth limit chain =>
    some ("Component nesting exceeded " ++ toString limit ++ " levels: " ++ chainText chain)
  | _ => none

/-- What a notice says about a fault: its text, or its label if it carries none. -/
def text (fault : Fault) : String := fault.message?.getD fault.kind

/-- The faults in an expression that a template survives: those of the expression language, and those
of arithmetic, attributes, keys, indices, types and values, of whatever part of the program. -/
def isEvaluation : Fault → Bool
  | malformedExpression | unknownOperation | missingOperation | filterArgument | undefinedValue
  | forbiddenValue => true
  | divisionByZero | overflow | missingAttribute | missingKey | missingIndex => true
  | wrongType | settingsNotMapping => true
  | wrongValue | undecodableText | malformedJson | invalidSettings _ | storeMissing => true
  | _ => false

/-- The faults of the site itself, which the command line turns into an exit status. -/
def isSite : Fault → Bool
  | invalidSettings _ | api _ | plugin _ | build _ | cycle _ | depth .. => true
  | _ => false

/-- The faults of reading the file system. -/
def isFileAccess : Fault → Bool
  | fileNotFound | notADirectory | isADirectory | fileExists | permission | directoryNotEmpty
  | nameTooLong => true
  | _ => false

/-! ### Results that may be faults -/

theorem map_eq_ok {α β : Type} {f : α → β} {result : Except Fault α} {b : β}
    (ended : result.map f = .ok b) : ∃ a, result = .ok a ∧ f a = b := by
  cases result with
  | error fault => contradiction
  | ok a => exact ⟨a, rfl, by simpa [Except.map] using ended⟩

theorem bind_eq_ok {α β : Type} {f : α → Except Fault β} {result : Except Fault α} {b : β}
    (ended : result >>= f = .ok b) : ∃ a, result = .ok a ∧ f a = .ok b := by
  cases result with
  | error fault => contradiction
  | ok a => exact ⟨a, rfl, ended⟩

end Fault

end StaticSite
