import StaticSite.Host
import StaticSite.Settings.Reader

/-!
# The command line

`build [ENV]` builds a site and names every page written; `render NAME` shows one component. A
fault of the site ends the program with a status of one and a notice; any other fault is passed on.
-/

namespace StaticSite.CommandLine

open StaticSite.Text

/-- What both commands can be told. -/
structure Options where
  env : String
  /-- The settings file, from the project root unless it is absolute. -/
  config : Path
  projectRoot : Path
  isVerbose : Bool
  deriving Repr, DecidableEq

inductive Command where
  | build (options : Options)
  | render (name : String) (options : Options)
  deriving Repr, DecidableEq

/-- Arguments by position, and by name with the last given first. -/
structure Arguments where
  positional : List String
  named : List (String × String)
  deriving Repr, DecidableEq

namespace Arguments

def empty : Arguments := ⟨[], []⟩

/-- Adds an argument under a name that has none yet. -/
def addNamed? (name text : String) (arguments : Arguments) : Option Arguments :=
  match arguments.named.lookup name with
  | some _ => none
  | none => some { arguments with named := (name, text) :: arguments.named }

def addPositional (texts : List String) (arguments : Arguments) : Arguments :=
  { arguments with positional := arguments.positional ++ texts }

/-- The argument under a name. -/
def get (name other : String) (arguments : Arguments) : String :=
  (arguments.named.lookup name).getD other

/-- Gives the first argument by position a name; more than one is too many. -/
def nameFirst? (name : String) (arguments : Arguments) : Option Arguments :=
  match arguments.positional with
  | [] => some arguments
  | [text] => { arguments with positional := [] }.addNamed? name text
  | _ :: _ :: _ => none

end Arguments

/-- The options that stand alone, each with its name and what it says. -/
def switches : List (String × String × String) :=
  [("--verbose", "verbose", "true"), ("--no-verbose", "verbose", "false")]

/-- Whether an argument is an option. A lone dash is none, and no number is. -/
def isOption (argument : String) : Bool := match argument.toList with
  | '-' :: c :: _ => !isAsciiDigit c && c != '.'
  | _ => false

/-- An option cut at its first equals sign. -/
def cutOption (argument : String) : String × Option String :=
  match cutAt? ['='] argument.toList with
  | some (name, text) => (String.ofList name, some (String.ofList text))
  | none => (argument, none)

/-- Reads arguments, given the names of the options that take a text and, after such an option,
the name of the one that waits for its text. -/
def readArguments? (names : List String) :
    (waiting : Option String) → Arguments → List String → Option Arguments
  | none, arguments, [] => some arguments
  | some _, _, [] => none
  | some name, arguments, text :: rest =>
    if isOption text then none
    else do readArguments? names none (← arguments.addNamed? name text) rest
  | none, arguments, argument :: rest =>
    -- Two dashes end the options.
    if argument = "--" then some (arguments.addPositional rest)
    else if !isOption argument then readArguments? names none (arguments.addPositional [argument]) rest
    else
      let (option, text?) := cutOption argument
      match switches.lookup option, names.find? (fun name => "--" ++ name = option), text? with
      | some (name, text), _, given => do
        readArguments? names none (← arguments.addNamed? name (given.getD text)) rest
      | none, some name, some text => do
        readArguments? names none (← arguments.addNamed? name text) rest
      | none, some name, none => readArguments? names (some name) arguments rest
      | none, none, _ => none

/-- The environment for which a site is built unless another one is named. -/
def standardEnvironment : String := "dev"

/-- The settings file unless another one is named. -/
def standardConfig : String := "essencekit.yaml"

def sharedNames : List String := ["env", "config", "project-root"]

def optionsOf (arguments : Arguments) : Options where
  env := arguments.get "env" standardEnvironment
  config := .ofString (arguments.get "config" standardConfig)
  projectRoot := .ofString (arguments.get "project-root" "")
  isVerbose := arguments.get "verbose" "false" = "true"

/-- The command that arguments ask for, if they make one up. -/
def Command.ofArguments? : List String → Option Command
  | "build" :: rest => do
    let arguments ← (← readArguments? sharedNames none .empty rest).nameFirst? "env"
    return .build (optionsOf arguments)
  | "render" :: rest => do
    let names := "component" :: sharedNames
    let arguments ← (← readArguments? names none .empty rest).nameFirst? "component"
    return .render (← arguments.named.lookup "component") (optionsOf arguments)
  | _ => none

/-- How a run of the program ends. -/
inductive Ending where
  /-- With what it has printed. -/
  | done (printed : List Char)
  /-- With a status of one. -/
  | refused
  /-- With a fault that is passed on. -/
  | failed (fault : Fault)

def Ending.printed : Ending → List Char
  | .done printed => printed
  | .refused | .failed _ => []

/-- A path as seen from the working folder, where it lies below it. -/
def shown (here path : Path) : Path :=
  if path.isAbsolute then (Path.below? here path).getD path else path

def writtenLine (here path : Path) : List Char := ("wrote " ++ (shown here path).text ++ "\n").toList

def loadSettings (options : Options) : Action Workspace Settings := do
  let workspace ← .get
  .lift (Settings.load workspace.disk (options.projectRoot ++ options.config) options.projectRoot true)

/-- What a command prints. -/
def perform (host : Host) : Command → Action Workspace (List Char)
  | .build options => do
    let settings ← loadSettings options
    let written ← host.build settings options.env
    let workspace ← .get
    return written.flatMap (writtenLine ⟨1, workspace.disk.here⟩)
  | .render name options => do
    let settings ← loadSettings options
    return (← host.render settings options.env name) ++ ['\n']

/-- Runs the program on its arguments. -/
def run (host : Host) (arguments : List String) (workspace : Workspace) : Ending × Workspace :=
  match Command.ofArguments? arguments with
  | none => (.refused, workspace)
  | some command => match perform host command workspace with
    | (.ok printed, next) => (.done printed, next)
    | (.error fault, next) =>
      if fault.isSite then
        let notice : Notice := ⟨.error, .commandLine, fault.text⟩
        (.refused, { next with session := next.session.record (.ofNotices [notice]) })
      else (.failed fault, next)

end StaticSite.CommandLine
