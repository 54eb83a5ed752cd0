import TableProperties.CommandLine.Arguments
import TableProperties.CommandLine.Overrides
import TableProperties.Json.Printer
import TableProperties.PropertiesFile.Load
import TableProperties.Property.Catalog
import TableProperties.Provider

/-!
# Running commands

What a command line prints, and the status with which the program ends: 0 if all went well, 1 if
properties are refused or a file cannot be loaded, 2 if the command line is refused. Errors and the
log go to the error output.

A few faults in files are not reported in this way. They end the program without an outcome.

## Main definitions

* `Outcome`.
* `run`: the outcome of a command line.
-/

namespace TableProperties

/-- Whether the program reports a fault. -/
def Yaml.Fault.isReported : Yaml.Fault → Bool
  | .notBoolean _ | .emptyNumber | .notTimestamp | .timestampMapping | .powerTooLarge => false
  | .codePoint n => n < 2 ^ 31
  | _ => true

/-- Whether the program reports a fault. -/
def Toml.Fault.isReported (fault : Toml.Fault) : Bool :=
  fault == .malformed || fault == .tooLong

/-- Whether the program reports a fault. -/
def LoadFault.isReported : LoadFault → Bool
  | .text (.yaml fault) => fault.isReported
  | .text (.toml fault) => fault.isReported
  | _ => true

namespace CommandLine

/-- What the program prints, and its status. -/
structure Outcome where
  status : Nat
  output : String := ""
  errors : String := ""
  deriving DecidableEq, Repr

/-- Why a command ends early. -/
inductive Failure where
  /-- An error that the program reports. -/
  | reported (error : PropertyError)
  /-- A fault in a file that it does not report. -/
  | unreported (fault : LoadFault)

/-- What a command reports to the log, and what it prints. -/
abbrev Report := List LogEvent × Except Failure String

/-! ## Commands -/

/-- How the properties of a file are found. -/
abbrev Loader := Path → Except LoadFault (Mapping String)

/-- A fault in the file at a path. -/
def failureOf (path : String) (fault : LoadFault) : Failure :=
  if fault.isReported then .reported (.file path fault.message) else .unreported fault

/-- The properties of a file, and what loading them reports to the log. Without a file there are
none. -/
def readProperties (load : Loader) (config : Option String) :
    List LogEvent × Except Failure (Mapping String) :=
  match config with
  | none => ([], .ok .empty)
  | some name =>
    let p := Path.ofText name
    ([.loading p.text], (load p).mapError (failureOf p.text))

/-- Properties as a configuration. -/
def toConfiguration (properties : Mapping String) : Configuration :=
  properties.mapValues some

/-- A line that ends with a line feed. -/
def line (s : String) : String := s ++ "\n"

/-- The text of a configuration. -/
def configurationText (config : Configuration) : String :=
  line <| String.ofList <| Json.object .ascii <| config.entries.map fun (key, value) ↦
    (key, (value.map Json.Leaf.text).getD .null)

/-- Validates the properties of a file, over which other properties are laid. -/
def validate (p : Provider) (properties overrides : Mapping String) : Report :=
  let batch := toConfiguration (properties.merge overrides)
  let r := p.registry
  (p.useEvents ++ r.validationEvents batch,
    ((r.validate batch).map configurationText).mapError .reported)

/-- A value as it is printed. -/
def leafOf : Value → Json.Leaf
  | .absent => .null
  | .bool b => .bool b
  | .int n => .int n
  | .mode m => .text m.text
  | .text s => .text s

/-- The values of some properties. -/
def valuesOf (config : Configuration) :
    List Property → Except PropertyError (List (String × Json.Leaf))
  | [] => .ok []
  | p :: rest =>
    match p.read config with
    | .error e => .error e
    | .ok v => (valuesOf config rest).map ((p.key, leafOf v) :: ·)

/-- Prints the value of every property. -/
def showValues (properties : Mapping String) : Except PropertyError String :=
  (valuesOf (toConfiguration properties) Catalog.all).map fun members ↦
    line (String.ofList (Json.object .ascii members))

/-- What a list says about a property. -/
def describe (p : Property) : String :=
  let access := if p.editable then "editable" else "read-only"
  line (p.key ++ " (default: " ++ p.fallback.getD "<none>" ++ ", " ++ access ++ ")") ++
    (if p.help = "" then "" else line ("    " ++ p.help))

/-- Lists all properties. -/
def listAll : String :=
  String.join (Catalog.all.map describe)

/-! ## Outcomes -/

/-- The outcome of a command. The log is printed if it is asked for. -/
def Report.outcome (verbose : Bool) (report : Report) : Except LoadFault Outcome :=
  let log := if verbose then String.join (report.1.map fun e ↦ line e.line) else ""
  match report.2 with
  | .ok output => .ok ⟨0, output, log⟩
  | .error (.reported e) => .ok ⟨1, "", log ++ line ("error: " ++ e.message)⟩
  | .error (.unreported fault) => .error fault

/-- The outcome of a command line that runs no command. -/
def Stop.outcome : Stop → Outcome
  | .help g => { status := 0, output := g.page }
  | .usage g fault =>
    { status := 2, errors := g.usageLine ++ line (g.program ++ ": error: " ++ fault.message) }

/-- What a command reports and prints. -/
def report (load : Loader) (p : Provider) (a : Arguments) : Report :=
  match readProperties load a.config with
  | (events, .error failure) => (events, .error failure)
  | (events, .ok properties) =>
    match a.command with
    | .validate =>
      let (more, result) := validate p properties (Overrides.ofWords a.extras)
      (events ++ more, result)
    | .showValues => (events, (showValues properties).mapError .reported)
    | .listAll => (events, .ok listAll)

/-- The outcome of a command line, given how files are loaded. -/
def runWith (load : Loader) (p : Provider) (words : List String) : Except LoadFault Outcome :=
  match Arguments.ofWords words with
  | .error stop => .ok stop.outcome
  | .ok a => (report load p a).outcome a.verbose

/-- The outcome of a command line in a working directory, with the registry of a provider. -/
def run (w : Workspace) (p : Provider) (words : List String) : Except LoadFault Outcome :=
  runWith w.load p words

/-- What running a command line reports to the log. -/
def events (w : Workspace) (p : Provider) (words : List String) : List LogEvent :=
  match Arguments.ofWords words with
  | .error _ => []
  | .ok a => (report w.load p a).1

end CommandLine

end TableProperties
