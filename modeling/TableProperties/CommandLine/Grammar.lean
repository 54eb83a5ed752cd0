import TableProperties.Text.Quoted

/-!
# Grammars of command lines

The options that a command line may have, and the texts that explain them. There is one grammar for
the words in front of the command and one for the words behind each command.

## Main definitions

* `Grammar`: `Grammar.front`, and `Command.grammar` for the words behind a command.
* `UsageFault`: why a command line is refused.
-/

namespace TableProperties.CommandLine

/-- What an option is for. -/
inductive OptionKind where
  | help
  | verbose
  | config
  deriving DecidableEq, Repr

namespace OptionKind

/-- Whether an option has a value. -/
def takesValue : OptionKind → Bool
  | config => true
  | _ => false

/-- The short and the long name of an option. -/
def names : OptionKind → List String
  | help => ["-h", "--help"]
  | verbose => ["-v", "--verbose"]
  | config => ["-c", "--config"]

/-- Both names of an option, as messages show them. -/
def title (kind : OptionKind) : String :=
  String.intercalate "/" kind.names

end OptionKind

/-- The options of a part of the command line, and the texts about it. -/
structure Grammar where
  /-- The words that come before this part. -/
  program : String
  /-- What may follow these words. -/
  usage : String
  /-- The options. -/
  options : List OptionKind
  /-- Whether long options may be abbreviated. -/
  abbreviates : Bool
  /-- Whether the first word that is no option is a command. -/
  hasCommand : Bool
  /-- The explanations below the usage. -/
  details : List String

namespace Grammar

/-- The names of all options, each with its option. -/
def names (g : Grammar) : List (List Char × OptionKind) :=
  g.options.flatMap fun kind ↦ kind.names.map fun name ↦ (name.toList, kind)

/-- The option of a name. -/
def option? (g : Grammar) (name : List Char) : Option OptionKind :=
  g.names.lookup name

/-- The line that shows the usage. -/
def usageLine (g : Grammar) : String :=
  "usage: " ++ g.program ++ " " ++ g.usage ++ "\n"

/-- The page that explains the options. -/
def page (g : Grammar) : String :=
  g.usageLine ++ "\n" ++ String.join (g.details.map (· ++ "\n"))

end Grammar

/-! ## Commands -/

/-- A command. -/
inductive Command where
  /-- Validates properties and prints them. -/
  | validate
  /-- Prints the value of every property. -/
  | showValues
  /-- Lists the properties. -/
  | listAll
  deriving DecidableEq, Repr

namespace Command

/-- All commands. -/
def all : List Command := [validate, showValues, listAll]

/-- The word for a command. -/
def word : Command → String
  | validate => "validate"
  | showValues => "show"
  | listAll => "list"

/-- The command of a word. -/
def ofWord? (word : String) : Option Command :=
  all.find? fun c ↦ c.word == word

end Command

/-! ## The grammars -/

/-- The name of the program. -/
def programName : String := "tableconf"

/-- The words in front of the command. -/
def Grammar.front : Grammar where
  program := programName
  usage := "[-h] [-v] \x7bvalidate,show,list\x7d ..."
  options := [.help, .verbose]
  abbreviates := true
  hasCommand := true
  details := [
    "Validate and inspect Delta table properties",
    "",
    "positional arguments:",
    "  \x7bvalidate,show,list\x7d",
    "    validate            Validate table properties and print the normalized",
    "                        result.",
    "    show                Print the effective value of every table property.",
    "    list                List the known table properties.",
    "",
    "options:",
    "  -h, --help            show this help message and exit",
    "  -v, --verbose         Enable debug logging."]

/-- The usage of the options of a command that reads a file. -/
def configUsage : String := "[-h] [-c CONFIG]"

/-- The explanation of the options of a command that reads a file. -/
def configDetails : List String := [
  "options:",
  "  -h, --help            show this help message and exit",
  "  -c CONFIG, --config CONFIG",
  "                        Optional, path to a properties file (supported",
  "                        extensions: *.json, *.yaml/yml, *.toml)"]

/-- The words behind a command. Behind `validate` no option may be abbreviated, because any other
option names a property. -/
def Command.grammar (c : Command) : Grammar where
  program := programName ++ " " ++ c.word
  usage := if c = listAll then "[-h]" else configUsage
  options := if c = listAll then [.help] else [.help, .config]
  abbreviates := c != validate
  hasCommand := false
  details :=
    match c with
    | validate =>
      "Extra \"--key value\" or \"--key=value\" arguments override properties from the" ::
        "file." :: "" :: configDetails
    | showValues => configDetails
    | listAll => ["options:", "  -h, --help  show this help message and exit"]

/-! ## Faults -/

/-- Why a command line is refused. -/
inductive UsageFault where
  | commandMissing
  | unknownCommand (word : String)
  /-- An abbreviation could stand for several options. -/
  | ambiguous (word : String) (names : List String)
  | valueMissing (kind : OptionKind)
  | valueUnexpected (kind : OptionKind) (value : String)
  | unrecognized (words : List String)
  deriving DecidableEq, Repr

/-- The message of a fault. -/
def UsageFault.message : UsageFault → String
  | commandMissing => "the following arguments are required: command"
  | unknownCommand word =>
    "argument command: invalid choice: " ++ Text.quote word ++ " (choose from " ++
      String.intercalate ", " (Command.all.map fun c ↦ Text.quote c.word) ++ ")"
  | ambiguous word names =>
    "ambiguous option: " ++ word ++ " could match " ++ String.intercalate ", " names
  | valueMissing kind => "argument " ++ kind.title ++ ": expected one argument"
  | valueUnexpected kind value =>
    "argument " ++ kind.title ++ ": ignored explicit argument " ++ Text.quote value
  | unrecognized words => "unrecognized arguments: " ++ String.intercalate " " words

end TableProperties.CommandLine
