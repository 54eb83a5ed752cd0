import TableProperties.CommandLine.Word

/-!
# Reading command lines

Words are taken from left to right. In front of the command the first word that is no option is the
command, and all that follows belongs to it. Words that a grammar does not know are collected; they
are refused later unless the command is `validate`.

Asking for help ends the reading, so a fault behind such a request does not count; only an ambiguous
abbreviation is noticed first.

## Main definitions

* `Reading`: what has been read of one part of the command line.
* `Arguments.ofWords`: the whole command line.
-/

namespace TableProperties.CommandLine

/-- Why no command is run. -/
inductive Stop where
  /-- Help was asked for. -/
  | help (g : Grammar)
  /-- The words do not follow the grammar. -/
  | usage (g : Grammar) (fault : UsageFault)

/-- What has been read of one part of the command line. -/
structure Reading where
  verbose : Bool := false
  config : Option String := none
  /-- The words that the grammar does not know. -/
  extras : List String := []
  /-- The command with all words behind it. -/
  command : Option (List String) := none

namespace Reading

/-- Collects words that the grammar does not know. -/
def collect (r : Reading) (words : List String) : Reading :=
  { r with extras := r.extras ++ words }

/-- The effect of options, one after the other; nothing if one of them asks for help. -/
def effect? (r : Reading) : List (OptionKind × Option String) → Option Reading
  | [] => some r
  | (.help, _) :: _ => none
  | (.verbose, _) :: rest => { r with verbose := true }.effect? rest
  | (.config, value) :: rest => { r with config := value }.effect? rest

/-- The effect of the options in one word. -/
def applyAll (r : Reading) (g : Grammar) (options : List (OptionKind × Option String)) :
    Except Stop Reading :=
  match r.effect? options with
  | some r => .ok r
  | none => .error (.help g)

end Reading

/-- Reads words whose kinds are known. -/
def readWords (g : Grammar) (r : Reading) : List (String × Word) → Except Stop Reading
  | [] => .ok r
  | (word, .argument) :: rest =>
    if g.hasCommand then .ok { r with command := some (word :: rest.map Prod.fst) }
    else readWords g (r.collect [word]) rest
  | (word, .separator) :: rest =>
    if g.hasCommand && !rest.isEmpty then
      .ok { r with command := some (word :: rest.map Prod.fst) }
    else readWords g (r.collect [word]) rest
  | (word, .unknown) :: rest => readWords g (r.collect [word]) rest
  | (_, .option given) :: rest =>
    match given.resolve g with
    | .error fault => .error (.usage g fault)
    | .ok resolved =>
      match resolved.pending, rest with
      | none, rest =>
        match r.applyAll g resolved.complete with
        | .error stop => .error stop
        | .ok r => readWords g r rest
      | some kind, (value, .argument) :: rest =>
        match r.applyAll g (resolved.complete ++ [(kind, some value)]) with
        | .error stop => .error stop
        | .ok r => readWords g r rest
      | some kind, _ => .error (.usage g (.valueMissing kind))

/-- Reads the words of one part of the command line. -/
def Grammar.read (g : Grammar) (words : List String) : Except Stop Reading :=
  match Word.ofTexts g words with
  | .error fault => .error (.usage g fault)
  | .ok words => readWords g {} words

/-! ## The whole command line -/

/-- A command line that follows the grammar. -/
structure Arguments where
  verbose : Bool
  command : Command
  /-- The path of the properties file. -/
  config : Option String
  /-- The words that the grammar does not know, which name properties. -/
  extras : List String
  deriving DecidableEq, Repr

namespace Arguments

/-- The command that a word names, with the words behind it. -/
def ofCommand (before : Reading) (word : String) (rest : List String) : Except Stop Arguments :=
  match Command.ofWord? word with
  | none => .error (.usage .front (.unknownCommand word))
  | some command =>
    match command.grammar.read rest with
    | .error stop => .error stop
    | .ok behind =>
      let extras := before.extras ++ behind.extras
      if command ≠ .validate ∧ extras ≠ [] then .error (.usage .front (.unrecognized extras))
      else .ok ⟨before.verbose, command, behind.config, extras⟩

/-- Reads a command line. -/
def ofWords (words : List String) : Except Stop Arguments :=
  match Grammar.front.read words with
  | .error stop => .error stop
  | .ok before =>
    match before.command with
    | some (word :: rest) => ofCommand before word rest
    | _ => .error (.usage .front .commandMissing)

end Arguments

end TableProperties.CommandLine
