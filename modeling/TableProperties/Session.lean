import TableProperties.CommandLine.Run
import TableProperties.History
import TableProperties.PropertiesFile.Save

/-!
# Sessions

Work on one table over a while: its history, a working directory, and two providers of registries.
One provider is shared with the command line, the other is the session's own; both have built their
registries when the session starts. A session goes on in steps, each with an answer. A step that
fails leaves the history and the providers alone.

## Main definitions

* `Session`, `Step` and `Answer`.
* `Session.step`: one step.
* `Session.run`: all answers, and what was reported to the log.
-/

namespace TableProperties

/-- One of the two providers. -/
inductive Holder where
  /-- The provider that the command line uses. -/
  | shared
  /-- The provider of the session. -/
  | own
  deriving DecidableEq, Repr

/-- The state between two steps. -/
structure Session where
  history : History
  files : Workspace
  shared : Provider
  own : Provider

/-- Where the registry comes from that a batch is validated against. -/
inductive RegistrySource where
  /-- From a provider. -/
  | provider (holder : Holder)
  /-- It is built from some properties. -/
  | listed (properties : List Property)

/-- A step. -/
inductive Step where
  /-- Validates a batch. -/
  | validate (source : RegistrySource) (batch : Configuration)
  /-- Validates a batch and merges what is to be stored into the metadata. -/
  | commit (source : RegistrySource) (batch : Configuration)
  /-- Merges properties into the metadata as they are. -/
  | merge (properties : Configuration)
  /-- Makes an earlier version current. -/
  | rollback (version : Nat)
  /-- Reads a property. -/
  | read (property : Property)
  /-- Reads all built-in properties. -/
  | readAll
  /-- Puts a registry over the one of a provider. -/
  | override (holder : Holder) (properties : List Property)
  /-- Drops all registries that were put over that of a provider. -/
  | reset (holder : Holder)
  /-- Looks at the registry of a provider and looks up keys in it. -/
  | inspect (holder : Holder) (keys : List String)
  /-- Writes a file, with the directories on the way. -/
  | write (path : Path) (content : ByteArray)
  /-- Saves the stored properties to a file. -/
  | save (path : Path)
  /-- Merges the properties of a file into the metadata as they are. -/
  | load (path : Path)
  /-- Validates the properties of a file against the shared registry and merges the result. -/
  | loadCommit (path : Path)
  /-- Runs a command line. -/
  | command (words : List String)

/-- Why a step fails. -/
inductive StepFault where
  | property (error : PropertyError)
  | duplicate (error : DuplicateKey)
  | load (fault : LoadFault)
  | save (fault : SaveFault)
  | file (fault : FileFault)
  /-- There is no version of this number. -/
  | noVersion (version : Nat)

/-- The answer of a step that does not fail. -/
inductive Answer where
  /-- What would be stored. -/
  | accepted (properties : Configuration)
  /-- The number of the new version and its configuration. -/
  | version (number : Nat) (configuration : Configuration)
  /-- The current configuration, and whether it is that of the newest version. -/
  | current (configuration : Configuration) (isLatest : Bool)
  | value (v : Value)
  | values (vs : List (String × Except PropertyError Value))
  /-- The registry in force, as it is described. -/
  | registry (description : String)
  /-- The registry in force, whether it is the built-in one, and the canonical keys that were
  found. -/
  | inspection (description : String) (isBuiltin : Bool) (found : List (Option String))
  /-- The paths in the working directory. -/
  | listing (paths : List String)
  /-- The text of a file. -/
  | content (text : String)
  | outcome (o : CommandLine.Outcome)

/-- What a step leads to: the session after it, what it reports to the log, and its answer. -/
structure StepResult where
  session : Session
  events : List LogEvent := []
  answer : Except StepFault Answer

namespace Session

/-- A provider. -/
def provider (s : Session) : Holder → Provider
  | .shared => s.shared
  | .own => s.own

/-- The session with another provider. -/
def setProvider (s : Session) (holder : Holder) (p : Provider) : Session :=
  match holder with
  | .shared => { s with shared := p }
  | .own => { s with own := p }

/-- A session whose providers have been used. -/
def start (history : History) (files : Workspace) : Session :=
  { history, files, shared := Provider.fresh.used, own := Provider.fresh.used }

/-- What starting a session reports to the log. -/
def startEvents : List LogEvent :=
  Provider.fresh.useEvents ++ Provider.fresh.useEvents

/-- The registry of a source, and what building it reports to the log. -/
def registryOf (s : Session) : RegistrySource → List LogEvent × Except DuplicateKey Registry
  | .provider holder => ([], .ok (s.provider holder).registry)
  | .listed properties =>
    match Registry.build properties with
    | .ok r => ([r.builtEvent], .ok r)
    | .error e => ([], .error e)

/-- A step that changes nothing. -/
def reply (s : Session) (answer : Except StepFault Answer) (events : List LogEvent := []) :
    StepResult :=
  ⟨s, events, answer⟩

/-- The session with a new history, whose current version is the answer. -/
def advance (s : Session) (h : History) : StepResult where
  session := { s with history := h }
  answer := .ok (.version (h.versions.length - 1) h.current.configuration)

/-- Commits a batch. -/
def commitTo (s : Session) (r : Registry) (events : List LogEvent) (batch : Configuration) :
    StepResult :=
  let events := events ++ r.validationEvents batch
  match s.history.commit r batch with
  | .error e => s.reply (.error (.property e)) events
  | .ok h => { s.advance h with events := events }

/-- The stored properties that have a value. -/
def storedProperties (s : Session) : Mapping String :=
  .ofList (s.history.current.configuration.entries.filterMap fun (key, value) ↦
    value.map (key, ·))

/-- Writes a file, with the directories on the way. -/
def writeFile (w : Workspace) (p : Path) (content : ByteArray) :
    Workspace × Except FileFault Unit :=
  match w.makeDirectories p.parent with
  | (w, .error fault) => (w, .error fault)
  | (w, .ok ()) =>
    match w.write p content with
    | .error fault => (w, .error fault)
    | .ok w => (w, .ok ())

/-- One step. -/
def step (s : Session) : Step → StepResult
  | .validate source batch =>
    match s.registryOf source with
    | (events, .error e) => s.reply (.error (.duplicate e)) events
    | (events, .ok r) =>
      s.reply (((r.validate batch).map .accepted).mapError .property)
        (events ++ r.validationEvents batch)
  | .commit source batch =>
    match s.registryOf source with
    | (events, .error e) => s.reply (.error (.duplicate e)) events
    | (events, .ok r) => s.commitTo r events batch
  | .merge properties => s.advance (s.history.merge properties)
  | .rollback version =>
    match s.history.rollback? version with
    | none => s.reply (.error (.noVersion version))
    | some h =>
      { s with history := h }.reply
        (.ok (.current h.current.configuration (h.current.Same h.latest)))
  | .read p =>
    s.reply (((p.read s.history.current.configuration).map .value).mapError .property)
  | .readAll =>
    s.reply (.ok (.values (Catalog.all.map fun p ↦
      (p.key, p.read s.history.current.configuration))))
  | .override holder properties =>
    match Registry.build properties with
    | .error e => s.reply (.error (.duplicate e))
    | .ok r =>
      (s.setProvider holder ((s.provider holder).override r)).reply
        (.ok (.registry r.describe)) [r.builtEvent]
  | .reset holder =>
    let p := (s.provider holder).reset
    (s.setProvider holder p).reply (.ok (.registry p.registry.describe))
  | .inspect holder keys =>
    let p := s.provider holder
    let found := keys.map fun key ↦ (p.registry.lookup key).map Property.key
    s.reply (.ok (.inspection p.registry.describe p.isBuiltin found))
  | .write path content =>
    match writeFile s.files path content with
    | (w, .error fault) => { s with files := w }.reply (.error (.file fault))
    | (w, .ok ()) => { s with files := w }.reply (.ok (.listing w.listing))
  | .save path =>
    match s.files.save path s.storedProperties with
    | (w, .error fault) => { s with files := w }.reply (.error (.save fault))
    | (w, .ok ()) =>
      { s with files := w }.reply (((w.readText path).map Answer.content).mapError .load)
  | .load path =>
    match s.files.load path with
    | .error fault => s.reply (.error (.load fault))
    | .ok properties => s.advance (s.history.merge (properties.mapValues some))
  | .loadCommit path =>
    match s.files.load path with
    | .error fault => s.reply (.error (.load fault))
    | .ok properties =>
      s.commitTo s.shared.registry [] (properties.mapValues some)
  | .command words =>
    s.reply (((CommandLine.run s.files s.shared words).map .outcome).mapError .load)
      (CommandLine.events s.files s.shared words)

/-- All steps, one after the other: the session at the end, what was reported to the log, and the
answers. -/
def run (s : Session) : List Step → Session × List LogEvent × List (Except StepFault Answer)
  | [] => (s, [], [])
  | next :: rest =>
    let r := s.step next
    let (s, events, answers) := r.session.run rest
    (s, r.events ++ events, r.answer :: answers)

end Session

end TableProperties
