import TableProperties.CommandLine.Run

/-!
# The program

Runs the command line in the directory in which the program was started.
-/

namespace TableProperties

/-- The bytes of the file at a path. -/
def fetch (p : Path) : IO (Except LoadFault ByteArray) := do
  try
    return .ok (← IO.FS.readBinFile p.text)
  catch
    | .noFileOrDirectory .. => return .error (.missing p.text)
    | .inappropriateType .. => return .error (.file (.isDirectory p.text))
    | .invalidArgument _ _ _ => return .error (.file (.tooLong p.text))
    | _ => return .error (.file (.denied p.text))

/-- The properties of the file that a command line names, if it names one. -/
def fetchProperties (words : List String) : IO (Except LoadFault (Mapping String)) := do
  match CommandLine.Arguments.ofWords words with
  | .ok { config := some name, .. } =>
    let p := Path.ofText name
    match ← fetch p with
    | .error fault => return .error fault
    | .ok bytes => return propertiesOfBytes p bytes
  | _ => return .ok .empty

end TableProperties

open TableProperties in
/-- Runs a command line and returns its status. -/
def main (words : List String) : IO UInt32 := do
  let loaded ← fetchProperties words
  match CommandLine.runWith (fun _ ↦ loaded) .fresh words with
  | .ok o =>
    IO.print o.output
    IO.eprint o.errors
    return o.status.toUInt32
  | .error fault =>
    IO.eprintln fault.message
    return 1
