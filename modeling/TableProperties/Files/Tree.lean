import TableProperties.Files.Path

/-!
# Directory trees

The working directory as a value: a tree of directories and files, and the operations on it that
loading and saving need. Each operation fails as a file system does, and one that fails half-way
keeps what it has done.

Nothing is known of the world around the working directory except that it is a directory; it is
never changed.

## Main definitions

* `FileTree`, and `Location`, the place that a path leads to.
* `Workspace.read`, `Workspace.makeDirectories`, `Workspace.write`, `Workspace.listing`.
-/

namespace TableProperties

/-- A file or a directory. -/
inductive FileTree where
  | file (content : ByteArray)
  | directory (entries : List (String × FileTree))

/-- Why an operation on files fails; the path is the one that was asked for. -/
inductive FileFault where
  | notFound (path : String)
  | exists (path : String)
  | notDirectory (path : String)
  | isDirectory (path : String)
  | denied (path : String)
  /-- A component of the path, or the path as a whole, has too many bytes. -/
  | tooLong (path : String)
  /-- The path holds the character that ends names. -/
  | nullByte
  deriving DecidableEq, Repr

/-- The message of a failure: its number, its description and the path. -/
def FileFault.message : FileFault → String
  | .notFound path => "[Errno 2] No such file or directory: " ++ Text.quote path
  | .exists path => "[Errno 17] File exists: " ++ Text.quote path
  | .notDirectory path => "[Errno 20] Not a directory: " ++ Text.quote path
  | .isDirectory path => "[Errno 21] Is a directory: " ++ Text.quote path
  | .denied path => "[Errno 13] Permission denied: " ++ Text.quote path
  | .tooLong path => "[Errno 36] File name too long: " ++ Text.quote path
  | .nullByte => "embedded null byte"

namespace FileTree

/-- The entry of a directory. -/
def named? (name : String) : FileTree → Option FileTree
  | file _ => none
  | directory entries => entries.lookup name

/-- Whether this is a directory. -/
def isDirectory : FileTree → Bool
  | file _ => false
  | directory _ => true

/-- Replaces the first entry of a name, or adds one. -/
def putEntry (name : String) (tree : FileTree) :
    List (String × FileTree) → List (String × FileTree)
  | [] => [(name, tree)]
  | e :: rest => if e.1 = name then (name, tree) :: rest else e :: putEntry name tree rest

/-- Puts a tree at a place below a directory, making the directories on the way that are missing.
Nothing is put below a file. -/
def put (above : FileTree) (names : List String) (tree : FileTree) : FileTree :=
  match names, above with
  | [], _ => tree
  | _ :: _, file content => file content
  | name :: rest, directory entries =>
    let child := (entries.lookup name).getD (directory [])
    directory (putEntry name (child.put rest tree) entries)

/-- The tree at a place below a directory. -/
def at? (above : FileTree) : List String → Option FileTree
  | [] => some above
  | name :: rest => (above.named? name).bind (·.at? rest)

end FileTree

/-! ## Places -/

/-- Where a path leads. -/
inductive Location where
  /-- A place below the working directory, by the names on the way; it may be empty. -/
  | inside (names : List String)
  /-- A directory outside the working directory. -/
  | outside
  deriving DecidableEq, Repr

/-- Why a path leads nowhere. -/
inductive WalkFault where
  | missing
  | throughFile
  | tooLong
  | nullByte
  deriving DecidableEq, Repr

/-- The largest number of bytes in a component of a path. -/
def maxNameLength : Nat := 255

/-- The largest number of bytes in a path. -/
def maxPathLength : Nat := 4095

/-- A working directory. -/
structure Workspace where
  /-- The directory itself. -/
  root : FileTree := .directory []

namespace Workspace

/-- One step from a place that must be a directory. The last step may lead to a place that does not
exist. -/
def step (w : Workspace) (place : Location) (part : String) (isLast : Bool) :
    Except WalkFault Location :=
  match place with
  | .outside =>
    if part = ".." then .ok .outside
    else if maxNameLength < part.utf8ByteSize then .error .tooLong
    else .error .missing
  | .inside names =>
    match w.root.at? names with
    | none => .error .missing
    | some (.file _) => .error .throughFile
    | some (.directory entries) =>
      if part = ".." then .ok (if names.isEmpty then .outside else .inside names.dropLast)
      else if maxNameLength < part.utf8ByteSize then .error .tooLong
      else if (entries.lookup part).isSome || isLast then .ok (.inside (names ++ [part]))
      else .error .missing

/-- Follows the components of a path. -/
def walk (w : Workspace) (place : Location) : List String → Except WalkFault Location
  | [] => .ok place
  | part :: rest =>
    match w.step place part rest.isEmpty with
    | .error fault => .error fault
    | .ok place => w.walk place rest

/-- The place that a path leads to. -/
def locate (w : Workspace) (p : Path) : Except WalkFault Location :=
  if p.text.contains '\x00' then .error .nullByte
  else if maxPathLength < p.text.utf8ByteSize then .error .tooLong
  else w.walk (if p.root = "" then .inside [] else .outside) p.parts

/-- What stands at the place that a path leads to. -/
def find? (w : Workspace) (p : Path) : Option FileTree :=
  match w.locate p with
  | .error _ => none
  | .ok .outside => some (.directory [])
  | .ok (.inside names) => w.root.at? names

/-- Whether a path leads to a file or directory. This cannot be told of a path that is too long. -/
def has (w : Workspace) (p : Path) : Except FileFault Bool :=
  match w.locate p with
  | .error .tooLong => .error (.tooLong p.text)
  | _ => .ok (w.find? p).isSome

/-- Whether a path leads to a directory. -/
def hasDirectory (w : Workspace) (p : Path) : Bool :=
  ((w.find? p).map FileTree.isDirectory).getD false

/-- The content of a file. -/
def read (w : Workspace) (p : Path) : Except FileFault ByteArray :=
  match w.find? p with
  | none => .error (.notFound p.text)
  | some (.directory _) => .error (.isDirectory p.text)
  | some (.file content) => .ok content

/-! ## Changes -/

/-- The failure of a change at a path that leads nowhere. -/
def changeFault (p : Path) : WalkFault → FileFault
  | .missing => if p.root = "" then .notFound p.text else .denied p.text
  | .throughFile => .notDirectory p.text
  | .tooLong => .tooLong p.text
  | .nullByte => .nullByte

/-- Makes one directory. -/
def makeDirectory (w : Workspace) (p : Path) : Except FileFault Workspace :=
  match w.locate p with
  | .error fault => .error (changeFault p fault)
  | .ok .outside => .error (.exists p.text)
  | .ok (.inside names) =>
    match w.root.at? names with
    | some _ => .error (.exists p.text)
    | none => .ok ⟨w.root.put names (.directory [])⟩

/-- Makes a directory unless there is one already. -/
def ensureDirectory (w : Workspace) (p : Path) : Except FileFault Workspace :=
  match w.makeDirectory p with
  | .ok w => .ok w
  | .error fault => if w.hasDirectory p then .ok w else .error fault

/-- Makes a directory and those on the way to it; the components come in reverse. What has been
made stays when a later step fails. -/
def makeDirectoriesFrom (w : Workspace) (root : String) :
    List String → Workspace × Except FileFault Unit
  | [] =>
    match w.ensureDirectory ⟨root, []⟩ with
    | .ok w => (w, .ok ())
    | .error fault => (w, .error fault)
  | part :: above =>
    let p : Path := ⟨root, (part :: above).reverse⟩
    match w.makeDirectory p with
    | .ok w => (w, .ok ())
    | .error (.notFound _) =>
      match w.makeDirectoriesFrom root above with
      | (w, .error fault) => (w, .error fault)
      | (w, .ok ()) =>
        match w.ensureDirectory p with
        | .ok w => (w, .ok ())
        | .error fault => (w, .error fault)
    | .error fault => if w.hasDirectory p then (w, .ok ()) else (w, .error fault)

/-- Makes a directory and those on the way to it. -/
def makeDirectories (w : Workspace) (p : Path) : Workspace × Except FileFault Unit :=
  w.makeDirectoriesFrom p.root p.parts.reverse

/-- Writes a file in a directory that exists. -/
def write (w : Workspace) (p : Path) (content : ByteArray) : Except FileFault Workspace :=
  match w.locate p with
  | .error fault => .error (changeFault p fault)
  | .ok .outside => .error (.isDirectory p.text)
  | .ok (.inside names) =>
    match w.root.at? names with
    | some (.directory _) => .error (.isDirectory p.text)
    | _ => .ok ⟨w.root.put names (.file content)⟩

/-! ## Listing -/

mutual

/-- The paths of a tree and of all below it; the path of a directory ends in a slash. -/
def paths (path : String) : FileTree → List String
  | .file _ => [path]
  | .directory entries => (path ++ "/") :: pathsOfEntries (path ++ "/") entries

/-- The paths of some entries, each starting with `start`. -/
def pathsOfEntries (start : String) : List (String × FileTree) → List String
  | [] => []
  | (name, tree) :: rest => paths (start ++ name) tree ++ pathsOfEntries start rest

end

/-- The paths of all files and directories, sorted. -/
def listing (w : Workspace) : List String :=
  match w.root with
  | .file _ => []
  | .directory entries => (pathsOfEntries "" entries).mergeSort fun a b ↦ decide (a ≤ b)

end Workspace

end TableProperties
