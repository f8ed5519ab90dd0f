import CoffeeHost.Storage.Tree
import CoffeeHost.Text.Lines
import CoffeeHost.Text.Quoted
import CoffeeHost.Text.Utf8
/-!
# Reading and writing files

Paths are resolved as on a system without links: name by name from the root or from the working
directory, where each name before the last must be a directory.

## Main definitions

* `Storage` — a tree of files with a working directory.
* `Storage.AccessError` — why a path cannot be opened, with its wording.
* `Storage.pathExists`, `Storage.readText`, `Storage.writeText`
-/

namespace CoffeeHost

/-- A tree of files with the location of the working directory. -/
structure Storage where
  root : Storage.Node
  workingDirectory : List String

namespace Storage

/-- Why a path cannot be opened. -/
inductive AccessError
  | missing
  | isDirectory
  | notDirectory
  | nameTooLong
  deriving DecidableEq, Repr

/-- The wording of an error. -/
def AccessError.message : AccessError → String
  | .missing => "No such file or directory"
  | .isDirectory => "Is a directory"
  | .notDirectory => "Not a directory"
  | .nameTooLong => "File name too long"

/-- The number of an error. -/
def AccessError.number : AccessError → Nat
  | .missing => 2
  | .isDirectory => 21
  | .notDirectory => 20
  | .nameTooLong => 36

/-- The greatest length of a name, in bytes. -/
def nameLimit : Nat := 255

/-- The greatest length of a path, in bytes. -/
def pathLimit : Nat := 4095

/-- The names of a path: what stands between its slashes. -/
def pathNames (path : String) : List String :=
  (path.toList.splitOn '/').map String.ofList

/-- Follows names from a location, each to be looked up in a directory. Nothing and a single dot
stay where they are, two dots go up. -/
def walk (root : Node) : (location names : List String) → Except AccessError (List String)
  | location, [] => .ok location
  | location, name :: rest =>
    match root.find? location with
    | some (.directory entries) =>
      if name = "" ∨ name = "." then walk root location rest
      else if name = ".." then walk root location.dropLast rest
      else if nameLimit < name.utf8ByteSize then .error .nameTooLong
      else if (entries.lookup name).isSome then walk root (location ++ [name]) rest
      else .error .missing
    | _ => .error .notDirectory

/-- Where the names of a path are looked up first. -/
def start (storage : Storage) (path : String) : List String :=
  if path.startsWith "/" then [] else storage.workingDirectory

/-- The location of a path whose node exists. -/
def resolve (storage : Storage) (path : String) : Except AccessError (List String) :=
  if path = "" then .error .missing
  else if pathLimit < path.utf8ByteSize then .error .nameTooLong
  else walk storage.root (storage.start path) (pathNames path)

/-- Whether a path leads to a file or a directory. -/
def pathExists (storage : Storage) (path : String) : Bool :=
  !path.contains '\x00' && (storage.resolve path).isOk

/-- The bytes of the file at a path. -/
def readBytes (storage : Storage) (path : String) : Except AccessError (List UInt8) := do
  match storage.root.find? (← storage.resolve path) with
  | some (.file bytes) => return bytes
  | some (.directory _) => throw .isDirectory
  | none => throw .missing

/-- The location that a file written to a path gets. The directory of the path must exist; the
path must not end like that of a directory. -/
def resolveNew (storage : Storage) (path : String) : Except AccessError (List String) :=
  if path = "" then .error .missing
  else if pathLimit < path.utf8ByteSize then .error .nameTooLong
  else do
    let names := pathNames path
    let parents := (names.reverse.dropWhile (· = "")).reverse
    let last := parents.getLastD "."
    let parent ← walk storage.root (storage.start path) parents.dropLast
    match storage.root.find? parent with
    | some (.directory entries) =>
      if last = "." ∨ last = ".." ∨ names.getLast? = some "" then throw .isDirectory
      if nameLimit < last.utf8ByteSize then throw .nameTooLong
      match entries.lookup last with
      | some (.directory _) => throw .isDirectory
      | _ => return parent ++ [last]
    | _ => throw .notDirectory

/-- Why the text of a file cannot be read or written. -/
inductive TextError
  /-- The path cannot be opened. -/
  | access (e : AccessError) (path : String)
  /-- The path holds the character that ends paths. -/
  | nullInPath
  /-- The bytes of the file are not UTF-8. -/
  | undecodable (e : Text.Utf8Error)
  deriving DecidableEq, Repr

/-- The wording of an error. -/
def TextError.message : TextError → String
  | .access e path => s!"[Errno {e.number}] {e.message}: {Text.quoted path}"
  | .nullInPath => "embedded null byte"
  | .undecodable e => e.message

/-- The text of some bytes, in which every line break is a line feed. -/
def textOfBytes (bytes : List UInt8) : Except Text.Utf8Error String := do
  return String.ofList (Text.normalizeBreaks (← Text.decodeUtf8 bytes))

/-- The text of the file at a path. -/
def readText (storage : Storage) (path : String) : Except TextError String :=
  if path.contains '\x00' then .error .nullInPath
  else match storage.readBytes path with
    | .error e => .error (.access e path)
    | .ok bytes => (textOfBytes bytes).mapError .undecodable

/-- The storage with a text as the file at a path. -/
def writeText (storage : Storage) (path text : String) : Except TextError Storage :=
  if path.contains '\x00' then .error .nullInPath
  else match storage.resolveNew path with
    | .error e => .error (.access e path)
    | .ok location =>
      .ok { storage with root := storage.root.put location (.file text.toUTF8.data.toList) }

end Storage

end CoffeeHost
