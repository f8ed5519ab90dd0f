/-!
# Trees of files

A tree of files is a file with its bytes or a directory with named entries. A location in it is
the list of names that leads there from the root.

## Main definitions

* `Storage.Node` — files and directories.
* `Storage.Node.find?` — what is at a location.
* `Storage.Node.put` — the tree with a file at a location.
* `Storage.Node.files` — all files with their locations.
-/

namespace CoffeeHost.Storage

/-- A file or a directory. -/
inductive Node
  | file (bytes : List UInt8)
  | directory (entries : List (String × Node))
  deriving Inhabited

namespace Node

/-- Whether a node is a directory. -/
def isDirectory : Node → Bool
  | file _ => false
  | directory _ => true

/-- The entries of a directory; a file has none. -/
def entries : Node → List (String × Node)
  | file _ => []
  | directory entries => entries

/-- What is at a location. -/
def find? (node : Node) : (location : List String) → Option Node
  | [] => some node
  | name :: rest => (node.entries.lookup name).bind fun child => child.find? rest

/-- Entries in which a name stands for a node: in place of its old node, or at the end. -/
def replace (name : String) (node : Node) : List (String × Node) → List (String × Node)
  | [] => [(name, node)]
  | entry :: rest =>
    if entry.1 = name then (name, node) :: rest else entry :: replace name node rest

/-- The tree with a node at a location. Directories on the way are made where there are none. -/
def put (node : Node) : (location : List String) → (new : Node) → Node
  | [], new => new
  | name :: rest, new =>
    let child := (node.entries.lookup name).getD (.directory [])
    .directory (replace name (child.put rest new) node.entries)

mutual

/-- All files with their locations, below a location. -/
def filesBelow (location : List String) : Node → List (List String × List UInt8)
  | file bytes => [(location, bytes)]
  | directory entries => entryFiles location entries

/-- All files of some entries. -/
def entryFiles (location : List String) : List (String × Node) → List (List String × List UInt8)
  | [] => []
  | (name, node) :: rest => node.filesBelow (location ++ [name]) ++ entryFiles location rest

end

/-- All files with their locations. -/
def files (node : Node) : List (List String × List UInt8) := node.filesBelow []

end Node

end CoffeeHost.Storage
