import CoffeeHost.Command.Run
/-!
# The program

Collects what a command finds, runs it, and carries its transcript out. No engine is linked into
this program, so a compilation reports that the interpreter could not be created.

## Main definitions

* `CoffeeHost.noEngine` — the engine that cannot be created.
* `main` — the program.
-/

namespace CoffeeHost

open Storage (Node)

/-- The engine of a program into which none is linked. -/
def noEngine : Collaborators where
  create _ := some (.engineError "no script engine is linked")
  load _ := none
  evaluate _ _ := .error (.engineError "no script engine is linked")
  read _ _ := .error (.engineError "no script engine is linked")

/-- The location of a path below a working directory. -/
def locationOf (workingDirectory : List String) (path : String) : List String :=
  (Storage.pathNames path).foldl (fun location name =>
      if name = "" ∨ name = "." then location
      else if name = ".." then location.dropLast
      else location ++ [name])
    (if path.startsWith "/" then [] else workingDirectory)

/-- The path of a location. -/
def pathOf (location : List String) : String := "/" ++ "/".intercalate location

/-- Adds what is at a location to a tree. -/
def addLocation (root : Node) (location : List String) : IO Node := do
  if (root.find? location).isSome then return root
  let path := pathOf location
  try
    if ← (← IO.FS.realPath path).isDir then return root.put location (.directory [])
    return root.put location (.file (← IO.FS.readBinFile path).data.toList)
  catch _ =>
    return root

/-- The paths that a request is about. -/
def pathsOf (installation : Installation) (home : String) : Command.Request → List String
  | .run ⟨_, .compile file _ output⟩ =>
    file :: output.toList ++ Resource.loadOrder.map installation.resourcePath
  | .run ⟨_, .settings path⟩ => path.toList ++ Settings.defaultPaths home
  | _ => []

/-- Reads what is at some paths, and the directories on the way to it. -/
def collect (workingDirectory : List String) (paths : List String) : IO Storage := do
  let mut root : Node := .directory []
  for path in paths do
    let location := locationOf workingDirectory path
    for length in List.range location.length do
      root ← addLocation root (location.take (length + 1))
  return ⟨root, workingDirectory⟩

/-- Carries a transcript out: writes the files that have changed, and the texts. -/
def carryOut (before : Storage) (transcript : Command.Transcript) : IO UInt32 := do
  let old := before.root.files
  for (location, bytes) in transcript.storage.root.files do
    if !old.contains (location, bytes) then
      IO.FS.writeBinFile (pathOf location) ⟨bytes.toArray⟩
  (← IO.getStderr).putStr transcript.stderr
  (← IO.getStdout).putStr transcript.stdout
  match transcript.escape with
  | some escape => (← IO.getStderr).putStrLn escape.message
  | none => pure ()
  return UInt32.ofNat transcript.exitCode

/-- Runs a command line in the real surroundings. -/
def runProgram (arguments : List String) : IO UInt32 := do
  let home := (← IO.getEnv "HOME").getD ""
  let programDirectory := (← IO.appDir).toString
  let installation : Installation :=
    ⟨s!"{programDirectory}/resources", s!"{programDirectory}/engine",
      ← IO.getEnv "BREW_COFFEESCRIPT_PATH"⟩
  let request := Command.read arguments
  let workingDirectory := locationOf [] (← IO.currentDir).toString
  let storage ← collect workingDirectory (pathsOf installation home request)
  let stdin ← match request with
    | .run ⟨_, .compile "-" _ _⟩ => pure (← IO.FS.readBinFile "/dev/stdin").data.toList
    | _ => pure []
  carryOut storage (Command.perform ⟨installation, storage, home, stdin, noEngine⟩ request)

end CoffeeHost

/-- The program. -/
def main (arguments : List String) : IO UInt32 := CoffeeHost.runProgram arguments
