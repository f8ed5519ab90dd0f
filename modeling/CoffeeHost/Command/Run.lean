import CoffeeHost.Command.Invocation
import CoffeeHost.Compiler
import CoffeeHost.Settings.Load
import CoffeeHost.Text.Lowercase
/-!
# Carrying out commands

A command reads its source, compiles it, and only then opens its output, so that a failing run
leaves every file as it was.

## Main definitions

* `Command.Surroundings` — what a command finds: files, standard input, engine.
* `Command.Escape`, `Command.Transcript` — what a run of the program leaves.
* `Command.isLiterateFile` — whether a name is that of a literate source.
* `Command.run` — the run of a command line.
-/

namespace CoffeeHost.Command

/-- What a command finds. -/
structure Surroundings where
  installation : Installation
  storage : Storage
  home : String
  stdin : List UInt8
  /-- The engine; its scripts are read from the storage. -/
  engine : Collaborators

/-- The collaborators of a command, whose scripts are read from the storage. -/
def Surroundings.collaborators (world : Surroundings) : Collaborators :=
  { world.engine with read := fun _ name => Resource.read world.installation world.storage name }

/-- What ends the program without being reported by it. -/
inductive Escape
  | raised (raised : Raised)
  | text (e : Storage.TextError)
  | settings (e : Settings.LoadError)
  deriving DecidableEq, Repr

/-- The wording of what ends the program. -/
def Escape.message : Escape → String
  | raised r => s!"{r.className}: {r.text}"
  | text e => e.message
  | settings e => e.message

/-- What a run of the program leaves. -/
structure Transcript where
  exitCode : Nat
  stdout : String
  stderr : String
  storage : Storage
  events : List Event
  escape : Option Escape

/-- The ends of the names of literate sources. -/
def literateExtensions : List String := [".litcoffee", ".coffee.md"]

/-- Whether a name, in any case, is that of a literate source. -/
def isLiterateFile (name : String) : Bool :=
  literateExtensions.any fun ending => ending.toList.isSuffixOf (Text.lowercase name).toList

/-- The form of a message about what was done. -/
def infoLine (message : String) : String := s!"\x1b[92m\x1b[1mINFO:\x1b[0m {message}\n"

/-- A run that leaves all files as they were. -/
def Surroundings.quiet (world : Surroundings) (exitCode : Nat) (stdout stderr : String) :
    Transcript :=
  ⟨exitCode, stdout, stderr, world.storage, [], none⟩

/-- A run that ends unreported before anything was done. -/
def Surroundings.escaped (world : Surroundings) (escape : Escape) : Transcript :=
  ⟨1, "", "", world.storage, [], some escape⟩

/-- Why there is no source. -/
inductive NoSource
  | notFound
  | unreadable (e : Storage.TextError)

/-- A source with the name under which it is reported. A dash stands for the standard input, which
keeps its line breaks as they are, unlike a file. -/
def readSource (world : Surroundings) (file : String) : Except NoSource (String × String) :=
  if file = "-" then
    match Text.decodeUtf8 world.stdin with
    | .ok text => .ok (String.ofList text, "<stdin>")
    | .error e => .error (.unreadable (.undecodable e))
  else if !world.storage.pathExists file then .error .notFound
  else match world.storage.readText file with
    | .ok text => .ok (text, file)
    | .error e => .error (.unreadable e)

/-- How compiling a source ended, with the messages of verbose mode before and after the compiler
was released. -/
structure Compilation where
  result : Except Compiler.Failed String
  session : Session
  messagesBefore : String
  messagesAfter : String

/-- All messages of verbose mode. -/
def Compilation.messages (c : Compilation) : String := c.messagesBefore ++ c.messagesAfter

/-- Compiles a source with a compiler of its own, which is released at the end. -/
def compileSource (world : Surroundings) (verbose : Bool) (source : String) (literate : Bool) :
    Compilation :=
  let session := { Session.new world.collaborators with verbose }
  let ((compiler, result), compiled) :=
    (Compiler.new .plain).compile (.text source) ⟨literate⟩ session
  let ((_, released), session) := compiler.release compiled
  let result := match released with
    | .error raised => .error (.raised raised)
    | .ok () => result
  let after := session.messages.drop compiled.messages.length
  ⟨result, session, compiled.terminalText, String.join (after.map Session.terminalLine)⟩

/-- Hands the compiled code over to its file, or to the standard output if there is none. -/
def deliver (world : Surroundings) (name : String) (output : Option String) (code : String)
    (c : Compilation) : Transcript :=
  match output.filter (· ≠ "") with
  | none => ⟨0, code, c.messages, world.storage, c.session.events, none⟩
  | some path =>
    match world.storage.writeText path code with
    | .error e => ⟨1, "", c.messages, world.storage, c.session.events, some (.text e)⟩
    | .ok storage =>
      ⟨0, "", c.messages ++ infoLine s!"Compiled {name} -> {path}", storage, c.session.events,
        none⟩

/-- The report of a failed compilation. -/
def failureText (name : String) (e : CompilationError) : String :=
  s!"Error: Compilation of '{name}' failed:\n{e.report}\n"

/-- Compiles a file. -/
def runCompile (world : Surroundings) (verbose : Bool) (file : String) (literate : Bool)
    (output : Option String) : Transcript :=
  match readSource world file with
  | .error .notFound => world.quiet 1 "" s!"Error: File '{file}' not found.\n"
  | .error (.unreadable e) => world.escaped (.text e)
  | .ok (source, name) =>
    let c := compileSource world verbose source (literate || isLiterateFile name)
    match c.result with
    | .ok code => deliver world name output code c
    | .error (.compilation e) =>
      ⟨1, "", c.messagesBefore ++ failureText name e ++ c.messagesAfter, world.storage,
        c.session.events, none⟩
    | .error (.raised raised) =>
      ⟨1, "", c.messages, world.storage, c.session.events, some (.raised raised)⟩

/-- Shows the settings. -/
def runSettings (world : Surroundings) (path : Option String) : Transcript :=
  match Settings.load world.storage world.home path with
  | .ok settings => world.quiet 0 (settings.toValue.print .indented ++ "\n") ""
  | .error (.invalid e) => world.quiet 1 "" s!"Error: {e.display}\n"
  | .error e => world.escaped (.settings e)

/-- Carries out a request. -/
def perform (world : Surroundings) : Request → Transcript
  | .help text => world.quiet 0 text ""
  | .misuse text => world.quiet 2 "" text
  | .run ⟨_, .help⟩ => world.quiet 0 mainHelp ""
  | .run ⟨_, .settings path⟩ => runSettings world path
  | .run ⟨verbose, .compile file literate output⟩ =>
    runCompile world verbose file literate output

/-- The run of a command line. -/
def run (world : Surroundings) (arguments : List String) : Transcript :=
  perform world (read arguments)

end CoffeeHost.Command
