import CoffeeHost.Command.Arguments
/-!
# The commands

There are two commands: one compiles a file, the other shows the settings. Without a command the
help is shown.

## Main definitions

* `Command.Task`, `Command.Invocation` — what is to be done.
* `Command.Request` — an invocation, or a text to be shown instead.
* `Command.read` — the request of a command line.
-/

namespace CoffeeHost.Command

/-- What is to be done. -/
inductive Task
  /-- Compile a file, or the standard input if the file is a dash. The output is written to a
  file, unless that is missing or empty. -/
  | compile (file : String) (literate : Bool) (output : Option String)
  /-- Show the settings of a file, or of the default file. -/
  | settings (path : Option String)
  /-- Show the help. -/
  | help
  deriving DecidableEq, Repr

/-- A task, carried out in verbose mode or not. -/
structure Invocation where
  verbose : Bool
  task : Task
  deriving DecidableEq, Repr

/-- What a command line asks for. -/
inductive Request
  | run (invocation : Invocation)
  /-- A help text is shown, and that is all. -/
  | help (text : String)
  /-- The command line is wrong. -/
  | misuse (text : String)
  deriving DecidableEq, Repr

/-- The option for help, which every command has. -/
def helpOption : OptionSpec := ⟨["-h", "--help"], .help⟩

/-- The option for verbose mode. -/
def verboseOption : OptionSpec := ⟨["--verbose"], .flag⟩

/-- The option for literate sources. -/
def literateOption : OptionSpec := ⟨["--literate"], .flag⟩

/-- The option for the output file. -/
def outputOption : OptionSpec := ⟨["-o", "--output"], .value⟩

/-- The options before the command. -/
def mainGrammar : Grammar := ⟨[helpOption, verboseOption], .command⟩

/-- The options and operands of compiling. -/
def compileGrammar : Grammar := ⟨[helpOption, literateOption, outputOption], .atMostOne⟩

/-- The options and operands of showing settings. -/
def settingsGrammar : Grammar := ⟨[helpOption], .atMostOne⟩

/-- The name of the program. -/
def programName : String := "brew"

/-- The names of the commands. -/
def commandNames : List String := ["compile", "settings"]

/-- The usage of the program. -/
def mainUsage : String := "usage: brew [-h] [--verbose] \x7bcompile,settings\x7d ...\n"

/-- The usage of compiling. -/
def compileUsage : String :=
  "usage: brew compile [-h] [--literate] [-o OUTPUT] [filename]\n"

/-- The usage of showing settings. -/
def settingsUsage : String := "usage: brew settings [-h] [path]\n"

/-- The help of the program. -/
def mainHelp : String :=
  mainUsage ++
  "\nCoffeeScript compiler CLI\n" ++
  "\npositional arguments:\n" ++
  "  \x7bcompile,settings\x7d\n" ++
  "    compile           Compile CoffeeScript to JavaScript\n" ++
  "    settings          Validate and show optimizer settings\n" ++
  "\noptions:\n" ++
  "  -h, --help          show this help message and exit\n" ++
  "  --verbose           Enable verbose output (sent to stderr)\n"

/-- The help of compiling. -/
def compileHelp : String :=
  compileUsage ++
  "\npositional arguments:\n" ++
  "  filename              File to compile (default: read from stdin)\n" ++
  "\noptions:\n" ++
  "  -h, --help            show this help message and exit\n" ++
  "  --literate            Treat the source as Literate CoffeeScript\n" ++
  "  -o OUTPUT, --output OUTPUT\n" ++
  "                        Write JavaScript to this file instead of stdout\n"

/-- The help of showing settings. -/
def settingsHelp : String :=
  settingsUsage ++
  "\npositional arguments:\n" ++
  "  path        Settings file (default: brew.json, then ~/.brew/brew.json)\n" ++
  "\noptions:\n" ++
  "  -h, --help  show this help message and exit\n"

/-- The report of a misuse: the usage, and what is wrong. -/
def misuseText (usage program : String) (misuse : Misuse) : String :=
  s!"{usage}{program}: error: {misuse.message}\n"

/-- Whether a flag is among the options of a command line. -/
def hasOption (parsed : Parsed) (spec : OptionSpec) : Bool := parsed.options.any (·.1 = spec)

/-- The last value given to an option. -/
def optionValue? (parsed : Parsed) (spec : OptionSpec) : Option String :=
  (parsed.options.reverse.find? (·.1 = spec)).bind (·.2)

/-- The operand of a command line. -/
def operand? (parsed : Parsed) : Option String := parsed.operands.bind List.head?

/-- A command: its grammar, its texts, and the task that a command line means. -/
structure CommandSpec where
  grammar : Grammar
  usage : String
  help : String
  task : Parsed → Task

/-- The command that compiles. -/
def compileCommand : CommandSpec where
  grammar := compileGrammar
  usage := compileUsage
  help := compileHelp
  task parsed := .compile ((operand? parsed).getD "-") (hasOption parsed literateOption)
    (optionValue? parsed outputOption)

/-- The command that shows the settings. -/
def settingsCommand : CommandSpec where
  grammar := settingsGrammar
  usage := settingsUsage
  help := settingsHelp
  task parsed := .settings (operand? parsed)

/-- The command of a name. -/
def command? (name : String) : Option CommandSpec :=
  if name = "compile" then some compileCommand
  else if name = "settings" then some settingsCommand
  else none

/-- The request for a task. What was not understood before and after the command is refused. -/
def finish (main : Parsed) (leftovers : List String) (task : Task) : Request :=
  match main.leftovers ++ leftovers with
  | [] => .run ⟨hasOption main verboseOption, task⟩
  | unknown => .misuse (misuseText mainUsage programName (.unrecognized unknown))

/-- The request of a command line. -/
def read (arguments : List String) : Request :=
  match parse mainGrammar arguments with
  | .error .help => .help mainHelp
  | .error (.misuse misuse) => .misuse (misuseText mainUsage programName misuse)
  | .ok main =>
    match main.operands with
    | none => finish main [] .help
    | some [] => finish main [] .help
    | some (name :: rest) =>
      match command? name with
      | none => .misuse (misuseText mainUsage programName (.unknownCommand name commandNames))
      | some command =>
        match parse command.grammar rest with
        | .error .help => .help command.help
        | .error (.misuse misuse) =>
          .misuse (misuseText command.usage s!"{programName} {name}" misuse)
        | .ok parsed => finish main parsed.leftovers (command.task parsed)

end CoffeeHost.Command
