import CoffeeHost.Text.DecimalDigit
import CoffeeHost.Text.Quoted
/-!
# Reading command-line arguments

A command line mixes options with operands. An option is known by its names; a long name may be
shortened as long as one option matches, a value may be joined to its option, and short options
may be written together. After a separator of two dashes everything is an operand.

## Main definitions

* `Command.OptionSpec`, `Command.Grammar` — the options and operands that are understood.
* `Command.Misuse` — what can be wrong with a command line, with its wording.
* `Command.Tag`, `Command.tagAll` — which arguments are options.
* `Command.Parsed`, `Command.parse` — the options, operands and leftovers of a command line.
-/

namespace CoffeeHost.Command

/-- What an option does. -/
inductive OptionKind
  | help
  | flag
  | value
  deriving DecidableEq, Repr

/-- An option with its names, the short one first if there is one. -/
structure OptionSpec where
  names : List String
  kind : OptionKind
  deriving DecidableEq, Repr

/-- How an option is named in messages. -/
def OptionSpec.title (spec : OptionSpec) : String := "/".intercalate spec.names

/-- Which operands are understood. -/
inductive Operands
  /-- At most one. -/
  | atMostOne
  /-- The name of a command, with everything after it. -/
  | command
  deriving DecidableEq, Repr

/-- The options and operands that are understood. -/
structure Grammar where
  options : List OptionSpec
  operands : Operands

/-- What can be wrong with a command line. -/
inductive Misuse
  | ambiguous (argument : String) (candidates : List String)
  | valueMissing (option : String)
  | valueIgnored (option value : String)
  | unknownCommand (name : String) (known : List String)
  | unrecognized (arguments : List String)
  deriving DecidableEq, Repr

/-- The wording of a misuse. -/
def Misuse.message : Misuse → String
  | .ambiguous argument candidates =>
    s!"ambiguous option: {argument} could match " ++ ", ".intercalate candidates
  | .valueMissing option => s!"argument {option}: expected one argument"
  | .valueIgnored option value =>
    s!"argument {option}: ignored explicit argument {Text.quoted value}"
  | .unknownCommand name known =>
    s!"argument command: invalid choice: {Text.quoted name} (choose from "
      ++ ", ".intercalate (known.map Text.quoted) ++ ")"
  | .unrecognized arguments => "unrecognized arguments: " ++ " ".intercalate arguments

/-- What an argument is taken for. -/
inductive Tag
  | operand
  | separator
  /-- An option, perhaps with a text joined to it. -/
  | option (spec : OptionSpec) (name : String) (joined : Option String)
  /-- Something that looks like an option, but is none. -/
  | unknown
  deriving DecidableEq, Repr

namespace Grammar

/-- All names of options with their options. -/
def allNames (grammar : Grammar) : List (String × OptionSpec) :=
  grammar.options.flatMap fun spec => spec.names.map fun name => (name, spec)

/-- The option of a name. -/
def option? (grammar : Grammar) (name : String) : Option OptionSpec :=
  grammar.allNames.lookup name

end Grammar

/-- Splits an argument at its first equals sign. -/
def splitValue (argument : String) : String × Option String :=
  let (name, tail) := argument.toList.span (· ≠ '=')
  (String.ofList name, match tail with | [] => none | _ :: value => some (String.ofList value))

/-- Whether digits, and perhaps a point among or before them, make up a text. A line feed may
follow. -/
def isUnsignedNumber (text : List Char) : Bool :=
  let text := if text.getLast? = some '\n' then text.dropLast else text
  let (whole, tail) := text.span fun c => (Text.decimalValue? c).isSome
  match tail with
  | [] => !whole.isEmpty
  | '.' :: fraction => !fraction.isEmpty && fraction.all fun c => (Text.decimalValue? c).isSome
  | _ => false

/-- The options that a shortened long name, or a short name with a value right behind it, may
mean, with their full names. -/
def candidates (grammar : Grammar) (argument : String) : List (String × Tag) :=
  match argument.toList with
  | '-' :: '-' :: _ =>
    let (shortened, value) := splitValue argument
    grammar.allNames.filterMap fun (name, spec) =>
      if name.startsWith shortened then
        some (name, .option spec name value)
      else none
  | '-' :: letter :: value =>
    grammar.allNames.filterMap fun (name, spec) =>
      if name = String.ofList ['-', letter] then
        some (name, .option spec name (some (String.ofList value)))
      else if name.startsWith argument then some (name, .option spec name none)
      else none
  | _ => []

/-- What an argument before any separator is taken for. -/
def tag (grammar : Grammar) (argument : String) : Except Misuse Tag :=
  if !argument.startsWith "-" || argument = "-" then .ok .operand
  else match grammar.option? argument with
  | some spec => .ok (.option spec argument none)
  | none =>
    match splitValue argument, grammar.option? (splitValue argument).1 with
    | (name, some value), some spec => .ok (.option spec name (some value))
    | _, _ =>
      match candidates grammar argument with
      | [(_, tag)] => .ok tag
      | [] =>
        if isUnsignedNumber (argument.toList.drop 1) || argument.contains ' ' then .ok .operand
        else .ok .unknown
      | many => .error (.ambiguous argument (many.map (·.1)))

/-- What all arguments are taken for. -/
def tagAll (grammar : Grammar) : List String → Except Misuse (List (String × Tag))
  | [] => .ok []
  | "--" :: rest => .ok (("--", .separator) :: rest.map (·, .operand))
  | argument :: rest => do
    return (argument, ← tag grammar argument) :: (← tagAll grammar rest)

/-- What a command line says. -/
structure Parsed where
  /-- The options in order, with their values. -/
  options : List (OptionSpec × Option String)
  /-- The operands that the grammar asks for, if there are any. -/
  operands : Option (List String)
  /-- What the grammar does not understand. -/
  leftovers : List String

/-- Why a command line is not carried out. -/
inductive Halt
  | help
  | misuse (misuse : Misuse)

/-- The options that one argument holds, and one more that still needs a value. -/
structure Cluster where
  options : List (OptionSpec × Option String)
  pending : Option OptionSpec

/-- Puts an option in front of a cluster. -/
def Cluster.push (spec : OptionSpec) (cluster : Cluster) : Cluster :=
  { cluster with options := (spec, none) :: cluster.options }

/-- A lone option without anything joined to it. -/
def Cluster.single (spec : OptionSpec) : Cluster :=
  match spec.kind with
  | .value => ⟨[], some spec⟩
  | _ => ⟨[(spec, none)], none⟩

/-- An option with its joined value. A separator is no value, and leaves the value empty. -/
def Cluster.withValue (spec : OptionSpec) (value : List Char) : Cluster :=
  ⟨[(spec, some (if value = ['-', '-'] then "" else String.ofList value))], none⟩

/-- The options of an argument with a text joined to its first option. What follows a short option
that takes no value are further short options, also after an equals sign. -/
def cluster (grammar : Grammar) (spec : OptionSpec) (long : Bool) :
    List Char → Except Misuse Cluster
  | [] =>
    match spec.kind with
    | .value => .ok (Cluster.withValue spec [])
    | _ => .error (.valueIgnored spec.title "")
  | letter :: rest =>
    match spec.kind with
    | .value => .ok (Cluster.withValue spec (letter :: rest))
    | _ =>
      let ignored := .error (.valueIgnored spec.title (String.ofList (letter :: rest)))
      if long then ignored
      else match grammar.option? (String.ofList ['-', letter]), rest with
        | none, _ => ignored
        | some next, [] => .ok ((Cluster.single next).push spec)
        | some next, c :: rest => (cluster grammar next false (c :: rest)).map (·.push spec)

/-- Adds options to what the rest of a command line says. Help is given as soon as it is asked
for. -/
def recordOptions (options : List (OptionSpec × Option String)) (rest : Except Halt Parsed) :
    Except Halt Parsed :=
  if options.any (·.1.kind = .help) then .error .help
  else rest.map fun parsed => { parsed with options := options ++ parsed.options }

/-- Adds an argument that is not understood to what the rest of a command line says. -/
def recordLeftover (argument : String) (rest : Except Halt Parsed) : Except Halt Parsed :=
  rest.map fun parsed => { parsed with leftovers := argument :: parsed.leftovers }

/-- Adds the operands that the grammar asks for to what the rest of a command line says. -/
def recordOperands (operands : List String) (rest : Except Halt Parsed) : Except Halt Parsed :=
  rest.map fun parsed => { parsed with operands := some operands }

/-- Reads tagged arguments; `wanted` tells whether the operands have still to come. -/
def parseTagged (grammar : Grammar) (wanted : Bool) :
    List (String × Tag) → Except Halt Parsed
  | [] => .ok ⟨[], none, []⟩
  | (argument, .unknown) :: rest => recordLeftover argument (parseTagged grammar wanted rest)
  | (_, .option spec name joined) :: rest =>
    let found : Except Misuse Cluster := match joined with
      | none => .ok (Cluster.single spec)
      | some text => cluster grammar spec (name.startsWith "--") text.toList
    match found with
    | .error misuse => .error (.misuse misuse)
    | .ok ⟨options, none⟩ => recordOptions options (parseTagged grammar wanted rest)
    | .ok ⟨options, some spec⟩ =>
      match rest with
      | (value, .operand) :: rest =>
        recordOptions (options ++ [(spec, some value)]) (parseTagged grammar wanted rest)
      | _ => .error (.misuse (.valueMissing spec.title))
  | (argument, tag) :: rest =>
    match wanted, grammar.operands, tag, rest with
    | true, .atMostOne, .separator, (operand, .operand) :: rest =>
      recordOperands [operand] (parseTagged grammar false rest)
    | true, .atMostOne, .separator, rest =>
      recordOperands [] (parseTagged grammar false rest)
    | true, .atMostOne, _, (_, .separator) :: rest =>
      recordOperands [argument] (parseTagged grammar false rest)
    | true, .atMostOne, _, rest =>
      recordOperands [argument] (parseTagged grammar false rest)
    | true, .command, .separator, [] => recordLeftover argument (.ok ⟨[], none, []⟩)
    | true, .command, _, rest => .ok ⟨[], some (argument :: rest.map (·.1)), []⟩
    | false, _, _, rest => recordLeftover argument (parseTagged grammar wanted rest)

/-- What a command line says. -/
def parse (grammar : Grammar) (arguments : List String) : Except Halt Parsed :=
  match tagAll grammar arguments with
  | .error misuse => .error (.misuse misuse)
  | .ok tagged => parseTagged grammar true tagged

end CoffeeHost.Command
