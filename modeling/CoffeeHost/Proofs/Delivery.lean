import CoffeeHost.Command.Run
import CoffeeHost.Proofs.FileTexts
import CoffeeHost.Proofs.Silence
import CoffeeHost.Proofs.WrittenFiles
/-!
# Delivery of compiled code

The command that compiles a file reads its source, calls the compiler, and hands the code over: to
the output file if one is named, and otherwise to the standard output. Many things can be in the
way, and each of them comes before anything is handed over. So the command delivers the code whole
and at one place, or it shows nothing and leaves every file as it was. This holds also if the
source is its own output file, because it is read before the file is written.

## Main definitions

* `Command.Surroundings.libraryCall` — the call of the library that a command stands for.
* `Command.Delivered` — the code is at the one place where it belongs.
* `Command.Obstacle` — what keeps a command from delivering.

## Main results

* `Command.compileSource_eq` — a command compiles as the library does, in verbose mode or not.
* `Command.delivers_or_leaves` — a command delivers the code, or it leaves everything as it was.
-/

namespace CoffeeHost.Command

variable (world : Surroundings) (verbose : Bool) (source : String) (literate : Bool)

/-! ### The call of the library -/

/-- The call of the library for a source: what it gives, and the session that it leaves. -/
def Surroundings.libraryCall : Except Compiler.Failed String × Session :=
  compileOnce (.text source) ⟨literate⟩ (Session.new world.collaborators)

theorem compileSource_eq_compileOnce :
    let once := compileOnce (.text source) ⟨literate⟩
      { Session.new world.collaborators with verbose }
    (compileSource world verbose source literate).result = once.1 ∧
      (compileSource world verbose source literate).session = once.2 := by
  simp only [compileSource, compileOnce, SessionM.bind_apply]
  rcases (Compiler.new .plain).compile (.text source) ⟨literate⟩
    { Session.new world.collaborators with verbose } with ⟨⟨compiler, result⟩, compiled⟩
  rcases hrelease : compiler.release compiled with ⟨⟨compiler', released⟩, s⟩
  cases released with
  | error raised => simp [hrelease]
  | ok => simp [hrelease]

/-- A command compiles its source as the library does: with the same result and the same events, in
verbose mode or not. -/
theorem compileSource_eq :
    (compileSource world verbose source literate).result =
        (world.libraryCall source literate).1 ∧
      (compileSource world verbose source literate).session.events =
        (world.libraryCall source literate).2.events := by
  obtain ⟨hresult, hsession⟩ := compileSource_eq_compileOnce world verbose source literate
  obtain ⟨hsame, hleft⟩ := compileOnce_deaf (.text source) ⟨literate⟩
    { Session.new world.collaborators with verbose }
  have hevents := congrArg Session.events hleft
  rw [hresult, hsession]
  exact ⟨hsame, hevents⟩

/-! ### Delivering -/

/-- The code is at the one place where it belongs. If a file is named, the whole file is the code
and the standard output is empty; otherwise the standard output is the code and no file has
changed. -/
inductive Delivered (before : Storage) (output : Option String) (code : String) :
    Transcript → Prop
  | shown {t : Transcript} (output_empty : output = none ∨ output = some "")
      (stdout : t.stdout = code) (storage : t.storage = before) : Delivered before output code t
  | written {t : Transcript} {path : String} (output_path : output = some path)
      (path_ne : path ≠ "") (stdout : t.stdout = "")
      (storage : before.Written path code t.storage) : Delivered before output code t

/-- A command has ended as it should, with some code delivered. -/
structure Completed (before : Storage) (output : Option String) (code : String) (t : Transcript) :
    Prop where
  exitCode : t.exitCode = 0
  escape : t.escape = none
  delivered : Delivered before output code t

/-- A command shows nothing on the standard output, leaves all files as they were, and ends with an
error. -/
structure Abandoned (before : Storage) (t : Transcript) : Prop where
  exitCode : t.exitCode = 1
  stdout : t.stdout = ""
  storage : t.storage = before

/-- What the library makes of the source that a file name stands for. -/
def Surroundings.Gives (world : Surroundings) (file : String) (literate : Bool)
    (result : Except Compiler.Failed String) : Prop :=
  ∃ text name, readSource world file = .ok (text, name) ∧
    (world.libraryCall text (literate || isLiterateFile name)).1 = result

/-- What keeps a command from delivering, and what then ends the program, unless the command itself
reports it. -/
inductive Obstacle (world : Surroundings) (file : String) (literate : Bool)
    (output : Option String) : Option Escape → Prop
  /-- There is no file of that name. -/
  | missing (file_ne : file ≠ "-") (nowhere : world.storage.pathExists file = false) :
      Obstacle world file literate output none
  /-- The source cannot be opened, or is not UTF-8. -/
  | unreadable {e : Storage.TextError} (unread : readSource world file = .error (.unreadable e)) :
      Obstacle world file literate output (some (.text e))
  /-- The compilation fails. -/
  | refused {e : CompilationError} (result : world.Gives file literate (.error (.compilation e))) :
      Obstacle world file literate output none
  /-- Something else is raised during the compilation. -/
  | raised {raised : Raised} (result : world.Gives file literate (.error (.raised raised))) :
      Obstacle world file literate output (some (.raised raised))
  /-- The output file cannot be opened. -/
  | unwritable {path code : String} {e : Storage.TextError}
      (result : world.Gives file literate (.ok code)) (output_path : output = some path)
      (path_ne : path ≠ "") (unopened : world.storage.writeText path code = .error e) :
      Obstacle world file literate output (some (.text e))

variable {world verbose literate} {file : String} {output : Option String}

theorem readSource_notFound (h : readSource world file = .error .notFound) :
    file ≠ "-" ∧ world.storage.pathExists file = false := by
  rw [readSource] at h
  split_ifs at h with hstdin hmissing
  · split at h <;> cases h
  · exact ⟨hstdin, by simpa using hmissing⟩
  · split at h <;> cases h

/-- Handing the code over succeeds and changes one place, or the output file cannot be opened and
nothing changes. -/
theorem deliver_cases (world : Surroundings) (name : String) (output : Option String)
    (code : String) (c : Compilation) :
    let t := deliver world name output code c
    Completed world.storage output code t ∨
      Abandoned world.storage t ∧ ∃ path e, output = some path ∧ path ≠ "" ∧
        world.storage.writeText path code = .error e ∧ t.escape = some (.text e) := by
  rw [deliver]
  cases houtput : output.filter (· ≠ "") with
  | none =>
    have hempty : output = none ∨ output = some "" := by
      cases output with
      | none => exact .inl rfl
      | some path => exact .inr (by simpa [Option.filter] using houtput)
    exact .inl ⟨rfl, rfl, .shown hempty rfl rfl⟩
  | some path =>
    obtain ⟨hpath, hne⟩ := Option.filter_eq_some_iff.mp houtput
    have hne : path ≠ "" := by simpa using hne
    dsimp only
    cases hwrite : world.storage.writeText path code with
    | error e => exact .inr ⟨⟨rfl, rfl, rfl⟩, path, e, hpath, hne, hwrite, rfl⟩
    | ok storage =>
      exact .inl ⟨rfl, rfl, .written hpath hne rfl (Storage.written_of_writeText hwrite)⟩

/-- A command that compiles, whatever it finds: any files, any standard input, any engine. Either it
ends as it should, and the code that the library makes of the source is at exactly one place. Or it
ends with an error, for one of the reasons there are; then nothing is shown on the standard output
and every file is as it was. -/
theorem delivers_or_leaves (world : Surroundings) (verbose : Bool) (file : String)
    (literate : Bool) (output : Option String) :
    let t := perform world (.run ⟨verbose, .compile file literate output⟩)
    (∃ code, world.Gives file literate (.ok code) ∧ Completed world.storage output code t) ∨
      Abandoned world.storage t ∧ Obstacle world file literate output t.escape := by
  rw [perform, runCompile]
  cases hread : readSource world file with
  | error reason =>
    cases reason with
    | notFound =>
      obtain ⟨hfile, hnowhere⟩ := readSource_notFound hread
      exact .inr ⟨⟨rfl, rfl, rfl⟩, .missing hfile hnowhere⟩
    | unreadable e => exact .inr ⟨⟨rfl, rfl, rfl⟩, .unreadable hread⟩
  | ok source =>
    obtain ⟨text, name⟩ := source
    dsimp only
    set c := compileSource world verbose text (literate || isLiterateFile name) with hc
    have hgives : world.Gives file literate c.result :=
      ⟨text, name, hread, (compileSource_eq world verbose text _).1.symm⟩
    cases hresult : c.result with
    | ok code =>
      rw [hresult] at hgives
      rcases deliver_cases world name output code c with hdone | ⟨hleft, hunopened⟩
      · exact .inl ⟨code, hgives, hdone⟩
      · obtain ⟨path, e, houtput, hne, hwrite, hescape⟩ := hunopened
        rw [hescape]
        exact .inr ⟨hleft, .unwritable hgives houtput hne hwrite⟩
    | error failed =>
      rw [hresult] at hgives
      cases failed with
      | compilation e => exact .inr ⟨⟨rfl, rfl, rfl⟩, .refused hgives⟩
      | raised raised => exact .inr ⟨⟨rfl, rfl, rfl⟩, .raised hgives⟩

end CoffeeHost.Command
