import CoffeeHost.Proofs.Delivery
import CoffeeHost.Proofs.LiterateNames
import CoffeeHost.Proofs.Operations
import Mathlib
/-!
# Compiling a file and calling the library

The command that compiles a file does what a call of the library with the text of the file does.
The engine sees the same, code that the call returns is delivered, and an error that it raises is
shown. The text is that of the file with its line breaks as line feeds, or that of the standard
input as it is. It is literate if this is asked for or if the file has the name of a literate
source.

## Main definitions

* `Command.Surroundings.Supplies` — the text that a file name stands for.
* `Command.Reflects` — what is left of a call of the library when a command has made it.
* `Collaborators.Prepares` — nothing fails in a start; `Session.started` is the session after it.

## Main results

* `Command.readSource_eq` — the source of a command.
* `Command.libraryCall_of_prepares` — a call of the library whose start succeeds.
* `Command.compiles_as_library` — a command does what the call of the library does.
-/

namespace CoffeeHost

/-- Some text can be written to a path. -/
def Storage.Writable (storage : Storage) (path : String) : Prop :=
  ∃ text storage', storage.writeText path text = .ok storage'

/-! ### A start in which nothing fails -/

/-- Nothing fails when the first compiler of a session starts: the first interpreter can be created,
and the scripts can be read and executed. -/
structure Collaborators.Prepares (c : Collaborators) (library helper : String) : Prop where
  create : c.create 0 = none
  load : ∀ n, c.load n = none
  library : c.read 0 Resource.library = .ok library
  helper : c.read 1 Resource.helper = .ok helper

/-- The session after a start in which nothing fails. -/
def Session.started (c : Collaborators) (library helper : String) : Session :=
  { Session.new c with
    created := 1, loaded := 2, read := 2, requested := 1
    events := [.request, .handOut 1, .create 1 true, .read Resource.library,
      .load 1 Resource.library library true, .read Resource.helper,
      .load 1 Resource.helper helper true] }

/-- A first start in which nothing fails. -/
theorem Compiler.start_of_prepares {c : Collaborators} {library helper : String}
    (h : c.Prepares library helper) :
    (Compiler.new .plain).start (Session.new c) =
      ((⟨.plain, .initialized, some ⟨1, .initialized 1, none⟩, none⟩, .ok ()),
        Session.started c library helper) := by
  have hobtain : Factory.plain.obtain (Session.new c) = (.ok ⟨1, .uninitialized, none⟩,
      { Session.new c with requested := 1, events := [.request, .handOut 1] }) := rfl
  have hprepare : prepare .plain (Session.new c) =
      ((some ⟨1, .initialized 1, none⟩, .ok ()), Session.started c library helper) := by
    rw [prepare_of_ok hobtain, Resource.loadOrder, Lease.loadAll_cons,
      Handle.loadResource_uninitialized_ok _ h.create, Handle.loadResource_initialized,
      Handle.execute_done h.library (h.load 0)]
    dsimp only
    rw [Lease.loadAll_cons, Handle.loadResource_initialized,
      Handle.execute_done h.helper (h.load 1)]
    simp [Lease.loadAll, Session.create, Session.load, Session.readResource, Session.say,
      Session.after, Session.new, Session.started, h.create, h.load]
  rw [start_uninitialized rfl hprepare]
  rfl

namespace Command

/-- The text that a file name stands for, and the name under which it is reported. A dash stands for
the standard input, whose bytes are those of the text. Any other name stands for an existing file,
and the text has line feeds for the line breaks of the file. -/
inductive Surroundings.Supplies (world : Surroundings) : (file name text : String) → Prop
  | stdin {text : String} (bytes : world.stdin = text.toUTF8.data.toList) :
      Supplies world "-" "<stdin>" text
  | file {file raw : String} (file_ne : file ≠ "-")
      (there : world.storage.pathExists file = true)
      (bytes : world.storage.readBytes file = .ok raw.toUTF8.data.toList) :
      Supplies world file file (String.ofList (Text.normalizeBreaks raw.toList))

/-- What a command leaves of a call of the library that it has made. -/
structure Reflects (call : Except Compiler.Failed String × Session) (before : Storage)
    (output : Option String) (name : String) (t : Transcript) : Prop where
  /-- The engine has seen the same. -/
  events : t.events = call.2.events
  /-- The code that the call returns is delivered, and nothing else is. -/
  code_iff : ∀ code, Completed before output code t ↔ call.1 = .ok code
  /-- If the call raises an error for a failed compilation, its text is shown, with the name of the
  source. -/
  failure : ∀ e, call.1 = .error (.compilation e) → t.exitCode = 1 ∧ t.escape = none ∧
    ∃ messages messages', t.stderr = messages ++
      ("Error: Compilation of '" ++ name ++ "' failed:\n" ++ e.report ++ "\n") ++ messages'
  /-- Anything else that the call raises ends the program. -/
  raised : ∀ raised, call.1 = .error (.raised raised) → t.escape = some (.raised raised)

variable {world : Surroundings} {file name text : String} {output : Option String}

/-! ### The source -/

/-- The source of a command is the text that its file name stands for. -/
theorem readSource_eq (h : world.Supplies file name text) :
    readSource world file = .ok (text, name) := by
  cases h with
  | stdin hbytes =>
    rw [readSource, if_pos rfl, hbytes, Text.decodeUtf8_encode]
    simp only [String.ofList_toList]
  | @file _ raw hne hthere hbytes =>
    have hnull : file.contains '\x00' = false := by
      rw [Storage.pathExists, Bool.and_eq_true] at hthere
      simpa using hthere.1
    have hread : world.storage.readText file =
        .ok (String.ofList (Text.normalizeBreaks raw.toList)) := by
      rw [Storage.readText, hnull, if_neg (by simp), hbytes]
      dsimp only
      rw [Storage.textOfBytes_encode]
      rfl
    rw [readSource, if_neg hne, hthere, hread]
    rfl

/-- The standard input is not named like a literate source, whether as a file or in reports. -/
theorem Surroundings.Supplies.isLiterateFile_iff (h : world.Supplies file name text) :
    isLiterateFile name = true ↔ LiterateName file := by
  rw [← Command.isLiterateFile_iff file]
  cases h with
  | stdin => decide +kernel
  | file => rfl

/-! ### The call -/

/-- A call of the library whose start succeeds. The engine evaluates the call of the helper script
with the text of the source, and the outcome is what its reaction means. -/
theorem libraryCall_of_prepares {library helper : String}
    (h : world.collaborators.Prepares library helper) (text : String) (literate : Bool) :
    let call := CompileCall.text (.text text) ⟨literate⟩ CompileCall.helperName
    (world.libraryCall text literate).1 =
        Compiler.unwrap (Compiler.verdict (.text text) (world.engine.evaluate 0 call)) ∧
      (world.libraryCall text literate).2.events =
        (Session.started world.collaborators library helper).events ++
          [.evaluate 1 call, .giveBack 1 (some 1)] := by
  intro call
  obtain ⟨s, hlogged, hcompile⟩ := Compiler.tryCompile_started (Compiler.start_of_prepares h)
    ⟨rfl, rfl⟩ (.text text) ⟨literate⟩
  simp only [Surroundings.libraryCall, compileOnce, Compiler.compile, Compiler.release,
    Lease.giveBack_succeeds, SessionM.bind_apply, SessionM.pure_apply, hcompile]
  refine ⟨rfl, ?_⟩
  simp [Session.after, hlogged.events, Handle.initialized, call]

/-! ### The command -/

theorem path_eq_empty {path : String} (hempty : output = none ∨ output = some "")
    (hpath : output = some path) : path = "" := by
  rcases hempty with rfl | rfl
  · cases hpath
  · exact (Option.some.inj hpath).symm

/-- Only one code can be delivered. -/
theorem Completed.unique {before : Storage} {code code' : String} {t : Transcript}
    (h : Completed before output code t) (h' : Completed before output code' t) :
    code = code' := by
  cases h.delivered with
  | shown hempty hshown =>
    cases h'.delivered with
    | shown _ hshown' => exact hshown.symm.trans hshown'
    | written hpath hne => exact absurd (path_eq_empty hempty hpath) hne
  | written hpath hne _ hwritten =>
    cases h'.delivered with
    | shown hempty => exact absurd (path_eq_empty hempty hpath) hne
    | written hpath' _ _ hwritten' =>
      obtain rfl := Option.some.inj (hpath.symm.trans hpath')
      have hbytes := Except.ok.inj (hwritten.contents.symm.trans hwritten'.contents)
      exact String.toByteArray_inj.mp (ByteArray.ext (Array.toList_inj.mp hbytes))

theorem not_completed {before : Storage} {code : String} {t : Transcript} (h : t.exitCode = 1) :
    ¬ Completed before output code t :=
  fun hdone => absurd (h.symm.trans hdone.exitCode) (by decide)

/-- If the output file can be opened, the code is delivered. -/
theorem completed_deliver (hwritable : ∀ path, output = some path → path ≠ "" →
    world.storage.Writable path) (name code : String) (c : Compilation) :
    Completed world.storage output code (deliver world name output code c) := by
  rcases deliver_cases world name output code c with hdone | ⟨-, path, e, houtput, hne, hwrite, -⟩
  · exact hdone
  · obtain ⟨text, storage, hopened⟩ := hwritable path houtput hne
    rw [Storage.writeText_error hwrite text] at hopened
    cases hopened

theorem deliver_events (name code : String) (c : Compilation) :
    (deliver world name output code c).events = c.session.events := by
  rw [deliver]
  split
  · rfl
  · split <;> rfl

/-- What a command leaves of the call that it makes when it has read a source. -/
theorem runCompile_reflects (verbose literate : Bool)
    (hread : readSource world file = .ok (text, name))
    (hwritable : ∀ path, output = some path → path ≠ "" → world.storage.Writable path) :
    Reflects (world.libraryCall text (literate || isLiterateFile name)) world.storage output name
      (runCompile world verbose file literate output) := by
  obtain ⟨hresult, hevents⟩ :=
    compileSource_eq world verbose text (literate || isLiterateFile name)
  rw [runCompile, hread]
  dsimp only
  set c := compileSource world verbose text (literate || isLiterateFile name)
  set call := world.libraryCall text (literate || isLiterateFile name)
  cases hcall : c.result with
  | ok code =>
    rw [hcall] at hresult
    have hdone := completed_deliver hwritable name code c
    refine ⟨?_, fun code' => ?_, fun e h => ?_, fun raised h => ?_⟩
    · rw [← hevents]
      exact deliver_events name code c
    · rw [← hresult, Except.ok.injEq]
      exact ⟨fun hdone' => hdone.unique hdone', fun hsame => hsame ▸ hdone⟩
    · cases hresult.trans h
    · cases hresult.trans h
  | error failed =>
    rw [hcall] at hresult
    cases failed with
    | compilation e =>
      refine ⟨hevents, fun code' => ?_, fun e' h => ?_, fun raised h => ?_⟩
      · exact iff_of_false (not_completed rfl) (by simp [← hresult])
      · obtain rfl : e = e' := by simpa using hresult.trans h
        exact ⟨rfl, rfl, c.messagesBefore, c.messagesAfter, rfl⟩
      · simp [← hresult] at h
    | raised raised =>
      refine ⟨hevents, fun code' => ?_, fun e' h => ?_, fun raised' h => ?_⟩
      · exact iff_of_false (not_completed rfl) (by simp [← hresult])
      · simp [← hresult] at h
      · obtain rfl : raised = raised' := by simpa using hresult.trans h
        rfl

/-- A command that compiles, whatever its options and however the engine behaves. If its source is
there and is UTF-8, and its output file can be opened if there is one, it does what the call of the
library does with the text of the source: of the standard input as it is, of a file with line feeds
for its line breaks. Without a file of the name, it ends with an error before the engine has seen
anything. -/
theorem compiles_as_library (world : Surroundings) (verbose : Bool) (file : String)
    (literate : Bool) (output : Option String) :
    let t := perform world (.run ⟨verbose, .compile file literate output⟩)
    (∀ name text : String, world.Supplies file name text →
      (∀ path, output = some path → path ≠ "" → world.storage.Writable path) →
      ∃ isLiterate : Bool, (isLiterate = true ↔ literate = true ∨ LiterateName file) ∧
        Reflects (world.libraryCall text isLiterate) world.storage output name t) ∧
    (file ≠ "-" → world.storage.pathExists file = false →
      t.exitCode = 1 ∧ t.escape = none ∧ t.events = []) := by
  refine ⟨fun name text hsupplies hwritable => ?_, fun hfile hnowhere => ?_⟩
  · refine ⟨literate || isLiterateFile name, ?_,
      runCompile_reflects verbose literate (readSource_eq hsupplies) hwritable⟩
    rw [Bool.or_eq_true, hsupplies.isLiterateFile_iff]
  · have hread : readSource world file = .error .notFound := by
      rw [readSource, if_neg hfile, hnowhere]
      rfl
    rw [perform, runCompile, hread]
    exact ⟨rfl, rfl, rfl⟩

/-- A literate source of one line, and an engine whose interpreters cannot be created. -/
def oneLine : Surroundings where
  installation := ⟨"", "", none⟩
  storage := ⟨.directory [("a.LitCoffee", .file "x\r\n".toUTF8.data.toList)], []⟩
  home := "/"
  stdin := []
  engine :=
    ⟨fun _ => some (.engineError "out of memory"), fun _ => none, fun _ _ => .ok .null,
      fun _ _ => .ok ""⟩

/-- The same line in the standard input, with empty scripts and an engine that compiles. -/
def pipedLine : Surroundings where
  installation := ⟨"", "", some "/c"⟩
  storage := ⟨.directory [("c", .file []), ("csc_helper.js", .file [])], []⟩
  home := "/"
  stdin := "x\r\n".toUTF8.data.toList
  engine :=
    ⟨fun _ => none, fun _ => none, fun _ _ => .ok (.text "\x7b\"compiledCode\": \"y\"\x7d"),
      fun _ _ => .ok ""⟩

/-- The scripts of `pipedLine` are there. -/
theorem pipedLine_prepares : pipedLine.collaborators.Prepares "" "" := by
  have hlibrary : pipedLine.storage.readText "/c" = .ok "" := by cbv
  have hhelper : pipedLine.storage.readText "/csc_helper.js" = .ok "" := by cbv
  have hpath : pipedLine.installation.resourcePath Resource.library = "/c" := rfl
  have hpath' : pipedLine.installation.resourcePath Resource.helper = "/csc_helper.js" := by cbv
  refine ⟨rfl, fun _ => rfl, ?_, ?_⟩
  · simp only [Surroundings.collaborators, Resource.read, hpath, hlibrary]
  · simp only [Surroundings.collaborators, Resource.read, hpath', hhelper]

/-- A failing engine is reported for a literate file, and a piped line is compiled with the line
break that it has. -/
theorem failing_engine_is_reported :
    let command (world : Surroundings) (file : String) (output : Option String) :=
      perform world (.run ⟨false, .compile file false output⟩)
    let error := CompilationError.of (.fault (Handle.creationFault "out of memory"))
    ((command oneLine "a.LitCoffee" (some "a.js")).events =
        [.request, .handOut 1, .create 1 false, .giveBack 1 none] ∧
      ∃ messages messages', (command oneLine "a.LitCoffee" (some "a.js")).stderr = messages ++
        ("Error: Compilation of '" ++ "a.LitCoffee" ++ "' failed:\n" ++ error.report ++ "\n") ++
          messages') ∧
    (.evaluate 1
          "coffeeScriptHelper.compile(\"x\\r\\n\", \x7b\"bare\":true,\"literate\":false\x7d);" ∈
        (command pipedLine "-" none).events ∧
      Delivered pipedLine.storage none "y" (command pipedLine "-" none)) ∧
    (command oneLine "b.coffee" (some "a.js")).exitCode = 1 := by
  intro command error
  refine ⟨?file, ?stdin, ?missing⟩
  case file =>
    have hsource : oneLine.Supplies "a.LitCoffee" "a.LitCoffee"
        (String.ofList (Text.normalizeBreaks "x\r\n".toList)) :=
      .file (by decide) (by cbv) (by cbv)
    have hopens : ∀ path, some "a.js" = some path → path ≠ "" →
        oneLine.storage.Writable path := by
      rintro path ⟨⟩ -
      exact ⟨"", _, by cbv⟩
    have hliterate : LiterateName "a.LitCoffee" :=
      (isLiterateFile_iff "a.LitCoffee").mp (by decide +kernel)
    have htext : String.ofList (Text.normalizeBreaks "x\r\n".toList) = "x\n" := by cbv
    have hcall : (oneLine.libraryCall "x\n" true).1 = .error (.compilation error) := by cbv
    have hevents : (oneLine.libraryCall "x\n" true).2.events =
        [.request, .handOut 1, .create 1 false, .giveBack 1 none] := by cbv
    rw [htext] at hsource
    have hthere := (compiles_as_library oneLine false "a.LitCoffee" false (some "a.js")).1
    obtain ⟨isLiterate, hiff, hreflects⟩ := hthere "a.LitCoffee" "x\n" hsource hopens
    obtain rfl : isLiterate = true := hiff.mpr (.inr hliterate)
    exact ⟨hreflects.events.trans hevents, (hreflects.failure _ hcall).2.2⟩
  case stdin =>
    have hplain : ¬ LiterateName "-" := fun h =>
      absurd ((isLiterateFile_iff "-").mpr h) (by decide +kernel)
    have hthere := (compiles_as_library pipedLine false "-" false none).1
    obtain ⟨isLiterate, hiff, hreflects⟩ := hthere "<stdin>" "x\r\n" (.stdin rfl) (by simp)
    obtain rfl : isLiterate = false := by simpa [hplain] using hiff
    obtain ⟨hresult, hevents⟩ := libraryCall_of_prepares pipedLine_prepares "x\r\n" false
    have hexpression : CompileCall.text (.text "x\r\n") ⟨false⟩ CompileCall.helperName =
        "coffeeScriptHelper.compile(\"x\\r\\n\", \x7b\"bare\":true,\"literate\":false\x7d);" := by
      cbv
    have hverdict : Compiler.verdict (.text "x\r\n")
        (.ok (.text "\x7b\"compiledCode\": \"y\"\x7d")) = .ok (.ok "y") := by cbv
    have hcode : (pipedLine.libraryCall "x\r\n" false).1 = .ok "y" :=
      hresult.trans (congrArg Compiler.unwrap hverdict)
    refine ⟨?_, ((hreflects.code_iff "y").mpr hcode).delivered⟩
    rw [hreflects.events, hevents, hexpression]
    simp
  case missing =>
    have hmissing : oneLine.storage.pathExists "b.coffee" = false := by cbv
    have hnowhere := (compiles_as_library oneLine false "b.coffee" false (some "a.js")).2
    exact (hnowhere (by decide) hmissing).1

end Command

end CoffeeHost
