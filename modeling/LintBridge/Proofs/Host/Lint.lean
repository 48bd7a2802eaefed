import LintBridge.Proofs.Host.Action
import LintBridge.Proofs.Host.Settings
import LintBridge.Proofs.Text.Lines
import LintBridge.Proofs.Text.Utf8

/-!
# What the analyzer reads

A lint hands the analyzer a file with the text of the editor. For an editor that was
opened on a file, that is the text of the file with all its line breaks written as line
feeds. So the analyzer sees the bytes of the file only if there is no carriage return
among them.
-/

namespace LintBridge.Host

variable {α : Type} {host : Host}

/-! ## Programs that are handed a file -/

/-- Starting a program adds one run, in which the program finds the file of its last
argument as it is on the disk. If no program is started, nothing changes. -/
theorem start_cases (host : Host) (invocation : Invocation) :
    (∃ fault, host.perform (start invocation) = (.error fault, host)) ∨
      ∃ outcome run directory,
        host.perform (start invocation) = (.ok outcome, { host with runs := run :: host.runs }) ∧
          run.arguments = invocation.arguments ∧
          run.target? = invocation.arguments.getLast?.bind fun path =>
            (host.disk.read directory path).toOption := by
  rw [start, perform_bind_of_ok (perform_get host)]
  cases invocation.resolve host.disk host.directory with
  | error fault => exact .inl ⟨fault, rfl⟩
  | ok found => exact .inr ⟨_, _, _, rfl, rfl, rfl⟩

/-- Executing a program without a limit on its time adds one run if the program is started,
and otherwise fails. -/
theorem execute_cases (host : Host) (executable : String) (arguments : List String)
    (environment? : Option Environment) (directory? : Option String) :
    (∃ fault log, host.perform (execute executable arguments environment? directory? none) =
        (.error fault, { host with log })) ∨
      ∃ execution run log directory,
        host.perform (execute executable arguments environment? directory? none) =
            (.ok (some execution), { host with runs := run :: host.runs, log }) ∧
          run.arguments = arguments ∧
          run.target? = arguments.getLast?.bind fun path =>
            (host.disk.read directory path).toOption := by
  rw [execute]
  dsimp only
  rw [perform_bind_of_ok (perform_note _ _ _), perform_bind_of_ok (perform_get _), perform_bind,
    perform_tryCatch]
  rcases start_cases { host with log := host.log ++ [_] } _ with
    ⟨fault, failed⟩ | ⟨outcome, run, directory, started, called, target⟩
  · rw [failed]
    cases fault <;> exact .inl ⟨_, _, rfl⟩
  · rw [started]
    exact .inr ⟨_, _, _, _, rfl, called, target⟩

/-- An action runs one program, which finds some bytes in the file of its last argument.
If it runs none, it fails. -/
def HandsOver (host : Host) (bytes : List UInt8) (action : Action α) : Prop :=
  (∃ run, (host.perform action).2.runs = run :: host.runs ∧ run.target? = some bytes) ∨
    (host.perform action).2.runs = host.runs ∧ ∃ fault, (host.perform action).1 = .error fault

theorem HandsOver.of_error {bytes : List UInt8} {action : Action α} {fault : Fault}
    {after : Host} (failed : host.perform action = (.error fault, after))
    (runs : after.runs = host.runs) : host.HandsOver bytes action :=
  .inr ⟨by rw [failed, runs], fault, by rw [failed]⟩

/-- An action that leaves the runs alone may come first. -/
theorem handsOver_bind {β : Type} {bytes : List UInt8} {first : Action α} {next : α → Action β}
    (kept : (host.perform first).2.runs = host.runs)
    (rest : ∀ answer middle, host.perform first = (.ok answer, middle) →
      middle.HandsOver bytes (next answer)) :
    host.HandsOver bytes (first >>= next) := by
  cases ran : host.perform first with
  | mk result middle =>
      rw [ran] at kept
      dsimp only at kept
      cases result with
      | error fault => exact .of_error (perform_bind_of_error ran) kept
      | ok answer =>
          have after := rest answer middle ran
          rw [HandsOver, kept] at after
          rw [HandsOver, perform_bind_of_ok ran]
          exact after

/-- An action that leaves the runs alone may come last. -/
theorem HandsOver.bind {β : Type} {bytes : List UInt8} {action : Action α}
    {next : α → Action β} (hands : host.HandsOver bytes action)
    (kept : ∀ answer (ended : Host), (ended.perform (next answer)).2.runs = ended.runs) :
    host.HandsOver bytes (action >>= next) := by
  cases ran : host.perform action with
  | mk result middle =>
      rw [HandsOver, ran] at hands
      cases result with
      | error fault =>
          rw [HandsOver, perform_bind_of_error ran]
          exact hands.imp_right fun same => ⟨same.1, fault, rfl⟩
      | ok answer =>
          rw [HandsOver, perform_bind_of_ok ran, kept]
          rcases hands with handed | ⟨-, fault, failed⟩
          · exact .inl handed
          · cases failed

theorem handsOver_execute {bytes : List UInt8} {path : String} (executable : String)
    (arguments : List String) (environment? : Option Environment) (directory? : Option String)
    (there : ∀ directory, host.disk.read directory path = .ok bytes) :
    host.HandsOver bytes
      (execute executable (arguments ++ [path]) environment? directory? none) := by
  rcases execute_cases host executable (arguments ++ [path]) environment? directory? with
    ⟨fault, log, failed⟩ | ⟨execution, run, log, directory, ran, -, target⟩
  · exact .of_error failed rfl
  · rw [HandsOver, ran]
    refine .inl ⟨run, rfl, ?_⟩
    rw [target, List.getLast?_concat, Option.bind_some, there]
    rfl

/-! ## Temporary files -/

theorem makeTemporary_cases (host : Host) (label : String) :
    (∃ fault, host.perform (makeTemporary label) = (.error fault, host)) ∨
      ∃ path number disk, host.perform (makeTemporary label) =
          (.ok path, { host with disk, nextTemporary := number + 1 }) ∧
        path = host.temporaryPath label number ∧
        host.disk.addDirectory host.directory path = .ok disk := by
  rw [makeTemporary, perform_bind_of_ok (perform_get host)]
  dsimp only
  generalize host.freeNumber label _ _ = number
  cases added : host.disk.addDirectory host.directory (host.temporaryPath label number) with
  | error fault => exact .inl ⟨_, rfl⟩
  | ok disk => exact .inr ⟨_, number, disk, rfl, rfl, added⟩

theorem writeFile_cases (host : Host) (path : String) (bytes : List UInt8) :
    (∃ fault, host.perform (writeFile path bytes) = (.error fault, host)) ∨
      ∃ disk, host.disk.write host.directory path bytes false = .ok disk ∧
        host.perform (writeFile path bytes) = (.ok ⟨⟩, { host with disk }) := by
  rw [writeFile, plain]
  by_cases isPlain : Invocation.isPlain path = true
  · rw [if_pos isPlain, perform_bind_of_ok (perform_pure _ _),
      perform_bind_of_ok (perform_get host)]
    cases written : host.disk.write host.directory path bytes false with
    | error fault => exact .inl ⟨_, rfl⟩
    | ok disk => exact .inr ⟨disk, rfl, rfl⟩
  · rw [if_neg isPlain]
    exact .inl ⟨_, rfl⟩

theorem runs_removeTree (path : String) (host : Host) :
    (removeTree path host).runs = host.runs := by
  rw [removeTree]
  split <;> rfl

/-- Work with a temporary file either does not get a directory, or does not get to write the
file, or is done with the file; a directory is removed at the end. -/
theorem withTemporaryFile_cases (host : Host) (name text : String) (body : String → Action α) :
    (∃ fault, host.perform (makeTemporary temporaryLabel) = (.error fault, host) ∧
        host.perform (withTemporaryFile name text body) = (.error fault, host)) ∨
      ∃ directory number disk,
        let ready := { host with disk, nextTemporary := number + 1 }
        let path := Path.tidy (Path.join directory name)
        directory = host.temporaryPath temporaryLabel number ∧
          host.perform (makeTemporary temporaryLabel) = (.ok directory, ready) ∧
          host.disk.addDirectory host.directory directory = .ok disk ∧
          ((∃ fault, host.perform (withTemporaryFile name text body) =
              (.error fault, removeTree directory ready)) ∨
            ∃ larger, disk.write host.directory path (Text.encode text.toList) false =
                .ok larger ∧
              host.perform (withTemporaryFile name text body) =
                ((Host.perform { ready with disk := larger } (body path)).1,
                  removeTree directory
                    (Host.perform { ready with disk := larger } (body path)).2)) := by
  rw [withTemporaryFile]
  rcases makeTemporary_cases host temporaryLabel with
    ⟨fault, failed⟩ | ⟨directory, number, disk, made, isTemporary, added⟩
  · exact .inl ⟨fault, failed, perform_bind_of_error failed⟩
  refine .inr ⟨directory, number, disk, isTemporary, made, added, ?_⟩
  rw [perform_bind_of_ok made]
  dsimp only
  rw [perform_afterwards]
  rcases writeFile_cases { host with disk, nextTemporary := number + 1 }
      (Path.tidy (Path.join directory name)) (Text.encode text.toList) with
    ⟨fault, failed⟩ | ⟨larger, written, wrote⟩
  · rw [perform_bind_of_error failed]
    exact .inl ⟨fault, rfl⟩
  · rw [perform_bind_of_ok wrote]
    exact .inr ⟨larger, written, rfl⟩

/-- Work with a temporary file hands over the bytes of the text if the work hands over the
bytes of the file. -/
theorem handsOver_withTemporaryFile {name text : String} {body : String → Action α}
    (absolute : Path.isAbsolute host.temporary = true)
    (works : ∀ (ready : Host) path,
      (∀ directory, ready.disk.read directory path = .ok (Text.encode text.toList)) →
        ready.HandsOver (Text.encode text.toList) (body path)) :
    host.HandsOver (Text.encode text.toList) (withTemporaryFile name text body) := by
  rcases withTemporaryFile_cases host name text body with
    ⟨fault, -, failed⟩ |
      ⟨_, number, disk, rfl, -, -, ⟨fault, failed⟩ | ⟨larger, written, worked⟩⟩
  · exact .of_error failed rfl
  · exact .of_error failed (runs_removeTree _ _)
  · rw [HandsOver, worked, runs_removeTree]
    apply works
    intro other
    apply Disk.read_of_write _ written
    apply Path.isAbsolute_tidy
    apply Path.isAbsolute_join
    exact Path.isAbsolute_join absolute _

/-! ## Lints -/

/-- The store that a command is made from is open from then on, and nothing else changes. -/
theorem commandFor_cases (host : Host) (linter : Linter) (path : String) :
    (∃ fault, host.perform (commandFor linter path) = (.error fault, host)) ∨
      ∃ command store exchange, host.exchange.store? linter.store = some store ∧
        (host.perform (useStore linter.store)).1 = .ok { store with isOpen := true } ∧
        exchange = host.exchange.putStore linter.store { store with isOpen := true } ∧
        host.perform (commandFor linter path) = (.ok command, { host with exchange }) := by
  rw [commandFor, perform_bind]
  rcases useStore_cases host linter.store with ⟨store, there, used⟩ | ⟨failed, -⟩
  · rw [used]
    exact .inr ⟨_, store, _, there, rfl, rfl, rfl⟩
  · rw [failed]
    exact .inl ⟨_, rfl⟩

theorem commandFor_eq (host : Host) (linter : Linter) (path : String) :
    ∃ result exchange,
      host.perform (commandFor linter path) = (result, { host with exchange }) := by
  rcases commandFor_cases host linter path with
    ⟨fault, failed⟩ | ⟨command, store, exchange, -, -, -, built⟩
  · exact ⟨_, _, failed⟩
  · exact ⟨_, _, built⟩

theorem runs_collect (host : Host) (number : Nat) (editor : Editor) (execution : Execution) :
    (host.perform (collect number editor execution)).2.runs = host.runs := by
  rw [collect]
  cases Linter.judge Syntax.parseRows editor execution with
  | error fault => rfl
  | ok extraction => rfl

/-- A lint hands the text of the editor to the analyzer, if it gets to run the analyzer. -/
theorem handsOver_lint (absolute : Path.isAbsolute host.temporary = true) (linter : Linter)
    (number : Nat) (editor : Editor) :
    host.HandsOver (Text.encode editor.buffer.text.toList) (lint linter number editor) := by
  rw [lint]
  rcases commandFor_eq host linter editor.path with ⟨result, exchange, built⟩
  apply handsOver_bind
  · rw [built]
  intro command ready ran
  cases built.symm.trans ran
  apply HandsOver.bind
  · apply handsOver_withTemporaryFile
    · exact absolute
    · intro ready path there
      apply HandsOver.bind
      · exact handsOver_execute _ _ _ _ there
      · intro execution? ended
        cases execution? with
        | none => rfl
        | some execution =>
            dsimp only
            exact runs_collect ended number editor execution
  · intro diagnostics ended
    rfl

/-! ## Opened files -/

/-- An editor that is opened on a file shows its text with all breaks as line feeds. -/
theorem openEditor_of_read {path : String} {text : List Char}
    (plain : Invocation.isPlain (Path.absolute host.directory path) = true)
    (there : host.disk.read host.directory (Path.absolute host.directory path) =
      .ok (Text.encode text)) :
    host.perform (openEditor path none) =
      (.ok host.editors.length,
        { host with
          editors := host.editors ++
            [.ofText (Path.absolute host.directory path)
              (String.ofList (Text.unifyBreaks text))] }) := by
  have shown : host.perform (readText (Path.absolute host.directory path)) =
      (.ok (String.ofList (Text.unifyBreaks text)), host) := by
    rw [readText, Host.plain, if_pos plain, perform_bind_of_ok (perform_pure _ _),
      perform_bind_of_ok (perform_get host), there, orRefuse,
      perform_bind_of_ok (perform_pure host _), Text.decode_encode]
    rfl
  rw [openEditor, perform_bind_of_ok (perform_get host)]
  exact perform_bind_of_ok shown

/-- Whenever an editor that has been opened on a well-formed file is linted, the analyzer
is handed the text of the file with all breaks as line feeds. These are the bytes of the
file exactly when there is no carriage return in it. -/
theorem lint_of_opened_file (host : Host) (path : String) (text : List Char)
    (plain : Invocation.isPlain (Path.absolute host.directory path) = true)
    (there : host.disk.read host.directory (Path.absolute host.directory path) =
      .ok (Text.encode text)) :
    let editor := Editor.ofText (Path.absolute host.directory path)
      (String.ofList (Text.unifyBreaks text))
    let copy := Text.encode (Text.unifyBreaks text)
    host.perform (openEditor path none) =
        (.ok host.editors.length, { host with editors := host.editors ++ [editor] }) ∧
      (∀ (later : Host) linter, Path.isAbsolute later.temporary = true →
        later.HandsOver copy (lint linter host.editors.length editor)) ∧
      (copy = Text.encode text ↔ '\r' ∉ text) := by
  intro editor copy
  refine ⟨openEditor_of_read plain there, ?_, ?_⟩
  · intro later linter absolute
    have handed := handsOver_lint absolute linter host.editors.length editor
    have shown : editor.buffer.text.toList = Text.unifyBreaks text := String.toList_ofList
    rwa [shown] at handed
  · rw [Text.encode_inj, Text.unifyBreaks_eq_self_iff]

/-- A host with a file that holds a carriage return, and with what it takes to lint it. -/
def returnHost : Host :=
  { disk := ⟨[(["mod.py".toList], .file (Text.encode ['x', '\r', '\n']) false),
      (["pylint".toList], .program (Program.replay ⟨[], [], 0, 0⟩)),
      (["tmp".toList], .directory)]⟩
    environment := ⟨[("PATH", "/")]⟩
    directory := "/"
    temporary := "/tmp"
    nextTemporary := 0
    exchange := ⟨.empty, [.opened "/tmp" "/tmp" false], [], []⟩
    editors := []
    projects := []
    linters := []
    packages := []
    reporters := 0
    runs := []
    log := [] }

/-- The analyzer is handed a file without the carriage return, which has other bytes. -/
theorem lint_of_opened_file_return :
    Invocation.isPlain (Path.absolute returnHost.directory "mod.py") = true ∧
      returnHost.disk.read returnHost.directory (Path.absolute returnHost.directory "mod.py") =
        .ok (Text.encode ['x', '\r', '\n']) ∧
      Path.isAbsolute returnHost.temporary = true ∧
      (∀ linter, returnHost.HandsOver (Text.encode ['x', '\n'])
        (lint linter returnHost.editors.length
          (.ofText (Path.absolute returnHost.directory "mod.py") "x\n"))) ∧
      Text.encode ['x', '\n'] ≠ Text.encode ['x', '\r', '\n'] := by
  have plain : Invocation.isPlain (Path.absolute returnHost.directory "mod.py") = true := by
    decide +kernel
  have absolute : Path.isAbsolute returnHost.temporary = true := by
    decide +kernel
  have bytes : (returnHost.disk.read returnHost.directory
      (Path.absolute returnHost.directory "mod.py")).toOption =
        some (Text.encode ['x', '\r', '\n']) := by
    decide +kernel
  cases there : returnHost.disk.read returnHost.directory
      (Path.absolute returnHost.directory "mod.py") with
  | error fault =>
      rw [there] at bytes
      cases bytes
  | ok found =>
      rw [there] at bytes
      cases bytes
      rcases lint_of_opened_file returnHost "mod.py" ['x', '\r', '\n'] plain there with
        ⟨-, handed, same⟩
      refine ⟨plain, rfl, absolute, fun linter => handed returnHost linter absolute, ?_⟩
      exact fun equal => same.mp equal (by decide)

/-- The analyzer does not always read the bytes of the file that an editor was opened on. -/
theorem exists_lint_of_other_bytes :
    ∃ (editor : Editor) (opened : Host),
      returnHost.perform (openEditor "mod.py" none) = (.ok 0, opened) ∧
        opened.editors = [editor] ∧
        (opened.disk.read "/" "/mod.py").toOption = some (Text.encode ['x', '\r', '\n']) ∧
        (opened.perform (lint ⟨0, none, none⟩ 0 editor)).2.runs.map (·.target?) =
          [some (Text.encode ['x', '\n'])] := by
  refine ⟨_, _, rfl, rfl, ?_, ?_⟩
  · decide +kernel
  · decide +kernel

end LintBridge.Host
