import LintBridge.Session.Step

/-!
# Sessions

A session does one step after the other on a host of its own. A step that fails does
not end it.
-/

namespace LintBridge

/-- What a name in a session stands for. -/
inductive Object where
  | store (number : Nat)
  | snapshot (settings : Settings)
  | subscription (number : Nat)
  | group (number : Nat)
  | editor (number : Nat)
  | state (buffer : Buffer)
  | project (number : Nat)
  | linter (number : Nat)
  | package (number : Nat)

/-- A callback of a session: how often it has been called, and what it does then. -/
structure Behavior where
  name : String
  calls : Nat
  steps : List Step
  actAt : Nat
  failAt? : Option Nat

/-- A session. -/
structure Session where
  host : Host
  /-- The directory of the session. -/
  scratch : String
  objects : List (String × Object)
  behaviors : List Behavior
  /-- The calls of callbacks, with the values that they were called with. -/
  seen : List (String × String)
  /-- The versions of the buffers whose trees have been asked for, by editor. -/
  shownTrees : List (Nat × Nat)
  /-- The linters that packages have provided last, by package name. -/
  provided : List (String × Nat)
  /-- The package that all of the host share, once it is used. -/
  shared? : Option Nat

/-- Something done in a session. -/
abbrev Work := ExceptT Fault (StateM Session)

namespace Session

/-- Do something on the host of a session. -/
def onHost (action : Action α) : Work α :=
  ExceptT.mk fun session =>
    let (result, host) := session.host.perform action
    (result, { session with host })

/-- Give an object a name. -/
def bind (name : String) (object : Object) : Work Unit :=
  modify fun session => { session with objects := (name, object) :: session.objects }

/-- The object of a name, if a function finds it to be of the right kind. -/
def lookup (name : String) (select : Object → Option α) : Work α := do
  match ((← get).objects.lookup name).bind select with
  | some found => return found
  | none => throw (.unknownName name)

/-- The number of a store. -/
def storeNumber (name : String) : Work Nat :=
  lookup name fun object => match object with | .store number => some number | _ => none

/-- The number of a project. -/
def projectNumber (name : String) : Work Nat :=
  lookup name fun object => match object with | .project number => some number | _ => none

/-- The number of a package. -/
def packageNumber (name : String) : Work Nat :=
  lookup name fun object => match object with | .package number => some number | _ => none

/-- The number of a group. -/
def groupNumber (name : String) : Work Nat :=
  lookup name fun object => match object with | .group number => some number | _ => none

/-- The number of a subscription. -/
def subscriptionNumber (name : String) : Work Nat :=
  lookup name fun object => match object with | .subscription number => some number | _ => none

/-- An editor with its number. -/
def editorNamed (name : String) : Work (Nat × Editor) := do
  let number ← lookup name fun object => match object with
    | .editor number => some number
    | _ => none
  match (← get).host.editors[number]? with
  | some editor => return (number, editor)
  | none => throw (.unknownName name)

/-- A linter. -/
def linterNamed (name : String) : Work Linter := do
  let number ← lookup name fun object => match object with
    | .linter number => some number
    | _ => none
  match (← get).host.linters[number]? with
  | some linter => return linter
  | none => throw (.unknownName name)

/-- Replace an editor. -/
def putEditor (number : Nat) (editor : Editor) : Work Unit :=
  modify fun session =>
    { session with host := { session.host with editors := session.host.editors.set number editor } }

/-- A path seen from the directory of the session. -/
def inScratch (session : Session) (name : String) : String :=
  Path.join session.scratch name

/-- The path of the analyzer. -/
def toolPath (session : Session) : String :=
  session.inScratch "tool/pylint"

/-! ## Files -/

/-- Put something at a path, with the directories on the way to it. -/
def place (path : String) (node : Node) : Work Unit := do
  let session ← get
  let host := session.host
  onHost do
    let disk ← Host.orRefuse path (host.disk.makeDirectory host.directory (Path.parent path))
    let place ← Host.orRefuse path (disk.locate host.directory path)
    set { host with disk := disk.put place node }

/-- Variables that shells set for themselves. -/
def shellVariables : List String := ["PWD", "OLDPWD", "SHLVL", "_"]

/-- The number of entries of the directory for temporary directories. -/
def temporaryCount (host : Host) : Nat :=
  match host.disk.locate host.directory host.temporary with
  | .ok place => host.disk.entryCount place
  | .error _ => 0

/-- What is known about the last run of the analyzer. -/
def lastRun (session : Session) : Option RunReport :=
  let host := session.host
  match host.disk.locate host.directory session.toolPath with
  | .error _ => none
  | .ok place =>
      let isLint := fun (run : Run) =>
        run.place = place && run.arguments.head? ≠ some Program.versionArgument
      (host.runs.find? isLint).map fun run =>
        let entries := run.environment.entries.filter fun entry => !shellVariables.contains entry.1
        { run := { run with environment := ⟨entries⟩ }
          target? := run.target?.map fun bytes => String.ofList (Text.decodeLossy bytes)
          targetExists := run.arguments.getLast?.any (host.disk.contains host.directory)
          temporaryCount := temporaryCount host }

/-! ## Callbacks -/

/-- Note that a callback is called, and how often it has been called by then. -/
def countCall (name value : String) : Work (Option Behavior) :=
  modifyGet fun session =>
    let behaviors := session.behaviors.map fun behavior =>
      if behavior.name = name then { behavior with calls := behavior.calls + 1 } else behavior
    (behaviors.find? (·.name = name),
      { session with behaviors, seen := session.seen ++ [(name, value)] })

/-- Call a callback with a value. -/
def call (perform : Step → Work Reply) (value : String) (callback : Callback) : Work Unit := do
  match callback with
  | .reporter _ setting => onHost (Host.report setting value)
  | .named name =>
      match ← countCall name value with
      | none => pure ()
      | some behavior =>
          if behavior.calls = behavior.actAt then
            behavior.steps.forM fun step => do let _ ← perform step
          if some behavior.calls = behavior.failAt? then throw (.callback name)

/-- Call everyone that a notice is for, in order. -/
def deliver (perform : Step → Work Reply) (notice : Notice) : Work Unit :=
  notice.callbacks.forM (call perform notice.value)

/-- Give a callback something to do, unless it has been given something. -/
def addBehavior (name : String) (steps : List Step) (actAt : Nat) (failAt? : Option Nat) :
    Work Unit :=
  modify fun session =>
    if session.behaviors.any (·.name = name) then session
    else { session with behaviors := session.behaviors ++ [⟨name, 0, steps, actAt, failAt?⟩] }

/-! ## Steps -/

/-- Use an exchange to undo subscriptions. -/
def undo (act : Exchange → Bool × Exchange) : Work Reply := do
  onHost (Host.withExchange act)
  return .done

/-- The range that a point of an editor expands to. -/
def rangeOf (name : String) (line column : Option Int) : Work Reply := do
  let (number, editor) ← editorNamed name
  let (result, editor) := editor.rangeAt Syntax.parseRows line column
  putEditor number editor
  match result with
  | .ok range => return .range range
  | .error fault => throw (.range fault)

/-- Extract the diagnostics of a report for an editor. -/
def extractFor (name report : String) (pattern : Pattern) (filePath? : Option String)
    (meanwhile : Selection → Editor → Editor) : Work Reply := do
  let (number, editor) ← editorNamed name
  match Extraction.run Syntax.parseRows pattern filePath? meanwhile editor report with
  | .error names => throw (.missingGroups names)
  | .ok extraction =>
      putEditor number extraction.editor
      onHost (Host.noteAll extraction.log)
      return .diagnostics extraction.diagnostics

/-- Whether the syntax tree of an editor is the one that was last asked for. -/
def showTree (name : String) : Work Reply := do
  let (number, editor) ← editorNamed name
  let (_, editor) := editor.syntaxTree Syntax.parseRows
  putEditor number editor
  let version := editor.buffer.version
  modifyGet fun session =>
    (.same (session.shownTrees.lookup number = some version),
      { session with shownTrees := (number, version) :: session.shownTrees })

/-- Call the command line from the directory of the session. Variables are set for this
call only. -/
def runCommandLine (arguments : List String) (entries : List (String × String)) :
    Work Reply := do
  let before := (← get).host.environment
  modify fun session =>
    { session with
      host :=
        { session.host with
          environment := before.update entries
          directory := session.scratch } }
  let exit ← onHost (CommandLine.run arguments)
  modify fun session =>
    { session with host := { session.host with environment := before } }
  return .exit exit

/-- Use the package that all of a host share. -/
def sharedPackage : Work Nat := do
  match (← get).shared? with
  | some number => return number
  | none =>
      let number ← onHost (Host.openPackage none none none)
      modify fun session => { session with shared? := some number }
      return number

/-- The number of something that may have no name. -/
def optional (find : String → Work Nat) : Option String → Work (Option Nat)
  | none => return none
  | some name => return some (← find name)

/-- An environment that is given by its variables. -/
def environmentOf (entries : List (String × String)) : Environment :=
  Environment.empty.update entries

/-- Do a step that calls no callbacks. -/
def act : Step → Work Reply
  | .writeFile name bytes executable => do
      place ((← get).inScratch name) (.file bytes executable)
      return .done
  | .makeDirectory name => do
      let session ← get
      let path := session.inScratch name
      let host := session.host
      onHost do
        let disk ← Host.orRefuse path (host.disk.makeDirectory host.directory path)
        set { host with disk }
      return .done
  | .contains name => do
      let session ← get
      return .truth (session.host.disk.contains session.host.directory (session.inScratch name))
  | .setVariables entries => do
      modify fun session =>
        { session with
          host := { session.host with environment := session.host.environment.update entries } }
      return .done
  | .writeTool script => do
      place (← get).toolPath (.program (Program.replay script))
      return .done
  | .lastRun => return .lastRun (← get).lastRun
  | .countTemporary => return .count (temporaryCount (← get).host)
  | .openStore name directory? => do
      let session ← get
      let number ← onHost (Host.openStore (directory?.map session.inScratch))
      bind name (.store number)
      return .done
  | .get store key => do
      let number ← storeNumber store
      return .text (← onHost do Host.valueOf number (← Host.settingOf key))
  | .items store => do
      let number ← storeNumber store
      let store ← onHost (Host.useStore number)
      return .values (store.items (← get).host.exchange.archive)
  | .snapshot store name? => do
      let number ← storeNumber store
      let store ← onHost (Host.useStore number)
      let settings := store.snapshot (← get).host.exchange.archive
      name?.forM fun name => bind name (.snapshot settings)
      return .settings settings
  | .fields snapshot => do
      let settings ← lookup snapshot fun object => match object with
        | .snapshot settings => some settings
        | _ => none
      return .settings settings
  | .close store => do
      let number ← storeNumber store
      return .closed (← onHost (Host.closeStore number))
  | .observers store => do
      let number ← storeNumber store
      match (← get).host.exchange.store? number with
      | some store => return .observerCounts (Exchange.observerCounts store)
      | none => throw (.unknownName store)
  | .openGroup name => do
      let number ← onHost (modifyGet fun host =>
        let (number, exchange) := host.exchange.openGroup
        (number, { host with exchange }))
      bind name (.group number)
      return .done
  | .addToGroup group subscription => do
      let group ← groupNumber group
      let subscription ← subscriptionNumber subscription
      undo (·.addToGroup group subscription)
  | .dispose name => do
      let object ← lookup name some
      match object with
      | .subscription number => undo (·.dispose number)
      | .group number => undo (·.disposeGroup number)
      | _ => throw (.unknownName name)
  | .isDisposed name => do
      let object ← lookup name some
      let exchange := (← get).host.exchange
      match object with
      | .subscription number => return .truth (exchange.isDisposed number)
      | .group number => return .truth ((exchange.groups[number]?.map (·.disposed)).getD false)
      | _ => throw (.unknownName name)
  | .openEditor name path text? => do
      let number ← onHost (Host.openEditor path text?)
      bind name (.editor number)
      let (_, editor) ← editorNamed name
      return .text editor.path
  | .buffer editor => return .editor (← editorNamed editor).2
  | .setText name text => do
      let (number, editor) ← editorNamed name
      putEditor number (editor.setText text)
      return .done
  | .keepState editor name => do
      let (_, editor) ← editorNamed editor
      bind name (.state editor.buffer)
      return .done
  | .state name => do
      let buffer ← lookup name fun object => match object with
        | .state buffer => some buffer
        | _ => none
      return .buffer buffer
  | .line name row => do
      let (_, editor) ← editorNamed name
      match editor.buffer.line row with
      | .ok line => return .text (String.ofList line)
      | .error missing => throw (.row missing)
  | .lineLength name row => do
      let (_, editor) ← editorNamed name
      match editor.buffer.line row with
      | .ok line => return .count line.length
      | .error missing => throw (.row missing)
  | .tree editor => showTree editor
  | .range editor line column => rangeOf editor line column
  | .extract editor report pattern filePath? meanwhile =>
      extractFor editor report pattern filePath? meanwhile
  | .openProject name roots => do
      let number ← onHost (Host.openProject roots)
      bind name (.project number)
      return .project number
  | .addRoot project path => do
      let number ← projectNumber project
      onHost (Host.addRoot number path)
      return .project number
  | .split name path => do
      let number ← projectNumber name
      let host := (← get).host
      match host.projects[number]? with
      | some project =>
          let (root?, rest) := project.split host.directory path
          return .split root? rest
      | none => throw (.unknownName name)
  | .projectDirectory project? path => do
      let number? ← optional projectNumber project?
      let host := (← get).host
      return .text (Project.directoryOf (number?.bind (host.projects[·]?)) host.directory path)
  | .openLinter name store project? environment? => do
      let store ← storeNumber store
      let project? ← optional projectNumber project?
      let linter : Linter := ⟨store, project?, environment?.map environmentOf⟩
      let number ← onHost (modifyGet fun host =>
        (host.linters.length, { host with linters := host.linters ++ [linter] }))
      bind name (.linter number)
      return .done
  | .surface linter => do
      let _ ← linterNamed linter
      return .surface
  | .command linter editor => do
      let linter ← linterNamed linter
      let (_, editor) ← editorNamed editor
      return .command (← onHost (Host.commandFor linter editor.path))
  | .lint linter editor => do
      let linter ← linterNamed linter
      let (number, editor) ← editorNamed editor
      return .diagnostics (← onHost (Host.lint linter number editor))
  | .openPackage name store? project? directory? => do
      let session ← get
      let store? ← optional storeNumber store?
      let project? ← optional projectNumber project?
      let number ←
        onHost (Host.openPackage store? project? (directory?.map session.inScratch))
      bind name (.package number)
      return .done
  | .sharedPackage name => do
      bind name (.package (← sharedPackage))
      return .done
  | .activate package => do
      let number ← packageNumber package
      onHost (Host.activate number)
      return .done
  | .deactivate package => do
      let number ← packageNumber package
      onHost (Host.deactivate number)
      return .done
  | .isActive package => do
      let number ← packageNumber package
      let package ← onHost (Host.packageAt number)
      return .truth package.subscriptions?.isSome
  | .provideLinter package name => do
      let number ← packageNumber package
      let linter ← onHost (Host.provideLinter number)
      bind name (.linter linter)
      modifyGet fun session =>
        (.same (session.provided.lookup package = some linter),
          { session with provided := (package, linter) :: session.provided })
  | .packageStore package name => do
      let number ← packageNumber package
      let store ← onHost (Host.packageStore number)
      bind name (.store store)
      match (← get).host.exchange.store? store with
      | some store => return .text store.directory
      | none => throw (.unknownName name)
  | .execute executable arguments environment? directory? limit? => do
      match ← onHost (Host.execute executable arguments (environment?.map environmentOf) directory?
          limit?) with
      | some execution => return .execution execution
      | none => return .timedOut executable
  | .isInstalled executable => return .truth (← onHost (Host.isInstalled executable))
  | .temporaryFile name text failing =>
      onHost (Host.withTemporaryFile name text fun path => do
        if failing then throw .body
        let host ← get
        return .written path (← Host.orRefuse path (host.disk.read host.directory path)))
  | .commandLine arguments entries => runCommandLine arguments entries
  | .set _ _ _ | .unset _ _ | .observe _ _ _ _ _ _ _ => return .done

/-- Do a step. The number bounds how deep callbacks that make changes may be called by
changes. -/
def perform : Nat → Step → Work Reply
  | 0, _ => return .done
  | bound + 1, step => do
      match step with
      | .set store key value =>
          let number ← storeNumber store
          deliver (perform bound) (← onHost (Host.setSetting number key value))
          return .done
      | .unset store key =>
          let number ← storeNumber store
          deliver (perform bound) (← onHost (Host.unsetSetting number key))
          return .done
      | .observe store key name subscription steps actAt failAt? =>
          let number ← storeNumber store
          addBehavior name steps actAt failAt?
          let setting ← onHost (Host.settingOf key)
          let value ← onHost (Host.register number setting (.named name))
          call (perform bound) value (.named name)
          bind subscription (.subscription (← onHost (Host.subscribe number setting (.named name))))
          return .done
      | step => act step

/-! ## Running a session -/

/-- How a step ended, which callbacks were called, and what was logged. -/
structure Entry where
  result : Except Fault Reply
  seen : List (String × String)
  log : List LogRecord

/-- Do a step and take down what happens. -/
def advance (bound : Nat) (session : Session) (step : Step) : Entry × Session :=
  let (result, session) := (ExceptT.run (perform bound step)).run session
  (⟨result, session.seen, session.host.log⟩,
    { session with seen := [], host := { session.host with log := [] } })

/-- Do steps one after the other. -/
def runFrom (bound : Nat) (session : Session) : List Step → List Entry × Session
  | [] => ([], session)
  | step :: steps =>
      let (entry, session) := session.advance bound step
      let (entries, session) := runFrom bound session steps
      (entry :: entries, session)

/-- The environment that a session starts in. -/
def firstEnvironment (scratch : String) : Environment :=
  ⟨[("PATH", "/usr/bin:/bin"), ("TZ", "UTC"), ("HOME", Path.join scratch "home")]⟩

/-- The disk that a session starts with, apart from its own directory. -/
def firstDisk : Disk :=
  let place := fun (path : String) => Path.components path
  let programs := ["/bin", "/usr/bin"].flatMap fun directory =>
    Program.standard.map fun (name, run) => (place (Path.join directory name), Node.program run)
  let directories := ["/bin", "/usr", "/usr/bin", "/etc", "/tmp", "/home"].map fun path =>
    (place path, Node.directory)
  ⟨(place "/etc/passwd", .file [] false) :: programs ++ directories⟩

/-- The directories that the directory of a session starts with. -/
def firstDirectories : List String := ["tmp", "tool", "home"]

/-- Make the directories of a session; one that cannot be made is left out. -/
def withDirectories (disk : Disk) (paths : List String) : Disk :=
  paths.foldl (fun disk path => (disk.makeDirectory "/" path).toOption.getD disk) disk

/-- A session as it starts. -/
def start (scratch : String) : Session :=
  { host :=
      { disk := withDirectories firstDisk (firstDirectories.map (Path.join scratch))
        environment := firstEnvironment scratch
        directory := "/"
        temporary := Path.join scratch "tmp"
        nextTemporary := 0
        exchange := .empty
        editors := []
        projects := []
        linters := []
        packages := []
        reporters := 0
        runs := []
        log := [] }
    scratch
    objects := []
    behaviors := []
    seen := []
    shownTrees := []
    provided := []
    shared? := none }

/-- A reply with the roots of a project filled in. -/
def settle (host : Host) : Reply → Reply
  | .project number => .roots ((host.projects[number]?.map (·.roots)).getD [])
  | reply => reply

/-- Run a session in a directory of its own. -/
def run (scratch : String) (steps : List Step) : List Entry :=
  let (entries, session) := runFrom (Step.observationsOf steps + 1) (start scratch) steps
  entries.map fun entry => { entry with result := entry.result.map (settle session.host) }

end Session

end LintBridge
