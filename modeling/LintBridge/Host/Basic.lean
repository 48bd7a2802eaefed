import LintBridge.Editor
import LintBridge.Host.Launch
import LintBridge.Log
import LintBridge.Project
import LintBridge.Settings.Exchange

/-!
# Hosts

A host is the machine that the linter runs on and what is open on it. Actions change
a host and may fail; a failed action keeps the changes that it has made.
-/

namespace LintBridge

/-- A program that has been run: where it is, how it was called, where it was run, and
the file named by its last argument. -/
structure Run where
  place : Place
  arguments : List String
  environment : Environment
  directory : String
  target? : Option (List UInt8)
  deriving DecidableEq, Repr

/-- A linter reads the settings of a store and belongs to a project, if any. Without an
environment of its own it uses that of the host. -/
structure Linter where
  store : Nat
  project? : Option Nat
  environment? : Option Environment
  deriving DecidableEq, Repr

/-- A package offers a linter to an editor. It uses the store that it is given, or opens
one of its own when it needs one. -/
structure Package where
  store? : Option Nat
  ownsStore : Bool
  directory? : Option String
  project? : Option Nat
  /-- The subscriptions of an active package. -/
  subscriptions? : Option Nat
  linter? : Option Nat
  deriving DecidableEq, Repr

/-- A host. Stores, editors and the like are referred to by number. -/
structure Host where
  disk : Disk
  environment : Environment
  /-- The working directory. -/
  directory : String
  /-- Where temporary directories are made. -/
  temporary : String
  /-- The number of the next temporary directory. -/
  nextTemporary : Nat
  exchange : Exchange
  editors : List Editor
  projects : List Project
  linters : List Linter
  packages : List Package
  /-- The number of reporters that have been made. -/
  reporters : Nat
  /-- The programs that have been run, the last one first. -/
  runs : List Run
  log : List LogRecord

/-- Something done on a host. -/
abbrev Action := ExceptT Fault (StateM Host)

namespace Host

/-- Do something, and see how it ends. -/
def perform (host : Host) (action : Action α) : Except Fault α × Host :=
  (ExceptT.run action).run host

/-- Write to the log. -/
def note (level : Level) (text : String) : Action Unit :=
  modify fun host => { host with log := host.log ++ [⟨level, text⟩] }

/-- Write several records to the log. -/
def noteAll (records : List LogRecord) : Action Unit :=
  modify fun host => { host with log := host.log ++ records }

/-- Do something, and something else however that ends. -/
def afterwards (action : Action α) (last : Host → Host) : Action α :=
  ExceptT.mk fun host =>
    let (result, host) := host.perform action
    (result, last host)

/-- The answer of a question to the disk about a path. -/
def orRefuse (path : String) : Except PathFault α → Action α
  | .ok answer => pure answer
  | .error fault => throw (.refused fault path)

/-- A text that is given to the system. -/
def plain (text : String) : Action Unit :=
  if Invocation.isPlain text then pure () else throw .nullCharacter

/-! ## Temporary directories -/

/-- The end of the name of a temporary directory; there is one for every number. -/
def temporarySuffix (number : Nat) : String :=
  let digits := Nat.toDigits 10 number
  String.ofList (List.replicate (8 - digits.length) '0' ++ digits)

/-- The path of a temporary directory with a number. -/
def temporaryPath (host : Host) (label : String) (number : Nat) : String :=
  Path.join host.temporary (label ++ temporarySuffix number)

/-- The first number from a number on, for whose path there is nothing on the disk. -/
def freeNumber (host : Host) (label : String) : Nat → Nat → Nat
  | 0, number => number
  | bound + 1, number =>
      if host.disk.contains host.directory (host.temporaryPath label number) then
        freeNumber host label bound (number + 1)
      else number

/-- Make a new temporary directory. -/
def makeTemporary (label : String) : Action String := do
  let host ← get
  let number := host.freeNumber label host.disk.entries.length host.nextTemporary
  let path := host.temporaryPath label number
  let disk ← orRefuse path (host.disk.addDirectory host.directory path)
  set { host with disk, nextTemporary := number + 1 }
  return path

/-- Remove a directory with everything in it. -/
def removeTree (path : String) (host : Host) : Host :=
  match host.disk.locate host.directory path with
  | .ok place => { host with disk := host.disk.removeTree place }
  | .error _ => host

/-- What the names of temporary directories begin with. -/
def temporaryLabel : String := "linter_pylint_"

/-- Write a file. -/
def writeFile (path : String) (bytes : List UInt8) : Action Unit := do
  plain path
  let host ← get
  let disk ← orRefuse path (host.disk.write host.directory path bytes false)
  set { host with disk }

/-- Work with a file in a temporary directory of its own, which is removed at the end. -/
def withTemporaryFile (name text : String) (body : String → Action α) : Action α := do
  let directory ← makeTemporary temporaryLabel
  let path := Path.tidy (Path.join directory name)
  afterwards
    (do
      writeFile path (Text.encode text.toList)
      body path)
    (removeTree directory)

/-- The text of a file, every line break of which is a line feed. -/
def readText (path : String) : Action String := do
  plain path
  let host ← get
  let bytes ← orRefuse path (host.disk.read host.directory path)
  match Text.decode bytes with
  | .ok text => return String.ofList (Text.unifyBreaks text)
  | .error error => throw (.undecodable error)

/-! ## Programs -/

/-- The path of a place. -/
def pathOf (place : Place) : String :=
  String.ofList ('/' :: Text.joinLines ['/'] place)

/-- Start a program and wait for it to end. -/
def start (invocation : Invocation) : Action Outcome := do
  let host ← get
  match invocation.resolve host.disk host.directory with
  | .error fault => throw fault
  | .ok (place, run, directory) =>
      let directory :=
        match host.disk.locate host.directory directory with
        | .ok place => pathOf place
        | .error _ => directory
      let target? :=
        invocation.arguments.getLast?.bind fun path => (host.disk.read directory path).toOption
      let record : Run :=
        ⟨place, invocation.arguments, invocation.environment, directory, target?⟩
      set { host with runs := record :: host.runs }
      return run
        { name := invocation.executable
          arguments := invocation.arguments
          environment := invocation.environment
          directory
          read := host.disk.read directory }

/-- Run a program and log how it is called and how it ends. With a limit on its time,
in microseconds, there is no answer if it takes longer. -/
def execute (executable : String) (arguments : List String) (environment? : Option Environment)
    (directory? : Option String) (limit? : Option Nat) : Action (Option Execution) := do
  let shown := directory?.getD "None"
  note .debug ("Running " ++ Text.quotedList (executable :: arguments) ++ s!" in {shown}")
  let host ← get
  let invocation : Invocation :=
    ⟨executable, arguments, environment?.getD host.environment, directory?⟩
  let outcome ← tryCatch (start invocation) fun fault =>
    match fault with
    | .refused fault path => throw (.tool (.launch executable (fault.message path)))
    | fault => throw fault
  if limit?.any (· ≤ outcome.duration) then return none
  let execution := Execution.ofOutcome outcome
  note .debug s!"`{executable}` exited with code {execution.code}"
  return some execution

/-- Whether a program can be run and answers a question about its version. -/
def isInstalled (executable : String) : Action Bool := do
  let host ← get
  let invocation : Invocation :=
    ⟨executable, [Program.versionArgument], host.environment, some host.directory⟩
  tryCatch (do return (← start invocation).code = 0) fun fault =>
    match fault with
    | .refused _ _ => return false
    | fault => throw fault

/-! ## Editors and projects -/

/-- Open a file in an editor. Without a text, the file is read. -/
def openEditor (path : String) (text? : Option String) : Action Nat := do
  let host ← get
  let path := Path.absolute host.directory path
  let text ←
    match text? with
    | some text => pure text
    | none => readText path
  modifyGet fun host =>
    (host.editors.length, { host with editors := host.editors ++ [.ofText path text] })

/-- Open a project. -/
def openProject (roots : List String) : Action Nat :=
  modifyGet fun host =>
    (host.projects.length,
      { host with projects := host.projects ++ [.ofRoots host.directory roots] })

/-- Add a root to a project. -/
def addRoot (number : Nat) (path : String) : Action Unit :=
  modify fun host =>
    { host with projects := host.projects.modify number (·.addRoot host.directory path) }

end Host

end LintBridge
