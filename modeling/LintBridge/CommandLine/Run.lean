import LintBridge.CommandLine.Arguments
import LintBridge.Host.Lint
import LintBridge.Json
import LintBridge.Text.Terminal

/-!
# The command line

`lint` prints the diagnostics of a file, and `config` shows or changes settings. Every
call opens the store of the settings directory first.
-/

namespace LintBridge.CommandLine

/-- How a call ends: its code, what it has written, and a fault that was not expected. -/
structure Exit where
  code : Nat
  output : String
  errors : String
  fault? : Option Fault

namespace Exit

/-- A call that has done what it was asked to. -/
def success (output : String) : Exit :=
  ⟨0, Text.dropSequences output, "", none⟩

/-- A call that does not fit its command. -/
def refusal (usage : Usage) (fault : UsageFault) : Exit :=
  ⟨2, "", Text.dropSequences (fault.report usage), none⟩

/-- A call of a group without a command. -/
def bare (usage : Usage) : Exit :=
  ⟨2, "", usage.help, none⟩

/-- A call whose tool has failed. -/
def failure (failure : ToolFailure) : Exit :=
  ⟨1, "", Text.dropSequences s!"ERROR:\n{failure.message}\n", none⟩

/-- A call that has come to an unexpected end. -/
def unexpected (fault : Fault) : Exit :=
  ⟨1, "", "", some fault⟩

end Exit

/-! ## The commands -/

/-- The option for the settings directory. -/
def settingsSwitch : Switch :=
  ⟨["--settings-dir"], some "DIRECTORY",
    "Directory the settings are stored in. Defaults to ~/.linter-pylint."⟩

/-- The option for the roots of the project. -/
def rootSwitch : Switch :=
  ⟨["--project-root", "-p"], some "DIRECTORY",
    "Project root directory. May be given more than once."⟩

/-- The option for diagnostics as JSON. -/
def jsonSwitch : Switch :=
  ⟨["--json"], none, "Print diagnostics as JSON."⟩

/-- Print the diagnostics of a file. -/
def lintUsage : Usage :=
  { words := ["cli", "lint"]
    summary := "Lint FILEPATH and print its diagnostics."
    switches := [rootSwitch, jsonSwitch]
    operands := ["FILEPATH"]
    commands := [] }

/-- Change a setting. -/
def setUsage : Usage :=
  { words := ["cli", "config", "set"]
    summary := "Set KEY to VALUE."
    switches := []
    operands := ["KEY", "VALUE"]
    commands := [] }

/-- Show all settings. -/
def showUsage : Usage :=
  { words := ["cli", "config", "show"]
    summary := "Print every setting and its current value."
    switches := []
    operands := []
    commands := [] }

/-- Restore the default of a setting. -/
def unsetUsage : Usage :=
  { words := ["cli", "config", "unset"]
    summary := "Restore the default value of KEY."
    switches := []
    operands := ["KEY"]
    commands := [] }

/-- The commands for settings. -/
def configUsage : Usage :=
  { words := ["cli", "config"]
    summary := "Show or change settings."
    switches := []
    operands := []
    commands :=
      [("set", setUsage.summary), ("show", showUsage.summary), ("unset", unsetUsage.summary)] }

/-- All commands. -/
def rootUsage : Usage :=
  { words := ["cli"]
    summary := "linter-pylint: pylint diagnostics for a single file."
    switches := [settingsSwitch]
    operands := []
    commands := [("config", configUsage.summary), ("lint", lintUsage.summary)] }

/-! ## Checks -/

/-- What a path is asked to lead to. -/
inductive Wanted where
  | file
  | directory
  | directoryIfAny
  deriving DecidableEq, Repr

/-- Why a path is not what is wanted. -/
def complaint? (wanted : Wanted) (path : String) : Action (Option String) := do
  Host.plain path
  let host ← get
  let shown := Text.quoted path
  return match host.disk.find host.directory path, wanted with
    | .error _, .file => some s!"File {shown} does not exist."
    | .error _, .directory => some s!"Directory {shown} does not exist."
    | .error _, .directoryIfAny => none
    | .ok .directory, .file => some s!"File {shown} is a directory."
    | .ok .directory, _ => none
    | .ok _, .file => none
    | .ok _, _ => some s!"Directory {shown} is a file."

/-- The first complaint about some paths. -/
def firstComplaint? (wanted : Wanted) : List String → Action (Option String)
  | [] => return none
  | path :: paths => do
      match ← complaint? wanted path with
      | some text => return some text
      | none => firstComplaint? wanted paths

/-- Read the arguments of a command and go on, unless they are refused or help is asked
for. -/
def withArguments (usage : Usage) (arguments : List String) (next : Arguments → Action Exit) :
    Action Exit :=
  match Arguments.read usage.allSwitches (!usage.isGroup) arguments with
  | .error fault => return .refusal usage fault
  | .ok given => if given.has helpSwitch then return .success usage.help else next given

/-- A command that a group does not have. A name with a dash in front is taken for an
option. -/
def unknownCommand (usage : Usage) (name : String) (rest : List String) : Action Exit :=
  withArguments usage (name :: rest) fun _ => return .refusal usage (.noSuchCommand name)

/-! ## Running commands -/

/-- The lines that show diagnostics. -/
def diagnosticLines : List Diagnostic → Except Fault (List String)
  | [] => .ok []
  | diagnostic :: diagnostics =>
      match diagnostic.text?, diagnosticLines diagnostics with
      | some text, .ok lines => .ok (text :: lines)
      | none, _ => .error .unplaced
      | _, .error fault => .error fault

/-- What is printed for diagnostics. -/
def printed (asJson : Bool) (diagnostics : List Diagnostic) : Except Fault String :=
  if asJson then .ok ((Json.list (diagnostics.map Json.ofDiagnostic)).render 0 ++ "\n")
  else (diagnosticLines diagnostics).map fun lines => String.join (lines.map (· ++ "\n"))

/-- Lint a file with the settings of a store. -/
def lintFile (store : Nat) (path : String) (roots : List String) (asJson : Bool) : Action Exit := do
  let number ← Host.openEditor path none
  let project ← Host.openProject roots
  match (← get).editors[number]? with
  | none => return .success ""
  | some editor =>
      let lint := do
        let diagnostics ← Host.lint ⟨store, some project, none⟩ number editor
        match printed asJson diagnostics with
        | .ok text => return Exit.success text
        | .error fault => throw fault
      tryCatch lint fun fault =>
        match fault with
        | .tool failure => return .failure failure
        | fault => throw fault

/-- The command `lint`. -/
def runLint (store : Nat) (arguments : List String) : Action Exit :=
  withArguments lintUsage arguments fun given => do
    let roots := given.values rootSwitch
    match ← firstComplaint? .directory roots with
    | some text => return .refusal lintUsage (.invalid rootSwitch.subject text)
    | none =>
        match given.operands with
        | [] => return .refusal lintUsage (.missingOperand "FILEPATH")
        | path :: extra =>
            match ← complaint? .file path with
            | some text => return .refusal lintUsage (.invalid "'FILEPATH'" text)
            | none =>
                if extra = [] then lintFile store path roots (given.has jsonSwitch)
                else return .refusal lintUsage (.extraOperands extra)

/-- The key that a user means by a name. -/
def keyOf (name : String) : String :=
  ((Setting.ofName? name).map Setting.key).getD name

/-- Change a setting; a key or a value that does not fit is refused. -/
def changing (usage : Usage) (change : Action Notice) : Action Exit :=
  tryCatch (do let _ ← change; return .success "") fun fault =>
    match fault with
    | .tool failure => return .refusal usage (.invalid "KEY" failure.message)
    | fault => throw fault

/-- The lines that show all settings of a store. -/
def settingsText (store : Store) (archive : Archive) : String :=
  String.join ((store.items archive).map fun (setting, value) =>
    setting.key ++ " = " ++ Text.quoted value ++ "\n")

/-- Read the operands of a command and go on, unless they are refused. -/
def withOperands (usage : Usage) (arguments : List String) (next : List String → Action Exit) :
    Action Exit :=
  withArguments usage arguments fun given =>
    match Arguments.operandsFor usage.operands given.operands with
    | .error fault => return .refusal usage fault
    | .ok operands => next operands

/-- The commands `config set`, `config show` and `config unset`. -/
def runConfig (store : Nat) (arguments : List String) : Action Exit :=
  if arguments = [] then return .bare configUsage
  else
    withArguments configUsage arguments fun given =>
      match given.operands with
      | [] => return .refusal configUsage .missingCommand
      | "set" :: rest =>
          withOperands setUsage rest fun operands =>
            changing setUsage
              (Host.setSetting store (keyOf (operands.headD "")) (.text (operands.getD 1 "")))
      | "unset" :: rest =>
          withOperands unsetUsage rest fun operands =>
            changing unsetUsage (Host.unsetSetting store (keyOf (operands.headD "")))
      | "show" :: rest =>
          withOperands showUsage rest fun _ => do
            let store ← Host.useStore store
            return .success (settingsText store (← get).exchange.archive)
      | name :: rest => unknownCommand configUsage name rest

/-- The settings directory that is asked for, by an option or by the environment. -/
def askedDirectory? (host : Host) (given : Arguments) : Option String :=
  match (given.values settingsSwitch).getLast? with
  | some path => some path
  | none => (host.environment.get? Settings.directoryVariable).filter (! ·.isEmpty)

/-- Open the store of the settings directory. -/
def openSettings (asked? : Option String) : Action Nat := do
  let host ← get
  let asked := asked?.getD ""
  Host.openStore (if asked.isEmpty then Settings.defaultDirectory host.environment else asked)

/-- Run a command by its name. -/
def runCommand (asked? : Option String) : List String → Action Exit
  | [] => return .refusal rootUsage .missingCommand
  | "lint" :: rest => do runLint (← openSettings asked?) rest
  | "config" :: rest => do runConfig (← openSettings asked?) rest
  | name :: rest => unknownCommand rootUsage name rest

/-- Run a call. -/
def run (arguments : List String) : Action Exit :=
  let call : Action Exit :=
    if arguments = [] then return .bare rootUsage
    else
      withArguments rootUsage arguments fun given => do
        let asked? := askedDirectory? (← get) given
        match ← firstComplaint? .directoryIfAny asked?.toList with
        | some text => return .refusal rootUsage (.invalid settingsSwitch.subject text)
        | none => runCommand asked? given.operands
  tryCatch call fun fault => return .unexpected fault

end LintBridge.CommandLine
