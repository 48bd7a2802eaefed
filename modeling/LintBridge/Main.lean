import LintBridge.CommandLine.Run
import LintBridge.Settings.Record

/-!
# The program

Calls the command line on what the machine has at the paths that the arguments name. The
report of the analyzer is read from the standard input, and settings are kept in a file
of their directory.
-/

namespace LintBridge.Machine

/-- The name of the file that holds the settings of a directory. -/
def recordName : String := "settings"

/-- The path of the file that holds the settings of a directory. -/
def recordPath (directory : String) : String :=
  Path.join directory recordName

/-- The variables that have a say in a call. -/
def variableNames : List String :=
  [Settings.homeVariable, Settings.directoryVariable, Invocation.searchVariable,
    Command.modulePath]

/-- The paths that an argument may name: itself, or the value that is attached to an
option. -/
def pathsIn (argument : String) : List String :=
  let text := argument.toList
  let attached := [(text.dropWhile (· ≠ '=')).drop 1, text.drop 2]
  argument :: ((attached.filter (· ≠ [])).map String.ofList)

/-- A disk with something at a path, and the directories on the way to it. -/
def putAt (disk : Disk) (path : String) (node : Node) : Disk :=
  ((disk.makeDirectory "/" (Path.parent path)).toOption.getD disk).put (Path.components path) node

/-- The paths at which the analyzer is looked for. -/
def analyzerPaths (environment : Environment) (directory executable : String) : List String :=
  (Invocation.candidates ⟨executable, [], environment, none⟩).map (Path.absolute directory)

/-- A host that a call runs on. -/
def host (disk : Disk) (environment : Environment) (directory : String) (archive : Archive) :
    Host :=
  { disk := (disk.makeDirectory "/" directory).toOption.getD disk
    environment
    directory
    temporary := "/tmp"
    nextTemporary := 0
    exchange := { Exchange.empty with archive }
    editors := []
    projects := []
    linters := []
    packages := []
    reporters := 0
    runs := []
    log := [] }

/-- The directories that every machine has. -/
def firstDisk : Disk :=
  (Disk.mk []).put (Path.components "/tmp") .directory

/-- The variables of the process that have a say in a call. -/
def readEnvironment : IO Environment := do
  let entries ← variableNames.mapM fun name => return (name, ← IO.getEnv name)
  return ⟨entries.filterMap fun (name, value?) => value?.map fun value => (name, value)⟩

/-- The bytes of a file, if it can be read. -/
def readBytes? (path : String) : IO (Option (List UInt8)) := do
  match ← (IO.FS.readBinFile path).toBaseIO with
  | .ok bytes => return some bytes.toList
  | .error _ => return none

/-- What the machine has at a path, if anything. -/
def readNode? (path : String) : IO (Option Node) := do
  if ← ((← IO.currentDir) / path).isDir then return some .directory
  else return (← readBytes? path).map fun bytes => .file bytes false

/-- The disk with what the machine has at some paths. -/
def readDisk (disk : Disk) (paths : List String) : IO Disk :=
  paths.foldlM
    (fun disk path => return ((← readNode? path).map (putAt disk path)).getD disk) disk

/-- The settings that are kept in some directories. -/
def readArchive (directories : List String) : IO Archive :=
  directories.foldlM
    (fun archive directory => do
      match ← readBytes? (recordPath directory) with
      | some bytes =>
          return Settings.restore archive directory (String.ofList (Text.decodeLossy bytes))
      | none => return archive)
    .empty

/-- Keep the settings of the stores that a call has opened. -/
def writeArchive (exchange : Exchange) : IO Unit :=
  exchange.stores.forM fun store => do
    IO.FS.createDirAll store.location
    IO.FS.writeFile (recordPath store.location) (Settings.record exchange.archive store.location)

/-- The report of the analyzer, if a call lints. -/
def readReport (arguments : List String) : IO (List UInt8) := do
  if arguments.contains "lint" then return (← readBytes? "/dev/stdin").getD [] else return []

/-- Run a call: its code. -/
def run (arguments : List String) : IO UInt32 := do
  let environment ← readEnvironment
  let directory := (← IO.currentDir).toString
  let named := Settings.defaultDirectory environment :: arguments.flatMap pathsIn
  let paths := named.map (Path.absolute directory)
  let archive ← readArchive paths
  let report ← readReport arguments
  let executables := Setting.executable.default ::
    (archive.entries.filter (·.1.2 = .executable)).map (·.2)
  let places := executables.flatMap (analyzerPaths environment directory)
  let analyzer := Program.replay ⟨report, [], 0, 0⟩
  let disk ← readDisk firstDisk paths
  let disk := places.foldl (fun disk path => putAt disk path (.program analyzer)) disk
  let (result, host) :=
    (host disk environment directory archive).perform (CommandLine.run arguments)
  match result with
  | .error fault =>
      IO.eprintln fault.message
      return 1
  | .ok exit =>
      IO.print exit.output
      IO.eprint exit.errors
      exit.fault?.forM fun fault => IO.eprintln fault.message
      writeArchive host.exchange
      return exit.code.toUInt32

end LintBridge.Machine

/-- Run the call that the arguments make, and end with its code. -/
def main (arguments : List String) : IO UInt32 :=
  LintBridge.Machine.run arguments
