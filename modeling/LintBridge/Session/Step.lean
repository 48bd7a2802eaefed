import LintBridge.CommandLine.Run
import LintBridge.Host.Package

/-!
# Steps

What can be done in a session, and what comes back. Objects go by the names that the
session gives them; names of files are seen from the directory of the session.
-/

namespace LintBridge

/-- A step of a session. -/
inductive Step where
  | writeFile (name : String) (bytes : List UInt8) (executable : Bool)
  | makeDirectory (name : String)
  | contains (name : String)
  | setVariables (entries : List (String × String))
  /-- Put a replaying program in the place of the analyzer. -/
  | writeTool (script : Program.Replay)
  | lastRun
  | countTemporary
  | openStore (name : String) (directory? : Option String)
  | get (store key : String)
  | set (store key : String) (value : Value)
  | unset (store key : String)
  | items (store : String)
  | snapshot (store : String) (name? : Option String)
  | fields (snapshot : String)
  | close (store : String)
  /-- Observe a setting. The callback does some steps when it is called for the time
  `actAt`, and fails when it is called for the time `failAt?`. -/
  | observe (store key callback name : String) (steps : List Step) (actAt : Nat)
      (failAt? : Option Nat)
  | observers (store : String)
  | openGroup (name : String)
  | addToGroup (group subscription : String)
  | dispose (name : String)
  | isDisposed (name : String)
  | openEditor (name path : String) (text? : Option String)
  | buffer (editor : String)
  | setText (editor text : String)
  | keepState (editor name : String)
  | state (name : String)
  | line (editor : String) (row : Option Int)
  | lineLength (editor : String) (row : Option Int)
  | tree (editor : String)
  | range (editor : String) (line column : Option Int)
  | extract (editor report : String) (pattern : Pattern) (filePath? : Option String)
      (meanwhile : Selection → Editor → Editor)
  | openProject (name : String) (roots : List String)
  | addRoot (project path : String)
  | split (project path : String)
  | projectDirectory (project? : Option String) (path : String)
  | openLinter (name store : String) (project? : Option String)
      (environment? : Option (List (String × String)))
  | surface (linter : String)
  | command (linter editor : String)
  | lint (linter editor : String)
  | openPackage (name : String) (store? project? directory? : Option String)
  /-- Use the package that all of a host share. -/
  | sharedPackage (name : String)
  | activate (package : String)
  | deactivate (package : String)
  | isActive (package : String)
  | provideLinter (package name : String)
  | packageStore (package name : String)
  | execute (executable : String) (arguments : List String)
      (environment? : Option (List (String × String))) (directory? : Option String)
      (limit? : Option Nat)
  | isInstalled (executable : String)
  | temporaryFile (name text : String) (failing : Bool)
  | commandLine (arguments : List String) (entries : List (String × String))

namespace Step

mutual

/-- The number of steps that give a callback something to do, at any depth. -/
def observations : Step → Nat
  | observe _ _ _ _ steps _ _ => 1 + observationsOf steps
  | _ => 0

/-- The number of such steps among some steps. -/
def observationsOf : List Step → Nat
  | [] => 0
  | step :: steps => step.observations + observationsOf steps

end

end Step

/-- What is known about the last run of the analyzer. -/
structure RunReport where
  run : Run
  target? : Option String
  targetExists : Bool
  temporaryCount : Nat

/-- What comes back from a step. -/
inductive Reply where
  | done
  | truth (value : Bool)
  | count (value : Nat)
  | text (value : String)
  | values (values : List (Setting × String))
  | settings (settings : Settings)
  | closed (directoryExists : Bool)
  | observerCounts (counts : List (Setting × Nat))
  | editor (editor : Editor)
  | buffer (buffer : Buffer)
  | same (value : Bool)
  | range (range : Range)
  | diagnostics (diagnostics : List Diagnostic)
  /-- The roots of a project as they are when the session ends. -/
  | project (number : Nat)
  | roots (roots : List String)
  | split (root? : Option String) (path : String)
  | surface
  | command (command : Command)
  | lastRun (report? : Option RunReport)
  | execution (execution : Execution)
  | timedOut (executable : String)
  | written (path : String) (bytes : List UInt8)
  | exit (exit : CommandLine.Exit)

end LintBridge
