import LintBridge.Host.Program
import LintBridge.Text.Lines

/-!
# Launching programs

How a program is found and started, and what a finished one leaves. A name without a
slash is looked for in the directories of the child's search path.
-/

namespace LintBridge

/-- What to start: a program, its arguments, its environment and its directory. -/
structure Invocation where
  executable : String
  arguments : List String
  environment : Environment
  /-- The directory to change to, if any. -/
  directory? : Option String
  deriving DecidableEq, Repr

namespace Invocation

/-- The variable with the directories that programs are looked for in. -/
def searchVariable : String := "PATH"

/-- Where programs are looked for without that variable. -/
def defaultSearchPath : String := "/bin:/usr/bin"

/-- The directories that programs are looked for in. -/
def searchDirectories (environment : Environment) : List String :=
  (Text.splitAtChar ':' ((environment.get? searchVariable).getD defaultSearchPath).toList).map
    String.ofList

/-- The paths to try, in order. -/
def candidates (invocation : Invocation) : List String :=
  if invocation.executable.toList.contains '/' then [invocation.executable]
  else (searchDirectories invocation.environment).map (Path.join · invocation.executable)

/-- The interpreter that the first line of a script names, with an argument. -/
def interpreter? (bytes : List UInt8) : Option (String × List String) :=
  match Text.decodeLossy (bytes.take 256) with
  | '#' :: '!' :: rest =>
      let isSpace := fun c => c = ' ' || c = '\t'
      let line := (rest.takeWhile (· ≠ '\n')).dropWhile isSpace
      let name := line.takeWhile fun c => !isSpace c
      let argument := ((line.drop name.length).dropWhile isSpace).reverse.dropWhile isSpace
      if name = [] then none
      else some (String.ofList name,
        if argument = [] then [] else [String.ofList argument.reverse])
  | _ => none

/-- The program at a path, and its place. A script is run by its interpreter; the
number bounds the scripts that are interpreters of each other. -/
def program? (disk : Disk) (directory : String) : Nat → String → Except PathFault (Place × Program)
  | 0, _ => .error .notExecutable
  | bound + 1, path =>
      match disk.locate directory path with
      | .error fault => .error fault
      | .ok place =>
          match disk.node? place with
          | none => .error .missing
          | some .directory => .error .denied
          | some (.program run) => .ok (place, run)
          | some (.file _ false) => .error .denied
          | some (.file bytes true) =>
              match interpreter? bytes with
              | none => .error .notExecutable
              | some (name, arguments) =>
                  match program? disk directory bound name with
                  | .error fault => .error fault
                  | .ok (_, run) =>
                      .ok (place, fun call =>
                        run { call with name, arguments := arguments ++ path :: call.arguments })

/-- Whether a failure to start a program at one path is remembered while other paths
are tried. -/
def isRemembered (fault : PathFault) : Bool :=
  fault ≠ .missing && fault ≠ .notDirectory

/-- Try paths in order. If none of them leads to a program, the reason is the first one
that is remembered, or else the last one. -/
def firstProgram (disk : Disk) (directory : String) (remembered : Option PathFault) :
    List String → Except PathFault (Place × Program)
  | [] => .error (remembered.getD .missing)
  | path :: paths =>
      match program? disk directory 4 path with
      | .ok found => .ok found
      | .error fault =>
          let remembered := match remembered with
            | some earlier => if isRemembered earlier then some earlier else some fault
            | none => some fault
          firstProgram disk directory remembered paths

/-- The texts that are given to the system. -/
def texts (invocation : Invocation) : List String :=
  invocation.executable :: invocation.arguments ++ invocation.directory?.toList
    ++ invocation.environment.entries.flatMap fun entry => [entry.1, entry.2]

/-- Whether a text can be given to the system. -/
def isPlain (text : String) : Bool :=
  !text.toList.contains '\x00'

/-- Why an invocation cannot be given to the system. -/
def malformed? (invocation : Invocation) : Option Fault :=
  if invocation.environment.names.any (·.toList.contains '=') then some .variableName
  else if !invocation.texts.all isPlain then some .nullCharacter
  else none

/-- The program to start, its place, and the directory to start it in, seen from a
directory. -/
def resolve (disk : Disk) (directory : String) (invocation : Invocation) :
    Except Fault (Place × Program × String) :=
  match invocation.malformed? with
  | some fault => .error fault
  | none =>
      let target := (invocation.directory?.map (Path.join directory)).getD directory
      let entered : Except PathFault Unit :=
        match invocation.directory? with
        | none => .ok ()
        | some path =>
            match disk.find directory path with
            | .error fault => .error fault
            | .ok .directory => .ok ()
            | .ok _ => .error .notDirectory
      match entered with
      | .error fault => .error (.refused fault (invocation.directory?.getD ""))
      | .ok () =>
          match firstProgram disk target none invocation.candidates with
          | .error fault => .error (.refused fault invocation.executable)
          | .ok (place, run) => .ok (place, run, target)

end Invocation

/-- What a finished program leaves, as text. -/
structure Execution where
  code : Int
  output : String
  errors : String
  deriving DecidableEq, Repr

/-- The text of some output: ill-formed bytes are replaced, and every line break is a
line feed. -/
def Outcome.text (bytes : List UInt8) : String :=
  String.ofList (Text.unifyBreaks (Text.decodeLossy bytes))

/-- What a finished program leaves, as text. -/
def Execution.ofOutcome (outcome : Outcome) : Execution :=
  ⟨outcome.code, Outcome.text outcome.output, Outcome.text outcome.errors⟩

end LintBridge
