import LintBridge.Host.Shell

/-!
# Programs

The programs that every host has, and a program that replays what it is told.
-/

namespace LintBridge.Program

/-- End at once, with a code. -/
def exitWith (code : Int) : Outcome :=
  { code, output := [], errors := [], duration := 0 }

/-- Do nothing, successfully. -/
def succeed : Program := fun _ => exitWith 0

/-- Do nothing, without success. -/
def fail : Program := fun _ => exitWith 1

/-- Write the arguments. -/
def echo : Program := fun call =>
  let (words, final) := match call.arguments with
    | "-n" :: words => (words, "")
    | words => (words, "\n")
  { exitWith 0 with output := Text.encode (" ".intercalate words ++ final).toList }

/-- Write the files that the arguments name. -/
def concatenate : Program := fun call =>
  let effect := Shell.concatenate call
    ((call.arguments.filter (·.toList.head? ≠ some '-')).map Shell.charsOf)
  { code := effect.status
    output := Shell.bytesOf effect.output
    errors := Shell.bytesOf effect.errors
    duration := 0 }

/-- Wait for the seconds that the arguments give. -/
def sleep : Program := fun call =>
  { exitWith 0 with
    duration := Shell.total (call.arguments.map fun word => Shell.microseconds word.toList) }

/-- The programs that every host has, with their names. -/
def standard : List (String × Program) :=
  [("sh", Shell.run), ("echo", echo), ("true", succeed), ("false", fail), ("cat", concatenate),
    ("sleep", sleep)]

/-- What a replaying program writes, and its codes: the usual one, and the one for a
question about its version. -/
structure Replay where
  output : List UInt8
  errors : List UInt8
  code : Nat
  versionCode : Nat
  deriving DecidableEq, Repr

/-- The argument that asks for the version of a program. -/
def versionArgument : String := "--version"

/-- Whether a call asks for the version. -/
def asksForVersion (call : Call) : Bool :=
  call.arguments.head? = some versionArgument

/-- Write what there is to be written. -/
def replay (script : Replay) : Program := fun call =>
  if asksForVersion call then exitWith (script.versionCode % 256 : Nat)
  else
    { code := (script.code % 256 : Nat)
      output := script.output
      errors := script.errors
      duration := 0 }

end LintBridge.Program
