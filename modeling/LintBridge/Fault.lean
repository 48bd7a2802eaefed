import LintBridge.Buffer
import LintBridge.Issue
import LintBridge.Range
import LintBridge.Text.Utf8
import LintBridge.ToolFailure

/-!
# Faults

Everything that can go wrong on a host, from a missing file to a failed lint.
-/

namespace LintBridge

/-- Why the system refuses a path. -/
inductive PathFault where
  | missing
  | notExecutable
  | denied
  | taken
  | notDirectory
  | isDirectory
  | nameTooLong
  deriving DecidableEq, Repr

namespace PathFault

/-- The number of a reason. -/
def number : PathFault → Nat
  | missing => 2
  | notExecutable => 8
  | denied => 13
  | taken => 17
  | notDirectory => 20
  | isDirectory => 21
  | nameTooLong => 36

/-- The words for a reason. -/
def reason : PathFault → String
  | missing => "No such file or directory"
  | notExecutable => "Exec format error"
  | denied => "Permission denied"
  | taken => "File exists"
  | notDirectory => "Not a directory"
  | isDirectory => "Is a directory"
  | nameTooLong => "File name too long"

/-- A refused path with its reason. -/
def message (fault : PathFault) (path : String) : String :=
  let number := fault.number
  let reason := fault.reason
  s!"[Errno {number}] {reason}: " ++ Text.quoted path

end PathFault

/-- Something that goes wrong. -/
inductive Fault where
  | tool (failure : ToolFailure)
  /-- The system refuses a path. -/
  | refused (fault : PathFault) (path : String)
  /-- A directory for settings cannot be made. -/
  | settingsDirectory (fault : PathFault) (path : String)
  /-- The settings in a directory cannot be read or written. -/
  | settingsUnavailable
  /-- A text for the system holds the character zero. -/
  | nullCharacter
  /-- The name of an environment variable holds an equals sign. -/
  | variableName
  | undecodable (error : Text.DecodeError)
  | row (missing : MissingRow)
  | range (fault : RangeFault)
  /-- A line pattern lacks groups. -/
  | missingGroups (names : List String)
  /-- A subscription is not registered where it should be. -/
  | notRegistered
  /-- A diagnostic without a line has no text. -/
  | unplaced
  /-- A callback fails. -/
  | callback (name : String)
  /-- Work on a temporary file fails. -/
  | body
  /-- No object has this name. -/
  | unknownName (name : String)

namespace Fault

/-- Two hexadecimal digits after `0x`. -/
def byteText (byte : UInt8) : String :=
  "0x" ++ String.ofList (Text.hexDigits 2 byte.toNat)

/-- The explanation of bytes that are no text. -/
def undecodableMessage (error : Text.DecodeError) : String :=
  let first := error.position
  let last := error.position + error.width - 1
  let place :=
    if error.width = 1 then "byte " ++ byteText error.byte ++ s!" in position {first}"
    else s!"bytes in position {first}-{last}"
  "'utf-8' codec can't decode " ++ place ++ ": " ++ error.fault.reason

/-- What a fault says. -/
def message : Fault → String
  | tool failure => failure.message
  | refused fault path => fault.message path
  | settingsDirectory fault path =>
      let number := fault.number
      s!"[Errno {number}] Cache directory \"" ++ path
        ++ "\" does not exist and could not be created"
  | settingsUnavailable => "unable to open database file"
  | nullCharacter => "embedded null byte"
  | variableName => "illegal environment variable name"
  | undecodable error => undecodableMessage error
  | row missing => missing.message
  | range fault => fault.message
  | missingGroups names => Issue.missingGroupsMessage names
  | notRegistered => "list.remove(x): x not in list"
  | unplaced => "unsupported operand type(s) for +: 'NoneType' and 'int'"
  | callback name => s!"callback {name}"
  | body => "body"
  | unknownName name => Text.quoted name

end Fault

end LintBridge
