import LintBridge.Pattern
import LintBridge.Text.Lines

/-!
# Error output

What a program writes to its error stream counts as a failure, except for lines
that are known to be harmless.
-/

namespace LintBridge.ErrorOutput

open Pattern

/-- A pattern for one whole line. -/
def wholeLine (text : String) : Pattern :=
  .all (.start :: text.toList.map (fun c => .one (.literal c)) ++ [.stop])

/-- The harmless lines of the analyzer. -/
def harmless : List Pattern :=
  [wholeLine "No config file found, using default configuration"]

/-- Whether a line tells of a failure. -/
def isGenuine (whitelist : List Pattern) (line : List Char) : Bool :=
  !line.isEmpty && !whitelist.any (·.occursIn line)

/-- The lines that tell of a failure, in order. -/
def genuineLines (whitelist : List Pattern) (output : List Char) : List (List Char) :=
  (Text.reportLines output).filter (isGenuine whitelist)

/-- What remains of error output without its harmless lines. -/
def genuine (whitelist : List Pattern) (output : String) : String :=
  String.ofList (Text.joinLines ['\n'] (genuineLines whitelist output.toList))

end LintBridge.ErrorOutput
