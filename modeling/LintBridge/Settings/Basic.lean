import LintBridge.Settings.Key

/-!
# Settings

The values of all settings at one moment.
-/

namespace LintBridge

/-- A value for every setting. -/
structure Settings where
  executable : String
  rcFile : String
  messageFormat : String
  pythonPath : String
  workingDirectory : String
  deriving DecidableEq, Repr

namespace Settings

/-- The settings with the values that a function gives. -/
def ofFunction (value : Setting → String) : Settings :=
  { executable := value .executable
    rcFile := value .rcFile
    messageFormat := value .messageFormat
    pythonPath := value .pythonPath
    workingDirectory := value .workingDirectory }

/-- The value of one setting. -/
def get (settings : Settings) : Setting → String
  | .executable => settings.executable
  | .rcFile => settings.rcFile
  | .messageFormat => settings.messageFormat
  | .pythonPath => settings.pythonPath
  | .workingDirectory => settings.workingDirectory

/-- The settings of a user who has set nothing. -/
def defaults : Settings :=
  ofFunction Setting.default

end Settings

end LintBridge
