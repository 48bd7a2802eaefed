import LintBridge.Environment
import LintBridge.Path

/-!
# The settings directory

Where settings are kept unless a directory is given.
-/

namespace LintBridge.Settings

/-- The variable with the directory of the settings. -/
def directoryVariable : String := "LINTER_PYLINT_SETTINGS_DIR"

/-- The variable with the home directory. -/
def homeVariable : String := "HOME"

/-- The name of the settings directory in the home directory. -/
def directoryName : String := ".linter-pylint"

/-- The home directory, without slashes at its end. -/
def home (environment : Environment) : String :=
  Path.expandHome ((environment.get? homeVariable).getD "") "~"

/-- The directory that the environment gives, or else one in the home directory. -/
def defaultDirectory (environment : Environment) : String :=
  let given := (environment.get? directoryVariable).getD ""
  if given.isEmpty then Path.join (home environment) directoryName else given

end LintBridge.Settings
