import LintBridge.Value

/-!
# Failures of the tool

The ways in which a lint or a change of settings can fail, from the general to the
particular, and what each of them says.
-/

namespace LintBridge

/-- The kinds of failure. -/
inductive ToolFailure.Kind where
  | general
  | launch
  | invocation
  | setting
  | unknownSetting
  deriving DecidableEq, Repr

/-- A failure with its cause. -/
inductive ToolFailure where
  | general (text : String)
  /-- A program cannot be started. -/
  | launch (executable reason : String)
  /-- The analyzer complains. -/
  | invocation (complaint : String)
  /-- A setting cannot have a value. -/
  | setting (key : String) (value : Value) (hint : String)
  /-- There is no setting of this name. -/
  | unknownSetting (key : String) (known : List String)

namespace ToolFailure

/-- The kinds that a kind is a special case of, the nearest one first. -/
def Kind.ancestors : Kind → List Kind
  | .general => []
  | .launch | .invocation | .setting => [.general]
  | .unknownSetting => [.setting, .general]

/-- The kind of a failure. -/
def kind : ToolFailure → Kind
  | general _ => .general
  | launch _ _ => .launch
  | invocation _ => .invocation
  | setting _ _ _ => .setting
  | unknownSetting _ _ => .unknownSetting

/-- What a failure says. -/
def message : ToolFailure → String
  | general text => text
  | launch executable reason => s!"Failed to run `{executable}`: {reason}"
  | invocation complaint => complaint
  | setting key value hint =>
      s!"Invalid setting `{key}`: " ++ value.shown ++ (if hint.isEmpty then "." else ". " ++ hint)
  | unknownSetting key known =>
      s!"Unknown setting `{key}`."
        ++ (if known.isEmpty then "" else " Known settings are: " ++ ", ".intercalate known)

end ToolFailure

end LintBridge
