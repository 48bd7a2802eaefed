/-!
# Setting keys

The settings there are, the names they go by, and their values until they are set.
-/

namespace LintBridge

/-- Something the user can set. -/
inductive Setting where
  | executable
  | rcFile
  | messageFormat
  | pythonPath
  | workingDirectory
  deriving DecidableEq, Repr

namespace Setting

/-- All settings, in the order in which they are shown. -/
def all : List Setting :=
  [.executable, .rcFile, .messageFormat, .pythonPath, .workingDirectory]

/-- What the keys of all settings begin with. -/
def family : String := "linter-pylint"

/-- The name of a setting within the family. -/
def shortName : Setting → String
  | .executable => "executable"
  | .rcFile => "rcFile"
  | .messageFormat => "messageFormat"
  | .pythonPath => "pythonPath"
  | .workingDirectory => "workingDirectory"

/-- The key of a setting. -/
def key (setting : Setting) : String :=
  family ++ "." ++ setting.shortName

/-- All keys, in the order of the settings. -/
def keys : List String :=
  all.map key

/-- The value of a setting until it is set. -/
def default : Setting → String
  | .executable => "pylint"
  | .rcFile => ""
  | .messageFormat => "%i %m"
  | .pythonPath => ""
  | .workingDirectory => "%p"

/-- The setting with a given key. -/
def ofKey? (key : String) : Option Setting :=
  all.find? (·.key = key)

/-- The setting that a user means, who may leave the family out. -/
def ofName? (name : String) : Option Setting :=
  all.find? fun setting => setting.key = name ∨ setting.shortName = name

theorem ofKey?_key (setting : Setting) : ofKey? setting.key = some setting := by
  cases setting <;> decide

theorem ofKey?_eq_some_iff {key : String} {setting : Setting} :
    ofKey? key = some setting ↔ key = setting.key := by
  constructor
  · intro known
    rw [ofKey?] at known
    have same : setting.key = key := by simpa using List.find?_some known
    exact same.symm
  · rintro rfl
    exact ofKey?_key setting

end Setting

end LintBridge
