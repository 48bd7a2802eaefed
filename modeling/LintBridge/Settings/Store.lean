import LintBridge.Settings.Archive
import LintBridge.ToolFailure

/-!
# Stores

A store gives access to the settings in one directory and knows who wants to hear
about changes that are made through it.
-/

namespace LintBridge

/-- Something that is called with a value. Two callbacks of the same name are one and
the same; reporters write to the log and are told apart by a number. -/
inductive Callback where
  | named (name : String)
  | reporter (number : Nat) (setting : Setting)
  deriving DecidableEq, Repr

/-- A store. -/
structure Store where
  /-- The directory as it was given. -/
  directory : String
  /-- The normal path of the directory. -/
  location : String
  /-- Whether the directory goes with the store. -/
  temporary : Bool
  /-- Whether the directory is in use. -/
  isOpen : Bool
  /-- The settings that have ever been observed. -/
  observed : List Setting
  /-- Who observes what, in order of registration. -/
  registrations : List (Setting × Callback)
  deriving DecidableEq, Repr

namespace Store

/-- A store as it is opened. -/
def opened (directory location : String) (temporary : Bool) : Store :=
  ⟨directory, location, temporary, true, [], []⟩

/-- The character between the paths of a list of paths. -/
def pathSeparator : Char := ':'

/-- A working directory is a single path, never a list of paths. -/
def normalize (setting : Setting) (value : String) : String :=
  match setting with
  | .workingDirectory => String.ofList (value.toList.filter (· ≠ pathSeparator))
  | _ => value

/-- The value of a setting: the one that has been set, or the default. -/
def get (store : Store) (archive : Archive) (setting : Setting) : String :=
  normalize setting ((archive.get? store.location setting).getD setting.default)

/-- The values of all settings, in order. -/
def items (store : Store) (archive : Archive) : List (Setting × String) :=
  Setting.all.map fun setting => (setting, store.get archive setting)

/-- All settings at this moment. -/
def snapshot (store : Store) (archive : Archive) : Settings :=
  Settings.ofFunction (store.get archive)

/-- The setting with a key. -/
def setting (key : String) : Except ToolFailure Setting :=
  match Setting.ofKey? key with
  | some setting => .ok setting
  | none => .error (.unknownSetting key Setting.keys)

/-- What is said about a value that is not a text. -/
def textHint : String := "Setting values must be strings."

/-- The text that a setting is to have. -/
def textOf (setting : Setting) : Value → Except ToolFailure String
  | .text value => .ok value
  | value => .error (.setting setting.key value textHint)

/-- The callbacks of a setting, in order of registration. -/
def observers (store : Store) (setting : Setting) : List Callback :=
  (store.registrations.filter (·.1 = setting)).map (·.2)

/-- Add a callback to those of a setting. -/
def register (store : Store) (setting : Setting) (callback : Callback) : Store :=
  { store with
    observed := if store.observed.contains setting then store.observed
      else store.observed ++ [setting]
    registrations := store.registrations ++ [(setting, callback)] }

/-- Remove the first registration of a callback, if there is one. -/
def withdraw? (store : Store) (setting : Setting) (callback : Callback) : Option Store :=
  if store.registrations.contains (setting, callback) then
    some { store with registrations := store.registrations.erase (setting, callback) }
  else none

theorem observers_register (store : Store) (setting query : Setting) (callback : Callback) :
    (store.register setting callback).observers query =
      if setting = query then store.observers query ++ [callback] else store.observers query := by
  by_cases same : setting = query <;> simp [register, observers, same]

end Store

end LintBridge
