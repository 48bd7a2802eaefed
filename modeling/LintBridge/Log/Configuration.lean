import LintBridge.Environment
import LintBridge.Log
import LintBridge.Text.UpperCase

/-!
# Log configuration

Which records are shown is read from the environment; how they are shown is fixed.
-/

namespace LintBridge.Log

/-- The names of levels that the environment may give. -/
def levelNumbers : List (String × Nat) :=
  [("CRITICAL", 50), ("FATAL", 50), ("ERROR", 40), ("WARN", 30), ("WARNING", 30), ("INFO", 20),
    ("DEBUG", 10), ("NOTSET", 0)]

/-- The variable with the name of a level. -/
def levelVariable : String := "LOG_LEVEL"

/-- The variable that asks for records for developers. -/
def debugVariable : String := "DEBUG"

/-- The ways to say yes. -/
def yes : List String := ["true", "1", "yes"]

/-- How much is shown. -/
structure Configuration where
  levelName : String
  threshold : Nat
  deriving DecidableEq, Repr

/-- What the environment asks for; records of level `INFO` and above otherwise. -/
def Configuration.ofEnvironment (environment : Environment) : Configuration :=
  let debugging := ((environment.get? debugVariable).map String.toLower).any yes.contains
  let name :=
    if debugging then Level.debug.name
    else Text.upper ((environment.get? levelVariable).getD Level.info.name)
  ⟨name, (levelNumbers.lookup name).getD Level.info.number⟩

/-- The name of a level by its number. -/
def levelName (number : Nat) : String :=
  match [Level.debug, .info, .warning, .error, .critical].find? (·.number = number) with
  | some level => level.name
  | none => if number = 0 then "NOTSET" else s!"Level {number}"

/-- A number of at least two digits. -/
def twoDigits (n : Nat) : String :=
  if n < 10 then s!"0{n}" else toString n

/-- A day of the proleptic Gregorian calendar. -/
structure Date where
  year : Int
  month : Nat
  day : Nat
  deriving DecidableEq, Repr

/-- The day with a given number, day 0 being the first of January 1970. Years are
taken to begin in March, so that a leap day is the last day of its year. -/
def Date.ofDayNumber (number : Int) : Date :=
  let shifted := number + 719468
  let era := shifted / 146097
  let dayOfEra := (shifted % 146097).toNat
  let yearOfEra := (dayOfEra - dayOfEra / 1460 + dayOfEra / 36524 - dayOfEra / 146096) / 365
  let dayOfYear := dayOfEra - (365 * yearOfEra + yearOfEra / 4 - yearOfEra / 100)
  let month := (5 * dayOfYear + 2) / 153
  let day := dayOfYear - (153 * month + 2) / 5 + 1
  let month := if month < 10 then month + 3 else month - 9
  let year : Int := yearOfEra + era * 400
  ⟨if month ≤ 2 then year + 1 else year, month, day⟩

/-- A moment, in seconds since the beginning of 1970, to the minute. -/
def timestamp (seconds : Int) : String :=
  let date := Date.ofDayNumber (seconds / 86400)
  let minutes := ((seconds % 86400) / 60).toNat
  let month := twoDigits date.month
  let day := twoDigits date.day
  let hour := twoDigits (minutes / 60)
  let minute := twoDigits (minutes % 60)
  s!"{date.year}-{month}-{day} {hour}:{minute}"

/-- The name of the log. -/
def name : String := "linter_pylint"

/-- A record as a line of text. -/
def line (seconds : Int) (level : Nat) (text : String) : String :=
  let moment := timestamp seconds
  let label := levelName level
  s!"{moment} - {name}:{label} - {text}"

end LintBridge.Log
