/-!
# Log records
-/

namespace LintBridge

/-- How much a log record matters. -/
inductive Level where
  | debug
  | info
  | warning
  | error
  | critical
  deriving DecidableEq, Repr

/-- The name of a level in records. -/
def Level.name : Level → String
  | .debug => "DEBUG"
  | .info => "INFO"
  | .warning => "WARNING"
  | .error => "ERROR"
  | .critical => "CRITICAL"

/-- The number of a level; more important levels have greater numbers. -/
def Level.number : Level → Nat
  | .debug => 10
  | .info => 20
  | .warning => 30
  | .error => 40
  | .critical => 50

/-- A line written to the log. -/
structure LogRecord where
  level : Level
  text : String
  deriving DecidableEq, Repr

/-- A record for developers. -/
def LogRecord.debug (text : String) : LogRecord :=
  ⟨.debug, text⟩

end LintBridge
