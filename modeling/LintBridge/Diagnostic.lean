import LintBridge.Issue

/-!
# Diagnostics

A diagnostic is an issue with a range that fits the buffer, ready for display.
-/

namespace LintBridge

/-- An issue ready for display. -/
structure Diagnostic where
  severity : Option String
  message : Option String
  filePath : Option String
  range : Range
  ruleId : Option String
  deriving DecidableEq, Repr

namespace Diagnostic

/-- The diagnostic of an issue. -/
def ofIssue (issue : Issue) : Diagnostic :=
  ⟨issue.category, issue.message, issue.filePath, issue.range, issue.ruleId⟩

/-- A text as shown, `None` when there is none. -/
def shownText (text? : Option String) : String :=
  text?.getD "None"

/-- A diagnostic on one line, its position counted from one. There is none
without a line. -/
def text? (diagnostic : Diagnostic) : Option String :=
  diagnostic.range.start.line.map fun line =>
    s!"{shownText diagnostic.filePath}:{line + 1}:{diagnostic.range.start.column + 1}: " ++
      s!"{shownText diagnostic.severity}: {shownText diagnostic.message}"

end Diagnostic

end LintBridge
