import LintBridge.Pattern
import LintBridge.Range
import LintBridge.Text.Integer
import LintBridge.Text.Lines

/-!
# Issues

An issue is what one line of a report says: a category, a message, and a place.
-/

namespace LintBridge

/-- An issue as a line of a report states it. -/
structure Issue where
  line : Option Int
  column : Option Int
  category : Option String
  message : Option String
  range : Range
  ruleId : Option String
  filePath : Option String
  deriving DecidableEq, Repr

namespace Issue

open Pattern

/-- The pattern of a report line: line, column, category and rule, separated by
commas, and the message after a colon. A quote in front asks for a quote at the
end. -/
def linePattern : Pattern :=
  .all [
    .opt true (.group "quote" (.one (.literal '\''))),
    .group "line" (.plus true (.one .digit)), .one (.literal ','),
    .group "col" (.plus true (.one .digit)), .one (.literal ','),
    .group "type" (.plus true (.one .word)), .one (.literal ','),
    .group "rule_id" (.seq (.one .word) (.plus true (.one .digit))), .one (.literal ':'),
    .group "message" (.star false (.one .any)),
    .ifGroup "quote" (.one (.literal '\'')),
    .opt true (.one (.literal '\r')), .stop]

/-- The groups that a line pattern needs. -/
def requiredGroups : List String := ["type", "message"]

/-- The needed groups that a pattern lacks. -/
def missingGroups (pattern : Pattern) : List String :=
  requiredGroups.filter fun name => !pattern.groupNames.contains name

/-- Why a pattern is no line pattern. -/
def missingGroupsMessage (names : List String) : String :=
  "Line pattern is missing the named group(s): " ++ ", ".intercalate names

/-- Count a number from zero that the tool counts from a base, without going
below zero. -/
def reduce (base : Int) (number : Option Int) : Option Int :=
  number.map fun n => max (n - base) 0

/-- The number that a group has matched. -/
def numberOf (captures : Captures) (name : String) : Option Int :=
  (captures.text? name).bind Text.readInteger?

/-- The text that a group has matched. -/
def textOf (captures : Captures) (name : String) : Option String :=
  (captures.text? name).map String.ofList

/-- Where the numbers in a report start, and the file that it is about. -/
structure ReportOptions where
  filePath : Option String := none
  baseLine : Int := 1
  baseColumn : Int := 1

/-- The issue that the groups of a matching line make up. The end of the range is
its start as far as the line does not give one. -/
def ofCaptures (options : ReportOptions) (captures : Captures) : Issue :=
  let line := numberOf captures "line"
  let column := numberOf captures "col"
  let startLine := reduce options.baseLine line
  let startColumn := (reduce options.baseColumn column).getD 0
  let stopLine := reduce options.baseLine (numberOf captures "line_end")
  let stopColumn := reduce options.baseColumn (numberOf captures "col_end")
  { line, column
    category := textOf captures "type"
    message := textOf captures "message"
    ruleId := textOf captures "rule_id"
    filePath := match textOf captures "file" with
      | some path => if path = "" then options.filePath else some path
      | none => options.filePath
    range := ⟨⟨startLine, startColumn⟩, ⟨stopLine <|> startLine, stopColumn.getD startColumn⟩⟩ }

/-- The issue that a line states, if it matches the pattern. -/
def ofLine? (pattern : Pattern) (options : ReportOptions) (line : List Char) : Option Issue :=
  (pattern.search line).map (ofCaptures options)

/-- The issues of a report, one for each line that matches the pattern. -/
def ofReport (pattern : Pattern) (options : ReportOptions) (report : String) : List Issue :=
  (Text.splitAtChar '\n' report.toList).filterMap (ofLine? pattern options)

/-- The issues of a report, provided that the pattern has the needed groups. -/
def parse (pattern : Pattern) (options : ReportOptions) (report : String) :
    Except (List String) (List Issue) :=
  match missingGroups pattern with
  | [] => .ok (ofReport pattern options report)
  | missing => .error missing

end Issue

end LintBridge
