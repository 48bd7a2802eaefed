import LintBridge.Diagnostic
import LintBridge.Editor
import LintBridge.Log

/-!
# Extraction

Turns a report into diagnostics for a live buffer. Issues that no longer point at
text of the buffer are dropped, and the others get the range of the token they
point at. The buffer may change in between, so the second step checks again.
-/

namespace LintBridge

namespace Issue

/-- The category of issues that are not shown. -/
def infoCategory : String := "info"

/-- Whether an issue points at existing text of some lines, and what to log if the
line it points at is not there. -/
def inspect (lines : List Line) (issue : Issue) : Bool × List LogRecord :=
  let shown := Diagnostic.shownText issue.message
  match issue.range.start.line with
  | none => (false, [.debug s!"Dropping issue without a location: {shown}"])
  | some row =>
      match lineAt lines (some row) with
      | .error _ => (false, [.debug s!"Dropping issue on missing line {row}: {shown}"])
      | .ok line => (issue.range.start.column ≤ line.length, [])

/-- Whether an issue points at existing text of some lines. -/
def isReportable (lines : List Line) (issue : Issue) : Bool :=
  (inspect lines issue).1

/-- Whether the range of an issue is derived from the buffer. Ranges over several
lines stay as reported, and so do those that end before they start. -/
def isRemappable (issue : Issue) : Bool :=
  let start := issue.range.start
  let stop := issue.range.stop
  start.line == stop.line && (start.column ≤ stop.column || stop.column ≤ 0)

/-- An issue with the range of the token that it points at. -/
def remap (tree : Syntax.Tree) (lines : List Line) (issue : Issue) : Except RangeFault Issue :=
  if issue.isRemappable then
    (expand tree lines issue.range.start.line issue.range.start.column).map
      fun range => { issue with range }
  else .ok issue

end Issue

namespace Editor

/-- An issue with the range of the token that it points at in the buffer. -/
def remap (parse : Parser) (editor : Editor) (issue : Issue) : Except RangeFault Issue × Editor :=
  if issue.isRemappable then
    let (range, editor) :=
      editor.rangeAt parse issue.range.start.line issue.range.start.column
    (range.map fun range => { issue with range }, editor)
  else (.ok issue, editor)

end Editor

/-- The issues of a report that are kept, how many there were, and what was logged. -/
structure Selection where
  kept : List Issue
  total : Nat
  log : List LogRecord

namespace Selection

/-- The number of issues that were dropped. -/
def dropped (selection : Selection) : Nat :=
  selection.total - selection.kept.length

/-- Keep the issues that are shown and point at existing text, in order. -/
def keep (lines : List Line) : List Issue → List Issue × List LogRecord
  | [] => ([], [])
  | issue :: issues =>
      let (kept, log) := keep lines issues
      if issue.category = some Issue.infoCategory then (kept, log)
      else
        let (reportable, found) := issue.inspect lines
        (if reportable then issue :: kept else kept, found ++ log)

/-- Select among the issues of a report, logging how many were dropped. -/
def ofIssues (lines : List Line) (issues : List Issue) : Selection :=
  let (kept, log) := keep lines issues
  let total := issues.length
  let summary :=
    if kept.length = total then []
    else [.debug s!"Dropped {total - kept.length} of {total} issues"]
  ⟨kept, total, log ++ summary⟩

/-- Give every selected issue its range in the buffer; what does not fit is dropped
and logged. -/
def anchor (parse : Editor.Parser) (editor : Editor) :
    List Issue → List Diagnostic × List LogRecord × Editor
  | [] => ([], [], editor)
  | issue :: issues =>
      match editor.remap parse issue with
      | (.ok issue, editor) =>
          let (diagnostics, log, editor) := anchor parse editor issues
          (.ofIssue issue :: diagnostics, log, editor)
      | (.error fault, editor) =>
          let (diagnostics, log, editor) := anchor parse editor issues
          (diagnostics,
            .debug s!"Dropping issue that no longer fits the buffer: {fault.message}" :: log,
            editor)

end Selection

/-- What an extraction answers: the diagnostics in the order of the report, what
was logged, and the editor with its syntax tree. -/
structure Extraction where
  diagnostics : List Diagnostic
  log : List LogRecord
  editor : Editor

namespace Extraction

/-- Extract the diagnostics of a report. Between selecting the issues and giving
them their ranges something may happen to the editor. -/
def run (parse : Editor.Parser) (pattern : Pattern) (filePath : Option String)
    (meanwhile : Selection → Editor → Editor) (editor : Editor) (report : String) :
    Except (List String) Extraction :=
  (Issue.parse pattern { filePath } report).map fun issues =>
    let selection := Selection.ofIssues editor.buffer.lines issues
    let (diagnostics, log, editor) :=
      Selection.anchor parse (meanwhile selection editor) selection.kept
    ⟨diagnostics, selection.log ++ log, editor⟩

/-- Nothing happens to the editor. -/
def undisturbed : Selection → Editor → Editor :=
  fun _ editor => editor

/-- The editor gets another text as soon as an issue has been dropped. -/
def editedOnDrop (text : String) : Selection → Editor → Editor :=
  fun selection editor => if selection.dropped = 0 then editor else editor.setText text

end Extraction

end LintBridge
