import LintBridge.Extraction
import LintBridge.Proofs.Range

/-!
# The diagnostics of an extraction

An extraction keeps the issues that are shown and point at existing text, and
gives each of them its range in the buffer as it is then, leaving out those that
have none. The tree that the ranges are taken from is the same for all issues.
-/

namespace LintBridge

namespace Issue

/-- Whether an issue is shown and points at existing text. -/
def isKept (lines : List Line) (issue : Issue) : Bool :=
  decide (issue.category ≠ some infoCategory) && issue.isReportable lines

/-- The diagnostic of an issue, if the issue has a range. -/
def anchored? (tree : Syntax.Tree) (lines : List Line) (issue : Issue) : Option Diagnostic :=
  (issue.remap tree lines).toOption.map Diagnostic.ofIssue

/-- How the records of issues begin that have no range. -/
def misfitOpening : String := "Dropping issue that no longer fits the buffer: "

/-- The record of an issue, if the issue has no range. -/
def misfit? (tree : Syntax.Tree) (lines : List Line) (issue : Issue) : Option LogRecord :=
  match issue.remap tree lines with
  | .ok _ => none
  | .error fault => some (.debug (misfitOpening ++ fault.message))

/-- A range that is not derived from the buffer stays as reported. -/
theorem anchored?_of_not_remappable {tree : Syntax.Tree} {lines : List Line} {issue : Issue}
    (kept : issue.isRemappable = false) :
    issue.anchored? tree lines = some (.ofIssue issue) := by
  simp [anchored?, remap, kept, Except.toOption]

/-- A range that is derived from the buffer lies on one row of it, and starts where
the issue does. -/
theorem anchored?_of_remappable {tree : Syntax.Tree} {lines : List Line} {issue : Issue}
    {diagnostic : Diagnostic} (remappable : issue.isRemappable = true)
    (answer : issue.anchored? tree lines = some diagnostic) :
    diagnostic.range.AnchoredIn lines ∧ diagnostic.range.start = issue.range.start ∧
      diagnostic.severity = issue.category := by
  rw [anchored?, remap, if_pos remappable] at answer
  cases expanded : expand tree lines issue.range.start.line
      (some issue.range.start.column) with
  | error fault =>
      rw [expanded] at answer
      cases answer
  | ok range =>
      rw [expanded] at answer
      cases answer
      rcases expand_column_anchored expanded with ⟨anchored, start⟩
      exact ⟨anchored, start, rfl⟩

theorem isReportable_iff {lines : List Line} {issue : Issue} :
    issue.isReportable lines = true ↔ issue.range.start.FitsIn lines := by
  rw [isReportable, inspect, Position.FitsIn]
  cases given : issue.range.start.line with
  | none => simp
  | some row =>
      dsimp only
      cases found : lineAt lines (some row) with
      | error missing =>
          constructor
          · intro reportable
            cases reportable
          · intro given
            rcases given with ⟨number, line, equal, there, _⟩
            have present := lineAt_eq_ok_iff.mpr ⟨number, equal, there⟩
            rw [found] at present
            cases present
      | ok line =>
          rcases lineAt_eq_ok_iff.mp found with ⟨number, equal, there⟩
          simp only [decide_eq_true_eq]
          constructor
          · intro inLine
            exact ⟨number, line, equal, there, inLine⟩
          · intro given
            rcases given with ⟨other, text, same, present, inLine⟩
            have numbers : number = other := by
              rw [equal] at same
              exact Int.ofNat_inj.mp (Option.some.inj same)
            subst numbers
            rw [there] at present
            cases present
            exact inLine

end Issue

namespace Selection

theorem keep_fst (lines : List Line) (issues : List Issue) :
    (keep lines issues).1 = issues.filter (Issue.isKept lines) := by
  induction issues with
  | nil => rfl
  | cons issue issues ih =>
      rw [keep, List.filter_cons, ← ih]
      dsimp only
      by_cases hidden : issue.category = some Issue.infoCategory
      · rw [if_pos hidden]
        simp [Issue.isKept, hidden]
      · rw [if_neg hidden]
        simp [Issue.isKept, hidden, Issue.isReportable]

theorem kept_ofIssues (lines : List Line) (issues : List Issue) :
    (ofIssues lines issues).kept = issues.filter (Issue.isKept lines) :=
  keep_fst lines issues

end Selection

namespace Editor

variable (parse : Parser) (editor : Editor)

/-- The tree that ranges are taken from: the kept one if it is of the current
version, and else the tree of the current rows. -/
def shownTree : Syntax.Tree :=
  (editor.syntaxTree parse).1

@[simp] theorem buffer_syntaxTree : (editor.syntaxTree parse).2.buffer = editor.buffer := by
  rw [syntaxTree]
  split
  · rfl
  · split
    · rfl
    · rfl

@[simp] theorem shownTree_syntaxTree :
    (editor.syntaxTree parse).2.shownTree parse = editor.shownTree parse := by
  cases kept : editor.tree? with
  | none => simp [shownTree, syntaxTree, kept]
  | some entry =>
      rcases entry with ⟨version, tree⟩
      by_cases current : version = editor.buffer.version
      · simp [shownTree, syntaxTree, kept, current]
      · simp [shownTree, syntaxTree, kept, current]

theorem rangeAt_fst (line column : Option Int) :
    (editor.rangeAt parse line column).1 =
      expand (editor.shownTree parse) editor.buffer.lines line column := by
  rw [rangeAt, expand]
  cases anchorAt editor.buffer.lines line column with
  | error fault => rfl
  | ok anchor =>
      cases anchor with
      | span range => rfl
      | token row text column => rfl

/-- Asking for a range changes neither the buffer nor the tree. -/
theorem rangeAt_snd (line column : Option Int) :
    (editor.rangeAt parse line column).2.buffer = editor.buffer ∧
    (editor.rangeAt parse line column).2.shownTree parse = editor.shownTree parse := by
  rw [rangeAt]
  cases anchorAt editor.buffer.lines line column with
  | error fault => exact ⟨rfl, rfl⟩
  | ok anchor =>
      cases anchor with
      | span range => exact ⟨rfl, rfl⟩
      | token row text column =>
          exact ⟨buffer_syntaxTree parse editor, shownTree_syntaxTree parse editor⟩

theorem remap_fst (issue : Issue) :
    (editor.remap parse issue).1 =
      issue.remap (editor.shownTree parse) editor.buffer.lines := by
  rw [remap, Issue.remap]
  split
  · dsimp only
    rw [rangeAt_fst]
  · rfl

theorem remap_snd (issue : Issue) :
    (editor.remap parse issue).2.buffer = editor.buffer ∧
    (editor.remap parse issue).2.shownTree parse = editor.shownTree parse := by
  rw [remap]
  split
  · exact rangeAt_snd parse editor _ _
  · exact ⟨rfl, rfl⟩

end Editor

namespace Selection

/-- Every issue gets its range from the same tree and the same rows, and the log
names the issues without a range in order. -/
theorem anchor_spec (parse : Editor.Parser) (editor : Editor) (issues : List Issue) :
    (anchor parse editor issues).1 =
      issues.filterMap (Issue.anchored? (editor.shownTree parse) editor.buffer.lines) ∧
    (anchor parse editor issues).2.1 =
      issues.filterMap (Issue.misfit? (editor.shownTree parse) editor.buffer.lines) ∧
    (anchor parse editor issues).2.2.buffer = editor.buffer := by
  induction issues generalizing editor with
  | nil => exact ⟨rfl, rfl, rfl⟩
  | cons issue issues ih =>
      rcases editor.remap_snd parse issue with ⟨sameBuffer, sameTree⟩
      rcases ih (editor.remap parse issue).2 with ⟨others, records, buffer⟩
      rw [sameBuffer, sameTree] at others records
      have answer := editor.remap_fst parse issue
      rw [anchor, List.filterMap_cons, List.filterMap_cons, Issue.anchored?, Issue.misfit?,
        ← answer]
      cases remapped : editor.remap parse issue with
      | mk result after =>
          rw [remapped] at others records buffer sameBuffer
          cases result with
          | ok issue => exact ⟨congrArg _ others, records, buffer.trans sameBuffer⟩
          | error fault => exact ⟨others, congrArg _ records, buffer.trans sameBuffer⟩

end Selection

namespace Extraction

variable {parse : Editor.Parser} {pattern : Pattern} {filePath : Option String}
  {meanwhile : Selection → Editor → Editor} {editor : Editor} {report : String}
  {extraction : Extraction}

/-- The editor that the issues of a report get their ranges from. -/
def laterEditor (pattern : Pattern) (filePath : Option String)
    (meanwhile : Selection → Editor → Editor) (editor : Editor) (report : String) : Editor :=
  meanwhile
    (Selection.ofIssues editor.buffer.lines (Issue.ofReport pattern { filePath } report)) editor

/-- An extraction answers the kept issues that have a range in the later buffer. -/
theorem run_spec
    (ran : run parse pattern filePath meanwhile editor report = .ok extraction) :
    extraction.diagnostics =
      ((Issue.ofReport pattern { filePath } report).filter
        (Issue.isKept editor.buffer.lines)).filterMap
        (Issue.anchored?
          ((laterEditor pattern filePath meanwhile editor report).shownTree parse)
          extraction.editor.buffer.lines) ∧
    extraction.editor.buffer = (laterEditor pattern filePath meanwhile editor report).buffer := by
  rw [run, Issue.parse] at ran
  split at ran
  · cases ran
    rcases Selection.anchor_spec parse
        (laterEditor pattern filePath meanwhile editor report)
        (Selection.ofIssues editor.buffer.lines
        (Issue.ofReport pattern { filePath } report)).kept with
        ⟨diagnostics, _, buffer⟩
    rw [← buffer] at diagnostics
    rw [← Selection.kept_ofIssues]
    exact ⟨diagnostics, buffer⟩
  · cases ran

theorem exists_run_of_seen {Seen : Type} {see : Extraction → Seen} {seen : Seen}
    (answered :
      (run parse pattern filePath meanwhile editor report).toOption.map see = some seen) :
    ∃ extraction, run parse pattern filePath meanwhile editor report = .ok extraction ∧
      see extraction = seen := by
  cases ran : run parse pattern filePath meanwhile editor report with
  | error missing =>
      rw [ran] at answered
      cases answered
  | ok extraction =>
      rw [ran] at answered
      exact ⟨extraction, rfl, Option.some.inj answered⟩

end Extraction

end LintBridge
