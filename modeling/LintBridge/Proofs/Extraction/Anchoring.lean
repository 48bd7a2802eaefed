import LintBridge.Proofs.Extraction.Diagnostics
import LintBridge.Proofs.Issue.LinePattern

/-!
# Diagnostics of the line pattern

An issue that the line pattern reads has a category, and its range is a single
position. So its range is derived from the buffer that is there in the end, and the
diagnostics of such issues lie inside this buffer whatever it was before.
-/

namespace LintBridge

namespace Issue

theorem Statement.isRemappable_issue (options : ReportOptions) (statement : Statement) :
    (statement.issue options).isRemappable = true := by
  simp [isRemappable, issue]

/-- What the line pattern finds in a report are issues of statements. -/
theorem exists_statement_of_mem_ofReport {options : ReportOptions} {report : String}
    {issue : Issue} (member : issue ∈ ofReport linePattern options report) :
    ∃ statement : Statement, issue = statement.issue options := by
  rcases List.mem_filterMap.mp member with ⟨line, _, answer⟩
  rcases exists_statement_of_ofLine? answer with ⟨statement, _, equal⟩
  exact ⟨statement, equal⟩

end Issue

namespace Extraction

/-- An extraction by the line pattern always has an answer. Its diagnostics have
severities that are shown, and each of them lies on one line of the text that is
there in the end. -/
theorem run_linePattern (parse : Editor.Parser) (filePath : Option String)
    (meanwhile : Selection → Editor → Editor) (editor : Editor) (report : String) :
    ∃ extraction,
      run parse Issue.linePattern filePath meanwhile editor report = .ok extraction ∧
      extraction.editor.buffer =
        (laterEditor Issue.linePattern filePath meanwhile editor report).buffer ∧
      ∀ diagnostic ∈ extraction.diagnostics,
        (∃ severity, diagnostic.severity = some severity ∧ severity ≠ Issue.infoCategory) ∧
        diagnostic.range.AnchoredIn extraction.editor.buffer.lines := by
  obtain ⟨extraction, ran⟩ : ∃ extraction,
      run parse Issue.linePattern filePath meanwhile editor report = .ok extraction := by
    rw [run, Issue.parse, Issue.missingGroups_linePattern]
    exact ⟨_, rfl⟩
  rcases run_spec ran with ⟨diagnostics, buffer⟩
  refine ⟨extraction, ran, buffer, ?_⟩
  intro diagnostic member
  rw [diagnostics, List.mem_filterMap] at member
  rcases member with ⟨issue, selected, answer⟩
  rcases List.mem_filter.mp selected with ⟨reported, kept⟩
  rcases Issue.exists_statement_of_mem_ofReport reported with ⟨statement, rfl⟩
  rcases Issue.anchored?_of_remappable (statement.isRemappable_issue _) answer with
    ⟨anchored, _, severity⟩
  refine ⟨⟨_, severity, ?_⟩, anchored⟩
  intro hidden
  simp [Issue.isKept, Issue.Statement.issue, hidden] at kept

/-- After an edit the issue is marked where it points at in the new text. -/
example : ((run Syntax.parseRows Issue.linePattern none (editedOnDrop "if x:\n  done")
    (.ofText "/a.py" "a\nbcdef") "'2,3,error,E1:kept'\n'9,1,error,E1:gone'\r\n").toOption.map
      (·.diagnostics)) = some
        [⟨some "error", "kept", none, .ofColumns 1 2 6, some "E1"⟩] := by
  decide +kernel

end Extraction

end LintBridge
