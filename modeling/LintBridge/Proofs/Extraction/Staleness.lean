import LintBridge.Pattern.Reader
import LintBridge.Proofs.Extraction.Diagnostics
import LintBridge.Syntax.Lookup

/-!
# Stale diagnostics

Ranges that are derived from the buffer fit the buffer that they are derived from.
Ranges that stay as reported have only been compared with the buffer as it was when
the issues were selected. So an extraction is free of stale diagnostics exactly if
the issues of the second kind still point at text of the later buffer.
-/

namespace LintBridge

namespace Extraction

variable {parse : Editor.Parser} {pattern : Pattern} {filePath : Option String}
  {meanwhile : Selection → Editor → Editor} {editor : Editor} {report : String}
  {extraction : Extraction}

/-- The issues of a report that are selected and keep the range they came with. -/
def passedThrough (pattern : Pattern) (filePath : Option String) (lines : List Line)
    (report : String) : List Issue :=
  (Issue.ofReport pattern { filePath } report).filter fun issue =>
    issue.isKept lines && !issue.isRemappable

/-- A diagnostic is one of an issue that keeps its range, or lies on one row of the
later buffer. -/
theorem mem_diagnostics_cases
    (ran : run parse pattern filePath meanwhile editor report = .ok extraction)
    {diagnostic : Diagnostic} (member : diagnostic ∈ extraction.diagnostics) :
    (∃ issue ∈ passedThrough pattern filePath editor.buffer.lines report,
      diagnostic = .ofIssue issue) ∨
    diagnostic.range.AnchoredIn extraction.editor.buffer.lines := by
  rw [(run_spec ran).1, List.mem_filterMap] at member
  rcases member with ⟨issue, selected, answer⟩
  rw [List.mem_filter] at selected
  cases kind : issue.isRemappable with
  | true => exact Or.inr (Issue.anchored?_of_remappable kind answer).1
  | false =>
      rw [Issue.anchored?_of_not_remappable kind] at answer
      refine Or.inl ⟨issue, ?_, (Option.some.inj answer).symm⟩
      simp [passedThrough, selected.1, selected.2, kind]

theorem ofIssue_mem_diagnostics
    (ran : run parse pattern filePath meanwhile editor report = .ok extraction)
    {issue : Issue}
    (member : issue ∈ passedThrough pattern filePath editor.buffer.lines report) :
    Diagnostic.ofIssue issue ∈ extraction.diagnostics := by
  simp only [passedThrough, List.mem_filter, Bool.and_eq_true, Bool.not_eq_true'] at member
  rcases member with ⟨reported, kept, kind⟩
  rw [(run_spec ran).1, List.mem_filterMap]
  exact ⟨issue, List.mem_filter.mpr ⟨reported, kept⟩, Issue.anchored?_of_not_remappable kind⟩

/-- The stale diagnostics of an extraction are those of the issues that keep their
ranges and do not start at text of the later buffer. So there is none exactly if
all issues that keep their ranges still do, as when the buffer has not changed. -/
theorem stale_diagnostics_iff (parse : Editor.Parser) (pattern : Pattern)
    (filePath : Option String) (meanwhile : Selection → Editor → Editor) (editor : Editor)
    (report : String) (extraction : Extraction)
    (ran : run parse pattern filePath meanwhile editor report = .ok extraction) :
    (∀ diagnostic : Diagnostic,
      diagnostic ∈ extraction.diagnostics ∧
          ¬ diagnostic.range.start.FitsIn extraction.editor.buffer.lines ↔
        ∃ issue ∈ passedThrough pattern filePath editor.buffer.lines report,
          diagnostic = .ofIssue issue ∧
          ¬ issue.range.start.FitsIn extraction.editor.buffer.lines) ∧
    ((∀ diagnostic ∈ extraction.diagnostics,
        diagnostic.range.start.FitsIn extraction.editor.buffer.lines) ↔
      ∀ issue ∈ passedThrough pattern filePath editor.buffer.lines report,
        issue.range.start.FitsIn extraction.editor.buffer.lines) ∧
    (extraction.editor.buffer.lines = editor.buffer.lines →
      ∀ diagnostic ∈ extraction.diagnostics,
        diagnostic.range.start.FitsIn extraction.editor.buffer.lines) := by
  have fit_iff : (∀ diagnostic ∈ extraction.diagnostics,
        diagnostic.range.start.FitsIn extraction.editor.buffer.lines) ↔
      ∀ issue ∈ passedThrough pattern filePath editor.buffer.lines report,
        issue.range.start.FitsIn extraction.editor.buffer.lines := by
    constructor
    · intro fit issue member
      exact fit (.ofIssue issue) (ofIssue_mem_diagnostics ran member)
    · intro fit diagnostic member
      rcases mem_diagnostics_cases ran member with ⟨issue, passed, rfl⟩ | anchored
      · exact fit issue passed
      · exact anchored.start_fitsIn
  refine ⟨?_, fit_iff, ?_⟩
  · intro diagnostic
    constructor
    · intro given
      rcases given with ⟨member, stale⟩
      rcases mem_diagnostics_cases ran member with ⟨issue, passed, rfl⟩ | anchored
      · exact ⟨issue, passed, rfl, stale⟩
      · exact absurd anchored.start_fitsIn stale
    · intro given
      rcases given with ⟨issue, passed, rfl, stale⟩
      exact ⟨ofIssue_mem_diagnostics ran passed, stale⟩
  · intro unchanged
    apply fit_iff.mpr
    intro issue member
    rw [unchanged, ← Issue.isReportable_iff]
    simp only [passedThrough, List.mem_filter, Issue.isKept, Bool.and_eq_true] at member
    exact member.2.1.2

/-- A pattern for issues that reach from one line to another. -/
def spanPattern : Pattern :=
  .all [
    .group "line" (.plus true (.one .digit)), .one (.literal '-'),
    .group "line_end" (.plus true (.one .digit)), .one (.literal ' '),
    .group "type" (.plus true (.one .word)), .one (.literal ' '),
    .group "message" (.star true (.one .any))]

example : Pattern.ofText?
    "(?P<line>\\d+)-(?P<line_end>\\d+) (?P<type>\\w+) (?P<message>.*)" =
      some spanPattern := by
  decide +kernel

/-- An issue over two lines, and one far below them. -/
def spanReport : String :=
  "3-4 error over two lines\n9-9 error far below"

/-- When four rows become three, the issue over two lines still starts at text. -/
theorem stale_diagnostics_iff_three_rows :
    ∃ extraction, run Syntax.parseRows spanPattern none (editedOnDrop "x\ny\nz")
        (.ofText "/a.py" "a\nb\nc\nd") spanReport = .ok extraction ∧
      extraction.diagnostics.length = 1 ∧
      ∀ diagnostic ∈ extraction.diagnostics,
        diagnostic.range.start.FitsIn extraction.editor.buffer.lines := by
  obtain ⟨extraction, ran, seen⟩ : ∃ extraction,
      run Syntax.parseRows spanPattern none (editedOnDrop "x\ny\nz")
        (.ofText "/a.py" "a\nb\nc\nd") spanReport = .ok extraction ∧
      (extraction.diagnostics.length, extraction.editor.buffer.lines) =
        (1, [['x'], ['y'], ['z']]) :=
    exists_run_of_seen (by decide +kernel)
  rcases Prod.mk.inj seen with ⟨one, lines⟩
  have passed : passedThrough spanPattern none (rowsOf "a\nb\nc\nd") spanReport =
      [⟨some 3, none, some "error", "over two lines",
        ⟨⟨some 2, 0⟩, ⟨some 3, 0⟩⟩, none, none⟩] := by
    decide +kernel
  refine ⟨extraction, ran, one, ?_⟩
  apply (stale_diagnostics_iff _ _ _ _ _ _ _ ran).2.1.mpr
  intro issue member
  change issue ∈ passedThrough spanPattern none (rowsOf "a\nb\nc\nd") spanReport at member
  rw [passed, List.mem_singleton] at member
  rw [member, lines]
  exact ⟨2, ['z'], rfl, rfl, by decide⟩

/-- When four rows become one, the issue over two lines is still reported. -/
theorem exists_stale_diagnostic :
    ∃ extraction, run Syntax.parseRows spanPattern none (editedOnDrop "a")
        (.ofText "/a.py" "a\nb\nc\nd") spanReport = .ok extraction ∧
      ∃ diagnostic ∈ extraction.diagnostics,
        ¬ diagnostic.range.start.FitsIn extraction.editor.buffer.lines := by
  obtain ⟨extraction, ran, seen⟩ : ∃ extraction,
      run Syntax.parseRows spanPattern none (editedOnDrop "a")
        (.ofText "/a.py" "a\nb\nc\nd") spanReport = .ok extraction ∧
      (extraction.diagnostics, extraction.editor.buffer.lines) =
        ([⟨some "error", "over two lines", none, ⟨⟨some 2, 0⟩, ⟨some 3, 0⟩⟩, none⟩],
          [['a']]) :=
    exists_run_of_seen (by decide +kernel)
  rcases Prod.mk.inj seen with ⟨diagnostics, lines⟩
  refine ⟨extraction, ran,
    ⟨some "error", "over two lines", none, ⟨⟨some 2, 0⟩, ⟨some 3, 0⟩⟩, none⟩, ?_, ?_⟩
  · rw [diagnostics]
    exact List.mem_singleton_self _
  · intro given
    rcases given with ⟨row, line, equal, there, _⟩
    rw [lines] at there
    have third : row = 2 := Int.ofNat_inj.mp (Option.some.inj equal).symm
    subst third
    cases there

end Extraction

end LintBridge
