import LintBridge.Proofs.Extraction.Diagnostics

/-!
# Where diagnostics come from

Every diagnostic of an extraction is that of one selected issue, and the issues are
gone through in order. An issue that gets no range leaves a record in the log
instead. What becomes of an issue depends on the later rows and their tree alone.
-/

namespace LintBridge

namespace Issue

variable {tree : Syntax.Tree} {lines : List Line} {issue : Issue}

/-- The diagnostic of an issue, next to the issue. -/
def origin? (tree : Syntax.Tree) (lines : List Line) (issue : Issue) :
    Option (Issue × Diagnostic) :=
  (issue.anchored? tree lines).map (issue, ·)

/-- An issue has either a diagnostic or a record. -/
theorem origin?_eq_none_iff :
    issue.origin? tree lines = none ↔ ∃ record, issue.misfit? tree lines = some record := by
  rw [origin?, anchored?, misfit?]
  cases issue.remap tree lines with
  | ok remapped => simp [Except.toOption]
  | error fault => simp [Except.toOption]

theorem eq_ofReport_of_parse {pattern : Pattern} {options : ReportOptions} {report : String}
    {issues : List Issue} (parsed : parse pattern options report = .ok issues) :
    issues = ofReport pattern options report := by
  rw [parse] at parsed
  split at parsed
  · exact (Except.ok.inj parsed).symm
  · cases parsed

/-- The start column that a line states does not go below zero. -/
theorem column_nonneg_of_ofLine? {pattern : Pattern} {options : ReportOptions}
    {line : List Char} (stated : ofLine? pattern options line = some issue) :
    0 ≤ issue.range.start.column := by
  rcases Option.map_eq_some_iff.mp stated with ⟨captures, _, rfl⟩
  change 0 ≤ (reduce options.baseColumn (numberOf captures "col")).getD 0
  cases numberOf captures "col" with
  | none => exact Int.le_refl 0
  | some number => exact Int.le_max_right _ 0

theorem column_nonneg_of_mem_ofReport {pattern : Pattern} {options : ReportOptions}
    {report : String} (member : issue ∈ ofReport pattern options report) :
    0 ≤ issue.range.start.column := by
  rcases List.mem_filterMap.mp member with ⟨line, _, stated⟩
  exact column_nonneg_of_ofLine? stated

/-- An issue has a diagnostic exactly if its range stays as reported or starts at
text of the lines. -/
theorem isSome_origin?_iff (nonnegative : 0 ≤ issue.range.start.column) :
    (issue.origin? tree lines).isSome = true ↔
      (issue.isRemappable = true → issue.isReportable lines = true) := by
  rw [origin?, Option.isSome_map, anchored?, Option.isSome_map, remap]
  split
  · rename_i remappable
    rw [isReportable_iff, ← expand_column_isOk_iff tree nonnegative]
    cases expand tree lines issue.range.start.line (some issue.range.start.column) with
    | error fault => simp [remappable, Except.map, Except.toOption]
    | ok range => simp [Except.map, Except.toOption]
  · rename_i kept
    simp [kept, Except.toOption]

end Issue

namespace Selection

variable (parse : Editor.Parser) (editor : Editor)

/-- The issues that get a range in the buffer, each with its diagnostic. -/
def origins (parse : Editor.Parser) (editor : Editor) : List Issue → List (Issue × Diagnostic)
  | [] => []
  | issue :: issues =>
      match editor.remap parse issue with
      | (.ok remapped, editor) => (issue, .ofIssue remapped) :: origins parse editor issues
      | (.error _, editor) => origins parse editor issues

theorem origins_eq (issues : List Issue) :
    origins parse editor issues =
      issues.filterMap (Issue.origin? (editor.shownTree parse) editor.buffer.lines) := by
  induction issues generalizing editor with
  | nil => rfl
  | cons issue issues ih =>
      rcases editor.remap_snd parse issue with ⟨sameBuffer, sameTree⟩
      have others := ih (editor.remap parse issue).2
      rw [sameBuffer, sameTree] at others
      have answer := editor.remap_fst parse issue
      rw [origins, List.filterMap_cons, Issue.origin?, Issue.anchored?, ← answer]
      cases remapped : editor.remap parse issue with
      | mk result after =>
          rw [remapped] at others
          cases result with
          | ok issue => exact congrArg _ others
          | error fault => exact others

theorem map_snd_origins (issues : List Issue) :
    (origins parse editor issues).map (·.2) = (anchor parse editor issues).1 := by
  rw [origins_eq, (anchor_spec parse editor issues).1, List.map_filterMap]
  congr 1
  funext issue
  simp [Issue.origin?, Function.comp_def]

theorem map_fst_origins (issues : List Issue) :
    (origins parse editor issues).map (·.1) =
      issues.filter fun issue =>
        (issue.origin? (editor.shownTree parse) editor.buffer.lines).isSome := by
  rw [origins_eq, List.map_filterMap, ← List.filterMap_eq_filter]
  congr 1
  funext issue
  cases answer : issue.anchored? (editor.shownTree parse) editor.buffer.lines <;>
    simp [Issue.origin?, answer, Option.guard]

/-- Every issue is accounted for, by a diagnostic or by a record. -/
theorem length_origins_add_length_log (issues : List Issue) :
    (origins parse editor issues).length + (anchor parse editor issues).2.1.length =
      issues.length := by
  rw [origins_eq, (anchor_spec parse editor issues).2.1]
  induction issues with
  | nil => rfl
  | cons issue issues ih =>
      have either : issue.origin? (editor.shownTree parse) editor.buffer.lines = none ↔ _ :=
        Issue.origin?_eq_none_iff
      rw [List.filterMap_cons, List.filterMap_cons, List.length_cons, ← ih]
      cases found : issue.origin? (editor.shownTree parse) editor.buffer.lines with
      | none =>
          rcases either.mp found with ⟨record, misfit⟩
          simp only [misfit, List.length_cons]
          omega
      | some origin =>
          cases misfit : issue.misfit? (editor.shownTree parse) editor.buffer.lines with
          | none => simp only [List.length_cons]; omega
          | some record => cases found.symm.trans (either.mpr ⟨record, misfit⟩)

end Selection

namespace Extraction

variable {parse : Editor.Parser} {pattern : Pattern} {filePath : Option String}
  {meanwhile : Selection → Editor → Editor} {editor : Editor} {report : String}
  {issues : List Issue}

/-- An extraction selects among the issues and gives the selected ones their ranges. -/
theorem run_of_parse (parsed : Issue.parse pattern { filePath } report = .ok issues) :
    run parse pattern filePath meanwhile editor report = .ok
      (let selection := Selection.ofIssues editor.buffer.lines issues
      let anchored := Selection.anchor parse (meanwhile selection editor) selection.kept
      ⟨anchored.1, selection.log ++ anchored.2.1, anchored.2.2⟩) := by
  rw [run, parsed]
  rfl

end Extraction

end LintBridge
