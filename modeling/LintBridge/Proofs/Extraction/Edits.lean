import LintBridge.Proofs.Editor.Use
import LintBridge.Proofs.Extraction.Origins
import LintBridge.Syntax.Parse

/-!
# Edits during an extraction

An edit between selecting the issues and giving them their ranges acts like an
intersection. Of the issues whose ranges are derived from the buffer, those have
diagnostics that point at text before and after the edit, and their ranges are those
in the text after it.
-/

namespace LintBridge

/-- Whether an issue that is shown gets its range from the buffer and points at text of
two buffers. -/
def Issue.pointsIntoBoth (lines others : List Line) (issue : Issue) : Bool :=
  decide (issue.category ≠ some infoCategory) && issue.isRemappable &&
    issue.isReportable lines && issue.isReportable others

namespace Selection

variable (parse : Editor.Parser) (editor : Editor) {issues : List Issue}

/-- Selecting among the issues first, or among the diagnostics by their issues later,
comes to the same. -/
theorem filter_origins (select : Issue → Bool) :
    (origins parse editor issues).filter (select ·.1) =
      origins parse editor (issues.filter select) := by
  rw [origins_eq, origins_eq, List.filter_filterMap, List.filterMap_filter]
  congr 1
  funext issue
  cases answer : issue.anchored? (editor.shownTree parse) editor.buffer.lines with
  | none => simp [Issue.origin?, answer]
  | some diagnostic => simp [Issue.origin?, answer, Option.filter]

theorem origins_congr {editor other : Editor} (lines : editor.buffer.lines = other.buffer.lines)
    (tree : editor.shownTree parse = other.shownTree parse) :
    origins parse editor issues = origins parse other issues := by
  rw [origins_eq, origins_eq, lines, tree]

theorem isSome_origin?_of_mem_origins {origin : Issue × Diagnostic}
    (member : origin ∈ origins parse editor issues) :
    origin.1 ∈ issues ∧
      (origin.1.origin? (editor.shownTree parse) editor.buffer.lines).isSome = true := by
  have found : origin.1 ∈ (origins parse editor issues).map (·.1) := List.mem_map_of_mem member
  rw [map_fst_origins] at found
  exact List.mem_filter.mp found

/-- Among issues whose ranges are derived from the buffer, those have diagnostics that
point at text of the buffer. -/
theorem origins_of_remappable
    (remappable : ∀ issue ∈ issues, issue.isRemappable = true)
    (nonnegative : ∀ issue ∈ issues, 0 ≤ issue.range.start.column) :
    origins parse editor (issues.filter (Issue.isReportable editor.buffer.lines)) =
      origins parse editor issues ∧
    (origins parse editor issues).map (·.1) =
      issues.filter (Issue.isReportable editor.buffer.lines) := by
  have reportable_iff : ∀ issue ∈ issues,
      (issue.origin? (editor.shownTree parse) editor.buffer.lines).isSome =
        issue.isReportable editor.buffer.lines := by
    intro issue member
    rw [Bool.eq_iff_iff, Issue.isSome_origin?_iff (nonnegative issue member)]
    exact ⟨fun given => given (remappable issue member), fun given _ => given⟩
  constructor
  · rw [← filter_origins, List.filter_eq_self]
    intro origin member
    rcases isSome_origin?_of_mem_origins parse editor member with ⟨given, found⟩
    rw [← reportable_iff origin.1 given]
    exact found
  · rw [map_fst_origins]
    exact List.filter_congr reportable_iff

/-- Of the issues that are kept for some rows and whose ranges are derived from the
buffer, those have diagnostics that point at text of the buffer too. -/
theorem origins_kept_of_remappable (lines : List Line)
    (nonnegative : ∀ issue ∈ issues, 0 ≤ issue.range.start.column) :
    (origins parse editor (issues.filter (Issue.isKept lines))).filter (·.1.isRemappable) =
      origins parse editor (issues.filter (Issue.pointsIntoBoth lines editor.buffer.lines)) ∧
    (origins parse editor
        (issues.filter (Issue.pointsIntoBoth lines editor.buffer.lines))).map (·.1) =
      issues.filter (Issue.pointsIntoBoth lines editor.buffer.lines) := by
  let candidates := (issues.filter (Issue.isKept lines)).filter (·.isRemappable)
  have pointing : candidates.filter (Issue.isReportable editor.buffer.lines) =
      issues.filter (Issue.pointsIntoBoth lines editor.buffer.lines) := by
    simp only [candidates, List.filter_filter]
    refine List.filter_congr fun issue _ => ?_
    simp only [Issue.isKept, Issue.pointsIntoBoth]
    ac_rfl
  rcases origins_of_remappable parse editor
      (fun issue (member : issue ∈ candidates) => (List.mem_filter.mp member).2)
      (fun issue member =>
        nonnegative issue (List.mem_filter.mp (List.mem_filter.mp member).1).1) with
    ⟨still, issuesOf⟩
  rw [pointing] at still issuesOf
  rw [filter_origins, still]
  exact ⟨rfl, issuesOf⟩

end Selection

namespace Extraction

/-- The issues of a report that have diagnostics, each with its diagnostic. -/
def origins (parse : Editor.Parser) (pattern : Pattern) (filePath : Option String)
    (meanwhile : Selection → Editor → Editor) (editor : Editor) (report : String) :
    List (Issue × Diagnostic) :=
  match Issue.parse pattern { filePath } report with
  | .error _ => []
  | .ok issues =>
      let selection := Selection.ofIssues editor.buffer.lines issues
      Selection.origins parse (meanwhile selection editor) selection.kept

variable {parse : Editor.Parser} {pattern : Pattern} {filePath : Option String}
  {meanwhile : Selection → Editor → Editor} {editor : Editor} {report : String}
  {issues : List Issue}

theorem origins_of_parse (parsed : Issue.parse pattern { filePath } report = .ok issues) :
    origins parse pattern filePath meanwhile editor report =
      (let selection := Selection.ofIssues editor.buffer.lines issues
      Selection.origins parse (meanwhile selection editor) selection.kept) := by
  rw [origins, parsed]

theorem exists_run_of_parse (parsed : Issue.parse pattern { filePath } report = .ok issues) :
    ∃ extraction, run parse pattern filePath meanwhile editor report = .ok extraction ∧
      extraction.diagnostics =
        (origins parse pattern filePath meanwhile editor report).map (·.2) := by
  rw [origins_of_parse parsed]
  exact ⟨_, run_of_parse parsed, (Selection.map_snd_origins _ _ _).symm⟩

/-- An editor is used in some ways, its issues are selected, it is used again, and then
the issues get their ranges. Of the issues whose ranges are derived from the buffer,
those have diagnostics that are shown and point at text both before and after, and
they have the diagnostics they have if the later text is there throughout. -/
theorem origins_meanwhile (parse : Editor.Parser) (pattern : Pattern)
    (filePath : Option String) (report : String) (issues : List Issue)
    (parsed : Issue.parse pattern { filePath } report = .ok issues)
    (path text : String) (before : List Editor.Use) (between : Selection → List Editor.Use) :
    let editor := ((Editor.ofText path text).useAll parse before).2
    let meanwhile := fun selection (editor : Editor) =>
      (editor.useAll parse (between selection)).2
    let first := editor.buffer.text
    let second := (meanwhile (Selection.ofIssues (rowsOf first) issues) editor).buffer.text
    let edited := origins parse pattern filePath meanwhile editor report
    let whole := origins parse pattern filePath undisturbed (.ofText path second) report
    (∃ extraction, run parse pattern filePath meanwhile editor report = .ok extraction ∧
      extraction.diagnostics = edited.map (·.2)) ∧
    (∃ extraction,
      run parse pattern filePath undisturbed (.ofText path second) report = .ok extraction ∧
      extraction.diagnostics = whole.map (·.2)) ∧
    (edited.filter (·.1.isRemappable)).map (·.1) =
      issues.filter (Issue.pointsIntoBoth (rowsOf first) (rowsOf second)) ∧
    edited.filter (·.1.isRemappable) =
      whole.filter fun origin =>
        origin.1.isRemappable && origin.1.isReportable (rowsOf first) := by
  intro editor meanwhile first second edited whole
  have rows : editor.buffer.lines = rowsOf first := editor.buffer.lines_eq
  let later := meanwhile (Selection.ofIssues (rowsOf first) issues) editor
  have laterRows : later.buffer.lines = rowsOf second := later.buffer.lines_eq
  have laterTree : later.shownTree parse = (Editor.ofText path second).shownTree parse := by
    have fresh : editor.Fresh parse := ((Editor.fresh_ofText parse path text).useAll before).2.2
    have laterFresh : later.Fresh parse := (fresh.useAll (between _)).2.2
    rw [laterFresh.shownTree_eq, (Editor.fresh_ofText parse path second).shownTree_eq]
    exact congrArg parse laterRows
  have editedEq : edited =
      Selection.origins parse later (issues.filter (Issue.isKept (rowsOf first))) := by
    rw [← Selection.kept_ofIssues]
    change origins parse pattern filePath meanwhile editor report = _
    rw [origins_of_parse parsed, rows]
  have wholeEq : whole =
      Selection.origins parse later (issues.filter (Issue.isKept (rowsOf second))) := by
    rw [← Selection.kept_ofIssues, Selection.origins_congr parse laterRows laterTree]
    exact origins_of_parse parsed
  have nonnegative : ∀ issue ∈ issues, 0 ≤ issue.range.start.column := by
    intro issue member
    rw [Issue.eq_ofReport_of_parse parsed] at member
    exact Issue.column_nonneg_of_mem_ofReport member
  rcases Selection.origins_kept_of_remappable parse later (rowsOf first) nonnegative with
    ⟨remappable, issuesOf⟩
  rw [laterRows] at remappable issuesOf
  rw [← remappable, ← editedEq] at issuesOf
  refine ⟨exists_run_of_parse parsed, exists_run_of_parse parsed, issuesOf, ?_⟩
  rw [editedEq, remappable, wholeEq, Selection.filter_origins _ _
    (fun issue => issue.isRemappable && issue.isReportable (rowsOf first)), List.filter_filter]
  congr 1
  refine List.filter_congr fun issue _ => ?_
  simp only [Issue.isKept, Issue.pointsIntoBoth]
  ac_rfl

/-- A report whose issues point at text of one or the other of two buffers, or of both. -/
def scatteredReport : String :=
  "2,3,error,E1:in both\n1,3,error,E2:after the edit\n" ++
    "2,9,error,E3:before the edit\n2,3,info,E4:not shown"

/-- Only what points at text before and after the edit has a diagnostic. -/
theorem origins_meanwhile_scattered :
    Issue.parse Issue.linePattern {} scatteredReport =
      .ok (Issue.ofReport Issue.linePattern {} scatteredReport) ∧
    ((origins Syntax.parseRows Issue.linePattern none
        (fun _ editor => (editor.useAll Syntax.parseRows [.setText "if x:\n  done"]).2)
        (.ofText "/a.py" "a\nbcdefghi") scatteredReport).filter (·.1.isRemappable)).map
        (·.1.message) = [some "in both"] := by
  have parsed : Issue.parse Issue.linePattern {} scatteredReport =
      .ok (Issue.ofReport Issue.linePattern {} scatteredReport) := rfl
  have pointing : ((Issue.ofReport Issue.linePattern {} scatteredReport).filter
      (Issue.pointsIntoBoth (rowsOf "a\nbcdefghi") (rowsOf "if x:\n  done"))).map
        (·.message) = [some "in both"] := by
    decide +kernel
  have issuesOf := (origins_meanwhile Syntax.parseRows Issue.linePattern none scatteredReport _
    parsed "/a.py" "a\nbcdefghi" [] fun _ => [.setText "if x:\n  done"]).2.2.1
  refine ⟨parsed, ?_⟩
  rw [← pointing]
  exact (List.map_map).symm.trans (congrArg (List.map (·.message)) issuesOf)

end Extraction

end LintBridge
