import Mathlib.Data.List.Forall2
import LintBridge.Pattern.Reader
import LintBridge.Proofs.Extraction.Origins
import LintBridge.Syntax.Parse

/-!
# Accounting for issues

No issue of a report is lost without a trace, and no diagnostic is made up. The
issues that are dropped while selecting are counted in one record, the others have
either a diagnostic that says what they say or a record of their own. The latter
happens only if the buffer changes in between.
-/

namespace LintBridge

namespace LogRecord

/-- Whether a record is for developers and begins with a given text. -/
def isDebug (opening : String) (record : LogRecord) : Bool :=
  record.level = .debug && opening.toList.isPrefixOf record.text.toList

theorem isDebug_debug (opening rest : String) :
    (debug (opening ++ rest)).isDebug opening = true := by
  simp [isDebug, debug]

/-- Whether neither of two texts begins with the other. -/
def Apart (opening other : String) : Prop :=
  ¬ (opening.toList <+: other.toList ∨ other.toList <+: opening.toList)

instance (opening other : String) : Decidable (Apart opening other) :=
  inferInstanceAs (Decidable (¬ _))

theorem isDebug_debug_of_apart (opening other : String) (apart : Apart opening other)
    (rest : String) : (debug (other ++ rest)).isDebug opening = false := by
  rw [isDebug, debug, String.toList_append, Bool.and_eq_false_iff]
  refine Or.inr (Bool.eq_false_iff.mpr ?_)
  rw [ne_eq, List.isPrefixOf_iff_prefix]
  intro shared
  exact apart (List.prefix_or_prefix_of_prefix shared (List.prefix_append _ _))

end LogRecord

/-- A diagnostic says what an issue says, and starts where the issue does. -/
structure Diagnostic.Reports (issue : Issue) (diagnostic : Diagnostic) : Prop where
  severity : diagnostic.severity = issue.category
  message : diagnostic.message = issue.message
  ruleId : diagnostic.ruleId = issue.ruleId
  filePath : diagnostic.filePath = issue.filePath
  start : diagnostic.range.start = issue.range.start

namespace Issue

variable {tree : Syntax.Tree} {lines : List Line} {issue : Issue}

/-- Getting a range changes nothing but the end of an issue. -/
theorem reports_of_remap {remapped : Issue} (answer : issue.remap tree lines = .ok remapped) :
    Diagnostic.Reports issue (.ofIssue remapped) := by
  rw [remap] at answer
  split at answer
  · cases expanded : expand tree lines issue.range.start.line
        (some issue.range.start.column) with
    | error fault =>
        rw [expanded] at answer
        cases answer
    | ok range =>
        rw [expanded] at answer
        cases answer
        exact ⟨rfl, rfl, rfl, rfl, (expand_column_anchored expanded).2⟩
  · cases answer
    exact ⟨rfl, rfl, rfl, rfl, rfl⟩

theorem reports_of_anchored? {diagnostic : Diagnostic}
    (answer : issue.anchored? tree lines = some diagnostic) :
    Diagnostic.Reports issue diagnostic := by
  rw [anchored?] at answer
  cases remapped : issue.remap tree lines with
  | error fault =>
      rw [remapped] at answer
      cases answer
  | ok changed =>
      rw [remapped] at answer
      cases answer
      exact reports_of_remap remapped

theorem reports_of_origin? {origin : Issue × Diagnostic}
    (answer : issue.origin? tree lines = some origin) :
    Diagnostic.Reports origin.1 origin.2 := by
  obtain ⟨diagnostic, anchored, rfl⟩ := Option.map_eq_some_iff.mp answer
  exact reports_of_anchored? anchored

end Issue

namespace Selection

/-- How the record of how many issues were dropped begins. -/
def summaryOpening : String := "Dropped "

/-- How the records of issues begin that do not point at text of the buffer. -/
def droppingOpenings : List String :=
  ["Dropping issue without a location: ", "Dropping issue on missing line "]

theorem exists_opening_of_mem_inspect {lines : List Line} {issue : Issue} {record : LogRecord}
    (member : record ∈ (issue.inspect lines).2) :
    ∃ opening ∈ droppingOpenings, ∃ rest, record = .debug (opening ++ rest) := by
  rw [Issue.inspect] at member
  split at member
  · rw [List.mem_singleton] at member
    exact ⟨_, List.mem_cons_self, Diagnostic.shownText issue.message, member⟩
  · rename_i row _
    split at member
    · rw [List.mem_singleton] at member
      refine ⟨_, List.mem_cons_of_mem _ List.mem_cons_self,
        toString row ++ ": " ++ Diagnostic.shownText issue.message, ?_⟩
      rw [member, ← String.append_assoc, ← String.append_assoc]
      rfl
    · cases member

/-- While selecting, only issues that do not point at text of the buffer are logged. -/
theorem exists_opening_of_mem_keep {lines : List Line} {issues : List Issue}
    {record : LogRecord} (member : record ∈ (keep lines issues).2) :
    ∃ opening ∈ droppingOpenings, ∃ rest, record = .debug (opening ++ rest) := by
  induction issues with
  | nil => cases member
  | cons issue issues ih =>
      rw [keep] at member
      dsimp only at member
      split at member
      · exact ih member
      · rcases List.mem_append.mp member with found | later
        · exact exists_opening_of_mem_inspect found
        · exact ih later

theorem isDebug_eq_false_of_mem_keep {lines : List Line} {issues : List Issue}
    {record : LogRecord} {opening : String}
    (apart : ∀ other ∈ droppingOpenings, LogRecord.Apart opening other)
    (member : record ∈ (keep lines issues).2) : record.isDebug opening = false := by
  rcases exists_opening_of_mem_keep member with ⟨other, known, rest, rfl⟩
  exact LogRecord.isDebug_debug_of_apart opening other (apart other known) rest

/-- The record of how many issues were dropped, if any were. -/
def summary (selection : Selection) : List LogRecord :=
  if selection.dropped = 0 then []
  else [.debug s!"Dropped {selection.dropped} of {selection.total} issues"]

theorem total_ofIssues (lines : List Line) (issues : List Issue) :
    (ofIssues lines issues).total = issues.length := rfl

theorem length_kept_le_total (lines : List Line) (issues : List Issue) :
    (ofIssues lines issues).kept.length ≤ (ofIssues lines issues).total := by
  rw [kept_ofIssues, total_ofIssues]
  exact List.length_filter_le _ _

theorem dropped_add_length_kept (lines : List Line) (issues : List Issue) :
    (ofIssues lines issues).dropped + (ofIssues lines issues).kept.length = issues.length :=
  Nat.sub_add_cancel (length_kept_le_total lines issues)

theorem log_ofIssues (lines : List Line) (issues : List Issue) :
    (ofIssues lines issues).log = (keep lines issues).2 ++ (ofIssues lines issues).summary := by
  have bounded := length_kept_le_total lines issues
  have counted : (ofIssues lines issues).dropped = 0 ↔
      (keep lines issues).1.length = issues.length := by
    change (keep lines issues).1.length ≤ issues.length at bounded
    change issues.length - (keep lines issues).1.length = 0 ↔ _
    omega
  rw [summary]
  by_cases all : (keep lines issues).1.length = issues.length
  · rw [if_pos (counted.mpr all)]
    simp [ofIssues, all]
  · rw [if_neg (mt counted.mp all)]
    simp [ofIssues, all, dropped]

/-- Selecting writes one record that counts the dropped issues, if there are any. -/
theorem filter_summary_log_ofIssues (lines : List Line) (issues : List Issue) :
    (ofIssues lines issues).log.filter (·.isDebug summaryOpening) =
      (ofIssues lines issues).summary := by
  have none_kept : (keep lines issues).2.filter (·.isDebug summaryOpening) = [] := by
    rw [List.filter_eq_nil_iff]
    intro record member
    rw [isDebug_eq_false_of_mem_keep (by decide) member]
    exact Bool.false_ne_true
  rw [log_ofIssues, List.filter_append, none_kept, List.nil_append, summary]
  split
  · rfl
  · rename_i some_dropped
    rw [List.filter_cons_of_pos]
    · rfl
    · rw [String.append_assoc, String.append_assoc, String.append_assoc]
      exact LogRecord.isDebug_debug summaryOpening _

theorem countP_misfit_log_ofIssues (lines : List Line) (issues : List Issue) :
    (ofIssues lines issues).log.countP (·.isDebug Issue.misfitOpening) = 0 := by
  rw [List.countP_eq_zero, log_ofIssues]
  intro record member
  rw [Bool.not_eq_true]
  rcases List.mem_append.mp member with kept | counted
  · exact isDebug_eq_false_of_mem_keep (by decide) kept
  · rw [summary] at counted
    split at counted
    · cases counted
    · rw [List.mem_singleton.mp counted, String.append_assoc, String.append_assoc,
        String.append_assoc]
      exact LogRecord.isDebug_debug_of_apart _ "Dropped " (by decide) _

theorem exists_rest_of_mem_misfits {tree : Syntax.Tree} {lines : List Line}
    {issues : List Issue} {record : LogRecord}
    (member : record ∈ issues.filterMap (Issue.misfit? tree lines)) :
    ∃ rest, record = .debug (Issue.misfitOpening ++ rest) := by
  rcases List.mem_filterMap.mp member with ⟨issue, _, misfit⟩
  rw [Issue.misfit?] at misfit
  split at misfit
  · cases misfit
  · exact ⟨_, (Option.some.inj misfit).symm⟩

theorem countP_misfit_log_anchor (parse : Editor.Parser) (editor : Editor)
    (issues : List Issue) :
    (anchor parse editor issues).2.1.countP (·.isDebug Issue.misfitOpening) =
      (anchor parse editor issues).2.1.length := by
  rw [List.countP_eq_length, (anchor_spec parse editor issues).2.1]
  intro record member
  rcases exists_rest_of_mem_misfits member with ⟨rest, rfl⟩
  exact LogRecord.isDebug_debug Issue.misfitOpening rest

theorem filter_summary_log_anchor (parse : Editor.Parser) (editor : Editor)
    (issues : List Issue) :
    (anchor parse editor issues).2.1.filter (·.isDebug summaryOpening) = [] := by
  rw [List.filter_eq_nil_iff, (anchor_spec parse editor issues).2.1]
  intro record member
  rcases exists_rest_of_mem_misfits member with ⟨rest, rfl⟩
  rw [LogRecord.isDebug_debug_of_apart _ _ (by decide)]
  exact Bool.false_ne_true

end Selection

namespace Extraction

variable {parse : Editor.Parser} {pattern : Pattern} {filePath : Option String}
  {meanwhile : Selection → Editor → Editor} {editor : Editor} {report : String}
  {issues : List Issue}

/-- If the later buffer has the same rows, every selected issue gets a range. -/
theorem map_fst_origins_of_same_lines {later : Editor}
    (parsed : Issue.parse pattern { filePath } report = .ok issues)
    (same : later.buffer.lines = editor.buffer.lines) :
    (Selection.origins parse later (Selection.ofIssues editor.buffer.lines issues).kept).map
      (·.1) = (Selection.ofIssues editor.buffer.lines issues).kept := by
  rw [Selection.map_fst_origins, List.filter_eq_self, Selection.kept_ofIssues,
    Issue.eq_ofReport_of_parse parsed, same]
  intro issue member
  rcases List.mem_filter.mp member with ⟨reported, kept⟩
  rw [Issue.isSome_origin?_iff (Issue.column_nonneg_of_mem_ofReport reported)]
  rw [Issue.isKept, Bool.and_eq_true] at kept
  intro _
  exact kept.2

/-- The issues of a report are the dropped ones, those with a diagnostic, and those with
a record of their own. The diagnostics say in order what their issues say, and one
record counts the dropped issues. If the text does not change in between, every
selected issue has its diagnostic. -/
theorem run_accounts (parse : Editor.Parser) (pattern : Pattern) (filePath : Option String)
    (meanwhile : Selection → Editor → Editor) (editor : Editor) (report : String)
    (issues : List Issue) (parsed : Issue.parse pattern { filePath } report = .ok issues) :
    let selection := Selection.ofIssues editor.buffer.lines issues
    ∃ extraction chosen,
      run parse pattern filePath meanwhile editor report = .ok extraction ∧
      selection.kept.Sublist issues ∧ chosen.Sublist selection.kept ∧
      List.Forall₂ Diagnostic.Reports chosen extraction.diagnostics ∧
      issues.length = selection.dropped + extraction.diagnostics.length +
        extraction.log.countP (·.isDebug Issue.misfitOpening) ∧
      extraction.log.filter (·.isDebug Selection.summaryOpening) =
        (if selection.dropped = 0 then []
          else [.debug s!"Dropped {selection.dropped} of {issues.length} issues"]) ∧
      ((meanwhile selection editor).buffer.text = editor.buffer.text →
        extraction.log.countP (·.isDebug Issue.misfitOpening) = 0 ∧
          chosen = selection.kept) := by
  intro selection
  let later := meanwhile selection editor
  let origins := Selection.origins parse later selection.kept
  let anchored := Selection.anchor parse later selection.kept
  have said : origins.map (·.2) = anchored.1 := Selection.map_snd_origins parse later _
  have misfits : (selection.log ++ anchored.2.1).countP (·.isDebug Issue.misfitOpening) =
      anchored.2.1.length := by
    rw [List.countP_append, Selection.countP_misfit_log_ofIssues,
      Selection.countP_misfit_log_anchor, Nat.zero_add]
  have anchoredAll : anchored.1.length + anchored.2.1.length = selection.kept.length := by
    rw [← said, List.length_map]
    exact Selection.length_origins_add_length_log parse later _
  refine ⟨_, origins.map (·.1), run_of_parse parsed, ?_, ?_, ?_, ?_, ?_, ?_⟩
  · rw [Selection.kept_ofIssues]
    exact List.filter_sublist
  · rw [Selection.map_fst_origins]
    exact List.filter_sublist
  · change List.Forall₂ Diagnostic.Reports (origins.map (·.1)) anchored.1
    rw [← said, List.forall₂_map_left_iff, List.forall₂_map_right_iff, List.forall₂_same]
    intro origin member
    change origin ∈ Selection.origins parse later selection.kept at member
    rw [Selection.origins_eq] at member
    rcases List.mem_filterMap.mp member with ⟨issue, _, answer⟩
    exact Issue.reports_of_origin? answer
  · change issues.length = selection.dropped + anchored.1.length + _
    rw [misfits, Nat.add_assoc, anchoredAll]
    exact (Selection.dropped_add_length_kept editor.buffer.lines issues).symm
  · change (selection.log ++ anchored.2.1).filter _ = _
    rw [List.filter_append, Selection.filter_summary_log_anchor, List.append_nil]
    exact Selection.filter_summary_log_ofIssues editor.buffer.lines issues
  · intro sameText
    have same : later.buffer.lines = editor.buffer.lines := by
      rw [later.buffer.lines_eq, sameText, editor.buffer.lines_eq]
    have chosen : origins.map (·.1) = selection.kept :=
      map_fst_origins_of_same_lines parsed same
    refine ⟨?_, chosen⟩
    have counted := congrArg List.length chosen
    have diagnosed := congrArg List.length said
    rw [List.length_map] at counted diagnosed
    change (selection.log ++ anchored.2.1).countP _ = 0
    rw [misfits]
    omega

/-- A report with an issue that is kept, one that an edit removes, and one below the
text. -/
def mixedReport : String :=
  "1,1,error,E1:kept\n2,1,error,E2:removed\n9,1,error,E3:below"

/-- One of the three issues is dropped, and the log says so. -/
theorem run_accounts_mixed :
    Issue.parse Issue.linePattern {} mixedReport =
      .ok (Issue.ofReport Issue.linePattern {} mixedReport) ∧
    ∃ extraction,
      run Syntax.parseRows Issue.linePattern none (editedOnDrop "a") (.ofText "/a.py" "a\nb")
        mixedReport = .ok extraction ∧
      3 = 1 + extraction.diagnostics.length +
        extraction.log.countP (·.isDebug Issue.misfitOpening) ∧
      extraction.log.filter (·.isDebug Selection.summaryOpening) =
        [.debug "Dropped 1 of 3 issues"] := by
  have parsed : Issue.parse Issue.linePattern {} mixedReport =
      .ok (Issue.ofReport Issue.linePattern {} mixedReport) := rfl
  have three : (Issue.ofReport Issue.linePattern {} mixedReport).length = 3 := by
    decide +kernel
  have one : (Selection.ofIssues (Editor.ofText "/a.py" "a\nb").buffer.lines
      (Issue.ofReport Issue.linePattern {} mixedReport)).dropped = 1 := by
    decide +kernel
  rcases run_accounts Syntax.parseRows Issue.linePattern none (editedOnDrop "a")
      (.ofText "/a.py" "a\nb") mixedReport _ parsed with
    ⟨extraction, _, ran, _, _, _, counted, summary, _⟩
  rw [three, one] at counted
  rw [three, one] at summary
  exact ⟨parsed, extraction, ran, counted, summary⟩

end Extraction

end LintBridge
