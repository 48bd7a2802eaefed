import LintBridge.Proofs.Extraction.Accounting
import LintBridge.Proofs.Extraction.Anchoring
import LintBridge.Proofs.Issue.Grammar
import LintBridge.Syntax.Parse

/-!
# Displayed positions

A diagnostic is shown at the line and the column that the tool has stated. They are counted
from zero while the range of the issue is looked for, and from one again when it is shown.
-/

namespace LintBridge

namespace Diagnostic

/-- A message at a place of a file, as it is shown. -/
def shownAt (filePath : Option String) (line column : Int) (category message : String) : String :=
  s!"{shownText filePath}:{line}:{column}: {category}: {message}"

theorem text?_eq (diagnostic : Diagnostic) :
    diagnostic.text? = diagnostic.range.start.line.map fun row =>
      shownAt diagnostic.filePath (row + 1) (diagnostic.range.start.column + 1)
        (shownText diagnostic.severity) (shownText diagnostic.message) := by
  simp [text?, shownAt, String.append_assoc]

/-- A diagnostic shows what the groups of a match hold: the line and the column, each of them
one at least, the category and the message. A column with too many digits is not read, and
shown like a missing one. -/
def Shows (filePath : Option String) (captures : Pattern.Captures) (diagnostic : Diagnostic) :
    Prop :=
  ∃ (heading : Issue.Heading) (line : Int) (message : List Char),
    heading.IsHeldBy captures ∧ Issue.fieldNumber heading.line = some line ∧
      captures.text? "message" = some message ∧
      diagnostic.text? = some (shownAt filePath (max line 1)
        (max ((Issue.fieldNumber heading.column).getD 0) 1)
        (String.ofList heading.category) (String.ofList message))

end Diagnostic

namespace Issue

open Pattern

/-! ## Counting from zero and from one -/

theorem reduce_one_add_one (number : Int) : max (number - 1) 0 + 1 = max number 1 := by
  omega

theorem getD_reduce_one_add_one (number? : Option Int) :
    (reduce 1 number?).getD 0 + 1 = max (number?.getD 0) 1 := by
  cases number? with
  | none => rfl
  | some number => exact reduce_one_add_one number

/-! ## The diagnostic of a line -/

variable {tree : Syntax.Tree} {lines : List Line} {issue : Issue} {diagnostic : Diagnostic}

theorem exists_line_of_isKept (kept : issue.isKept lines = true) :
    ∃ row, issue.range.start.line = some row := by
  rw [isKept, Bool.and_eq_true, isReportable_iff] at kept
  obtain ⟨row, -, start, -⟩ := kept.2
  exact ⟨row, start⟩

theorem text?_of_reports (reports : Diagnostic.Reports issue diagnostic) :
    diagnostic.text? = issue.range.start.line.map fun row =>
      Diagnostic.shownAt issue.filePath (row + 1) (issue.range.start.column + 1)
        (Diagnostic.shownText issue.category) (Diagnostic.shownText issue.message) := by
  rw [Diagnostic.text?_eq, reports.start, reports.filePath, reports.severity, reports.message]

theorem Statement.text?_message_captures (statement : Statement) {rest : List Char} :
    (statement.captures rest).text? "message" = some statement.message := by
  simp [captures, Captures.text?_cons]

/-- The issue of a statement is shown with the numbers of the statement. -/
theorem Statement.shows_of_reports {statement : Statement} {filePath : Option String}
    {rest : List Char} (reports : Diagnostic.Reports (statement.issue { filePath }) diagnostic)
    (kept : (statement.issue { filePath }).isKept lines = true) :
    diagnostic.Shows filePath (statement.captures rest) := by
  obtain ⟨row, start⟩ := exists_line_of_isKept kept
  have place : reduce 1 (fieldNumber statement.heading.line) = some row := by
    rw [← readInteger?_of_isRun statement.heading.line_isRun]
    exact start
  obtain ⟨line, number, rfl⟩ := Option.map_eq_some_iff.mp place
  refine ⟨statement.heading, line, statement.message, statement.isHeldBy_captures, number,
    statement.text?_message_captures, ?_⟩
  rw [text?_of_reports reports, start, Option.map_some, reduce_one_add_one,
    ← readInteger?_of_isRun statement.heading.column_isRun, ← getD_reduce_one_add_one]
  rfl

/-- The diagnostic that a line of a report yields, if the issue of the line is kept. -/
def diagnosed? (pattern : Pattern) (filePath : Option String) (tree : Syntax.Tree)
    (lines : List Line) (line : List Char) : Option Diagnostic :=
  ((ofLine? pattern { filePath } line).filter (isKept lines)).bind (anchored? tree lines)

theorem filterMap_diagnosed? (pattern : Pattern) (filePath : Option String)
    (tree : Syntax.Tree) (lines : List Line) (report : String) :
    (Text.splitAtChar '\n' report.toList).filterMap
        (diagnosed? pattern filePath tree lines) =
      ((ofReport pattern { filePath } report).filter (isKept lines)).filterMap
        (anchored? tree lines) := by
  rw [ofReport, List.filter_filterMap, List.filterMap_filterMap]
  rfl

theorem isSome_diagnosed? (pattern : Pattern) (filePath : Option String) (tree : Syntax.Tree)
    (lines : List Line) (line : List Char) :
    (diagnosed? pattern filePath tree lines line).isSome =
      (ofLine? pattern { filePath } line).any (isKept lines) := by
  rw [diagnosed?]
  cases stated : ofLine? pattern { filePath } line with
  | none => rfl
  | some issue =>
      cases kept : issue.isKept lines with
      | false => simp [kept]
      | true =>
          have nonnegative : 0 ≤ issue.range.start.column := column_nonneg_of_ofLine? stated
          have origin : (issue.origin? tree lines).isSome = true :=
            (isSome_origin?_iff nonnegative).mpr fun _ => (Bool.and_eq_true_iff.mp kept).2
          rw [origin?, Option.isSome_map] at origin
          rw [Option.filter_some, if_pos kept, Option.bind_some, Option.any_some, kept, origin]

/-- The diagnostic that a line yields shows what the line pattern finds on the line. -/
theorem shows_of_diagnosed? {filePath : Option String} {line : List Char}
    (yields : diagnosed? linePattern filePath tree lines line = some diagnostic) :
    ∃ captures, linePattern.search line = some captures ∧ diagnostic.Shows filePath captures := by
  obtain ⟨issue, selected, answer⟩ := Option.bind_eq_some_iff.mp yields
  obtain ⟨stated, kept⟩ := Option.filter_eq_some_iff.mp selected
  obtain ⟨captures, found, rfl⟩ := Option.map_eq_some_iff.mp stated
  obtain ⟨statement, rest, -, rfl⟩ := exists_statement_of_search found
  rw [statement.ofCaptures_captures] at kept answer
  exact ⟨_, found, statement.shows_of_reports (reports_of_anchored? answer) kept⟩

end Issue

namespace Extraction

/-- The answers for some members belong to the members that have one, in order. -/
theorem forall₂_filter_filterMap {Member Answer : Type} {answer? : Member → Option Answer}
    (members : List Member) :
    List.Forall₂ (fun member answer => answer? member = some answer)
      (members.filter fun member => (answer? member).isSome) (members.filterMap answer?) := by
  induction members with
  | nil => exact .nil
  | cons first members ih =>
      cases answered : answer? first with
      | none =>
          rw [List.filter_cons_of_neg (by simp [answered]), List.filterMap_cons_none answered]
          exact ih
      | some answer =>
          rw [List.filter_cons_of_pos (by simp [answered]), List.filterMap_cons_some answered]
          exact .cons answered ih

/-- An extraction of an unchanged buffer by the line pattern always has an answer. The lines
whose issues are kept yield one diagnostic each, in order, and each diagnostic is shown at the
line and the column that are stated there. No diagnostic of any extraction is without a text,
whatever the pattern is and happens to the buffer. -/
theorem positions_shown (parse : Editor.Parser) (filePath : Option String) (editor : Editor)
    (report : String) :
    (∃ extraction,
      run parse Issue.linePattern filePath undisturbed editor report = .ok extraction ∧
      List.Forall₂
        (fun line diagnostic => ∃ captures,
          Issue.linePattern.search line = some captures ∧ diagnostic.Shows filePath captures)
        ((Text.splitAtChar '\n' report.toList).filter fun line =>
          (Issue.ofLine? Issue.linePattern { filePath } line).any
            (Issue.isKept editor.buffer.lines))
        extraction.diagnostics) ∧
      ∀ pattern meanwhile extraction,
        run parse pattern filePath meanwhile editor report = .ok extraction →
          ∀ diagnostic ∈ extraction.diagnostics, ∃ text, diagnostic.text? = some text := by
  constructor
  · obtain ⟨extraction, ran, buffer, -⟩ :=
      run_linePattern parse filePath undisturbed editor report
    refine ⟨extraction, ran, ?_⟩
    have diagnostics : extraction.diagnostics =
        (Text.splitAtChar '\n' report.toList).filterMap (Issue.diagnosed? Issue.linePattern
          filePath (editor.shownTree parse) editor.buffer.lines) := by
      rw [Issue.filterMap_diagnosed?, (run_spec ran).1, buffer]
      rfl
    rw [diagnostics]
    simp only [← Issue.isSome_diagnosed? Issue.linePattern filePath (editor.shownTree parse)]
    refine (forall₂_filter_filterMap _).imp ?_
    intro line diagnostic yields
    exact Issue.shows_of_diagnosed? yields
  · intro pattern meanwhile extraction ran diagnostic member
    rw [(run_spec ran).1, List.mem_filterMap] at member
    obtain ⟨issue, selected, answer⟩ := member
    obtain ⟨row, start⟩ := Issue.exists_line_of_isKept (List.mem_filter.mp selected).2
    rw [Issue.text?_of_reports (Issue.reports_of_anchored? answer), start]
    exact ⟨_, rfl⟩

/-- Digits of any script are read, and numbers below one are shown as one. -/
example : ((run Syntax.parseRows Issue.linePattern (some "/a.py") undisturbed
    (.ofText "/a.py" "ab") "'1,٣,error,E1:late'\n'0,0,warning,W2:early'\r\n").toOption.map
      (·.diagnostics.map (·.text?))) =
        some [some "/a.py:1:3: error: late", some "/a.py:1:1: warning: early"] := by
  decide +kernel

/-! ## A column with too many digits -/

theorem isRun_one : CharClass.digit.IsRun ['1'] := by
  decide +kernel

theorem isRun_two : CharClass.digit.IsRun ['2'] := by
  decide +kernel

theorem isRun_error : CharClass.word.IsRun "error".toList := by
  decide +kernel

theorem isRule_first : Issue.IsRule "E1".toList := by
  decide +kernel

theorem isRun_zeros_append (zeros : Nat) {digits : List Char}
    (isRun : CharClass.digit.IsRun digits) :
    CharClass.digit.IsRun (List.replicate zeros '0' ++ digits) := by
  refine ⟨List.append_ne_nil_of_right_ne_nil _ isRun.1, ?_⟩
  intro c member
  rcases List.mem_append.mp member with front | behind
  · rw [List.eq_of_mem_replicate front]
    decide +kernel
  · exact isRun.2 c behind

/-- The heading of an error in the second column, with zeros in front of the column. -/
def padded (zeros : Nat) : Issue.Heading where
  line := ['1']
  column := List.replicate zeros '0' ++ ['2']
  category := "error".toList
  rule := "E1".toList
  line_isRun := isRun_one
  column_isRun := isRun_zeros_append zeros isRun_two
  category_isRun := isRun_error
  rule_isRule := isRule_first

theorem decimalValue_padded (zeros : Nat) : Text.decimalValue (padded zeros).column = 2 := by
  rw [padded, Text.decimalValue_zeros_append]
  decide +kernel

/-- A quoted line with the heading. -/
def paddedStatement (zeros : Nat) : Issue.Statement where
  quoted := true
  heading := padded zeros
  message := "far".toList
  returned := false
  message_isLine := Issue.holds_any_of_notMem (by decide +kernel)

/-- The error as it is read when its column is not. -/
def unplaced : Issue where
  line := some 1
  column := none
  category := some "error"
  message := some "far"
  range := ⟨⟨some 0, 0⟩, ⟨some 0, 0⟩⟩
  ruleId := some "E1"
  filePath := some "/a.py"

/-- A column with too many zeros in front of it is not read. -/
theorem issue_paddedStatement {zeros : Nat} (many : 4300 ≤ zeros) :
    (paddedStatement zeros).issue { filePath := some "/a.py" } = unplaced := by
  have line : Text.readInteger? (padded zeros).line = some 1 := by
    change Text.readInteger? ['1'] = some 1
    decide +kernel
  have column : Text.readInteger? (padded zeros).column = none := by
    have long : ¬ (padded zeros).column.length ≤ 4300 := by
      rw [padded, List.length_append, List.length_replicate, List.length_singleton]
      omega
    rw [Issue.readInteger?_of_isRun (padded zeros).column_isRun, Issue.fieldNumber, if_neg long]
  rw [Issue.Statement.issue, paddedStatement, line, column]
  rfl

/-- An error in the second column is shown in the first one if its column is written with
too many zeros in front. -/
theorem exists_column_shown_as_first :
    ∃ report captures heading message extraction diagnostic,
      Issue.linePattern.search report.toList = some captures ∧
      Issue.Heading.IsHeldBy heading captures ∧ captures.text? "message" = some message ∧
      run Syntax.parseRows Issue.linePattern (some "/a.py") undisturbed (.ofText "/a.py" "ab")
        report = .ok extraction ∧
      extraction.diagnostics = [diagnostic] ∧
      Text.decimalValue heading.column = 2 ∧
      diagnostic.text? = some "/a.py:1:1: error: far" ∧
      diagnostic.text? ≠ some (Diagnostic.shownAt (some "/a.py")
        (max (Text.decimalValue heading.line) 1) (max (Text.decimalValue heading.column) 1)
        (String.ofList heading.category) (String.ofList message)) := by
  let statement := paddedStatement 4300
  have text : (String.ofList statement.text).toList = statement.text := String.toList_ofList
  have isLine : '\n' ∉ (String.ofList statement.text).toList := by
    rw [text]
    exact statement.notMem_text
  have parsed : Issue.parse Issue.linePattern { filePath := some "/a.py" }
      (String.ofList statement.text) = .ok [unplaced] := by
    rw [Issue.parse_of_isLine isLine, text, statement.ofLine?_text rfl,
      issue_paddedStatement (Nat.le_refl 4300), Option.toList_some]
  let diagnostic : Diagnostic :=
    ⟨some "error", some "far", some "/a.py", .ofColumns 0 0 2, some "E1"⟩
  have first : diagnostic.text? = some "/a.py:1:1: error: far" := by decide +kernel
  have column : Text.decimalValue (padded 4300).column = 2 := decimalValue_padded 4300
  have line : Text.decimalValue (padded 4300).line = 1 := by
    change Text.decimalValue ['1'] = 1
    decide +kernel
  refine ⟨String.ofList statement.text, statement.captures [], padded 4300, "far".toList, _,
    diagnostic, ?_, statement.isHeldBy_captures, statement.text?_message_captures,
    run_of_parse parsed, ?_, column, first, ?_⟩
  · rw [text, statement.search_text rfl]
  · decide +kernel
  · rw [first, line, column, padded]
    decide +kernel

end Extraction

end LintBridge
