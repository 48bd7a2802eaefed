import LintBridge.Command
import LintBridge.Proofs.Issue.LinePattern
import LintBridge.Proofs.Text.Integer
import LintBridge.Proofs.Text.Lines

/-!
# Reports are read back

The analyzer is handed a template for the lines of its report, and the report is
read by the line pattern. Whatever the analyzer finds is read as it was found, and
the other lines of a report are passed over.
-/

namespace LintBridge

namespace Report

open Pattern (onlyIf)

/-- What the analyzer finds. -/
structure Finding where
  line : Nat
  column : Nat
  category : String
  messageId : String
  message : String
  line_short : (Nat.toDigits 10 line).length ≤ Text.maxDigits
  column_short : (Nat.toDigits 10 column).length ≤ Text.maxDigits
  category_isRun : CharClass.word.IsRun category.toList
  messageId_isRule : Issue.IsRule messageId.toList
  message_isLine : '\n' ∉ message.toList

/-- What else the analyzer may write on a line: anything without a heading in it. -/
structure Remark where
  text : List Char
  isLine : '\n' ∉ text
  quiet : ∀ heading : Issue.Heading, ¬ heading.text <:+: text

/-- What stands on a line of a report. -/
inductive Content where
  | finding (finding : Finding)
  | remark (remark : Remark)

/-- A line of a report, ended by a line feed with or without a carriage return. -/
structure Line where
  content : Content
  returned : Bool

/-- Put values in the places of the fields of a template, whose names stand in
braces. The name of an open field is kept in reverse. -/
def fillFields (value : String → List Char) : Option (List Char) → List Char → List Char
  | _, [] => []
  | none, c :: rest =>
      if c = '\x7b' then fillFields value (some []) rest
      else c :: fillFields value none rest
  | some name, c :: rest =>
      if c = '\x7d' then value (String.ofList name.reverse) ++ fillFields value none rest
      else fillFields value (some (c :: name)) rest

namespace Finding

/-- What a finding has to say in a field. -/
def field (finding : Finding) (name : String) : List Char :=
  if name = "line" then Nat.toDigits 10 finding.line
  else if name = "column" then Nat.toDigits 10 finding.column
  else if name = "category" then finding.category.toList
  else if name = "msg_id" then finding.messageId.toList
  else []

/-- A finding in the form of a template. The fields in front of the first colon are
filled in, and the message takes the place of what stands between that colon and
the last character. -/
def render (template : List Char) (finding : Finding) : List Char :=
  fillFields finding.field none (template.takeWhile (· != ':')) ++
    ':' :: (finding.message.toList ++ template.getLast?.toList)

/-- The issue that a finding is. -/
def issue (filePath : Option String) (finding : Finding) : Issue :=
  let place : Position := ⟨some (max ((finding.line : Int) - 1) 0),
    max ((finding.column : Int) - 1) 0⟩
  { line := some finding.line
    column := some finding.column
    category := some finding.category
    message := some finding.message
    ruleId := some finding.messageId
    filePath
    range := ⟨place, place⟩ }

end Finding

/-- The argument that hands a line template to the analyzer. -/
def templateArgument : List Char :=
  "--msg-template=".toList

/-- The line template among the arguments of the analyzer. -/
def template (arguments : List String) : List Char :=
  (arguments.findSome? fun argument =>
    if templateArgument.isPrefixOf argument.toList then
      some (argument.toList.drop templateArgument.length)
    else none).getD []

/-- A line as it is written, without the line feed. -/
def Line.text (template : List Char) (line : Line) : List Char :=
  (match line.content with
    | .finding finding => finding.render template
    | .remark remark => remark.text) ++ onlyIf line.returned '\r'

/-- The report of an analyzer that is called with some arguments. -/
def write (arguments : List String) (lines : List Line) : String :=
  String.ofList (lines.flatMap fun line => line.text (template arguments) ++ ['\n'])

/-- The issue that a line of a report is about. -/
def Line.issue? (filePath : Option String) (line : Line) : Option Issue :=
  match line.content with
  | .finding finding => some (finding.issue filePath)
  | .remark _ => none

/-! ## The template -/

/-- The fields in front of the message. -/
def leadingFields : List Char :=
  (Command.fieldReference "line").toList ++ ',' ::
    ((Command.fieldReference "column").toList ++ ',' ::
      ((Command.fieldReference "category").toList ++ ',' ::
        (Command.fieldReference "msg_id").toList))

/-- An open field ends at its closing brace. -/
theorem fillFields_some (value : String → List Char) (read name rest : List Char)
    (closed : '\x7d' ∉ name) :
    fillFields value (some read) (name ++ '\x7d' :: rest) =
      value (String.ofList (read.reverse ++ name)) ++ fillFields value none rest := by
  induction name generalizing read with
  | nil => simp [fillFields]
  | cons c name further =>
      rw [List.mem_cons, not_or] at closed
      rw [List.cons_append, fillFields, if_neg fun equal => closed.1 equal.symm,
        further (c :: read) closed.2, List.reverse_cons, List.append_assoc]
      rfl

theorem fillFields_reference (value : String → List Char) (name : String)
    (rest : List Char) (closed : '\x7d' ∉ name.toList) :
    fillFields value none ((Command.fieldReference name).toList ++ rest) =
      value name ++ fillFields value none rest := by
  have written : (Command.fieldReference name).toList ++ rest =
      '\x7b' :: (name.toList ++ '\x7d' :: rest) := by
    simp [Command.fieldReference]
  rw [written, fillFields, if_pos rfl, fillFields_some value [] _ rest closed]
  simp

theorem fillFields_plain (value : String → List Char) {c : Char} (rest : List Char)
    (different : c ≠ '\x7b') :
    fillFields value none (c :: rest) = c :: fillFields value none rest := by
  rw [fillFields, if_neg different]

theorem toList_lineTemplate (format : String) :
    (Command.lineTemplate format).toList =
      '\'' :: leadingFields ++ ':' :: (Command.messageFormat format).toList ++ ['\''] := by
  have fields : (",".intercalate (Command.leadingFields.map Command.fieldReference)).toList =
      leadingFields := by
    decide +kernel
  simp only [Command.lineTemplate, String.toList_append, fields]
  simp

theorem takeWhile_lineTemplate (format : String) :
    (Command.lineTemplate format).toList.takeWhile (· != ':') = '\'' :: leadingFields := by
  have noColon : ∀ c ∈ '\'' :: leadingFields, (c != ':') = true :=
    List.all_eq_true.mp (by decide +kernel)
  rw [toList_lineTemplate, List.append_assoc, List.takeWhile_append_of_pos noColon,
    List.cons_append, List.cons_append, List.takeWhile_cons_of_neg (by decide), List.append_nil]

theorem template_argumentsFor (settings : Settings) (directories : Directories) :
    template (Command.argumentsFor settings directories) =
      (Command.lineTemplate settings.messageFormat).toList := by
  have first : ("--msg-template=" ++ Command.lineTemplate settings.messageFormat).toList =
      templateArgument ++ (Command.lineTemplate settings.messageFormat).toList :=
    String.toList_append
  rw [template, Command.argumentsFor, List.cons_append, List.findSome?_cons, first,
    if_pos (List.isPrefixOf_iff_prefix.mpr (List.prefix_append _ _)), List.drop_left]
  rfl

theorem isRun_toDigits (n : Nat) : CharClass.digit.IsRun (Nat.toDigits 10 n) := by
  refine ⟨Nat.toDigits_ne_nil, ?_⟩
  intro c member
  apply Text.isDecimalDigit_of_isDigit
  exact Nat.isDigit_of_mem_toDigits (by decide) (by decide) member

namespace Finding

/-- The heading of the line that a finding is written on. -/
def heading (finding : Finding) : Issue.Heading where
  line := Nat.toDigits 10 finding.line
  column := Nat.toDigits 10 finding.column
  category := finding.category.toList
  rule := finding.messageId.toList
  line_isRun := isRun_toDigits finding.line
  column_isRun := isRun_toDigits finding.column
  category_isRun := finding.category_isRun
  rule_isRule := finding.messageId_isRule

/-- What a finding says on a line of its own. -/
def statement (finding : Finding) (returned : Bool) : Issue.Statement where
  quoted := true
  heading := finding.heading
  message := finding.message.toList
  returned := returned
  message_isLine := by
    intro c member
    rw [CharClass.holds, bne_iff_ne]
    intro feed
    exact finding.message_isLine (feed ▸ member)

/-- The fields in front of the message make up the heading, but for its colon. -/
theorem fillFields_leadingFields (finding : Finding) :
    fillFields finding.field none leadingFields ++ [':'] = finding.heading.text := by
  have last := fillFields_reference finding.field "msg_id" [] (by decide)
  rw [List.append_nil] at last
  rw [leadingFields, fillFields_reference _ _ _ (by decide), fillFields_plain _ _ (by decide),
    fillFields_reference _ _ _ (by decide), fillFields_plain _ _ (by decide),
    fillFields_reference _ _ _ (by decide), fillFields_plain _ _ (by decide), last]
  simp [field, heading, fillFields, Issue.Heading.text]

/-- A finding in the form of a line template is a quoted line with its parts. -/
theorem render_lineTemplate (format : String) (finding : Finding) (returned : Bool) :
    finding.render (Command.lineTemplate format).toList ++ onlyIf returned '\r' =
      (finding.statement returned).text := by
  have quote : onlyIf true '\'' = ['\''] := rfl
  rw [render, takeWhile_lineTemplate, fillFields_plain _ _ (by decide), toList_lineTemplate,
    List.getLast?_concat]
  simp [Issue.Statement.text, Issue.Statement.quote, Issue.Statement.ending, statement,
    ← fillFields_leadingFields, quote]

/-- The statement of a finding makes the issue that the finding is. -/
theorem issue_statement (filePath : Option String) (finding : Finding) (returned : Bool) :
    (finding.statement returned).issue { filePath } = finding.issue filePath := by
  have line := Text.readInteger?_toDigits finding.line_short
  have column := Text.readInteger?_toDigits finding.column_short
  simp [Issue.Statement.issue, statement, heading, line, column, issue, Issue.reduce]

end Finding

/-! ## Reading reports -/

/-- A remark states nothing, with or without a carriage return behind it. -/
theorem Remark.ofLine?_eq_none (remark : Remark) (options : Issue.ReportOptions)
    (returned : Bool) :
    Issue.ofLine? Issue.linePattern options (remark.text ++ onlyIf returned '\r') = none := by
  apply Issue.ofLine?_eq_none
  intro heading part
  cases returned with
  | false =>
      rw [show onlyIf false '\r' = [] from rfl, List.append_nil] at part
      exact remark.quiet heading part
  | true =>
      rcases List.infix_concat_iff.mp part with suffix | part
      · rcases List.suffix_concat_iff.mp suffix with nothing | ⟨front, equal, _⟩
        · exact remark.quiet heading (nothing ▸ List.nil_infix)
        · refine heading.notMem_text (Or.inr rfl) ?_
          rw [equal]
          simp
      · exact remark.quiet heading part

namespace Line

theorem notMem_text (format : String) (line : Line) :
    '\n' ∉ line.text (Command.lineTemplate format).toList := by
  rcases line with ⟨content, returned⟩
  cases content with
  | finding finding =>
      rw [text, finding.render_lineTemplate]
      exact (finding.statement returned).notMem_text
  | remark remark =>
      rw [text, List.mem_append, not_or]
      refine ⟨remark.isLine, ?_⟩
      cases returned with
      | true => exact (by decide : '\n' ∉ onlyIf true '\r')
      | false => exact List.not_mem_nil

/-- A line is read as what stands on it. -/
theorem ofLine?_text (format : String) (filePath : Option String) (line : Line) :
    Issue.ofLine? Issue.linePattern { filePath }
        (line.text (Command.lineTemplate format).toList) =
      line.issue? filePath := by
  rcases line with ⟨content, returned⟩
  cases content with
  | finding finding =>
      rw [text, finding.render_lineTemplate, (finding.statement returned).ofLine?_text rfl,
        finding.issue_statement]
      rfl
  | remark remark => exact remark.ofLine?_eq_none _ returned

end Line

/-- A report that is written by the template in the arguments of the analyzer is read
back: every finding as it was found, in order, and nothing else. -/
theorem parse_write (settings : Settings) (directories : Directories)
    (filePath : Option String) (lines : List Line) :
    Issue.parse Issue.linePattern { filePath }
        (write (Command.argumentsFor settings directories) lines) =
      .ok (lines.filterMap (·.issue? filePath)) := by
  have end_quiet : Issue.ofLine? Issue.linePattern { filePath } [] = none := by
    apply Issue.ofLine?_eq_none
    intro heading part
    have nothing := List.infix_nil.mp part
    simp [Issue.Heading.text] at nothing
  rw [Issue.parse, Issue.missingGroups_linePattern]
  refine congrArg Except.ok ?_
  rw [Issue.ofReport, write, template_argumentsFor, String.toList_ofList,
    Text.splitAtChar_flatMap _ lines fun line _ => line.notMem_text _, List.filterMap_append,
    List.filterMap_map, List.filterMap_cons_none end_quiet, List.filterMap_nil, List.append_nil]
  apply List.filterMap_congr
  intro line _
  exact line.ofLine?_text settings.messageFormat filePath

/-- A finding whose message has quotes at its ends and looks like another finding. -/
def misleading : Finding where
  line := 0
  column := 12
  category := "error"
  messageId := "E0001"
  message := "','1,2,error,E1:x'\r'"
  line_short := by decide
  column_short := by decide
  category_isRun := by decide +kernel
  messageId_isRule := by decide +kernel
  message_isLine := by decide

example : (Issue.parse Issue.linePattern {} (write
    (Command.argumentsFor .defaults ⟨"/p/a", "/p"⟩)
    [⟨.finding misleading, true⟩])).toOption = some [misleading.issue none] := by
  decide +kernel

end Report

end LintBridge
