import LintBridge.Proofs.Issue.LinePattern
import LintBridge.Proofs.Pattern.Search
import LintBridge.Proofs.Text.Integer
import LintBridge.Proofs.Text.Lines
import Mathlib.Order.Nat

/-!
# What a line states

A line states an issue exactly if a heading stands somewhere on it. The issue is that of
the first heading: its numbers, category and rule are those of the heading, and its
message is what follows, without the characters that close the line.
-/

namespace LintBridge.Issue

open Pattern

/-! ## The grammar of a line -/

/-- The number in a field of a heading. It is not read if it has too many digits. -/
def fieldNumber (digits : List Char) : Option Int :=
  if digits.length ≤ 4300 then some (Text.decimalValue digits) else none

/-- A text without its last character, if that is a given one. -/
def dropEnding (c : Char) (text : List Char) : List Char :=
  if text.getLast? = some c then text.dropLast else text

/-- The message between a heading and the end of its line: what follows the heading without
a carriage return at its end, and without a quote there if there is one in front of the
heading. -/
def messageAfter (before rest : List Char) : List Char :=
  let message := dropEnding '\r' rest
  if before.getLast? = some '\'' then dropEnding '\'' message else message

/-- A heading stands on a line between two texts, and no heading begins before it. -/
structure IsFirstHeading (line before : List Char) (heading : Heading) (rest : List Char) :
    Prop where
  parts : line = before ++ (heading.text ++ rest)
  first : ∀ (other : Heading) front back, line = front ++ (other.text ++ back) →
    before.length ≤ front.length

/-- The groups of a match hold the fields of a heading. -/
structure Heading.IsHeldBy (heading : Heading) (captures : Captures) : Prop where
  line : captures.text? "line" = some heading.line
  column : captures.text? "col" = some heading.column
  category : captures.text? "type" = some heading.category
  rule : captures.text? "rule_id" = some heading.rule

/-- An issue says what a heading and the texts around it say. -/
structure IsReadFrom (issue : Issue) (before : List Char) (heading : Heading)
    (rest : List Char) : Prop where
  line : issue.line = fieldNumber heading.line
  column : issue.column = fieldNumber heading.column
  category : issue.category = some (String.ofList heading.category)
  ruleId : issue.ruleId = some (String.ofList heading.rule)
  message : issue.message = some (String.ofList (messageAfter before rest))

/-- An issue is that of the first heading on a line. The groups of the match hold the fields
of the heading, and its line number has all digits that stand there. -/
def IsOfFirstHeading (issue : Issue) (line : List Char) : Prop :=
  ∃ before heading rest captures, IsFirstHeading line before heading rest ∧
    (∀ c, before.getLast? = some c → CharClass.digit.holds c = false) ∧
    linePattern.search line = some captures ∧ heading.IsHeldBy captures ∧
    issue.IsReadFrom before heading rest

/-! ## First headings -/

theorem exists_firstHeading {line : List Char} {heading : Heading}
    (part : heading.text <:+: line) :
    ∃ before first rest, IsFirstHeading line before first rest := by
  classical
  have begins : ∃ start, ∃ (heading : Heading) (front back : List Char),
      line = front ++ (heading.text ++ back) ∧ front.length = start := by
    rcases part with ⟨front, back, parts⟩
    exact ⟨front.length, heading, front, back, by rw [← parts, List.append_assoc], rfl⟩
  rcases Nat.find_spec begins with ⟨first, before, rest, parts, start⟩
  refine ⟨before, first, rest, parts, ?_⟩
  intro other front back equal
  rw [start]
  exact Nat.find_min' begins ⟨other, front, back, equal, rfl⟩

theorem IsFirstHeading.not_digit {line before rest : List Char} {heading : Heading}
    (first : IsFirstHeading line before heading rest) {c : Char}
    (last : before.getLast? = some c) : CharClass.digit.holds c = false := by
  rw [Bool.eq_false_iff]
  intro digit
  rcases List.getLast?_eq_some_iff.mp last with ⟨front, rfl⟩
  -- With one more digit the heading would begin one character before.
  let longer : Heading := { heading with
    line := c :: heading.line
    line_isRun := ⟨List.cons_ne_nil _ _, List.forall_mem_cons.mpr ⟨digit, heading.line_isRun.2⟩⟩ }
  have parts : line = front ++ (longer.text ++ rest) := by
    rw [first.parts]
    simp [longer, Heading.text]
  have before := first.first longer front rest parts
  rw [List.length_append, List.length_singleton] at before
  omega

/-! ## Endings -/

theorem dropEnding_concat (c : Char) (text : List Char) : dropEnding c (text ++ [c]) = text := by
  simp [dropEnding]

theorem dropEnding_of_ne {c : Char} {text : List Char} (other : text.getLast? ≠ some c) :
    dropEnding c text = text := by
  rw [dropEnding, if_neg other]

/-- What follows a heading ends with a quote, but for a carriage return. -/
def IsClosed (rest : List Char) : Prop :=
  ∃ message returned, rest = message ++ '\'' :: onlyIf returned '\r'

theorem isClosed_of_getLast? {rest : List Char}
    (last : (dropEnding '\r' rest).getLast? = some '\'') : IsClosed rest := by
  rcases List.getLast?_eq_some_iff.mp last with ⟨message, shorter⟩
  by_cases returned : rest.getLast? = some '\r'
  · rcases List.getLast?_eq_some_iff.mp returned with ⟨front, rfl⟩
    rw [dropEnding_concat] at shorter
    exact ⟨message, true, by simp [shorter, onlyIf]⟩
  · rw [dropEnding_of_ne returned] at shorter
    exact ⟨message, false, shorter⟩

/-- The message on a quoted line is what stands before the closing quote. -/
theorem messageAfter_of_quoted (front message : List Char) (returned : Bool) :
    messageAfter (front ++ ['\'']) (message ++ '\'' :: onlyIf returned '\r') = message := by
  have shorter : dropEnding '\r' (message ++ '\'' :: onlyIf returned '\r') = message ++ ['\''] := by
    cases returned with
    | true =>
        rw [show message ++ '\'' :: onlyIf true '\r' = (message ++ ['\'']) ++ ['\r'] by
          simp [onlyIf], dropEnding_concat]
    | false => exact dropEnding_of_ne (by simp [onlyIf])
  rw [messageAfter, if_pos List.getLast?_concat, shorter, dropEnding_concat]

/-! ## The statement that is found -/

/-- What the line pattern matches from a place up to the end of a line is a statement, and
the message of one without quotes is as short as it can be. -/
theorem exists_statement_of_run {text : List Char} {position : Nat} {final : Place}
    (isLine : '\n' ∉ text) (answer : run linePattern ⟨text, position, []⟩ some = some final) :
    ∃ statement : Statement, statement.text = text ∧
      final.captures = statement.captures [] ∧
      (statement.quoted = false → statement.returned = false →
        statement.message.getLast? ≠ some '\r') := by
  rw [linePattern_eq, run_all_append] at answer
  rcases reaches_of_run answer with ⟨opened, opening, answer⟩
  rw [run_all_append] at answer
  rcases reaches_of_run answer with ⟨headed, heading, answer⟩
  rw [run_all_append] at answer
  rcases (openingPart_describes.seq headingParts_describe _ _).mp ⟨opened, opening, heading⟩ with
    ⟨⟨quoted, heading⟩, reads, held⟩
  rcases readsShortest_of_run_star answer with ⟨message, said, shortest⟩
  let remember (after : Place) : Place :=
    { after with
      captures := ⟨"message", headed.rest, after.position - headed.position⟩ :: after.captures }
  have quoteHeld : ∀ after : Place, after.captures = headed.captures →
      (remember after).captures.any (·.name == "quote") = quoted := by
    intro after same
    simp only [remember, same, held]
    cases quoted <;> simp [Heading.captures, quoteCaptures]
  rcases reaches_of_run shortest.accepted with ⟨_, closed, ⟨⟩⟩
  rcases (closingParts_reaches_iff (quoteHeld said shortest.captures)).mp closed with
    ⟨returned, reads', stopped, same⟩
  have read : text = (onlyIf quoted '\'' ++ heading.text ++ message) ++
      (onlyIf quoted '\'' ++ onlyIf returned '\r') ++ final.rest := by
    rw [List.append_assoc]
    exact (reads.append shortest.reads).rest.trans (congrArg (_ ++ ·) reads'.rest)
  have ended : final.rest = [] := by
    rcases stopped with nothing | feed
    · exact nothing
    · rw [read, feed] at isLine
      simp at isLine
  refine ⟨⟨quoted, heading, message, returned, shortest.inClass⟩, ?_, ?_, ?_⟩
  · rw [read, ended]
    simp [Statement.text, Statement.quote, Statement.ending]
  · have saidRest : said.rest = onlyIf quoted '\'' ++ onlyIf returned '\r' := by
      simpa [remember, ended] using reads'.rest
    have moved := shortest.reads.position
    rw [same]
    simp only [remember, shortest.captures, held, shortest.reads.rest, saidRest, moved]
    simp [Statement.captures, Statement.quote, Statement.ending]
  · rintro rfl rfl keeps
    rcases List.getLast?_eq_some_iff.mp keeps with ⟨front, rfl⟩
    -- What closes a line could have taken the carriage return.
    rcases shortest.reads.split headed.captures with ⟨middle, readsFront, readsReturn, sameCaptures⟩
    have refused : run (all closingParts) (remember middle) some = none :=
      shortest.passed front ['\r'] middle rfl (List.cons_ne_nil _ _) readsFront sameCaptures
    have remaining : (remember middle).Reads (onlyIf false '\'' ++ onlyIf true '\r')
        { final with captures := (remember middle).captures } := by
      have saidRest : said.rest = final.rest := reads'.rest
      have saidPosition : final.position = said.position := reads'.position
      exact ⟨saidRest ▸ readsReturn.rest, saidPosition ▸ readsReturn.position⟩
    have closes : (all closingParts).Reaches (remember middle)
        { final with captures := (remember middle).captures } :=
      (closingParts_reaches_iff (quoteHeld middle sameCaptures)).mpr
        ⟨true, remaining, .inl ended, rfl⟩
    have found : (run (all closingParts) (remember middle) some).isSome = true :=
      closes.isSome_run rfl
    rw [refused] at found
    cases found

theorem Statement.exists_run (statement : Statement) (position : Nat) :
    ∃ final, run linePattern ⟨statement.text, position, []⟩ some = some final := by
  have reaches : linePattern.Reaches ⟨statement.text, position, []⟩
      ⟨[], position + statement.text.length, statement.captures []⟩ :=
    (linePattern_reaches_iff rfl).mpr
      ⟨statement, ⟨(List.append_nil _).symm, rfl⟩, .inl rfl, rfl⟩
  exact Option.isSome_iff_exists.mp (reaches.isSome_run rfl)

theorem exists_statement_of_reaches {text : List Char} {position : Nat} {after : Place}
    (isLine : '\n' ∉ text) (reaches : linePattern.Reaches ⟨text, position, []⟩ after) :
    ∃ statement : Statement, text = statement.text := by
  rcases (linePattern_reaches_iff rfl).mp reaches with ⟨statement, reads, stopped, _⟩
  have read : text = statement.text ++ after.rest := reads.rest
  rcases stopped with nothing | feed
  · rw [nothing, List.append_nil] at read
    exact ⟨statement, read⟩
  · rw [read, feed] at isLine
    simp at isLine

/-- The first of the statements that end with a line is found. -/
theorem search_of_firstStatement {front text : List Char} {final : Place}
    (isLine : '\n' ∉ front ++ text)
    (found : run linePattern ⟨text, front.length, []⟩ some = some final)
    (first : ∀ shorter back (other : Statement), front = shorter ++ back →
      back ++ text = other.text → back = []) :
    search linePattern (front ++ text) = some final.captures := by
  apply search_of_first found
  intro shorter back after parts nonempty reaches
  rw [parts, List.append_assoc, List.mem_append, not_or] at isLine
  rcases exists_statement_of_reaches isLine.2 reaches with ⟨other, read⟩
  exact nonempty (first shorter back other parts read)

/-! ## The first heading is found -/

theorem holds_any_of_notMem {text : List Char} (isLine : '\n' ∉ text) :
    ∀ c ∈ text, CharClass.any.holds c = true := by
  intro c member
  rw [CharClass.holds, bne_iff_ne]
  rintro rfl
  exact isLine member

theorem Statement.length_quote_le (statement : Statement) : statement.quote.length ≤ 1 := by
  rw [quote, onlyIf]
  split <;> simp

theorem Statement.text_of_quoted {statement : Statement} (quoted : statement.quoted = true) :
    statement.text = '\'' :: (statement.heading.text ++
      (statement.message ++ '\'' :: onlyIf statement.returned '\r')) := by
  simp [text, quote, ending, quoted, onlyIf]

theorem Statement.text_of_unquoted {statement : Statement} (unquoted : statement.quoted = false) :
    statement.text =
      statement.heading.text ++ (statement.message ++ onlyIf statement.returned '\r') := by
  simp [text, quote, ending, unquoted, onlyIf]

variable {line before rest : List Char} {heading : Heading}

/-- A statement does not begin before the first heading, but for a quote in front of it. -/
theorem IsFirstHeading.length_le (first : IsFirstHeading line before heading rest)
    {front : List Char} {statement : Statement} (parts : line = front ++ statement.text) :
    before.length ≤ front.length + statement.quote.length := by
  rw [← List.length_append]
  exact first.first statement.heading _ _ (parts.trans (List.append_assoc _ _ _).symm)

/-- A line whose first heading stands between a quote and a closing quote is read from
the quote on. -/
theorem IsFirstHeading.search_of_closed {front message : List Char} {returned : Bool}
    (first : IsFirstHeading line (front ++ ['\'']) heading
      (message ++ '\'' :: onlyIf returned '\r')) (isLine : '\n' ∉ line)
    (message_isLine : ∀ c ∈ message, CharClass.any.holds c = true) :
    search linePattern line =
      some (Statement.captures ⟨true, heading, message, returned, message_isLine⟩ []) := by
  let statement : Statement := ⟨true, heading, message, returned, message_isLine⟩
  have parts : line = front ++ statement.text := by
    rw [first.parts, Statement.text_of_quoted (show statement.quoted = true from rfl)]
    simp [statement]
  rw [parts] at isLine
  rcases statement.exists_run front.length with ⟨final, found⟩
  rcases exists_statement_of_run (isLine <| List.mem_append_right front ·) found with
    ⟨other, sameText, held, _⟩
  cases Statement.eq_of_text_eq (show statement.quoted = true from rfl) sameText.symm
  rw [parts, ← held]
  apply search_of_firstStatement isLine found
  intro shorter back other equal read
  have earlier : line = shorter ++ other.text := by
    rw [parts, equal, List.append_assoc, read]
  have bound := first.length_le earlier
  have short := other.length_quote_le
  rw [equal, List.length_append, List.length_append, List.length_singleton] at bound
  exact List.eq_nil_of_length_eq_zero (by omega)

/-- A line whose first heading does not stand between quotes is read from the heading on. -/
theorem IsFirstHeading.search_of_open (first : IsFirstHeading line before heading rest)
    (isLine : '\n' ∉ line) (opened : before.getLast? = some '\'' → ¬ IsClosed rest) :
    ∃ statement : Statement, search linePattern line = some (statement.captures []) ∧
      statement.heading = heading ∧ statement.message = dropEnding '\r' rest := by
  have rest_isLine : '\n' ∉ rest := by
    intro member
    simp [first.parts, member] at isLine
  let plain : Statement := ⟨false, heading, rest, false, holds_any_of_notMem rest_isLine⟩
  have plain_text : plain.text = heading.text ++ rest := by
    rw [Statement.text_of_unquoted (show plain.quoted = false from rfl)]
    simp [plain, onlyIf]
  have parts : line = before ++ plain.text := by
    rw [first.parts, plain_text]
  rw [parts] at isLine
  rcases plain.exists_run before.length with ⟨final, found⟩
  rcases exists_statement_of_run (isLine <| List.mem_append_right before ·) found with
    ⟨statement, sameText, held, shortest⟩
  have unquoted : statement.quoted = false := by
    rw [Bool.eq_false_iff]
    intro quoted
    cases Statement.eq_of_text_eq quoted sameText
    cases quoted
  rw [Statement.text_of_unquoted unquoted, plain_text] at sameText
  rcases Heading.text_append_inj sameText with ⟨sameHeading, sameRest⟩
  refine ⟨statement, ?_, sameHeading, ?_⟩
  · rw [parts, ← held]
    apply search_of_firstStatement isLine found
    intro shorter back other equal standing
    have earlier : line = shorter ++ other.text := by
      rw [first.parts, equal, List.append_assoc, ← plain_text, standing]
    have bound := first.length_le earlier
    rw [equal, List.length_append] at bound
    cases isQuoted : other.quoted with
    | false =>
        rw [Statement.quote, isQuoted] at bound
        exact List.eq_nil_of_length_eq_zero (by simpa [onlyIf] using bound)
    | true =>
        -- A quote in front of the heading would be the quote of a closed line.
        rcases back with _ | ⟨c, back⟩
        · rfl
        rw [Statement.text_of_quoted isQuoted, List.cons_append, plain_text] at standing
        have short := other.length_quote_le
        rcases List.cons.inj standing with ⟨rfl, behind⟩
        have nothing : back = [] := by
          apply List.eq_nil_of_length_eq_zero
          rw [List.length_cons] at bound
          omega
        rw [nothing, List.nil_append] at behind
        have closed : IsClosed rest :=
          ⟨other.message, other.returned, (Heading.text_append_inj behind).2⟩
        exact absurd closed (opened (by rw [equal, nothing, List.getLast?_concat]))
  · cases returned : statement.returned with
    | true =>
        rw [← sameRest, returned]
        exact (dropEnding_concat '\r' _).symm
    | false =>
        rw [returned, show onlyIf false '\r' = [] from rfl, List.append_nil] at sameRest
        rw [← sameRest, dropEnding_of_ne (shortest unquoted returned)]

/-- A line is read as a statement of its first heading, and what follows is the message. -/
theorem IsFirstHeading.search (first : IsFirstHeading line before heading rest)
    (isLine : '\n' ∉ line) :
    ∃ statement : Statement, search linePattern line = some (statement.captures []) ∧
      statement.heading = heading ∧ statement.message = messageAfter before rest := by
  by_cases closed : before.getLast? = some '\'' ∧ IsClosed rest
  · rcases closed with ⟨last, message, returned, rfl⟩
    rcases List.getLast?_eq_some_iff.mp last with ⟨front, rfl⟩
    have message_isLine : '\n' ∉ message := by
      intro member
      simp [first.parts, member] at isLine
    exact ⟨_, first.search_of_closed isLine (holds_any_of_notMem message_isLine), rfl,
      (messageAfter_of_quoted front message returned).symm⟩
  · rcases first.search_of_open isLine (not_and.mp closed) with
      ⟨statement, found, sameHeading, said⟩
    refine ⟨statement, found, sameHeading, ?_⟩
    rw [said, messageAfter]
    split
    · rename_i last
      refine (dropEnding_of_ne fun unclosed => ?_).symm
      exact closed ⟨last, isClosed_of_getLast? unclosed⟩
    · rfl

/-! ## What a line states -/

theorem Statement.isHeldBy_captures (statement : Statement) {rest : List Char} :
    statement.heading.IsHeldBy (statement.captures rest) := by
  constructor <;> simp [captures, Heading.captures, Captures.text?_cons]

theorem readInteger?_of_isRun {digits : List Char} (isRun : CharClass.digit.IsRun digits) :
    Text.readInteger? digits = fieldNumber digits :=
  Text.readInteger?_of_isDecimalDigit isRun.1 isRun.2

variable {options : ReportOptions}

/-- The issue of a statement says what the parts of the statement say. -/
theorem Statement.isReadFrom_issue {statement : Statement}
    (said : statement.message = messageAfter before rest) :
    (statement.issue options).IsReadFrom before statement.heading rest where
  line := readInteger?_of_isRun statement.heading.line_isRun
  column := readInteger?_of_isRun statement.heading.column_isRun
  category := rfl
  ruleId := rfl
  message := congrArg (fun text => some (String.ofList text)) said

theorem parse_of_isLine {line : String} (isLine : '\n' ∉ line.toList) :
    parse linePattern options line = .ok (ofLine? linePattern options line.toList).toList := by
  rw [parse, missingGroups_linePattern]
  refine congrArg Except.ok ?_
  rw [ofReport, Text.splitAtChar_eq_singleton isLine]
  cases stated : ofLine? linePattern options line.toList with
  | none => rw [List.filterMap_cons_none stated, List.filterMap_nil, Option.toList_none]
  | some issue => rw [List.filterMap_cons_some stated, List.filterMap_nil, Option.toList_some]

/-- A line with a heading states the issue of its first heading. -/
theorem exists_parse_of_heading {line : String} (isLine : '\n' ∉ line.toList)
    (heading : Heading) (part : heading.text <:+: line.toList) :
    ∃ issue, parse linePattern options line = .ok [issue] ∧
      issue.IsOfFirstHeading line.toList := by
  rcases exists_firstHeading part with ⟨before, heading, rest, first⟩
  rcases first.search isLine with ⟨statement, found, rfl, said⟩
  refine ⟨statement.issue options, ?_, before, statement.heading, rest, _, first,
    fun c => first.not_digit, found, statement.isHeldBy_captures,
    Statement.isReadFrom_issue said⟩
  rw [parse_of_isLine isLine, ofLine?, found, Option.map_some, Statement.ofCaptures_captures,
    Option.toList_some]

/-- A line states an issue exactly if a heading stands on it, and it states one at most.
The issue is that of the first heading, with what follows it as the message. -/
theorem parse_line (options : ReportOptions) (line : String) (isLine : '\n' ∉ line.toList) :
    ((∃ issue, parse linePattern options line = .ok [issue]) ↔
      ∃ heading : Heading, heading.text <:+: line.toList) ∧
    ((∀ heading : Heading, ¬ heading.text <:+: line.toList) →
      parse linePattern options line = .ok []) ∧
    ∀ issue, parse linePattern options line = .ok [issue] →
      issue.IsOfFirstHeading line.toList := by
  have quiet : (∀ heading : Heading, ¬ heading.text <:+: line.toList) →
      parse linePattern options line = .ok [] := by
    intro quiet
    rw [parse_of_isLine isLine, ofLine?_eq_none quiet, Option.toList_none]
  have states : (∃ issue, parse linePattern options line = .ok [issue]) →
      ∃ heading : Heading, heading.text <:+: line.toList := by
    rintro ⟨issue, stated⟩
    by_contra none
    rw [quiet (not_exists.mp none)] at stated
    cases stated
  refine ⟨⟨states, ?_⟩, quiet, ?_⟩
  · rintro ⟨heading, part⟩
    rcases exists_parse_of_heading isLine heading part with ⟨issue, stated, _⟩
    exact ⟨issue, stated⟩
  · intro issue stated
    rcases states ⟨issue, stated⟩ with ⟨heading, part⟩
    rcases exists_parse_of_heading isLine heading part with ⟨other, same, reading⟩
    cases stated.symm.trans same
    exact reading

/-- A line with two headings, a quote in its message and a carriage return. -/
def twiceQuoted : String :=
  "x '12,3,error,E1:a ','4,5,w,W2:b'\r"

/-- What the line with two headings states. -/
def twiceQuotedIssue : Issue where
  line := some 12
  column := some 3
  category := some "error"
  message := some "a ','4,5,w,W2:b"
  range := ⟨⟨some 11, 2⟩, ⟨some 11, 2⟩⟩
  ruleId := some "E1"
  filePath := none

theorem parse_line_twiceQuoted :
    parse linePattern {} twiceQuoted = .ok [twiceQuotedIssue] ∧
      twiceQuotedIssue.IsOfFirstHeading twiceQuoted.toList := by
  have stated : parse linePattern {} twiceQuoted = .ok [twiceQuotedIssue] := by
    rw [parse_of_isLine (by decide)]
    refine congrArg Except.ok ?_
    decide +kernel
  exact ⟨stated, (parse_line {} twiceQuoted (by decide)).2.2 twiceQuotedIssue stated⟩

end LintBridge.Issue
