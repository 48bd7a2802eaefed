import LintBridge.Issue
import LintBridge.Proofs.Pattern.Taking

/-!
# What the line pattern matches

A line that the line pattern matches ends with a heading, a message and the closing
characters, and the issue of the line consists of these parts. A quoted line has
only one reading.
-/

namespace LintBridge

namespace Issue

open Pattern

/-- A rule: one word character and a number. -/
def IsRule (text : List Char) : Prop :=
  ∃ letter number, text = letter :: number ∧ CharClass.word.holds letter = true ∧
    CharClass.digit.IsRun number

theorem isRule_cons {letter : Char} {number : List Char} :
    IsRule (letter :: number) ↔
      CharClass.word.holds letter = true ∧ CharClass.digit.IsRun number := by
  constructor
  · intro rule
    rcases rule with ⟨_, _, equal, word, digits⟩
    cases equal
    exact ⟨word, digits⟩
  · intro parts
    exact ⟨letter, number, rfl, parts⟩

instance : DecidablePred IsRule
  | [] => isFalse fun ⟨_, _, equal, _⟩ => nomatch equal
  | _ :: _ => decidable_of_iff _ isRule_cons.symm

/-- What stands in front of the message on a line of a report. -/
structure Heading where
  line : List Char
  column : List Char
  category : List Char
  rule : List Char
  line_isRun : CharClass.digit.IsRun line
  column_isRun : CharClass.digit.IsRun column
  category_isRun : CharClass.word.IsRun category
  rule_isRule : IsRule rule

/-- A heading as it is written, with the colon that ends it. -/
def Heading.text (heading : Heading) : List Char :=
  heading.line ++ ',' :: (heading.column ++ ',' ::
    (heading.category ++ ',' :: (heading.rule ++ [':'])))

/-- A heading ends at its colon, and its fields at their commas. -/
theorem Heading.text_append_inj {heading heading' : Heading} {rest rest' : List Char}
    (equal : heading.text ++ rest = heading'.text ++ rest') :
    heading = heading' ∧ rest = rest' := by
  rcases heading with
    ⟨line, column, category, rule, line_isRun, column_isRun, category_isRun,
      letter, number, rfl, word, number_isRun⟩
  rcases heading' with
    ⟨line', column', category', rule', line_isRun', column_isRun', category_isRun',
      letter', number', rfl, word', number_isRun'⟩
  simp only [text, List.append_assoc, List.cons_append, List.nil_append] at equal
  rcases line_isRun.append_cons_inj line_isRun' (by decide +kernel) equal with
    ⟨rfl, columns⟩
  rcases column_isRun.append_cons_inj column_isRun' (by decide +kernel) columns with
    ⟨rfl, categories⟩
  rcases category_isRun.append_cons_inj category_isRun' (by decide +kernel) categories with
    ⟨rfl, rules⟩
  rcases List.cons.inj rules with ⟨rfl, numbers⟩
  rcases number_isRun.append_cons_inj number_isRun' (by decide +kernel) numbers with
    ⟨rfl, rfl⟩
  exact ⟨rfl, rfl⟩

/-- A line of a report as the line pattern reads it. -/
structure Statement where
  quoted : Bool
  heading : Heading
  message : List Char
  returned : Bool
  message_isLine : ∀ c ∈ message, CharClass.any.holds c = true

namespace Statement

/-- The quote on either side of a line. -/
def quote (statement : Statement) : List Char :=
  onlyIf statement.quoted '\''

/-- The carriage return at the end of a line. -/
def ending (statement : Statement) : List Char :=
  onlyIf statement.returned '\r'

/-- A line as it is written. -/
def text (statement : Statement) : List Char :=
  statement.quote ++ (statement.heading.text ++
    (statement.message ++ (statement.quote ++ statement.ending)))

/-- The issue that a line states. -/
def issue (options : ReportOptions) (statement : Statement) : Issue :=
  let line := Text.readInteger? statement.heading.line
  let column := Text.readInteger? statement.heading.column
  let place : Position :=
    ⟨reduce options.baseLine line, (reduce options.baseColumn column).getD 0⟩
  { line, column
    category := some (String.ofList statement.heading.category)
    message := some (String.ofList statement.message)
    ruleId := some (String.ofList statement.heading.rule)
    filePath := options.filePath
    range := ⟨place, place⟩ }

/-- A quoted line has one reading: the closing quote is the last character, or the
last but for a carriage return. -/
theorem eq_of_text_eq {statement other : Statement} (quoted : statement.quoted = true)
    (equal : statement.text = other.text) : statement = other := by
  rcases statement with ⟨_, heading, message, returned, message_isLine⟩
  rcases other with ⟨quoted', heading', message', returned', message_isLine'⟩
  cases quoted
  cases quoted' with
  | false =>
      -- A heading starts with a digit, which a quote is not.
      rcases heading'.line_isRun with ⟨nonempty, digits⟩
      rcases List.exists_cons_of_ne_nil nonempty with ⟨c, rest, line⟩
      rw [line] at digits
      simp only [text, quote, onlyIf, Heading.text, line, List.cons_append, if_true,
        Bool.false_eq_true, if_false, List.nil_append] at equal
      have digit := digits c List.mem_cons_self
      rw [← (List.cons.inj equal).1] at digit
      exact absurd digit (by decide +kernel)
  | true =>
      simp only [text, quote, onlyIf, if_true, List.cons_append, List.nil_append] at equal
      rcases Heading.text_append_inj (List.cons.inj equal).2 with ⟨rfl, closing⟩
      have last := congrArg List.getLast? closing
      cases returned <;> cases returned' <;>
        simp only [ending, onlyIf, if_true, Bool.false_eq_true, if_false] at closing last
      · cases List.append_cancel_right closing
        rfl
      · simp at last
      · simp at last
      · cases List.append_cancel_right closing
        rfl

end Statement

/-! ## The parts of the pattern -/

/-- The quote that a line may open with. -/
def openingPart : Pattern :=
  .opt true (.group "quote" (.one (.literal '\'')))

/-- The fields of a heading and what stands behind each of them. -/
def headingParts : List Pattern := [
  .group "line" (.plus true (.one .digit)), .one (.literal ','),
  .group "col" (.plus true (.one .digit)), .one (.literal ','),
  .group "type" (.plus true (.one .word)), .one (.literal ','),
  .group "rule_id" (.seq (.one .word) (.plus true (.one .digit))), .one (.literal ':')]

/-- The message. -/
def messagePart : Pattern :=
  .group "message" (.star false (.one .any))

/-- What closes a line. -/
def closingParts : List Pattern := [
  .ifGroup "quote" (.one (.literal '\'')), .opt true (.one (.literal '\r')), .stop]

theorem linePattern_eq :
    linePattern = .all ([openingPart] ++ (headingParts ++ ([messagePart] ++ closingParts))) :=
  rfl

/-- What the group of the quote holds. -/
def quoteCaptures (quoted : Bool) (rest : List Char) : Captures :=
  if quoted then [⟨"quote", '\'' :: rest, 1⟩] else []

theorem openingPart_describes :
    openingPart.Describes (onlyIf · '\'') quoteCaptures := by
  apply (((takes_literal '\'').describes_group "quote").opt true).map Option.isSome
  · intro quoted
    cases quoted with
    | true => exact ⟨some ⟨_, rfl⟩, rfl⟩
    | false => exact ⟨none, rfl⟩
  · intro quote?
    rcases quote? with _ | ⟨_, rfl⟩ <;> rfl
  · intro quote?
    rcases quote? with _ | ⟨_, rfl⟩ <;> rfl

theorem takes_rule :
    (Pattern.seq (.one .word) (.plus true (.one .digit))).Takes IsRule := by
  apply ((takes_one .word).seq (takes_plus_one true .digit)).congr
  intro text
  constructor
  · intro given
    rcases given with ⟨_, number, rfl, ⟨letter, rfl, word⟩, digits⟩
    exact ⟨letter, number, rfl, word, digits⟩
  · intro given
    rcases given with ⟨letter, number, rfl, word, digits⟩
    exact ⟨[letter], number, rfl, ⟨letter, rfl, word⟩, digits⟩

/-- What the groups of the fields hold. -/
def Heading.captures (heading : Heading) (rest : List Char) : Captures :=
  let rule := heading.rule ++ ':' :: rest
  let category := heading.category ++ ',' :: rule
  let column := heading.column ++ ',' :: category
  let line := heading.line ++ ',' :: column
  [⟨"rule_id", rule, heading.rule.length⟩, ⟨"type", category, heading.category.length⟩,
    ⟨"col", column, heading.column.length⟩, ⟨"line", line, heading.line.length⟩]

theorem headingParts_describe :
    (all headingParts).Describes Heading.text Heading.captures := by
  have number := takes_plus_one true .digit
  have comma := (takes_literal ',').describes
  apply ((number.describes_group "line").seq <| comma.seq <|
    (number.describes_group "col").seq <| comma.seq <|
    ((takes_plus_one true .word).describes_group "type").seq <| comma.seq <|
    (takes_rule.describes_group "rule_id").seq (takes_literal ':').describes).map
      fun ⟨line, _, column, _, category, _, rule, _⟩ =>
        Heading.mk line.1 column.1 category.1 rule.1 line.2 column.2 category.2 rule.2
  · intro heading
    exact ⟨⟨⟨_, heading.line_isRun⟩, ⟨_, rfl⟩, ⟨_, heading.column_isRun⟩, ⟨_, rfl⟩,
      ⟨_, heading.category_isRun⟩, ⟨_, rfl⟩, ⟨_, heading.rule_isRule⟩, ⟨_, rfl⟩⟩, rfl⟩
  · intro fields
    rcases fields with
      ⟨line, ⟨_, rfl⟩, column, ⟨_, rfl⟩, category, ⟨_, rfl⟩, rule, ⟨_, rfl⟩⟩
    rfl
  · intro fields
    rcases fields with
      ⟨line, ⟨_, rfl⟩, column, ⟨_, rfl⟩, category, ⟨_, rfl⟩, rule, ⟨_, rfl⟩⟩
    funext rest
    simp [Heading.captures]

/-- A line closes with a quote if it opened with one, and maybe a carriage return. -/
theorem closingParts_reaches_iff {place after : Place} {quoted : Bool}
    (held : place.captures.any (·.name == "quote") = quoted) :
    (all closingParts).Reaches place after ↔
      ∃ returned, place.Reads (onlyIf quoted '\'' ++ onlyIf returned '\r') after ∧
        (after.rest = [] ∨ after.rest = ['\n']) ∧ after.captures = place.captures := by
  constructor
  · intro given
    rcases given with ⟨_, closed, _, returned, stopped, rfl⟩
    rcases (reaches_ifGroup_literal "quote" '\'').mp closed with ⟨reads, same⟩
    rcases (takes_opt_literal true '\r' _ _).mp returned with
      ⟨_, ⟨returned, rfl⟩, reads', same'⟩
    rw [held] at reads
    exact ⟨returned, reads.append reads', stopped, same'.trans same⟩
  · intro given
    rcases given with ⟨returned, reads, stopped, same⟩
    rcases reads.split place.captures with ⟨middle, reads, reads', same'⟩
    refine ⟨middle, (reaches_ifGroup_literal "quote" '\'').mpr ⟨by rwa [held], same'⟩,
      after, (takes_opt_literal true '\r' _ _).mpr ⟨_, ⟨returned, rfl⟩, reads', ?_⟩,
      stopped, rfl⟩
    rw [same, same']

/-! ## The pattern as a whole -/

namespace Statement

/-- What the groups hold when a line has been read. -/
def captures (statement : Statement) (rest : List Char) : Captures :=
  let closing := statement.quote ++ (statement.ending ++ rest)
  let message := statement.message ++ closing
  ⟨"message", message, statement.message.length⟩ ::
    (statement.heading.captures message ++
      quoteCaptures statement.quoted (statement.heading.text ++ message))

theorem ofCaptures_captures (options : ReportOptions) (statement : Statement)
    (rest : List Char) :
    ofCaptures options (statement.captures rest) = statement.issue options := by
  have others : ∀ name, name ≠ "quote" →
      ∀ rest, (quoteCaptures statement.quoted rest).text? name = none := by
    intro name different rest
    cases statement.quoted with
    | true =>
        rw [quoteCaptures, if_pos rfl, Captures.text?_cons, if_neg different.symm]
        rfl
    | false => rfl
  simp [ofCaptures, numberOf, textOf, captures, Heading.captures, Captures.text?_cons, others,
    issue, reduce]

end Statement

/-- What the line pattern reads are statements, and its groups hold their parts. -/
theorem linePattern_reaches_iff {place after : Place} (fresh : place.captures = []) :
    linePattern.Reaches place after ↔
      ∃ statement : Statement, place.Reads statement.text after ∧
        (after.rest = [] ∨ after.rest = ['\n']) ∧
        after.captures = statement.captures after.rest := by
  have message := (takes_star_one false .any).describes_group "message"
  have front := openingPart_describes.seq (headingParts_describe.seq message)
  rw [linePattern_eq, reaches_all_append]
  simp only [reaches_all_append]
  constructor
  · intro given
    rcases given with ⟨_, opened, _, headed, middle, said, closed⟩
    rcases (front _ _).mp ⟨_, opened, _, headed, said⟩ with
      ⟨⟨quoted, heading, ⟨message, message_isLine⟩⟩, reads, held⟩
    have quoteHeld : middle.captures.any (·.name == "quote") = quoted := by
      rw [held]
      cases quoted <;> simp [Heading.captures, quoteCaptures, fresh]
    rcases (closingParts_reaches_iff quoteHeld).mp closed with
      ⟨returned, reads', stopped, same⟩
    refine ⟨⟨quoted, heading, message, returned, message_isLine⟩, ?_, stopped, ?_⟩
    · simpa [Statement.text, Statement.quote, Statement.ending] using reads.append reads'
    · rw [same, held, fresh, reads'.rest]
      simp [Statement.captures, Statement.quote, Statement.ending]
  · intro given
    rcases given with
      ⟨⟨quoted, heading, message, returned, message_isLine⟩, reads, stopped, held⟩
    have reads : place.Reads ((onlyIf quoted '\'' ++ (heading.text ++ message)) ++
        (onlyIf quoted '\'' ++ onlyIf returned '\r')) after := by
      simpa [Statement.text, Statement.quote, Statement.ending] using reads
    rcases reads.split after.captures with ⟨middle, reads, reads', same⟩
    have described : middle.captures =
        [⟨"message", message ++ middle.rest, message.length⟩] ++
          heading.captures (message ++ middle.rest) ++
          quoteCaptures quoted (heading.text ++ message ++ middle.rest) ++
          place.captures := by
      rw [same, held, fresh, reads'.rest]
      simp [Statement.captures, Statement.quote, Statement.ending]
    rcases (front place middle).mpr
      ⟨⟨quoted, heading, ⟨message, message_isLine⟩⟩, reads, described⟩ with
        ⟨_, opened, _, headed, said⟩
    refine ⟨_, opened, _, headed, middle, said,
      (closingParts_reaches_iff ?_).mpr ⟨returned, reads', stopped, same.symm⟩⟩
    rw [same, held]
    cases quoted <;> simp [Statement.captures, Heading.captures, quoteCaptures]

theorem missingGroups_linePattern : missingGroups linePattern = [] := by
  decide +kernel

/-! ## Lines -/

theorem Heading.notMem_text (heading : Heading) {c : Char} (outside : c = '\n' ∨ c = '\r') :
    c ∉ heading.text := by
  rcases heading with
    ⟨line, column, category, rule, line_isRun, column_isRun, category_isRun,
      letter, number, rfl, word, number_isRun⟩
  have noDigit : CharClass.digit.holds c = false := by
    rcases outside with rfl | rfl <;> decide +kernel
  have noWord : CharClass.word.holds c = false := by
    rcases outside with rfl | rfl <;> decide +kernel
  have noLetter : c ≠ letter := by
    intro equal
    rw [equal, word] at noWord
    cases noWord
  have noSeparator : c ≠ ',' ∧ c ≠ ':' := by
    rcases outside with rfl | rfl <;> decide
  simp [text, line_isRun.notMem noDigit, column_isRun.notMem noDigit,
    category_isRun.notMem noWord, number_isRun.notMem noDigit, noLetter, noSeparator]

theorem Statement.notMem_text (statement : Statement) : '\n' ∉ statement.text := by
  have noMessage : '\n' ∉ statement.message := by
    intro member
    exact absurd (statement.message_isLine _ member) (by decide)
  have noQuote : '\n' ∉ statement.quote := by
    rw [quote]
    cases statement.quoted <;> decide
  have noEnding : '\n' ∉ statement.ending := by
    rw [ending]
    cases statement.returned <;> decide
  simp [text, noMessage, noQuote, noEnding, statement.heading.notMem_text]

variable {options : ReportOptions}

/-- What a line is searched for is some statement in it, and the groups hold its parts. -/
theorem exists_statement_of_search {line : List Char} {captures : Captures}
    (found : search linePattern line = some captures) :
    ∃ (statement : Statement) (rest : List Char),
      statement.text <:+: line ∧ captures = statement.captures rest := by
  rcases reaches_of_search found with ⟨before, rest, after, rfl, reached, rfl⟩
  rcases (linePattern_reaches_iff rfl).mp reached with ⟨statement, reads, _, held⟩
  refine ⟨statement, after.rest, ⟨before, after.rest, ?_⟩, held⟩
  rw [List.append_assoc]
  exact congrArg (before ++ ·) reads.rest.symm

theorem exists_statement_of_ofLine? {line : List Char} {issue : Issue}
    (answer : ofLine? linePattern options line = some issue) :
    ∃ statement : Statement, statement.text <:+: line ∧ issue = statement.issue options := by
  rcases Option.map_eq_some_iff.mp answer with ⟨captures, found, rfl⟩
  rcases exists_statement_of_search found with ⟨statement, rest, part, rfl⟩
  exact ⟨statement, part, statement.ofCaptures_captures options rest⟩

theorem ofLine?_eq_none {line : List Char}
    (quiet : ∀ heading : Heading, ¬ heading.text <:+: line) :
    ofLine? linePattern options line = none := by
  cases answer : ofLine? linePattern options line with
  | none => rfl
  | some issue =>
      rcases exists_statement_of_ofLine? answer with ⟨statement, part, _⟩
      refine absurd (List.IsInfix.trans ?_ part) (quiet statement.heading)
      exact ⟨statement.quote, _, by rw [List.append_assoc]; rfl⟩

/-- A quoted line is read as what it is made up of. -/
theorem Statement.search_text (statement : Statement) (quoted : statement.quoted = true) :
    search linePattern statement.text = some (statement.captures []) := by
  have reaches : linePattern.Reaches ⟨statement.text, 0, []⟩
      ⟨[], 0 + statement.text.length, statement.captures []⟩ :=
    (linePattern_reaches_iff rfl).mpr
      ⟨statement, ⟨(List.append_nil _).symm, rfl⟩, Or.inl rfl, rfl⟩
  rcases reaches.search with ⟨first, reached, found⟩
  rcases (linePattern_reaches_iff rfl).mp reached with ⟨other, reads, stopped, held⟩
  have equal : statement.text = other.text ++ first.rest := reads.rest
  rcases stopped with nothing | feed
  · rw [nothing, List.append_nil] at equal
    rw [found, held, nothing, eq_of_text_eq quoted equal]
  · refine absurd ?_ statement.notMem_text
    rw [equal, feed]
    simp

theorem Statement.ofLine?_text (statement : Statement) (quoted : statement.quoted = true) :
    ofLine? linePattern options statement.text = some (statement.issue options) := by
  rw [ofLine?, statement.search_text quoted, Option.map_some, ofCaptures_captures]

end Issue

end LintBridge
