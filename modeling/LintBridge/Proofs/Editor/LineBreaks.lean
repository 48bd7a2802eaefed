import LintBridge.Proofs.Editor.Use
import LintBridge.Proofs.Text.Column
import LintBridge.Proofs.Text.Rows

/-!
# Line breaks in an editor

The rows of a buffer are joined again before they are parsed, with a line feed between
them. The syntax tree therefore counts the same rows, and an editor answers in the same
way whichever kind of line break is written in its text.
-/

namespace LintBridge

/-- A text in which all line breaks have become line breaks of one kind. -/
def rewriteBreaks (lineBreak : Text.LineBreak) (text : String) : String :=
  String.ofList (Text.joinLines lineBreak.chars (rowsOf text))

theorem notMem_of_mem_rowsOf {text : String} {line : Line} (member : line ∈ rowsOf text) :
    '\r' ∉ line ∧ '\n' ∉ line :=
  Text.notMem_of_mem_splitRows member

theorem rowsOf_rewriteBreaks (lineBreak : Text.LineBreak) (text : String) :
    rowsOf (rewriteBreaks lineBreak text) = rowsOf text := by
  rw [rewriteBreaks, rowsOf, String.toList_ofList]
  exact Text.splitRows_joinLines lineBreak (Text.splitRows_ne_nil text.toList)
    fun line member => notMem_of_mem_rowsOf member

namespace Syntax

/-! ## Points of a source text -/

theorem foldl_advance_of_notMem {line : List Char} (free : '\n' ∉ line) (point : Point) :
    line.foldl Lexer.advance point = ⟨point.row, point.column + Text.byteLength line⟩ := by
  induction line generalizing point with
  | nil => rfl
  | cons c line ih =>
      rw [List.mem_cons, not_or] at free
      rw [List.foldl_cons, Lexer.advance, if_neg (Ne.symm free.1), ih free.2,
        Text.byteLength_cons, Nat.add_assoc]

/-- In a source text that is made of rows, a row begins at column zero of the row that has
its number. -/
theorem exists_front_of_getElem? {rows : List Line} (free : ∀ line ∈ rows, '\n' ∉ line)
    {row : Nat} {line : Line} (there : rows[row]? = some line) (start : Nat) :
    ∃ front back, Text.joinLines ['\n'] rows = front ++ line ++ back ∧
      front.foldl Lexer.advance ⟨start, 0⟩ = ⟨start + row, 0⟩ := by
  induction rows generalizing row start with
  | nil => cases there
  | cons first rows ih =>
      rw [List.forall_mem_cons] at free
      cases row with
      | zero =>
          cases there
          by_cases last : rows = []
          · exact ⟨[], [], by rw [last, Text.joinLines, List.nil_append, List.append_nil], rfl⟩
          · exact ⟨[], ['\n'] ++ Text.joinLines ['\n'] rows,
              by rw [Text.joinLines_cons last, List.nil_append, List.append_assoc], rfl⟩
      | succ row =>
          have more : rows ≠ [] := by
            rintro rfl
            cases there
          rcases ih free.2 there (start + 1) with ⟨front, back, joined, ends⟩
          refine ⟨first ++ ['\n'] ++ front, back, ?_, ?_⟩
          · rw [Text.joinLines_cons more, joined]
            simp only [List.append_assoc]
          · rw [List.foldl_append, List.foldl_append, foldl_advance_of_notMem free.1,
              List.foldl_cons, List.foldl_nil, Lexer.advance, if_pos rfl, ends]
            congr 1
            omega

/-- The points of a row in the source text have the number of the row, and the byte columns
of its characters. -/
theorem exists_points_of_getElem? {rows : List Line} (free : ∀ line ∈ rows, '\n' ∉ line)
    {row : Nat} {line : Line} (there : rows[row]? = some line) :
    ∃ front back, Text.joinLines ['\n'] rows = front ++ line ++ back ∧
      ∀ column ≤ line.length,
        endOf (front ++ line.take column) = ⟨row, Text.byteColumn line column⟩ := by
  rcases exists_front_of_getElem? free there 0 with ⟨front, back, joined, ends⟩
  refine ⟨front, back, joined, ?_⟩
  intro column inLine
  have freeHere : '\n' ∉ line.take column := fun member =>
    free line (List.mem_of_getElem? there) (List.mem_of_mem_take member)
  rw [endOf, List.foldl_append, ends, foldl_advance_of_notMem freeHere,
    Text.byteColumn_ofNat line inLine, Nat.zero_add, Nat.zero_add]

end Syntax

namespace Editor

/-! ## Answers -/

/-- What is answered depends on the rows of the text and not on what separates them. -/
theorem Use.answer_congr (parse : Parser) {left right : String}
    (same : rowsOf left = rowsOf right) (step : Use) :
    step.answer parse left = step.answer parse right := by
  cases step with
  | setText text => rfl
  | syntaxTree => rw [answer, answer, same]
  | range line column => rw [answer, answer, same]
  | extract pattern filePath report => rw [answer, answer, same]

theorem Use.rowsOf_textAfter_congr {left right : String} (same : rowsOf left = rowsOf right)
    (step : Use) : rowsOf (step.textAfter left) = rowsOf (step.textAfter right) := by
  cases step with
  | setText text => rfl
  | syntaxTree | range line column | extract pattern filePath report => exact same

theorem Use.answersAfresh_congr (parse : Parser) (path : String) {left right : String}
    (same : rowsOf left = rowsOf right) (steps : List Use) :
    answersAfresh parse path left steps = answersAfresh parse path right steps := by
  induction steps generalizing left right with
  | nil => rfl
  | cons step steps ih =>
      rw [answersAfresh, answersAfresh, use_ofText_fst, use_ofText_fst,
        answer_congr parse same step, ih (rowsOf_textAfter_congr same step)]

theorem useAll_congr (parse : Parser) (path : String) {left right : String}
    (same : rowsOf left = rowsOf right) (steps : List Use) :
    ((ofText path left).useAll parse steps).1 = ((ofText path right).useAll parse steps).1 := by
  rw [(fresh_ofText parse path left).useAll_fst path,
    (fresh_ofText parse path right).useAll_fst path]
  exact Use.answersAfresh_congr parse path same steps

/-- The rows of a text are free of line breaks. With these they spell the text again, and
there is no other proper way to cut it. They are the rows of the source text that is
parsed, so that the points of the syntax tree are rows and byte columns of the buffer. And
they stay the same when the line breaks are all written in one way, and so does every
answer of an editor. -/
theorem rows_whatever_breaks (text : String) :
    let source := Text.joinLines ['\n'] (rowsOf text)
    (∀ line ∈ rowsOf text, '\r' ∉ line ∧ '\n' ∉ line) ∧
    (∃ cut : Text.Cut, cut.lines = rowsOf text ∧
      ∀ other : Text.Cut, other.IsProper ∧ other.text = text.toList ↔ other = cut) ∧
    (∀ lineBreak, rowsOf (rewriteBreaks lineBreak text) = rowsOf text) ∧
    (Syntax.parseRows (rowsOf text) = Syntax.parseSource source ∧
      Text.splitAtChar '\n' source = rowsOf text ∧
      ∀ row line, (rowsOf text)[row]? = some line →
        ∃ front back, source = front ++ line ++ back ∧
          ∀ column ≤ line.length,
            Syntax.endOf (front ++ line.take column) = ⟨row, Text.byteColumn line column⟩) ∧
    ∀ lineBreak parse path steps,
      ((ofText path (rewriteBreaks lineBreak text)).useAll parse steps).1 =
        ((ofText path text).useAll parse steps).1 := by
  have feedless : ∀ line ∈ rowsOf text, '\n' ∉ line := fun line member =>
    (notMem_of_mem_rowsOf member).2
  intro source
  refine ⟨fun line member => notMem_of_mem_rowsOf member, ?_, ?_, ?_, ?_⟩
  · exact ⟨.ofText text.toList, Text.Cut.lines_ofText text.toList,
      fun other => Text.Cut.isProper_and_text_eq_iff text.toList⟩
  · intro lineBreak
    exact rowsOf_rewriteBreaks lineBreak text
  · refine ⟨rfl, ?_, ?_⟩
    · exact Text.splitAtChar_joinLines (Text.splitRows_ne_nil text.toList) feedless
    · intro row line there
      exact Syntax.exists_points_of_getElem? feedless there
  · intro lineBreak parse path steps
    exact useAll_congr parse path (rowsOf_rewriteBreaks lineBreak text) steps

end Editor

end LintBridge
