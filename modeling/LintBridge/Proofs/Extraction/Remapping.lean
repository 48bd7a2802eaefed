import LintBridge.Proofs.Editor.Ranges
import LintBridge.Syntax.Parse

/-!
# Remapping

An issue either keeps the range that was reported or gets one from the buffer. It gets
one exactly if it points at text of the buffer, which is what issues are selected by. The
new range is on one row and starts where the issue does, so nothing changes when the
issue is remapped again.
-/

namespace LintBridge

theorem exists_expand_eq_error_iff (tree : Syntax.Tree) {lines : List Line}
    {line? : Option Int} {column : Int} :
    (∃ fault, expand tree lines line? (some column) = .error fault) ↔
      ¬ Position.FitsIn lines ⟨line?, column⟩ ∨ column < 0 := by
  by_cases negative : column < 0
  · refine iff_of_true ?_ (Or.inr negative)
    rcases isMissing_or_exists lines line? with missing | ⟨row, line, rfl, there⟩
    · exact ⟨_, expand_of_isMissing tree missing (some column)⟩
    · exact ⟨_, expand_of_outside tree there (Or.inl negative)⟩
  · rw [or_iff_left negative, ← expand_column_isOk_iff tree (Int.not_lt.mp negative)]
    cases expand tree lines line? (some column) with
    | error fault => exact iff_of_true ⟨fault, rfl⟩ nofun
    | ok range => exact iff_of_false nofun fun none => none ⟨range, rfl⟩

theorem Range.AnchoredIn.isSingleLine {lines : List Line} {range : Range}
    (anchored : range.AnchoredIn lines) :
    range.isSingleLine = true ∧ range.start.column ≤ range.stop.column := by
  rcases anchored with ⟨row, line, start, stop, -, rfl, ordered, -, -⟩
  exact ⟨beq_self_eq_true _, Int.ofNat_le.mpr ordered⟩

namespace Issue

variable {tree : Syntax.Tree} {lines : List Line} {issue remapped : Issue}

/-- An issue keeps its range if it reaches from one line to another, or ends before it
starts. -/
def KeepsRange (issue : Issue) : Prop :=
  issue.range.start.line ≠ issue.range.stop.line ∨
    (0 < issue.range.stop.column ∧ issue.range.stop.column < issue.range.start.column)

instance : DecidablePred KeepsRange :=
  fun _ => inferInstanceAs (Decidable (_ ∨ _))

theorem isRemappable_iff : issue.isRemappable = true ↔ ¬ issue.KeepsRange := by
  have columns : ∀ start stop : Int,
      ¬ (0 < stop ∧ stop < start) ↔ start ≤ stop ∨ stop ≤ 0 := by
    omega
  rw [KeepsRange, not_or, Decidable.not_not, columns]
  simp [isRemappable]

theorem remap_of_keepsRange (keeps : issue.KeepsRange) :
    issue.remap tree lines = .ok issue := by
  rw [remap, if_neg fun remappable => isRemappable_iff.mp remappable keeps]

theorem remap_of_not_keepsRange (moves : ¬ issue.KeepsRange) :
    issue.remap tree lines =
      (expand tree lines issue.range.start.line (some issue.range.start.column)).map
        fun range => { issue with range } := by
  rw [remap, if_pos (isRemappable_iff.mpr moves)]

/-- An issue that does not keep its range has none exactly if it does not point at text of
the lines or its start column is negative. -/
theorem exists_remap_eq_error_iff (moves : ¬ issue.KeepsRange) :
    (∃ fault, issue.remap tree lines = .error fault) ↔
      issue.isReportable lines = false ∨ issue.range.start.column < 0 := by
  have fits : issue.isReportable lines = false ↔ ¬ issue.range.start.FitsIn lines := by
    rw [← isReportable_iff, Bool.not_eq_true]
  rw [fits, ← exists_expand_eq_error_iff tree, remap_of_not_keepsRange moves]
  cases expand tree lines issue.range.start.line (some issue.range.start.column) with
  | error fault => exact iff_of_true ⟨fault, rfl⟩ ⟨fault, rfl⟩
  | ok range => exact iff_of_false nofun nofun

/-- What an issue that does not keep its range is remapped to: only the range is another,
which lies on one row of the lines and starts where it did. -/
theorem remap_of_moves (moves : ¬ issue.KeepsRange)
    (answer : issue.remap tree lines = .ok remapped) :
    ∃ range : Range, remapped = { issue with range } ∧ range.AnchoredIn lines ∧
      range.start = issue.range.start ∧
      expand tree lines issue.range.start.line (some issue.range.start.column) = .ok range := by
  rw [remap_of_not_keepsRange moves] at answer
  cases expanded : expand tree lines issue.range.start.line (some issue.range.start.column) with
  | error fault =>
      rw [expanded] at answer
      cases answer
  | ok range =>
      rw [expanded] at answer
      cases answer
      obtain ⟨anchored, start⟩ := expand_column_anchored expanded
      exact ⟨range, rfl, anchored, start, rfl⟩

theorem remap_idempotent (answer : issue.remap tree lines = .ok remapped) :
    remapped.remap tree lines = .ok remapped := by
  by_cases keeps : issue.KeepsRange
  · rw [remap_of_keepsRange keeps] at answer
    cases answer
    exact remap_of_keepsRange keeps
  · obtain ⟨range, rfl, anchored, start, expanded⟩ := remap_of_moves keeps answer
    have moves : ¬ ({ issue with range } : Issue).KeepsRange := by
      rintro (apart | ⟨-, reversed⟩)
      · exact apart (beq_iff_eq.mp anchored.isSingleLine.1)
      · exact Int.not_le.mpr reversed anchored.isSingleLine.2
    rw [remap_of_not_keepsRange moves]
    dsimp only
    rw [start, expanded]
    rfl

end Issue

namespace Editor

/-- An issue that reaches from one line to another or ends before it starts stays as it is,
whatever the buffer holds. Any other issue has no range exactly if it does not point at text
of the buffer, as it cannot if its start column is negative. Otherwise only its range is
another, which is on a single line and starts where it did. In the same buffer the issue
that comes out is remapped to itself. -/
theorem remap_agrees (parse : Parser) (editor : Editor) (issue : Issue) :
    let result := editor.remap parse issue
    (issue.KeepsRange → result.1 = .ok issue) ∧
      (¬ issue.KeepsRange →
        ((∃ fault, result.1 = .error fault) ↔
          issue.isReportable editor.buffer.lines = false ∨ issue.range.start.column < 0) ∧
        ∀ remapped, result.1 = .ok remapped →
          remapped = { issue with range := remapped.range } ∧
            remapped.range.start = issue.range.start ∧ remapped.range.isSingleLine = true) ∧
      ∀ remapped, result.1 = .ok remapped →
        result.2.buffer = editor.buffer ∧ (result.2.remap parse remapped).1 = .ok remapped := by
  intro result
  have answer : result.1 = issue.remap (editor.shownTree parse) editor.buffer.lines :=
    remap_fst parse editor issue
  obtain ⟨buffer, tree⟩ := remap_snd parse editor issue
  refine ⟨?_, ?_, ?_⟩
  · intro keeps
    rw [answer, Issue.remap_of_keepsRange keeps]
  · intro moves
    rw [answer]
    refine ⟨Issue.exists_remap_eq_error_iff moves, ?_⟩
    intro remapped found
    obtain ⟨range, rfl, anchored, start, -⟩ := Issue.remap_of_moves moves found
    exact ⟨rfl, start, anchored.isSingleLine.1⟩
  · intro remapped found
    refine ⟨buffer, ?_⟩
    rw [remap_fst, buffer, tree]
    exact Issue.remap_idempotent (answer.symm.trans found)

/-- An error at a call. -/
def callIssue (stop : Int) : Issue where
  line := some 2
  column := some 7
  category := some "error"
  message := some "too many arguments"
  range := ⟨⟨some 1, 6⟩, ⟨some 1, stop⟩⟩
  ruleId := some "E1121"
  filePath := none

/-- The error gets the range of the name that is called, and keeps it. It stays as it is if it
was reported to end before it starts. -/
theorem remap_agrees_call :
    let editor := ofText "/mod.py" "if x:\n  é = foo(2)"
    let called := { callIssue 0 with range := .ofColumns 1 6 9 }
    (editor.remap Syntax.parseRows (callIssue 0)).1 = .ok called ∧
      ((editor.remap Syntax.parseRows (callIssue 0)).2.remap Syntax.parseRows called).1 =
        .ok called ∧
      (editor.remap Syntax.parseRows (callIssue 3)).1 = .ok (callIssue 3) := by
  intro editor called
  have answer : (editor.remap Syntax.parseRows (callIssue 0)).1 = .ok called :=
    eq_ok_of_toOption (by decide +kernel)
  refine ⟨answer, ?_, ?_⟩
  · exact ((remap_agrees Syntax.parseRows editor (callIssue 0)).2.2 called answer).2
  · exact (remap_agrees Syntax.parseRows editor (callIssue 3)).1 (by decide)

end Editor

end LintBridge
