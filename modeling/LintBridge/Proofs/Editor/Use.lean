import Mathlib.Logic.Basic
import LintBridge.Proofs.Extraction.Diagnostics

/-!
# Uses of an editor

An open editor is used by replacing its text, asking for its syntax tree or for the
range at a point, and extracting diagnostics. The tree that an editor keeps is never
that of an older text: after any uses an editor answers like one that is opened on
the current text.
-/

namespace LintBridge.Editor

variable {parse : Parser} {editor : Editor}

/-! ## The kept tree -/

theorem fresh_ofText (parse : Parser) (path text : String) : (ofText path text).Fresh parse :=
  nofun

/-- A new text has a version that no tree has been kept for. -/
theorem Fresh.setText (fresh : editor.Fresh parse) (text : String) :
    (editor.setText text).Fresh parse := by
  intro version tree kept
  have older := (fresh version tree kept).1
  change version ≤ editor.buffer.version + 1 ∧ (version = editor.buffer.version + 1 → _)
  exact ⟨Nat.le_succ_of_le older, fun equal => by omega⟩

theorem Fresh.syntaxTree (fresh : editor.Fresh parse) :
    (editor.syntaxTree parse).2.Fresh parse := by
  have parsed : Fresh parse
      { editor with tree? := some (editor.buffer.version, parse editor.buffer.lines) } := by
    intro version tree kept
    cases kept
    exact ⟨Nat.le_refl _, fun _ => rfl⟩
  rw [Editor.syntaxTree]
  split
  · exact parsed
  · split
    · exact fresh
    · exact parsed

theorem Fresh.rangeAt (fresh : editor.Fresh parse) (line column : Option Int) :
    (editor.rangeAt parse line column).2.Fresh parse := by
  rw [Editor.rangeAt]
  split
  · exact fresh
  · exact fresh
  · exact fresh.syntaxTree

theorem Fresh.remap (fresh : editor.Fresh parse) (issue : Issue) :
    (editor.remap parse issue).2.Fresh parse := by
  rw [Editor.remap]
  split
  · exact fresh.rangeAt _ _
  · exact fresh

theorem Fresh.anchor (fresh : editor.Fresh parse) (issues : List Issue) :
    (Selection.anchor parse editor issues).2.2.Fresh parse := by
  induction issues generalizing editor with
  | nil => exact fresh
  | cons issue issues ih =>
      have later := ih (fresh.remap issue)
      rw [Selection.anchor]
      cases remapped : editor.remap parse issue with
      | mk result after =>
          rw [remapped] at later
          cases result with
          | ok issue => exact later
          | error fault => exact later

theorem Fresh.shownTree_eq (fresh : editor.Fresh parse) :
    editor.shownTree parse = parse editor.buffer.lines := by
  rw [shownTree, Editor.syntaxTree]
  split
  · rfl
  · rename_i version tree kept
    split
    · rename_i current
      exact (fresh version tree kept).2 current
    · rfl

/-! ## Uses and their answers -/

/-- A use of an open editor. -/
inductive Use where
  | setText (text : String)
  | syntaxTree
  | range (line column : Option Int)
  | extract (pattern : Pattern) (filePath : Option String) (report : String)

/-- What an editor answers when it is used. -/
inductive Answer where
  | done
  | tree (tree : Syntax.Tree)
  | range (result : Except RangeFault Range)
  | missingGroups (names : List String)
  | extraction (diagnostics : List Diagnostic) (log : List LogRecord)

/-- Use an editor. -/
def use (parse : Parser) (editor : Editor) : Use → Answer × Editor
  | .setText text => (.done, editor.setText text)
  | .syntaxTree =>
      let (tree, editor) := editor.syntaxTree parse
      (.tree tree, editor)
  | .range line column =>
      let (result, editor) := editor.rangeAt parse line column
      (.range result, editor)
  | .extract pattern filePath report =>
      match Extraction.run parse pattern filePath Extraction.undisturbed editor report with
      | .error names => (.missingGroups names, editor)
      | .ok extraction => (.extraction extraction.diagnostics extraction.log, extraction.editor)

/-- Use an editor several times. -/
def useAll (parse : Parser) (editor : Editor) : List Use → List Answer × Editor
  | [] => ([], editor)
  | step :: steps =>
      let (answer, editor) := editor.use parse step
      let (answers, editor) := useAll parse editor steps
      (answer :: answers, editor)

namespace Use

/-- Whether a use replaces the text. -/
def isSetText : Use → Bool
  | .setText _ => true
  | _ => false

/-- The text after a use. -/
def textAfter (text : String) : Use → String
  | .setText replacement => replacement
  | _ => text

/-- What a use answers on a text that no tree has been kept for. -/
def answer (parse : Parser) (text : String) : Use → Answer
  | .setText _ => .done
  | .syntaxTree => .tree (parse (rowsOf text))
  | .range line column => .range (expand (parse (rowsOf text)) (rowsOf text) line column)
  | .extract pattern filePath report =>
      match Issue.parse pattern { filePath } report with
      | .error names => .missingGroups names
      | .ok issues =>
          let lines := rowsOf text
          let selection := Selection.ofIssues lines issues
          .extraction
            (selection.kept.filterMap (Issue.anchored? (parse lines) lines))
            (selection.log ++ selection.kept.filterMap (Issue.misfit? (parse lines) lines))

/-- What uses answer if before each of them the current text is opened anew. -/
def answersAfresh (parse : Parser) (path : String) : String → List Use → List Answer
  | _, [] => []
  | text, step :: steps =>
      ((ofText path text).use parse step).1 :: answersAfresh parse path (step.textAfter text) steps

end Use

/-- One use of an editor: the answer depends on the text alone, the text and its version
change with it, and the kept tree does not become stale. -/
theorem Fresh.use (fresh : editor.Fresh parse) (step : Use) :
    (editor.use parse step).1 = step.answer parse editor.buffer.text ∧
    (editor.use parse step).2.buffer.text = step.textAfter editor.buffer.text ∧
    (editor.use parse step).2.buffer.version =
      editor.buffer.version + (if step.isSetText then 1 else 0) ∧
    (editor.use parse step).2.Fresh parse := by
  have tree := fresh.shownTree_eq
  cases step with
  | setText text => exact ⟨rfl, rfl, rfl, fresh.setText text⟩
  | syntaxTree =>
      have buffer := buffer_syntaxTree parse editor
      refine ⟨?_, congrArg Buffer.text buffer, congrArg Buffer.version buffer,
        fresh.syntaxTree⟩
      rw [Use.answer, ← editor.buffer.lines_eq, ← tree]
      rfl
  | range line column =>
      have buffer := (editor.rangeAt_snd parse line column).1
      refine ⟨?_, congrArg Buffer.text buffer, congrArg Buffer.version buffer,
        fresh.rangeAt line column⟩
      rw [Use.answer, ← editor.buffer.lines_eq, ← tree, ← rangeAt_fst]
      rfl
  | extract pattern filePath report =>
      rw [Editor.use, Extraction.run, Use.answer, ← editor.buffer.lines_eq]
      cases Issue.parse pattern { filePath } report with
      | error names => exact ⟨rfl, rfl, rfl, fresh⟩
      | ok issues =>
          let selection := Selection.ofIssues editor.buffer.lines issues
          rcases Selection.anchor_spec parse editor selection.kept with
            ⟨diagnostics, records, buffer⟩
          rw [tree] at diagnostics records
          refine ⟨?_, congrArg Buffer.text buffer, congrArg Buffer.version buffer,
            fresh.anchor selection.kept⟩
          exact congrArg₂ Answer.extraction diagnostics (congrArg (selection.log ++ ·) records)

theorem use_ofText_fst (parse : Parser) (path text : String) (step : Use) :
    ((ofText path text).use parse step).1 = step.answer parse text :=
  ((fresh_ofText parse path text).use step).1

/-- After any uses of an editor, its text and version are those that the uses have set, and
the kept tree is not stale. -/
theorem Fresh.useAll (fresh : editor.Fresh parse) (steps : List Use) :
    (editor.useAll parse steps).2.buffer.text = steps.foldl Use.textAfter editor.buffer.text ∧
    (editor.useAll parse steps).2.buffer.version =
      editor.buffer.version + steps.countP Use.isSetText ∧
    (editor.useAll parse steps).2.Fresh parse := by
  induction steps generalizing editor with
  | nil => exact ⟨rfl, rfl, fresh⟩
  | cons step steps ih =>
      rcases fresh.use step with ⟨_, text, version, later⟩
      rcases ih later with ⟨lastText, lastVersion, last⟩
      rw [text] at lastText
      rw [version] at lastVersion
      rw [List.foldl_cons, List.countP_cons, Nat.add_comm (List.countP _ _), ← Nat.add_assoc]
      exact ⟨lastText, lastVersion, last⟩

theorem Fresh.useAll_fst (fresh : editor.Fresh parse) (path : String) (steps : List Use) :
    (editor.useAll parse steps).1 =
      Use.answersAfresh parse path editor.buffer.text steps := by
  induction steps generalizing editor with
  | nil => rfl
  | cons step steps ih =>
      rcases fresh.use step with ⟨answer, text, _, later⟩
      have answers := ih later
      rw [text] at answers
      rw [Use.answersAfresh, use_ofText_fst]
      exact congrArg₂ List.cons answer answers

/-- After any uses the tree is that of the current rows, which are those of the text that
was set last, and the version counts how often a text was set. Every answer on the way
is the one of an editor that is newly opened on the text of that moment. -/
theorem useAll_ofText (parse : Parser) (path text : String) (steps : List Use) :
    let current := steps.foldl Use.textAfter text
    let used := (ofText path text).useAll parse steps
    used.2.buffer.text = current ∧ used.2.buffer.lines = rowsOf current ∧
    used.2.buffer.version = steps.countP Use.isSetText ∧
    (used.2.syntaxTree parse).1 = parse (rowsOf current) ∧
    used.1 = Use.answersAfresh parse path text steps := by
  intro current used
  have opened := fresh_ofText parse path text
  rcases opened.useAll steps with ⟨lastText, version, fresh⟩
  have rows : used.2.buffer.lines = rowsOf current := by
    rw [used.2.buffer.lines_eq, lastText]
    rfl
  refine ⟨lastText, rows, ?_, ?_, opened.useAll_fst path steps⟩
  · exact version.trans (Nat.zero_add _)
  · rw [← rows]
    exact fresh.shownTree_eq

end LintBridge.Editor
