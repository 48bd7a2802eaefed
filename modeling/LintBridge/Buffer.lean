import LintBridge.Text.Lines

/-!
# Buffers

The text of an open file, addressed by rows that count from zero.
-/

namespace LintBridge

/-- A row of a buffer, without its line break. -/
abbrev Line := List Char

/-- The rows of a text. -/
def rowsOf (text : String) : List Line :=
  Text.splitRows text.toList

/-- A text with its rows, and how often it has been replaced. -/
structure Buffer where
  text : String
  lines : List Line
  version : Nat
  lines_eq : lines = rowsOf text

/-- A row that a buffer does not have. -/
structure MissingRow where
  row : Option Int
  count : Nat
  deriving DecidableEq, Repr

/-- A number as written in messages, `None` when there is none. -/
def shownNumber : Option Int → String
  | none => "None"
  | some n => toString n

/-- The explanation of a missing row. -/
def MissingRow.message (missing : MissingRow) : String :=
  s!"Row {shownNumber missing.row} is outside of the buffer (0-{(missing.count : Int) - 1})."

/-- The row of some lines with a given number. -/
def lineAt (lines : List Line) (row : Option Int) : Except MissingRow Line :=
  match row with
  | none => .error ⟨none, lines.length⟩
  | some row =>
      if row < 0 then .error ⟨some row, lines.length⟩
      else match lines[row.toNat]? with
        | some line => .ok line
        | none => .error ⟨some row, lines.length⟩

namespace Buffer

/-- A buffer as it is opened. -/
def ofText (text : String) : Buffer :=
  ⟨text, rowsOf text, 0, rfl⟩

/-- Replace the text. -/
def setText (buffer : Buffer) (text : String) : Buffer :=
  ⟨text, rowsOf text, buffer.version + 1, rfl⟩

/-- The row with a given number. -/
def line (buffer : Buffer) (row : Option Int) : Except MissingRow Line :=
  lineAt buffer.lines row

@[simp] theorem lines_ofText (text : String) : (ofText text).lines = rowsOf text := rfl

@[simp] theorem version_ofText (text : String) : (ofText text).version = 0 := rfl

@[simp] theorem lines_setText (buffer : Buffer) (text : String) :
    (buffer.setText text).lines = rowsOf text := rfl

@[simp] theorem version_setText (buffer : Buffer) (text : String) :
    (buffer.setText text).version = buffer.version + 1 := rfl

end Buffer

end LintBridge
