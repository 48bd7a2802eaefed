import LintBridge.Syntax.Lookup
import LintBridge.Text.Blank

/-!
# Positions and ranges

Lines and columns count from zero, columns in characters. A single point of a
buffer expands to the range of the token there.
-/

namespace LintBridge

/-- A place in a buffer; the line may be unknown. -/
structure Position where
  line : Option Int
  column : Int
  deriving DecidableEq, Repr

/-- The text between two positions. -/
structure Range where
  start : Position
  stop : Position
  deriving DecidableEq, Repr

/-- Whether a range begins and ends on the same line. -/
def Range.isSingleLine (range : Range) : Bool :=
  range.start.line == range.stop.line

/-- Why a point has no range. -/
inductive RangeFault where
  | row (missing : MissingRow)
  | column (column line : Int) (length : Nat)
  deriving DecidableEq, Repr

/-- The explanation of a point without a range. -/
def RangeFault.message : RangeFault → String
  | .row missing => missing.message
  | .column given line length => s!"Column {given} is outside of line {line} (length {length})."

/-- A range of one row. -/
def Range.ofColumns (row start stop : Nat) : Range :=
  ⟨⟨some row, start⟩, ⟨some row, stop⟩⟩

/-- The number of blanks a line begins with. -/
def indentation (line : Line) : Nat :=
  (line.takeWhile Text.isBlank).length

/-- What a point of a buffer is the start of: a given range, or the token at a
column of a row. -/
inductive Anchor where
  | span (range : Range)
  | token (row : Nat) (line : Line) (column : Nat)

/-- What a point of some lines is the start of. Without a column it is the text of
the line from its first character that is not blank. -/
def anchorAt (lines : List Line) (line : Option Int) (column : Option Int) :
    Except RangeFault Anchor :=
  match lineAt lines line with
  | .error missing => .error (.row missing)
  | .ok text =>
      let row := (line.getD 0).toNat
      match column with
      | none => .ok (.span (.ofColumns row (indentation text) text.length))
      | some column =>
          if column < 0 ∨ (text.length : Int) < column then
            .error (.column column row text.length)
          else if column.toNat < text.length then .ok (.token row text column.toNat)
          else .ok (.span (.ofColumns row column.toNat text.length))

/-- The range of an anchor. A token that does not end on its line reaches to the
end of the line. -/
def Anchor.range (tree : Syntax.Tree) : Anchor → Range
  | .span range => range
  | .token row line column =>
      .ofColumns row column ((Syntax.tokenEnd? tree line row column).getD line.length)

/-- The range that a point of some lines expands to, given their syntax tree. -/
def expand (tree : Syntax.Tree) (lines : List Line) (line : Option Int) (column : Option Int) :
    Except RangeFault Range :=
  (anchorAt lines line column).map (·.range tree)

end LintBridge
