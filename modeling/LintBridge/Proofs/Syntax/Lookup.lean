import LintBridge.Proofs.Syntax.Covering
import LintBridge.Proofs.Text.Column
import LintBridge.Syntax.Lookup

/-!
# The node over a character

The token lookup asks for the smallest node over one character of a row. It answers
the end of this node if the node lies on the row and extends past the character.
-/

namespace LintBridge.Syntax

open LintBridge.Text

/-- The place of a character column in a row. -/
def columnPoint (line : Line) (row column : Nat) : Point :=
  ⟨row, byteColumn line column⟩

/-- The smallest node over the character at a column. -/
def nodeOver (tree : Tree) (line : Line) (row column : Nat) : Tree :=
  tree.covering (columnPoint line row column) (columnPoint line row (column + 1))

section

variable {tree : Tree} {line : Line} {row : Nat}

theorem columnPoint_le {left right : Nat} (le : left ≤ right)
    (inLine : right ≤ line.length) :
    columnPoint line row left ≤ columnPoint line row right := by
  rw [Point.le_def]
  exact Or.inr ⟨rfl, byteColumn_le_byteColumn line le inLine⟩

theorem columnPoint_lt_succ {column : Nat} (inLine : column < line.length) :
    columnPoint line row column < columnPoint line row (column + 1) := by
  rw [Point.lt_def]
  exact Or.inr ⟨rfl, byteColumn_lt_succ line inLine⟩

/-- A column lies before a point of its row exactly when it lies before the
character column of that point. -/
theorem columnPoint_le_iff {column : Nat} (inLine : column ≤ line.length)
    {point : Point} (onRow : point.row = row) :
    columnPoint line row column ≤ point ↔ column ≤ charColumn line point.column := by
  rw [Point.le_def, ← byteColumn_le_iff line inLine]
  simp [columnPoint, onRow]

theorem nodeAt?_eq {column : Nat} (inLine : column < line.length) :
    nodeAt? tree line row column = some (nodeOver tree line row column) := by
  have stop : min ((column : Int) + 1) line.length = (column + 1 : Nat) := by
    omega
  have le : columnPoint line row column ≤ columnPoint line row (column + 1) :=
    le_of_lt (columnPoint_lt_succ inLine)
  rw [nodeAt?, stop]
  exact if_pos le

/-- The lookup answers the end of the smallest node over the character, provided
that the node lies on the row and extends past the column. -/
theorem tokenEnd?_eq_some_iff {column stop : Nat} (inLine : column < line.length) :
    tokenEnd? tree line row column = some stop ↔
      (nodeOver tree line row column).first.row = row ∧
      (nodeOver tree line row column).last.row = row ∧
      charColumn line (nodeOver tree line row column).last.column = stop ∧
      column < stop := by
  simp only [tokenEnd?, nodeAt?_eq inLine, Option.bind_eq_bind, Option.bind_some]
  constructor
  · intro answer
    split at answer
    · rename_i onRow
      split at answer
      · cases answer
      · rename_i past
        cases answer
        exact ⟨onRow.1, onRow.2, rfl, by omega⟩
    · cases answer
  · intro given
    rcases given with ⟨firstRow, lastRow, rfl, past⟩
    rw [if_pos ⟨firstRow, lastRow⟩, if_neg (by omega)]

theorem tokenEnd?_bounds {column stop : Nat} (inLine : column < line.length)
    (answer : tokenEnd? tree line row column = some stop) :
    column < stop ∧ stop ≤ line.length := by
  rcases (tokenEnd?_eq_some_iff inLine).mp answer with ⟨_, _, ends, past⟩
  exact ⟨past, ends ▸ charColumn_le_length line _⟩

end

end LintBridge.Syntax
