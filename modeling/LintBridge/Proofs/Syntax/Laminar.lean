import LintBridge.Proofs.Syntax.Lookup
import LintBridge.Proofs.Syntax.ParseNested

/-!
# Token answers are laminar

The nodes of a nested tree never overlap partially, and neither do the answers of
the token lookup: a column inside an answered stretch has an answer that does not
leave the stretch, and the columns of a leaf have the end of the leaf in common.
-/

namespace LintBridge.Syntax

open LintBridge.Text

section

variable {tree : Tree} {line : Line} {row : Nat}

/-- Inside the stretch that a node is answered for, the node over a character is
the same one or a node of it that covers the character. -/
theorem nodeOver_cases (nested : tree.Nested) {column inner : Nat}
    (fromColumn : column ≤ inner) (inLine : inner < line.length)
    (before : columnPoint line row (inner + 1) ≤ (nodeOver tree line row column).last) :
    nodeOver tree line row inner = nodeOver tree line row column ∨
      (nodeOver tree line row inner).Within (nodeOver tree line row column) ∧
      (nodeOver tree line row inner).Covers
        (columnPoint line row inner) (columnPoint line row (inner + 1)) := by
  have outerNonempty : columnPoint line row column < columnPoint line row (column + 1) :=
    columnPoint_lt_succ (Nat.lt_of_le_of_lt fromColumn inLine)
  have nonempty : columnPoint line row inner < columnPoint line row (inner + 1) :=
    columnPoint_lt_succ inLine
  have within : (nodeOver tree line row column).Within tree :=
    tree.covering_within outerNonempty
  rcases within.bounds nested with ⟨_, begins, ends⟩
  by_cases first : (nodeOver tree line row column).first ≤ columnPoint line row inner
  · right
    have treeCovers : tree.Covers (columnPoint line row inner)
        (columnPoint line row (inner + 1)) :=
      ⟨le_trans begins first, le_trans before ends⟩
    exact ⟨Tree.covering_within_of_covers within nested nonempty ⟨first, before⟩,
      tree.covering_covers nonempty treeCovers⟩
  · left
    -- The answer begins after its own character, so it is the whole tree.
    have outside : ¬ tree.Covers (columnPoint line row column)
        (columnPoint line row (column + 1)) := by
      intro covers
      apply first
      calc (nodeOver tree line row column).first
          ≤ columnPoint line row column :=
            (tree.covering_covers outerNonempty covers).1
        _ ≤ columnPoint line row inner :=
            columnPoint_le fromColumn (Nat.le_of_lt inLine)
    have whole : nodeOver tree line row column = tree :=
      Tree.covering_of_not_covers nested outerNonempty outside
    rw [whole] at first ⊢
    exact Tree.covering_of_not_covers nested nonempty fun covers => first covers.1

/-- Inside an answered stretch every column has an answer within the stretch. -/
theorem tokenEnd?_within (nested : tree.Nested) {column stop inner : Nat}
    (answer : tokenEnd? tree line row column = some stop)
    (fromColumn : column ≤ inner) (before : inner < stop) (inLine : stop ≤ line.length) :
    ∃ innerStop, tokenEnd? tree line row inner = some innerStop ∧
      inner < innerStop ∧ innerStop ≤ stop := by
  have innerLine : inner < line.length := Nat.lt_of_lt_of_le before inLine
  have columnLine : column < line.length := Nat.lt_of_le_of_lt fromColumn innerLine
  rcases (tokenEnd?_eq_some_iff columnLine).mp answer with ⟨firstRow, lastRow, ends, _⟩
  have reaches : columnPoint line row (inner + 1) ≤ (nodeOver tree line row column).last := by
    rw [columnPoint_le_iff innerLine lastRow, ends]
    exact before
  rcases nodeOver_cases nested fromColumn innerLine reaches with
    equal | ⟨within, covers⟩
  · refine ⟨stop, (tokenEnd?_eq_some_iff innerLine).mpr ?_, before, Nat.le_refl stop⟩
    rw [equal]
    exact ⟨firstRow, lastRow, ends, before⟩
  · have outerNested : (nodeOver tree line row column).Nested :=
      ((tree.covering_within (columnPoint_lt_succ columnLine)).bounds nested).1
    rcases within.bounds outerNested with ⟨_, begins, stops⟩
    have innerFirst : (nodeOver tree line row inner).first.row = row :=
      Nat.le_antisymm (Point.row_le_row covers.1)
        (Nat.le_trans (Nat.le_of_eq firstRow.symm) (Point.row_le_row begins))
    have innerLast : (nodeOver tree line row inner).last.row = row :=
      Nat.le_antisymm
        (Nat.le_trans (Point.row_le_row stops) (Nat.le_of_eq lastRow))
        (Point.row_le_row covers.2)
    have past : inner < charColumn line (nodeOver tree line row inner).last.column :=
      (columnPoint_le_iff innerLine innerLast).mp covers.2
    refine ⟨_, (tokenEnd?_eq_some_iff innerLine).mpr ⟨innerFirst, innerLast, rfl, past⟩,
      past, ?_⟩
    rw [← ends]
    apply charColumn_le_charColumn
    exact Point.column_le_column stops (innerLast.trans lastRow.symm)

/-- The answer at every column of a leaf of one row is the end of the leaf. -/
theorem tokenEnd?_of_leaf (nested : tree.Nested) {leaf : Tree} (within : leaf.Within tree)
    (childless : leaf.children = []) {start stop column : Nat}
    (first : leaf.first = columnPoint line row start)
    (last : leaf.last = columnPoint line row stop) (inLine : stop ≤ line.length)
    (fromStart : start ≤ column) (before : column < stop) :
    tokenEnd? tree line row column = some stop := by
  have columnLine : column < line.length := Nat.lt_of_lt_of_le before inLine
  have covers : leaf.Covers (columnPoint line row column)
      (columnPoint line row (column + 1)) := by
    rw [Tree.Covers, first, last]
    exact ⟨columnPoint_le fromStart (Nat.le_of_lt columnLine), columnPoint_le before inLine⟩
  have inner := Tree.covering_within_of_covers within nested
    (columnPoint_lt_succ columnLine) covers
  have answer : nodeOver tree line row column = leaf := inner.of_leaf childless
  apply (tokenEnd?_eq_some_iff columnLine).mpr
  rw [answer, first, last]
  exact ⟨rfl, rfl, charColumn_byteColumn line inLine, before⟩

end

/-- The answers of the token lookup in a nested tree are laminar. An answer lies
past its column and inside the line, the columns up to it have answers that do not
go beyond it, and on a leaf of one row every column has the end of the leaf as its
answer. -/
theorem tokenEnd?_laminar (tree : Tree) (nested : tree.Nested) (line : Line) (row : Nat) :
    (∀ column stop : Nat, column < line.length →
      tokenEnd? tree line row column = some stop →
        column < stop ∧ stop ≤ line.length ∧
        ∀ inner : Nat, column ≤ inner → inner < stop →
          ∃ innerStop, tokenEnd? tree line row inner = some innerStop ∧
            inner < innerStop ∧ innerStop ≤ stop) ∧
    ∀ (leaf : Tree) (start stop : Nat), leaf.Within tree → leaf.children = [] →
      leaf.first = ⟨row, byteColumn line start⟩ →
      leaf.last = ⟨row, byteColumn line stop⟩ → stop ≤ line.length →
        ∀ column : Nat, start ≤ column → column < stop →
          tokenEnd? tree line row column = some stop := by
  constructor
  · intro column stop columnLine answer
    rcases tokenEnd?_bounds columnLine answer with ⟨past, inLine⟩
    refine ⟨past, inLine, ?_⟩
    intro inner fromColumn before
    exact tokenEnd?_within nested answer fromColumn before inLine
  · intro leaf start stop within childless first last inLine column fromStart before
    exact tokenEnd?_of_leaf nested within childless first last inLine fromStart before

/-- The blank after a product in a sum belongs to the whole sum, and the sign after
it to itself. -/
theorem tokenEnd?_laminar_sum :
    (parseRows ["é = a*b + c".toList]).Nested ∧
    tokenEnd? (parseRows ["é = a*b + c".toList]) "é = a*b + c".toList 0 (7 : Nat) = some 11 ∧
    ∃ innerStop,
      tokenEnd? (parseRows ["é = a*b + c".toList]) "é = a*b + c".toList 0 (8 : Nat) =
        some innerStop ∧
      8 < innerStop ∧ innerStop ≤ 11 := by
  have answer :
      tokenEnd? (parseRows ["é = a*b + c".toList]) "é = a*b + c".toList 0 (7 : Nat) =
        some 11 := by
    decide +kernel
  have nested := parseRows_nested ["é = a*b + c".toList]
  rcases (tokenEnd?_laminar _ nested _ 0).1 7 11 (by decide +kernel) answer with
    ⟨_, _, within⟩
  exact ⟨nested, answer, within 8 (by decide) (by decide)⟩

end LintBridge.Syntax
