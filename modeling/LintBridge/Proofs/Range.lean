import LintBridge.Proofs.Syntax.Lookup
import LintBridge.Range

/-!
# Ranges inside a buffer

A point of some lines expands to a range of its own row that begins at the point
and does not leave the row. The range is empty only at the end of the row.
-/

namespace LintBridge

theorem eq_ok_of_toOption {Fault Answer : Type} {result : Except Fault Answer} {answer : Answer}
    (found : result.toOption = some answer) : result = .ok answer := by
  cases result with
  | error fault => cases found
  | ok other => rw [Option.some.inj found]

theorem lineAt_eq_ok_iff {lines : List Line} {row? : Option Int} {line : Line} :
    lineAt lines row? = .ok line ↔
      ∃ row : Nat, row? = some (row : Int) ∧ lines[row]? = some line := by
  cases row? with
  | none => simp [lineAt]
  | some row =>
      rw [lineAt]
      constructor
      · intro found
        split at found
        · cases found
        · rename_i nonnegative
          split at found
          · rename_i text there
            cases found
            exact ⟨row.toNat, by congr 1; omega, there⟩
          · cases found
      · intro given
        rcases given with ⟨number, equal, there⟩
        cases equal
        rw [if_neg (by omega), Int.toNat_natCast, there]

/-- A position is one of some lines: its row exists, and its column does not
exceed the length of the row. -/
def Position.FitsIn (lines : List Line) (position : Position) : Prop :=
  ∃ (row : Nat) (line : Line), position.line = some (row : Int) ∧
    lines[row]? = some line ∧ position.column ≤ line.length

/-- A range lies on one row of some lines, and is empty only at the end of it. -/
def Range.AnchoredIn (lines : List Line) (range : Range) : Prop :=
  ∃ (row : Nat) (line : Line) (start stop : Nat), lines[row]? = some line ∧
    range = .ofColumns row start stop ∧ start ≤ stop ∧ stop ≤ line.length ∧
    (start = stop → start = line.length)

theorem Range.AnchoredIn.start_fitsIn {lines : List Line} {range : Range}
    (anchored : range.AnchoredIn lines) : range.start.FitsIn lines := by
  rcases anchored with ⟨row, line, start, stop, there, rfl, le, inLine, _⟩
  refine ⟨row, line, rfl, there, ?_⟩
  exact Int.ofNat_le.mpr (Nat.le_trans le inLine)

theorem tokenRange_anchored (tree : Syntax.Tree) {lines : List Line} {row column : Nat}
    {line : Line} (there : lines[row]? = some line) (inLine : column < line.length) :
    ((Anchor.token row line column).range tree).AnchoredIn lines := by
  refine ⟨row, line, column, _, there, rfl, ?_⟩
  cases answer : Syntax.tokenEnd? tree line row column with
  | none =>
      rw [Option.getD_none]
      exact ⟨Nat.le_of_lt inLine, Nat.le_refl _, fun equal => equal⟩
  | some stop =>
      rcases Syntax.tokenEnd?_bounds inLine answer with ⟨past, bounded⟩
      rw [Option.getD_some]
      exact ⟨Nat.le_of_lt past, bounded, fun equal => absurd equal (Nat.ne_of_lt past)⟩

/-- Expanding a point with a column answers a range of its row from that column on. -/
theorem expand_column_anchored {tree : Syntax.Tree} {lines : List Line} {line? : Option Int}
    {column : Int} {range : Range}
    (expanded : expand tree lines line? (some column) = .ok range) :
    range.AnchoredIn lines ∧ range.start = ⟨line?, column⟩ := by
  rw [expand, anchorAt] at expanded
  cases found : lineAt lines line? with
  | error missing =>
      rw [found] at expanded
      cases expanded
  | ok line =>
      rcases lineAt_eq_ok_iff.mp found with ⟨row, rfl, there⟩
      rw [found] at expanded
      simp only [Option.getD_some, Int.toNat_natCast] at expanded
      split at expanded
      · cases expanded
      · rename_i bounded
        rw [not_or, Int.not_lt, Int.not_lt] at bounded
        rcases Int.eq_ofNat_of_zero_le bounded.1 with ⟨start, rfl⟩
        rw [Int.toNat_natCast] at expanded
        have inLine := Int.ofNat_le.mp bounded.2
        split at expanded
        · rename_i before
          cases expanded
          exact ⟨tokenRange_anchored tree there before, rfl⟩
        · rename_i atEnd
          cases expanded
          refine ⟨⟨row, line, start, line.length, there, rfl, inLine, Nat.le_refl _, ?_⟩, rfl⟩
          exact fun equal => equal

/-- A point with a column has a range exactly if it is one of the lines. -/
theorem expand_column_isOk_iff (tree : Syntax.Tree) {lines : List Line} {line? : Option Int}
    {column : Int} (nonnegative : 0 ≤ column) :
    (∃ range, expand tree lines line? (some column) = .ok range) ↔
      Position.FitsIn lines ⟨line?, column⟩ := by
  constructor
  · intro given
    rcases given with ⟨range, expanded⟩
    rcases expand_column_anchored expanded with ⟨anchored, start⟩
    rw [← start]
    exact anchored.start_fitsIn
  · intro fits
    rcases fits with ⟨row, line, rfl, there, inLine⟩
    have found := lineAt_eq_ok_iff.mpr ⟨row, rfl, there⟩
    have bounded : ¬ (column < 0 ∨ (line.length : Int) < column) := by
      rw [not_or, Int.not_lt, Int.not_lt]
      exact ⟨nonnegative, inLine⟩
    rw [expand, anchorAt, found]
    dsimp only
    rw [if_neg bounded]
    split
    · exact ⟨_, rfl⟩
    · exact ⟨_, rfl⟩

end LintBridge
