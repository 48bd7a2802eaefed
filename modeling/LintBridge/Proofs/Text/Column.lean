import LintBridge.Text.Column

/-!
# Converting columns

Character columns and byte columns of one line determine each other: the byte
column of a character column is at most some number of bytes exactly when the
character column is at most the number of whole characters in those bytes.
-/

namespace LintBridge.Text

theorem byteLength_take_le (line : List Char) (column : Nat) :
    byteLength (line.take column) ≤ byteLength line := by
  calc byteLength (line.take column)
      ≤ byteLength (line.take column) + byteLength (line.drop column) :=
        Nat.le_add_right _ _
    _ = byteLength line := by
        rw [← byteLength_append, List.take_append_drop]

theorem wholeChars_le_length (line : List Char) (bytes : Nat) :
    wholeChars line bytes ≤ line.length := by
  induction line generalizing bytes with
  | nil => simp [wholeChars]
  | cons c rest ih =>
      simp only [wholeChars, List.length_cons]
      split
      · exact Nat.succ_le_succ (ih _)
      · exact Nat.zero_le _

/-- The characters before a column fit into some bytes exactly when those bytes
hold that many whole characters. -/
theorem byteLength_take_le_iff (line : List Char) {column : Nat}
    (inLine : column ≤ line.length) (bytes : Nat) :
    byteLength (line.take column) ≤ bytes ↔ column ≤ wholeChars line bytes := by
  induction line generalizing column bytes with
  | nil =>
      have zero : column = 0 := Nat.le_zero.mp inLine
      subst zero
      simp [wholeChars]
  | cons c rest ih =>
      cases column with
      | zero => simp
      | succ column =>
          have inRest : column ≤ rest.length := Nat.le_of_succ_le_succ inLine
          simp only [List.take_succ_cons, byteLength_cons, wholeChars]
          by_cases fits : c.utf8Size ≤ bytes
          · rw [if_pos fits, Nat.add_le_add_iff_right, ← ih inRest]
            omega
          · rw [if_neg fits]
            omega

theorem clampColumn_ofNat (length column : Nat) :
    clampColumn length column = min column length := by
  rw [clampColumn, if_neg (by omega), Int.toNat_natCast]

theorem byteColumn_ofNat (line : List Char) {column : Nat}
    (inLine : column ≤ line.length) :
    byteColumn line column = byteLength (line.take column) := by
  rw [byteColumn, clampColumn_ofNat, Nat.min_eq_left inLine]

theorem charColumn_le_length (line : List Char) (column : Int) :
    charColumn line column ≤ line.length :=
  wholeChars_le_length line _

/-- The two conversions form a Galois connection. -/
theorem byteColumn_le_iff (line : List Char) {column : Nat}
    (inLine : column ≤ line.length) (bytes : Nat) :
    byteColumn line column ≤ bytes ↔ column ≤ charColumn line bytes := by
  have whole := byteLength_take_le line column
  rw [byteColumn_ofNat line inLine, charColumn, clampColumn_ofNat,
    ← byteLength_take_le_iff line inLine, Nat.le_min]
  exact (and_iff_left whole).symm

theorem byteColumn_le_byteColumn (line : List Char) {left right : Nat}
    (le : left ≤ right) (inLine : right ≤ line.length) :
    byteColumn line left ≤ byteColumn line right := by
  have reached := (byteColumn_le_iff line inLine _).mp (Nat.le_refl _)
  exact (byteColumn_le_iff line (Nat.le_trans le inLine) _).mpr
    (Nat.le_trans le reached)

theorem charColumn_le_charColumn (line : List Char) {left right : Nat}
    (le : left ≤ right) : charColumn line left ≤ charColumn line right := by
  have inLine := charColumn_le_length line left
  have back := (byteColumn_le_iff line inLine left).mpr (Nat.le_refl _)
  exact (byteColumn_le_iff line inLine right).mp (Nat.le_trans back le)

theorem charColumn_byteColumn (line : List Char) {column : Nat}
    (inLine : column ≤ line.length) :
    charColumn line (byteColumn line column) = column := by
  apply Nat.le_antisymm
  · apply Nat.not_lt.mp
    intro past
    have next : column + 1 ≤ line.length :=
      Nat.le_trans past (charColumn_le_length line _)
    have bytes := (byteColumn_le_iff line next _).mpr past
    have further : ∃ c, line.take (column + 1) = line.take column ++ [c] :=
      ⟨_, List.take_succ_eq_append_getElem (Nat.lt_of_succ_le next)⟩
    rcases further with ⟨c, longer⟩
    rw [byteColumn_ofNat line next, byteColumn_ofNat line inLine, longer,
      byteLength_append, byteLength_cons] at bytes
    have wide := Char.utf8Size_pos c
    omega
  · exact (byteColumn_le_iff line inLine _).mp (Nat.le_refl _)

theorem byteColumn_lt_succ (line : List Char) {column : Nat}
    (inLine : column < line.length) :
    byteColumn line column < byteColumn line (column + 1 : Nat) := by
  rw [← Nat.not_le, byteColumn_le_iff line inLine,
    charColumn_byteColumn line (Nat.le_of_lt inLine)]
  exact Nat.not_succ_le_self column

end LintBridge.Text
