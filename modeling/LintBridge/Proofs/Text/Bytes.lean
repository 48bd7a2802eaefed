import LintBridge.Proofs.Text.Column
import LintBridge.Proofs.Text.Utf8
import Mathlib.Order.Monotone.Defs
import Mathlib.Order.Nat

/-!
# Columns of encoded lines

The byte column of a character column is the length of what is encoded before it, and the
character column of a byte column is the length of what is decoded before it. The bytes may
be cut inside a character, and then the decoder leaves out what is there of this character
and nothing else. So the two conversions form a Galois connection.
-/

namespace LintBridge.Text

/-- Decode, leaving out every ill-formed piece. The first argument counts the bytes that
belong to the piece before. -/
def decodeWholeFrom : Nat → List UInt8 → List Char
  | _, [] => []
  | skip + 1, _ :: rest => decodeWholeFrom skip rest
  | 0, first :: rest =>
      match nextPiece first rest with
      | .char c width => c :: decodeWholeFrom (width - 1) rest
      | .fault _ width => decodeWholeFrom (width - 1) rest

/-- The text of any byte sequence, without its ill-formed pieces. -/
def decodeWhole (bytes : List UInt8) : List Char :=
  decodeWholeFrom 0 bytes

/-- The part of a sequence before a column. A negative column counts from the end. -/
def before {α : Type} (items : List α) (column : Int) : List α :=
  items.take (clampColumn items.length column)

theorem length_encode (text : List Char) : (encode text).length = byteLength text := by
  induction text with
  | nil => rfl
  | cons c text ih =>
      rw [encode, List.flatMap_cons, List.length_append, String.length_utf8EncodeChar,
        byteLength_cons]
      exact congrArg _ ih

/-! ## Bytes that are cut inside a character -/

/-- If a character takes all bytes, then any fewer of them are one ill-formed piece. -/
theorem nextPiece_take {first : UInt8} {rest : List UInt8} {c : Char}
    (piece : nextPiece first rest = .char c (rest.length + 1)) {kept : Nat}
    (cut : kept < rest.length) :
    nextPiece first (rest.take kept) = .fault .unexpectedEnd (kept + 1) := by
  simp only [nextPiece] at piece ⊢
  by_cases one : first < 0x80
  · simp only [one, if_true, Piece.char.injEq] at piece
    omega
  by_cases stray : first < 0xC2
  · simp [one, stray] at piece
  rcases rest with _ | ⟨b, rest⟩
  · exact absurd cut (Nat.not_lt_zero kept)
  by_cases two : first < 0xE0
  · cases ofB : isContinuation b
    · simp [one, stray, two, ofB] at piece
    · obtain ⟨-, rfl⟩ : _ ∧ rest = [] := by simpa [one, stray, two, ofB] using piece
      obtain rfl : kept = 0 := Nat.lt_one_iff.mp cut
      simp [one, stray, two]
  cases ofB : secondByteOk first b
  · by_cases three : first < 0xF0 <;> by_cases four : first < 0xF5 <;>
      simp [one, stray, two, three, four, ofB] at piece
  rcases rest with _ | ⟨c, rest⟩
  · by_cases three : first < 0xF0 <;> by_cases four : first < 0xF5 <;>
      simp [one, stray, two, three, four, ofB] at piece
  by_cases three : first < 0xF0
  · cases ofC : isContinuation c
    · simp [one, stray, two, three, ofB, ofC] at piece
    · obtain ⟨-, rfl⟩ : _ ∧ rest = [] := by simpa [one, stray, two, three, ofB, ofC] using piece
      change kept < 2 at cut
      obtain rfl | rfl : kept = 0 ∨ kept = 1 := by omega
      · simp [one, stray, two, three]
      · simp [one, stray, two, three, ofB]
  by_cases four : first < 0xF5
  · cases ofC : isContinuation c
    · simp [one, stray, two, three, four, ofB, ofC] at piece
    rcases rest with _ | ⟨d, rest⟩
    · simp [one, stray, two, three, four, ofB, ofC] at piece
    cases ofD : isContinuation d
    · simp [one, stray, two, three, four, ofB, ofC, ofD] at piece
    · obtain ⟨-, rfl⟩ : _ ∧ rest = [] := by
        simpa [one, stray, two, three, four, ofB, ofC, ofD] using piece
      change kept < 3 at cut
      obtain rfl | rfl | rfl : kept = 0 ∨ kept = 1 ∨ kept = 2 := by omega
      · simp [one, stray, two, three, four]
      · simp [one, stray, two, three, four, ofB]
      · simp [one, stray, two, three, four, ofB, ofC]
  · simp [one, stray, two, three, four] at piece

theorem decodeWholeFrom_skip (skipped rest : List UInt8) :
    decodeWholeFrom skipped.length (skipped ++ rest) = decodeWholeFrom 0 rest := by
  induction skipped with
  | nil => rfl
  | cons byte skipped ih => rw [List.length_cons, List.cons_append, decodeWholeFrom, ih]

theorem decodeWhole_encodeChar_append (c : Char) (rest : List UInt8) :
    decodeWhole (String.utf8EncodeChar c ++ rest) = c :: decodeWhole rest := by
  rcases nextPiece_encodeChar c rest with ⟨first, more, bytes, piece⟩
  rw [bytes, List.cons_append, decodeWhole, decodeWholeFrom, piece]
  dsimp only
  rw [Nat.add_sub_cancel, decodeWholeFrom_skip]
  rfl

/-- Nothing is decoded of a character that is not there as a whole. -/
theorem decodeWhole_take_encodeChar {c : Char} {bytes : Nat} (cut : bytes < c.utf8Size) :
    decodeWhole ((String.utf8EncodeChar c).take bytes) = [] := by
  rcases nextPiece_encodeChar c [] with ⟨first, more, encoded, piece⟩
  rw [List.append_nil] at piece
  rw [← String.length_utf8EncodeChar, encoded, List.length_cons] at cut
  rw [encoded]
  cases bytes with
  | zero => rfl
  | succ kept =>
      have inside : kept < more.length := Nat.lt_of_succ_lt_succ cut
      rw [List.take_succ_cons, decodeWhole, decodeWholeFrom, nextPiece_take piece inside]
      dsimp only
      have skipped := decodeWholeFrom_skip (more.take kept) []
      rw [List.append_nil, List.length_take, Nat.min_eq_left (Nat.le_of_lt inside)] at skipped
      rw [Nat.add_sub_cancel, skipped]
      rfl

/-- The first bytes of a line are decoded to the characters that are there as a whole. -/
theorem decodeWhole_take_encode (line : List Char) (bytes : Nat) :
    decodeWhole ((encode line).take bytes) = line.take (wholeChars line bytes) := by
  induction line generalizing bytes with
  | nil =>
      change decodeWhole (List.take bytes []) = List.take _ []
      rw [List.take_nil, List.take_nil]
      rfl
  | cons c line ih =>
      have encoded : encode (c :: line) = String.utf8EncodeChar c ++ encode line := rfl
      rw [encoded, wholeChars]
      by_cases fits : c.utf8Size ≤ bytes
      · have whole : (String.utf8EncodeChar c).take bytes = String.utf8EncodeChar c :=
          List.take_of_length_le (by rwa [String.length_utf8EncodeChar])
        rw [if_pos fits, List.take_append, whole, decodeWhole_encodeChar_append,
          String.length_utf8EncodeChar, ih, List.take_succ_cons]
      · have cut : bytes < c.utf8Size := Nat.lt_of_not_le fits
        have within : bytes ≤ (String.utf8EncodeChar c).length := by
          rw [String.length_utf8EncodeChar]
          exact Nat.le_of_lt cut
        rw [if_neg fits, List.take_append_of_le_length within, decodeWhole_take_encodeChar cut,
          List.take_zero]

/-! ## Columns -/

theorem byteColumn_eq_length_encode (line : List Char) (column : Int) :
    byteColumn line column = (encode (before line column)).length :=
  (length_encode _).symm

theorem charColumn_eq_length_decodeWhole (line : List Char) (column : Int) :
    charColumn line column = (decodeWhole (before (encode line) column)).length := by
  rw [before, length_encode, decodeWhole_take_encode, List.length_take,
    Nat.min_eq_left (wholeChars_le_length line _)]
  rfl

/-- A negative column is so far from the end, or at the beginning. -/
theorem clampColumn_of_neg (length : Nat) {column : Int} (negative : column < 0) :
    clampColumn length column = clampColumn length (max (length + column) 0) := by
  have notNegative : ¬ max (length + column) 0 < 0 := by omega
  rw [clampColumn, if_pos negative, clampColumn, if_neg notNegative]
  omega

theorem monotone_byteColumn (line : List Char) :
    Monotone fun column : Nat => byteColumn line column := by
  intro left right le
  have atEnd : ∀ column : Nat,
      byteColumn line column = byteColumn line (min column line.length : Nat) := by
    intro column
    rw [byteColumn, byteColumn, clampColumn_ofNat, clampColumn_ofNat,
      Nat.min_eq_left (Nat.min_le_right column line.length)]
  dsimp only
  rw [atEnd left, atEnd right]
  exact byteColumn_le_byteColumn line (by omega) (Nat.min_le_right right line.length)

/-- A byte inside a character belongs to the column of the character. -/
theorem charColumn_of_inside (line : List Char) {column bytes : Nat}
    (inLine : column < line.length) (low : byteColumn line column ≤ bytes)
    (high : bytes < byteColumn line (column + 1 : Nat)) : charColumn line bytes = column := by
  apply Nat.le_antisymm
  · have below := (byteColumn_le_iff line inLine bytes).not.mp (Nat.not_le.mpr high)
    exact Nat.le_of_lt_succ (Nat.not_le.mp below)
  · exact (byteColumn_le_iff line (Nat.le_of_lt inLine) bytes).mp low

/-- Converting columns of a line, where the byte column of a character column is the length
of what is encoded before it, and the character column of a byte column the length of what
is decoded before it: the two form a Galois connection. Hence there and back is the
identity, both are monotone, a byte inside a character belongs to the column of the
character, and a negative column is one that is counted from the end. -/
theorem columns_galois (line : List Char) :
    (∀ column : Int, byteColumn line column = (encode (before line column)).length) ∧
      (∀ column : Int,
        charColumn line column = (decodeWhole (before (encode line) column)).length) ∧
      (∀ column bytes : Nat, column ≤ line.length →
        (byteColumn line column ≤ bytes ↔ column ≤ charColumn line bytes)) ∧
      (∀ column : Nat, column ≤ line.length →
        charColumn line (byteColumn line column) = column) ∧
      Monotone (fun column : Nat => byteColumn line column) ∧
      Monotone (fun bytes : Nat => charColumn line bytes) ∧
      (∀ column bytes : Nat, column < line.length → byteColumn line column ≤ bytes →
        bytes < byteColumn line (column + 1 : Nat) → charColumn line bytes = column) ∧
      ∀ column : Int, column < 0 →
        byteColumn line column = byteColumn line (max (line.length + column) 0) ∧
          charColumn line column =
            charColumn line (max ((encode line).length + column) 0) := by
  refine ⟨byteColumn_eq_length_encode line, charColumn_eq_length_decodeWhole line,
    fun column bytes inLine => byteColumn_le_iff line inLine bytes,
    fun column inLine => charColumn_byteColumn line inLine, monotone_byteColumn line,
    fun left right le => charColumn_le_charColumn line le,
    fun column bytes inLine => charColumn_of_inside line inLine, ?_⟩
  intro column negative
  constructor
  · rw [byteColumn, clampColumn_of_neg line.length negative]
    rfl
  · rw [length_encode, charColumn, clampColumn_of_neg (byteLength line) negative]
    rfl

/-- A line with characters of one, two, three and four bytes. -/
def widths : List Char := ['a', 'é', '漢', '😀']

/-- The last byte of the third character belongs to this character. -/
theorem columns_galois_widths :
    2 < widths.length ∧ byteColumn widths (2 : Nat) ≤ 5 ∧ 5 < byteColumn widths (2 + 1 : Nat) ∧
      charColumn widths (5 : Nat) = 2 := by
  have inLine : 2 < widths.length := by decide
  have low : byteColumn widths (2 : Nat) ≤ 5 := by decide
  have high : 5 < byteColumn widths (2 + 1 : Nat) := by decide
  obtain ⟨-, -, -, -, -, -, inside, -⟩ := columns_galois widths
  exact ⟨inLine, low, high, inside 2 5 inLine low high⟩

end LintBridge.Text
