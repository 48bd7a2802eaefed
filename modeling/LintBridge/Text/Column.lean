/-!
# Columns

A column of a line counts characters or the bytes of its UTF-8 form. A negative
column counts from the end of the line.
-/

namespace LintBridge.Text

/-- The number of bytes of a text. -/
def byteLength : List Char → Nat
  | [] => 0
  | c :: text => c.utf8Size + byteLength text

@[simp] theorem byteLength_nil : byteLength [] = 0 := rfl

@[simp] theorem byteLength_cons (c : Char) (text : List Char) :
    byteLength (c :: text) = c.utf8Size + byteLength text := rfl

@[simp] theorem byteLength_append (left right : List Char) :
    byteLength (left ++ right) = byteLength left + byteLength right := by
  induction left with
  | nil => simp
  | cons c left ih => simp [ih, Nat.add_assoc]

/-- The length of the part before a column, in a line of the given length. -/
def clampColumn (length : Nat) (column : Int) : Nat :=
  if column < 0 then (length + column).toNat else min column.toNat length

/-- The byte column of a character column. -/
def byteColumn (line : List Char) (column : Int) : Nat :=
  byteLength (line.take (clampColumn line.length column))

/-- The number of whole characters in the first bytes of a text. -/
def wholeChars : List Char → Nat → Nat
  | [], _ => 0
  | c :: rest, bytes =>
      if c.utf8Size ≤ bytes then wholeChars rest (bytes - c.utf8Size) + 1 else 0

/-- The character column of a byte column; a byte inside a character belongs to
the column where that character starts. -/
def charColumn (line : List Char) (column : Int) : Nat :=
  wholeChars line (clampColumn (byteLength line) column)

end LintBridge.Text
