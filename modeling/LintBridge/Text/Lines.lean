/-!
# Cutting text into lines

Three ways to cut a text: at one given character, at the line breaks of an
editor buffer, and at every line boundary of Unicode.
-/

namespace LintBridge.Text

/-- Put a character in front of the first line. -/
def consHead (c : Char) : List (List Char) → List (List Char)
  | [] => [[c]]
  | line :: lines => (c :: line) :: lines

@[simp] theorem consHead_nil (c : Char) : consHead c [] = [[c]] := rfl

@[simp] theorem consHead_cons (c : Char) (line : List Char) (lines : List (List Char)) :
    consHead c (line :: lines) = (c :: line) :: lines := rfl

/-- The fields of a text between the occurrences of a separator. -/
def splitAtChar (separator : Char) : List Char → List (List Char)
  | [] => [[]]
  | c :: rest =>
      if c = separator then [] :: splitAtChar separator rest
      else consHead c (splitAtChar separator rest)

theorem splitAtChar_ne_nil (separator : Char) (text : List Char) :
    splitAtChar separator text ≠ [] := by
  cases text with
  | nil => simp [splitAtChar]
  | cons c rest =>
      simp only [splitAtChar]
      split
      · simp
      · cases splitAtChar separator rest <;> simp

/-- The rows of a buffer. A carriage return directly followed by a line feed is
one line break; any other carriage return or line feed is one of its own. -/
def splitRows : List Char → List (List Char)
  | [] => [[]]
  | '\r' :: '\n' :: rest => [] :: splitRows rest
  | c :: rest =>
      if c = '\r' ∨ c = '\n' then [] :: splitRows rest else consHead c (splitRows rest)

theorem splitRows_ne_nil (text : List Char) : splitRows text ≠ [] := by
  fun_cases splitRows text with
  | case1 => simp
  | case2 => simp
  | case3 => simp
  | case4 c rest _ _ => cases splitRows rest <;> simp

/-- The line boundaries of Unicode and the ASCII separators of file, group and record. -/
def isLineBoundary (c : Char) : Bool :=
  let n := c.toNat
  (0xA ≤ n && n ≤ 0xD) || (0x1C ≤ n && n ≤ 0x1E) || n == 0x85 || n == 0x2028 || n == 0x2029

/-- The lines of a report. A boundary ends its line, so nothing follows a final
one; a carriage return with a line feed is one boundary. -/
def reportLines : List Char → List (List Char)
  | [] => []
  | '\r' :: '\n' :: rest => [] :: reportLines rest
  | c :: rest =>
      if isLineBoundary c then [] :: reportLines rest else consHead c (reportLines rest)

/-- Write every line break as a line feed. -/
def unifyBreaks : List Char → List Char
  | [] => []
  | '\r' :: '\n' :: rest => '\n' :: unifyBreaks rest
  | c :: rest => (if c = '\r' then '\n' else c) :: unifyBreaks rest

/-- Join lines with a separator between them. -/
def joinLines (separator : List Char) : List (List Char) → List Char
  | [] => []
  | [line] => line
  | line :: lines => line ++ separator ++ joinLines separator lines

end LintBridge.Text
