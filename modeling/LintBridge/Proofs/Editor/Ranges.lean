import LintBridge.Proofs.Extraction.Diagnostics

/-!
# Ranges of points

A point of an editor has no range exactly if its row is missing or its column lies
outside of the row. Otherwise the range lies on the row. Without a column it is the
text of the row, and with a column it begins there and goes to the end of the token,
or to the end of the row if the tree does not tell where the token ends.
-/

namespace LintBridge

/-- A number that no row has. -/
def IsMissing (lines : List Line) (line? : Option Int) : Prop :=
  ∀ line, line? = some line → line < 0 ∨ (lines.length : Int) ≤ line

/-- A column outside of the row that it is a column of. -/
def IsOutside (lines : List Line) (line? column? : Option Int) : Prop :=
  ∃ (row : Nat) (line : Line) (column : Int), line? = some (row : Int) ∧
    lines[row]? = some line ∧ column? = some column ∧
    (column < 0 ∨ (line.length : Int) < column)

/-- A line is blank up to a column, and either ends there or goes on with a character that
is not blank. -/
structure IsIndentation (content : Line) (column : Nat) : Prop where
  inLine : column ≤ content.length
  blank : ∀ place c, place < column → content[place]? = some c → Text.isBlank c = true
  text : ∀ c, content[column]? = some c → Text.isBlank c = false

theorem isIndentation_indentation (line : Line) : IsIndentation line (indentation line) := by
  induction line with
  | nil => exact ⟨Nat.le_refl _, nofun, nofun⟩
  | cons c line ih =>
      rw [indentation, List.takeWhile_cons]
      cases blank : Text.isBlank c with
      | false =>
          refine ⟨Nat.zero_le _, nofun, ?_⟩
          intro first found
          cases found
          exact blank
      | true =>
          refine ⟨Nat.succ_le_succ ih.inLine, ?_, ih.text⟩
          intro place d before found
          cases place with
          | zero =>
              cases found
              exact blank
          | succ place => exact ih.blank place d (Nat.lt_of_succ_lt_succ before) found

theorem IsIndentation.not_lt {content : Line} {left right : Nat}
    (isLeft : IsIndentation content left) (isRight : IsIndentation content right) :
    ¬ left < right := by
  intro before
  have inside : left < content.length := Nat.lt_of_lt_of_le before isRight.inLine
  have found : content[left]? = some content[left] := List.getElem?_eq_getElem inside
  have blank := isRight.blank left _ before found
  rw [isLeft.text _ found] at blank
  cases blank

theorem IsIndentation.eq {content : Line} {left right : Nat} (isLeft : IsIndentation content left)
    (isRight : IsIndentation content right) : left = right :=
  Nat.le_antisymm (Nat.not_lt.mp (isRight.not_lt isLeft)) (Nat.not_lt.mp (isLeft.not_lt isRight))

/-! ## Rows and columns -/

section

variable {lines : List Line} {row : Nat} {line : Line}

theorem isMissing_or_exists (lines : List Line) (line? : Option Int) :
    IsMissing lines line? ∨
      ∃ (row : Nat) (line : Line), line? = some (row : Int) ∧ lines[row]? = some line := by
  cases line? with
  | none => exact Or.inl nofun
  | some number =>
      by_cases inside : 0 ≤ number ∧ number < lines.length
      · obtain ⟨row, rfl⟩ := Int.eq_ofNat_of_zero_le inside.1
        have bound : row < lines.length := Int.ofNat_lt.mp inside.2
        exact Or.inr ⟨row, lines[row], rfl, List.getElem?_eq_getElem bound⟩
      · left
        intro same equal
        cases equal
        omega

theorem lineAt_of_isMissing {line? : Option Int} (missing : IsMissing lines line?) :
    lineAt lines line? = .error ⟨line?, lines.length⟩ := by
  cases line? with
  | none => rfl
  | some number =>
      rw [lineAt]
      split
      · rfl
      · rename_i nonnegative
        have bound : lines.length ≤ number.toNat := by
          have outside := missing number rfl
          omega
        rw [List.getElem?_eq_none bound]

theorem lineAt_of_getElem? (there : lines[row]? = some line) :
    lineAt lines (some row) = .ok line :=
  lineAt_eq_ok_iff.mpr ⟨row, rfl, there⟩

theorem Syntax.tokenEnd?_length (tree : Syntax.Tree) (line : Line) (row : Nat) :
    tokenEnd? tree line row line.length = none := by
  simp only [tokenEnd?]
  cases nodeAt? tree line row line.length with
  | none => rfl
  | some node =>
      simp [Text.charColumn_le_length]

end

/-! ## Ranges of points -/

section

variable (tree : Syntax.Tree) {lines : List Line} {row : Nat} {line : Line}

theorem expand_of_isMissing {line? : Option Int} (missing : IsMissing lines line?)
    (column? : Option Int) :
    expand tree lines line? column? = .error (.row ⟨line?, lines.length⟩) := by
  rw [expand, anchorAt, lineAt_of_isMissing missing]
  rfl

theorem expand_of_outside (there : lines[row]? = some line) {column : Int}
    (outside : column < 0 ∨ (line.length : Int) < column) :
    expand tree lines (some row) (some column) = .error (.column column row line.length) := by
  rw [expand, anchorAt, lineAt_of_getElem? there]
  dsimp only
  rw [if_pos outside]
  rfl

theorem expand_without_column (there : lines[row]? = some line) :
    expand tree lines (some row) none =
      .ok (.ofColumns row (indentation line) line.length) := by
  rw [expand, anchorAt, lineAt_of_getElem? there]
  rfl

/-- With a column of the row, the range goes from there to the end of the token. -/
theorem expand_at_column (there : lines[row]? = some line) {column : Nat}
    (inLine : column ≤ line.length) :
    expand tree lines (some row) (some column) =
      .ok (.ofColumns row column ((Syntax.tokenEnd? tree line row column).getD line.length)) := by
  have inside : ¬ ((column : Int) < 0 ∨ (line.length : Int) < column) := by
    omega
  rw [expand, anchorAt, lineAt_of_getElem? there]
  dsimp only
  rw [if_neg inside, Int.toNat_natCast]
  by_cases before : column < line.length
  · rw [if_pos before]
    rfl
  · have atEnd : column = line.length := Nat.le_antisymm inLine (Nat.le_of_not_lt before)
    rw [if_neg before, atEnd, Syntax.tokenEnd?_length]
    rfl

end

namespace Editor

/-- The range that a point of an editor expands to. There is none exactly if the row is
missing or the column lies outside of the row, and the fault says which of them it is.
Otherwise the range lies on the row. It begins where the text of the row does, or at the
given column, and ends with the row, or where the tree says that the token ends. -/
theorem rangeAt_expands (parse : Parser) (editor : Editor) (line? column? : Option Int) :
    let lines := editor.buffer.lines
    let tree := (editor.syntaxTree parse).1
    let result := (editor.rangeAt parse line? column?).1
    ((∃ fault, result = .error fault) ↔
        IsMissing lines line? ∨ IsOutside lines line? column?) ∧
      (IsMissing lines line? → result = .error (.row ⟨line?, lines.length⟩)) ∧
      ∀ (row : Nat) line, line? = some (row : Int) → lines[row]? = some line →
        (column? = none →
          ∃ start, result = .ok (.ofColumns row start line.length) ∧
            IsIndentation line start) ∧
        (∀ column : Int, column? = some column → (column < 0 ∨ (line.length : Int) < column) →
          result = .error (.column column row line.length)) ∧
        ∀ column : Nat, column? = some (column : Int) → column ≤ line.length →
          ∃ stop, result = .ok (.ofColumns row column stop) ∧
            (∀ answer, Syntax.tokenEnd? tree line row column = some answer → stop = answer) ∧
            (Syntax.tokenEnd? tree line row column = none → stop = line.length) ∧
            (column < line.length → column < stop ∧ stop ≤ line.length) ∧
            (column = line.length → stop = line.length) := by
  intro lines tree result
  have expanded : result = expand tree lines line? column? :=
    rangeAt_fst parse editor line? column?
  rw [expanded]
  refine ⟨⟨?_, ?_⟩, ?_, ?_⟩
  · rintro ⟨fault, failed⟩
    rcases isMissing_or_exists lines line? with missing | ⟨row, line, rfl, there⟩
    · exact Or.inl missing
    right
    cases column? with
    | none =>
        rw [expand_without_column tree there] at failed
        cases failed
    | some column =>
        refine ⟨row, line, column, rfl, there, rfl, ?_⟩
        by_contra inside
        obtain ⟨place, rfl⟩ := Int.eq_ofNat_of_zero_le (a := column) (by omega)
        rw [expand_at_column tree there (by omega)] at failed
        cases failed
  · rintro (missing | ⟨row, line, column, rfl, there, rfl, outside⟩)
    · exact ⟨_, expand_of_isMissing tree missing column?⟩
    · exact ⟨_, expand_of_outside tree there outside⟩
  · intro missing
    exact expand_of_isMissing tree missing column?
  · rintro row line rfl there
    refine ⟨?_, ?_, ?_⟩
    · rintro rfl
      exact ⟨_, expand_without_column tree there, isIndentation_indentation line⟩
    · rintro column rfl outside
      exact expand_of_outside tree there outside
    · rintro column rfl inLine
      refine ⟨_, expand_at_column tree there inLine, ?_⟩
      cases answer : Syntax.tokenEnd? tree line row column with
      | none => simp
      | some stop =>
          refine ⟨by simp, nofun, ?_, ?_⟩
          · intro before
            exact Syntax.tokenEnd?_bounds before answer
          · rintro rfl
            rw [Syntax.tokenEnd?_length] at answer
            cases answer

/-- A name after a wide character, the text of its row, and a row that is not there. -/
theorem rangeAt_expands_call :
    let editor := ofText "/mod.py" "if x:\n  é = foo(2)"
    let line := "  é = foo(2)".toList
    editor.buffer.lines[1]? = some line ∧
      Syntax.tokenEnd? (editor.syntaxTree Syntax.parseRows).1 line 1 6 = some 9 ∧
      (editor.rangeAt Syntax.parseRows (some 1) (some 6)).1 = .ok (.ofColumns 1 6 9) ∧
      (editor.rangeAt Syntax.parseRows (some 1) none).1 = .ok (.ofColumns 1 2 12) ∧
      (editor.rangeAt Syntax.parseRows (some 2) none).1 = .error (.row ⟨some 2, 2⟩) := by
  intro editor line
  have there : editor.buffer.lines[1]? = some line := by decide +kernel
  have token : Syntax.tokenEnd? (editor.syntaxTree Syntax.parseRows).1 line 1 6 = some 9 := by
    decide +kernel
  refine ⟨there, token, ?_, ?_, ?_⟩
  · obtain ⟨stop, answered, ends, -⟩ :=
      ((rangeAt_expands Syntax.parseRows editor (some 1) (some 6)).2.2 1 line rfl there).2.2 6 rfl
        (by decide)
    rw [answered, ends 9 token]
  · obtain ⟨start, answered, indented⟩ :=
      ((rangeAt_expands Syntax.parseRows editor (some 1) none).2.2 1 line rfl there).1 rfl
    rw [answered, indented.eq (isIndentation_indentation line)]
    rfl
  · apply (rangeAt_expands Syntax.parseRows editor (some 2) none).2.1
    intro number same
    cases same
    decide

end Editor

end LintBridge
