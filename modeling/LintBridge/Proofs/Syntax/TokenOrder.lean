import LintBridge.Proofs.Syntax.Covering
import LintBridge.Syntax.Layout

/-!
# Tokens follow one another

The tokens of a source text, together with the marks of its line structure, lie
one after the other between the start and the end of the text.
-/

namespace LintBridge.Syntax

namespace Tree

theorem Between.widen {first last outerFirst outerLast : Point} {trees : List Tree}
    (between : Between first last trees) (before : outerFirst ≤ first)
    (after : last ≤ outerLast) : Between outerFirst outerLast trees := by
  induction trees generalizing first outerFirst with
  | nil =>
      rw [Between] at between ⊢
      exact le_trans before (le_trans between after)
  | cons tree trees ih =>
      rcases between with ⟨begins, nested, rest⟩
      exact ⟨le_trans before begins, nested, ih rest (le_refl _)⟩

theorem between_append {first last : Point} {left right : List Tree} :
    Between first last (left ++ right) ↔
      ∃ middle, Between first middle left ∧ Between middle last right := by
  induction left generalizing first with
  | nil =>
      simp only [List.nil_append, Between]
      constructor
      · intro between
        exact ⟨first, le_refl first, between⟩
      · intro given
        rcases given with ⟨middle, before, between⟩
        exact between.widen before (le_refl last)
  | cons tree left ih =>
      simp only [List.cons_append, Between, ih]
      constructor
      · intro given
        rcases given with ⟨begins, nested, middle, front, back⟩
        exact ⟨middle, ⟨begins, nested, front⟩, back⟩
      · intro given
        rcases given with ⟨middle, ⟨begins, nested, front⟩, back⟩
        exact ⟨begins, nested, middle, front, back⟩

theorem Between.filter {first last : Point} {trees : List Tree}
    (between : Between first last trees) (keep : Tree → Bool) :
    Between first last (trees.filter keep) := by
  induction trees generalizing first with
  | nil => exact between
  | cons tree trees ih =>
      rcases between with ⟨begins, nested, rest⟩
      rw [List.filter_cons]
      split
      · exact ⟨begins, nested, ih rest⟩
      · exact (ih rest).widen (le_trans begins nested.first_le_last) (le_refl last)

end Tree

namespace Token

/-- Tokens follow one another between two points. -/
def Between (first last : Point) (tokens : List Token) : Prop :=
  Tree.Between first last (tokens.map leaf)

@[simp] theorem first_leaf (token : Token) : token.leaf.first = token.first := rfl

@[simp] theorem last_leaf (token : Token) : token.leaf.last = token.last := rfl

@[simp] theorem nested_leaf (token : Token) :
    token.leaf.Nested ↔ token.first ≤ token.last := by
  simp [leaf, Tree.leaf, Tree.Nested, Tree.Between]

@[simp] theorem between_nil (first last : Point) : Between first last [] ↔ first ≤ last := by
  simp [Between, Tree.Between]

@[simp] theorem between_cons (first last : Point) (token : Token) (tokens : List Token) :
    Between first last (token :: tokens) ↔
      first ≤ token.first ∧ token.first ≤ token.last ∧ Between token.last last tokens := by
  simp [Between, Tree.Between]

/-- Marks take no room, so they may stand in front of other tokens. -/
theorem between_marks {point last : Point} {marks tokens : List Token}
    (here : ∀ mark ∈ marks, mark.first = point ∧ mark.last = point)
    (between : Between point last tokens) : Between point last (marks ++ tokens) := by
  induction marks with
  | nil => exact between
  | cons mark marks ih =>
      rcases here mark List.mem_cons_self with ⟨first, last⟩
      rw [List.cons_append, between_cons, first, last]
      exact ⟨le_refl point, le_refl point,
        ih fun other member => here other (List.mem_cons_of_mem mark member)⟩

end Token

namespace Lexer

theorem le_advance (point : Point) (c : Char) : point ≤ advance point c := by
  rw [Point.le_def, advance]
  split
  · exact Or.inl (Nat.lt_succ_self _)
  · exact Or.inr ⟨rfl, Nat.le_add_right _ _⟩

theorem le_foldl_advance (point : Point) (text : List Char) :
    point ≤ text.foldl advance point := by
  induction text generalizing point with
  | nil => exact le_refl point
  | cons c text ih => exact le_trans (le_advance point c) (ih _)

end Lexer

open Lexer

namespace LexState

/-- The end of the text that a state has still to read. -/
def finish (state : LexState) : Point :=
  state.rest.foldl advance state.point

theorem point_le_finish (state : LexState) : state.point ≤ state.finish :=
  le_foldl_advance state.point state.rest

/-- What a step of the lexer may do: read some characters, and make at most one
token of just these. -/
def Reads (before : LexState) (found : List LineToken) (after : LexState) : Prop :=
  before.point ≤ after.point ∧ after.finish = before.finish ∧
    (found = [] ∨ ∃ lineToken, found = [lineToken] ∧
      lineToken.token.first = before.point ∧ lineToken.token.last = after.point)

section

variable {before after : LexState}

theorem reads_read (length : Nat) (rest : after.rest = (before.read length).2.rest)
    (point : after.point = (before.read length).2.point) : Reads before [] after := by
  refine ⟨?_, ?_, Or.inl rfl⟩
  · rw [point]
    exact le_foldl_advance _ _
  · rw [finish, finish, rest, point, read, ← List.foldl_append, List.take_append_drop]

theorem reads_nothing (rest : after.rest = before.rest) (point : after.point = before.point) :
    Reads before [] after :=
  reads_read 0 rest point

theorem reads_token (kind : TokenKind) (length : Nat) (nesting : List Nesting)
    (rest : after.rest = (before.token kind length nesting).2.rest)
    (point : after.point = (before.token kind length nesting).2.point) :
    Reads before (before.token kind length nesting).1 after := by
  have reads : Reads before [] after := reads_read length rest point
  rcases reads with ⟨le, same, _⟩
  refine ⟨le, same, Or.inr ⟨_, rfl, rfl, ?_⟩⟩
  exact point.symm

end

theorem reads_stepCode (state : LexState) :
    Reads state state.stepCode.1 state.stepCode.2 := by
  rw [stepCode]
  split
  · exact reads_nothing rfl rfl
  · split
    · exact reads_read 1 rfl rfl
    · split
      · exact reads_read 1 rfl rfl
      · split
        · exact reads_token _ _ _ rfl rfl
        · split
          · exact reads_token .continuation 2 state.nesting rfl rfl
          · split
            · exact reads_token _ _ _ rfl rfl
            · split
              · exact reads_token _ _ _ rfl rfl
              · split
                · exact reads_token _ _ _ rfl rfl
                · dsimp only
                  repeat' split
                  all_goals exact reads_token _ _ _ rfl rfl

theorem reads_stepString (state : LexState) (delimiter : Delimiter) (outer : List Nesting) :
    Reads state (state.stepString delimiter outer).1
      (state.stepString delimiter outer).2 := by
  rw [stepString]
  split
  · exact reads_token _ _ _ rfl rfl
  · split
    · exact reads_token _ _ _ rfl rfl
    · split
      · exact reads_token _ _ _ rfl rfl
      · exact reads_token _ _ _ rfl rfl
      · exact reads_token _ _ _ rfl rfl
      · exact reads_token _ _ _ rfl rfl
      · exact reads_nothing rfl rfl
      · exact reads_token _ _ _ rfl rfl

theorem reads_stepSpecifier (state : LexState) (outer : List Nesting) :
    Reads state (state.stepSpecifier outer).1 (state.stepSpecifier outer).2 := by
  rw [stepSpecifier]
  dsimp only
  split
  · exact reads_token _ _ _ rfl rfl
  · split
    · exact reads_token _ _ _ rfl rfl
    · exact reads_token _ _ _ rfl rfl
    · exact reads_read 1 rfl rfl

theorem reads_step (state : LexState) : Reads state state.step.1 state.step.2 := by
  rw [step]
  split
  · exact reads_stepString state _ _
  · exact reads_stepSpecifier state _
  · exact reads_stepCode state

/-- The lexer makes tokens from left to right. -/
theorem tokens_between (fuel : Nat) (state : LexState) :
    Token.Between state.point state.finish ((tokens fuel state).map LineToken.token) := by
  induction fuel generalizing state with
  | zero =>
      rw [tokens, List.map_nil, Token.between_nil]
      exact state.point_le_finish
  | succ fuel ih =>
      rw [tokens]
      split
      · rw [List.map_nil, Token.between_nil]
        exact state.point_le_finish
      · rcases reads_step state with ⟨le, same, found⟩
        have rest := ih state.step.2
        rw [same] at rest
        dsimp only
        rcases found with none | ⟨lineToken, one, first, last⟩
        · rw [none, List.nil_append]
          exact rest.widen le (le_refl _)
        · rw [one, List.singleton_append, List.map_cons, Token.between_cons, first, last]
          exact ⟨le_refl _, le, rest⟩

end LexState

theorem lex_between (source : List Char) :
    Token.Between ⟨0, 0⟩ (source.foldl advance ⟨0, 0⟩)
      ((lex source).map LineToken.token) :=
  LexState.tokens_between (2 * source.length + 1) ⟨source, ⟨0, 0⟩, [], some 0⟩

namespace Layout

/-- The marks that are due stand where the token before them ends. -/
theorem endLine_marks (layout : Layout) (indentation : Nat) :
    (∀ mark ∈ (layout.endLine indentation).1,
      mark.first = layout.last ∧ mark.last = layout.last) ∧
    (layout.endLine indentation).2.last = layout.last := by
  rw [endLine]
  split
  · exact ⟨fun mark member => absurd member List.not_mem_nil, rfl⟩
  · split
    · exact ⟨by simp [Token.mark], rfl⟩
    · exact ⟨by simp [Token.mark], rfl⟩

theorem endBlocks_marks (layout : Layout) (next comment : Nat) :
    (∀ mark ∈ (layout.endBlocks next comment).1,
      mark.first = layout.last ∧ mark.last = layout.last) ∧
    (layout.endBlocks next comment).2.last = layout.last := by
  refine ⟨?_, rfl⟩
  intro mark member
  simp only [endBlocks, List.mem_map] at member
  rcases member with ⟨_, _, rfl⟩
  exact ⟨rfl, rfl⟩

theorem before_marks (layout : Layout) (lineToken : LineToken) (rest : List LineToken) :
    (∀ mark ∈ (layout.before lineToken rest).1,
      mark.first = layout.last ∧ mark.last = layout.last) ∧
    (layout.before lineToken rest).2.last = lineToken.token.last := by
  refine ⟨?_, rfl⟩
  rw [before]
  dsimp only
  split
  · exact fun mark member => absurd member List.not_mem_nil
  · rename_i own _
    intro mark member
    rcases layout.endLine_marks
        (if lineToken.token.kind == .comment then nextIndentation rest else own) with
        ⟨lineMarks, lineLast⟩
    rcases List.mem_append.mp member with ofLine | ofBlock
    · exact lineMarks mark ofLine
    · rw [← lineLast]
      exact (endBlocks_marks _ _ _).1 mark ofBlock

theorem place_between {last : Point} {lineTokens : List LineToken} {layout : Layout}
    (between : Token.Between layout.last last (lineTokens.map LineToken.token)) :
    Token.Between layout.last last (place lineTokens layout) := by
  induction lineTokens generalizing layout with
  | nil =>
      rw [place]
      dsimp only
      rcases layout.endLine_marks 0 with ⟨lineMarks, lineLast⟩
      apply Token.between_marks lineMarks
      rw [← List.append_nil (List.map _ _)]
      apply Token.between_marks
      · intro mark member
        rcases List.mem_map.mp member with ⟨_, _, rfl⟩
        rw [lineLast]
        exact ⟨rfl, rfl⟩
      · exact between
  | cons lineToken lineTokens ih =>
      rw [List.map_cons, Token.between_cons] at between
      rcases between with ⟨begins, extent, rest⟩
      rcases layout.before_marks lineToken lineTokens with ⟨marks, after⟩
      rw [place]
      dsimp only
      apply Token.between_marks marks
      rw [Token.between_cons]
      rw [← after] at rest
      have placed := ih rest
      rw [after] at placed
      exact ⟨begins, extent, placed⟩

end Layout

/-- The tokens with their line structure lie between the start and the end of the
text. -/
theorem tokenize_between (source : List Char) :
    Token.Between ⟨0, 0⟩ (source.foldl advance ⟨0, 0⟩) (tokenize source) := by
  have between := lex_between source
  exact @Layout.place_between _ _ ⟨[], false, ⟨0, 0⟩⟩ between

end LintBridge.Syntax
