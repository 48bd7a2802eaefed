import LintBridge.Proofs.Syntax.TokenOrder
import LintBridge.Syntax.Lookup
import Mathlib.Data.List.TakeDrop
import Mathlib.Data.Option.Basic

/-!
# Source texts have nested trees

A grammar rule turns the tokens it reads into trees in the same order, whatever
the grammar says. So the tree of a source text is nested.
-/

namespace LintBridge.Syntax

open LintBridge.Syntax.Tree (Between)

/-- The trees that were made and the tokens that are left follow one another. -/
def InOrder (first last : Point) (trees : List Tree) (rest : List Token) : Prop :=
  ∃ middle, Between first middle trees ∧ Token.Between middle last rest

theorem InOrder.nothing {first last : Point} {tokens : List Token}
    (between : Token.Between first last tokens) : InOrder first last [] tokens := by
  refine ⟨first, ?_, between⟩
  rw [Between]

/-- Trees read one after the other stand one after the other. -/
theorem InOrder.append {first middle last : Point} {trees others : List Tree}
    {rest : List Token} (front : Between first middle trees)
    (back : InOrder middle last others rest) : InOrder first last (trees ++ others) rest := by
  rcases back with ⟨point, between, left⟩
  exact ⟨point, Tree.between_append.mpr ⟨middle, front, between⟩, left⟩

theorem readToken_inOrder {accepts : Token → Bool} {first last : Point}
    {tokens rest : List Token} {trees : List Tree} (between : Token.Between first last tokens)
    (matched : readToken accepts tokens = some (trees, rest)) :
    InOrder first last trees rest := by
  induction tokens generalizing first trees with
  | nil => cases matched
  | cons token tokens ih =>
      rw [readToken] at matched
      rw [Token.between_cons] at between
      rcases between with ⟨begins, extent, after⟩
      have leaf : Between first token.last [token.leaf] := by
        simp only [Between, Token.first_leaf, Token.last_leaf, Token.nested_leaf]
        exact ⟨begins, extent, le_refl _⟩
      split at matched
      · rcases Option.map_eq_some_iff.mp matched with ⟨⟨others, left⟩, reading, equal⟩
        cases equal
        exact .append leaf (ih after reading)
      · split at matched
        · cases matched
          exact ⟨token.last, leaf, after⟩
        · cases matched

/-- Trees span the text from the first of them to the last. -/
theorem between_head_getLast {first last : Point} {trees : List Tree} {head final : Tree}
    (between : Between first last trees) (isHead : trees.head? = some head)
    (isFinal : trees.getLast? = some final) :
    first ≤ head.first ∧ Between head.first final.last trees ∧ final.last ≤ last := by
  induction trees generalizing first head with
  | nil => cases isHead
  | cons tree trees ih =>
      rcases between with ⟨begins, nested, rest⟩
      cases isHead
      refine ⟨begins, ?_⟩
      cases trees with
      | nil =>
          cases isFinal
          exact ⟨⟨le_refl _, nested, le_refl _⟩, rest.le⟩
      | cons next trees =>
          rw [List.getLast?_cons_cons] at isFinal
          rcases ih rest rfl isFinal with ⟨after, inner, before⟩
          exact ⟨⟨le_refl _, nested, inner.widen after (le_refl _)⟩, before⟩

theorem gather_between {first last : Point} {trees : List Tree} (role : Role) (inner : Bool)
    (between : Between first last trees) : Between first last (gather role inner trees) := by
  rw [gather, List.span_eq_takeWhile_dropWhile]
  dsimp only
  split
  · rename_i head final isHead isFinal
    rw [← List.takeWhile_append_dropWhile (p := (·.role == .extra)) (l := trees),
      Tree.between_append] at between
    rcases between with ⟨middle, front, body⟩
    rcases between_head_getLast body isHead isFinal with ⟨begins, extent, ends⟩
    apply Tree.between_append.mpr
    refine ⟨middle, front, begins, ?_, ends⟩
    rw [Tree.Nested]
    split
    · exact extent.filter _
    · exact extent.le
  · exact between

theorem InOrder.gather {first last : Point} {trees : List Tree} {rest : List Token}
    (made : InOrder first last trees rest) (role : Role) (inner : Bool) :
    InOrder first last (gather role inner trees) rest := by
  rcases made with ⟨middle, whole, after⟩
  exact ⟨middle, gather_between role inner whole, after⟩

namespace Rule

variable {Name : Type}

/-- Whatever a matcher answers is in order. -/
def KeepsOrder (matching : Rule Name → List Token → Matched) : Prop :=
  ∀ (rule : Rule Name) (first last : Point) (tokens : List Token) (trees : List Tree)
    (rest : List Token), Token.Between first last tokens →
    matching rule tokens = some (trees, rest) → InOrder first last trees rest

variable {matching : Rule Name → List Token → Matched}

theorem tryEndings_inOrder (keeps : KeepsOrder matching) {first middle last : Point}
    {stem trees : List Tree} {tokens rest : List Token}
    {endings : List (Option String × Rule Name)} (front : Between first middle stem)
    (between : Token.Between middle last tokens)
    (matched : tryEndings matching stem tokens endings = some (trees, rest)) :
    InOrder first last trees rest := by
  induction endings with
  | nil => cases matched
  | cons ending endings ih =>
      rcases ending with ⟨name?, ending⟩
      rw [tryEndings] at matched
      split at matched
      · rename_i others left reading
        have made := InOrder.append front
          (keeps ending middle last tokens others left between reading)
        cases name? with
        | none =>
            cases matched
            exact made
        | some name =>
            cases matched
            exact made.gather _ _
      · exact ih matched

theorem repeatEndings_inOrder (keeps : KeepsOrder matching)
    (endings : List (String × Rule Name)) (bound : Nat) {first middle last : Point}
    {stem : List Tree} {tokens : List Token} (front : Between first middle stem)
    (between : Token.Between middle last tokens) :
    InOrder first last (repeatEndings matching endings bound stem tokens).1
      (repeatEndings matching endings bound stem tokens).2 := by
  induction bound generalizing middle stem tokens with
  | zero => exact ⟨middle, front, between⟩
  | succ bound ih =>
      rw [repeatEndings]
      dsimp only
      split
      · rename_i trees rest matched
        rcases tryEndings_inOrder keeps front between matched with ⟨point, whole, after⟩
        exact ih whole after
      · exact ⟨middle, front, between⟩

/-- What two matches make one after the other is in order. -/
theorem KeepsOrder.append (keeps : KeepsOrder matching) {first last : Point}
    {rule next : Rule Name} {tokens left rest : List Token} {trees others : List Tree}
    (between : Token.Between first last tokens) (read : matching rule tokens = some (trees, left))
    (readRest : matching next left = some (others, rest)) :
    InOrder first last (trees ++ others) rest := by
  rcases keeps rule first last tokens trees left between read with ⟨middle, made, after⟩
  exact .append made (keeps next middle last left others rest after readRest)

section Run

variable {grammar : Name → Rule Name} {fuel : Nat} (keeps : KeepsOrder (run grammar fuel))
  {first last : Point} {tokens rest : List Token} {trees : List Tree}
  (between : Token.Between first last tokens)

include keeps between

theorem run_seq_inOrder {rules : List (Rule Name)}
    (matched : run grammar (fuel + 1) (seq rules) tokens = some (trees, rest)) :
    InOrder first last trees rest := by
  cases rules with
  | nil =>
      cases matched
      exact .nothing between
  | cons rule rules =>
      rcases Option.bind_eq_some_iff.mp matched with ⟨⟨front, left⟩, reading, matched⟩
      rcases Option.map_eq_some_iff.mp matched with ⟨⟨others, final⟩, readingRest, made⟩
      cases made
      exact keeps.append between reading readingRest

/-- What one of two rules answers is in order. -/
theorem orElse_inOrder {other : Option (List Tree × List Token)} {rule : Rule Name}
    (matched : (run grammar fuel rule tokens <|> other) = some (trees, rest))
    (otherwise : other = some (trees, rest) → InOrder first last trees rest) :
    InOrder first last trees rest := by
  rcases (Option.orElse_eq_some _ _ _).mp matched with reading | ⟨-, otherMatched⟩
  · exact keeps rule first last tokens trees rest between reading
  · exact otherwise otherMatched

theorem run_many_inOrder {rule : Rule Name}
    (matched : run grammar (fuel + 1) (many rule) tokens = some (trees, rest)) :
    InOrder first last trees rest := by
  rw [run] at matched
  split at matched
  · cases matched
    exact .nothing between
  · rename_i left reading
    cases matched
    exact keeps rule first last tokens [] rest between reading
  · rename_i front left _ reading
    rcases Option.map_eq_some_iff.mp matched with ⟨⟨others, final⟩, readingRest, made⟩
    cases made
    exact keeps.append between reading readingRest

/-- What a rule makes is in order once it has been gathered. -/
theorem gathered_inOrder {rule : Rule Name} {role : Role} {inner : Bool}
    (matched : (run grammar fuel rule tokens).map
      (fun made => (Syntax.gather role inner made.1, made.2)) = some (trees, rest)) :
    InOrder first last trees rest := by
  rcases Option.map_eq_some_iff.mp matched with ⟨⟨inside, left⟩, reading, made⟩
  cases made
  exact (keeps rule first last tokens inside left between reading).gather role inner

theorem run_fork_inOrder {stem : Rule Name} {endings : List (Option String × Rule Name)}
    (matched : run grammar (fuel + 1) (fork stem endings) tokens = some (trees, rest)) :
    InOrder first last trees rest := by
  rcases Option.bind_eq_some_iff.mp matched with ⟨⟨front, left⟩, reading, ended⟩
  rcases keeps stem first last tokens front left between reading with ⟨middle, whole, after⟩
  exact tryEndings_inOrder keeps whole after ended

theorem run_chain_inOrder {stem : Rule Name} {endings : List (String × Rule Name)}
    (matched : run grammar (fuel + 1) (chain stem endings) tokens = some (trees, rest)) :
    InOrder first last trees rest := by
  rcases Option.map_eq_some_iff.mp matched with ⟨⟨front, left⟩, reading, made⟩
  rcases keeps stem first last tokens front left between reading with ⟨middle, whole, after⟩
  have repeated := repeatEndings_inOrder keeps endings fuel whole after
  dsimp only at made
  rw [made] at repeated
  exact repeated

end Run

/-- Matching a rule keeps the order of the text. -/
theorem run_keepsOrder (grammar : Name → Rule Name) (fuel : Nat) :
    KeepsOrder (run grammar fuel) := by
  induction fuel with
  | zero =>
      intro rule first last tokens trees rest between matched
      cases matched
  | succ fuel ih =>
      intro rule first last tokens trees rest between matched
      cases rule with
      | keyword text => exact readToken_inOrder between matched
      | identifier => exact readToken_inOrder between matched
      | symbol text => exact readToken_inOrder between matched
      | any kind => exact readToken_inOrder between matched
      | call name => exact ih _ first last tokens trees rest between matched
      | seq rules => exact run_seq_inOrder ih between matched
      | alt rules =>
          cases rules with
          | nil => cases matched
          | cons rule rules =>
              exact orElse_inOrder ih between matched
                (ih (alt rules) first last tokens trees rest between)
      | opt rule =>
          exact orElse_inOrder ih between matched (by
            rintro ⟨⟩
            exact .nothing between)
      | many rule => exact run_many_inOrder ih between matched
      | ahead rule =>
          rcases Option.map_eq_some_iff.mp matched with ⟨-, -, ⟨⟩⟩
          exact .nothing between
      | construct name rule => exact gathered_inOrder ih between matched
      | merged rule => exact gathered_inOrder ih between matched
      | fork stem endings => exact run_fork_inOrder ih between matched
      | chain stem endings => exact run_chain_inOrder ih between matched

end Rule

theorem comments_inOrder {first last : Point} {tokens : List Token}
    (between : Token.Between first last tokens) :
    InOrder first last (comments tokens).1 (comments tokens).2 := by
  induction tokens generalizing first with
  | nil => exact .nothing between
  | cons token tokens ih =>
      rw [Token.between_cons] at between
      rcases between with ⟨begins, extent, after⟩
      rw [comments]
      split
      · have leaf : Between first token.last [token.leaf] := by
          simp only [Between, Token.first_leaf, Token.last_leaf, Token.nested_leaf]
          exact ⟨begins, extent, le_refl _⟩
        exact .append leaf (ih after)
      · exact .nothing ((Token.between_cons _ _ _ _).mpr ⟨begins, extent, after⟩)

theorem statements_between {first last : Point} {tokens : List Token}
    (between : Token.Between first last tokens) :
    Between first last (statements tokens) := by
  rw [statements]
  split
  · rename_i trees rest matched
    rcases Rule.run_keepsOrder _ _ _ first last tokens trees rest between matched with
      ⟨middle, made, after⟩
    split
    · rename_i final whole
      rcases comments_inOrder after with ⟨point, finals, none⟩
      rw [whole] at finals none
      rw [Token.between_nil] at none
      exact Tree.between_append.mpr ⟨middle, made, finals.widen (le_refl _) none⟩
    · exact between
  · exact between

/-- The tree of every source text is nested. -/
theorem parseSource_nested (source : List Char) : (parseSource source).Nested := by
  have between := statements_between (tokenize_between source)
  rw [parseSource, root, Tree.Nested]
  apply Between.filter
  cases made : statements (tokenize source) with
  | nil => exact le_refl _
  | cons tree trees =>
      rw [made] at between
      rcases between with ⟨_, nested, rest⟩
      exact ⟨le_refl _, nested, rest⟩

theorem parseRows_nested (lines : List Line) : (parseRows lines).Nested :=
  parseSource_nested _

end LintBridge.Syntax
