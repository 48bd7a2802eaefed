import LintBridge.Syntax.Tree
import Mathlib.Order.Defs.LinearOrder

/-!
# Lookups in nested trees

A tree is nested when its nodes contain their children, which follow one another
in the text. In a nested tree the lookup of a nonempty range answers the smallest
node that covers the range: it lies below every other node that does.
-/

namespace LintBridge.Syntax

instance : LinearOrder Point where
  le_refl point := by rw [Point.le_def]; omega
  le_trans left middle right := by simp only [Point.le_def]; omega
  lt_iff_le_not_ge left right := by simp only [Point.lt_def, Point.le_def]; omega
  le_antisymm left right := by
    cases left
    cases right
    simp only [Point.le_def, Point.mk.injEq]
    omega
  le_total left right := by simp only [Point.le_def]; omega
  toDecidableLE := inferInstance

namespace Point

theorem row_le_row {left right : Point} (le : left ≤ right) : left.row ≤ right.row := by
  rw [le_def] at le
  omega

theorem column_le_column {left right : Point} (le : left ≤ right)
    (sameRow : left.row = right.row) : left.column ≤ right.column := by
  rw [le_def] at le
  omega

end Point

namespace Tree

mutual

/-- Every node contains its children, which follow one another. -/
def Nested : Tree → Prop
  | node _ first last children => Between first last children

/-- Nested trees follow one another between two points. -/
def Between : Point → Point → List Tree → Prop
  | first, last, [] => first ≤ last
  | first, last, tree :: trees =>
      first ≤ tree.first ∧ tree.Nested ∧ Between tree.last last trees

end

/-- A tree is a node of another one. -/
inductive Within (inner : Tree) : Tree → Prop where
  | self : Within inner inner
  | inChild {role : Role} {first last : Point} {children : List Tree} {child : Tree} :
      child ∈ children → Within inner child →
      Within inner (node role first last children)

/-- A tree extends over a range. -/
def Covers (tree : Tree) (start stop : Point) : Prop :=
  tree.first ≤ start ∧ stop ≤ tree.last

mutual

theorem Nested.first_le_last : {tree : Tree} → tree.Nested → tree.first ≤ tree.last
  | node _ _ _ _, nested => by
      rw [Nested] at nested
      exact nested.le

theorem Between.le : {first last : Point} → {trees : List Tree} →
    Between first last trees → first ≤ last
  | _, _, [], between => by
      rwa [Between] at between
  | first, last, tree :: trees, between => by
      rcases between with ⟨begins, nested, rest⟩
      calc first ≤ tree.first := begins
        _ ≤ tree.last := nested.first_le_last
        _ ≤ last := rest.le

end

theorem Between.of_mem {first last : Point} {trees : List Tree}
    (between : Between first last trees) {tree : Tree} (member : tree ∈ trees) :
    tree.Nested ∧ first ≤ tree.first ∧ tree.last ≤ last := by
  induction trees generalizing first with
  | nil => cases member
  | cons head trees ih =>
      rcases between with ⟨begins, nested, rest⟩
      rcases List.mem_cons.mp member with equal | member
      · subst equal
        exact ⟨nested, begins, rest.le⟩
      · rcases ih rest member with ⟨inner, after, before⟩
        refine ⟨inner, ?_, before⟩
        calc first ≤ head.first := begins
          _ ≤ head.last := nested.first_le_last
          _ ≤ tree.first := after

theorem Within.bounds {inner tree : Tree} (within : Within inner tree)
    (nested : tree.Nested) :
    inner.Nested ∧ tree.first ≤ inner.first ∧ inner.last ≤ tree.last := by
  induction within with
  | self => exact ⟨nested, le_refl _, le_refl _⟩
  | inChild member _ ih =>
      rw [Nested] at nested
      rcases nested.of_mem member with ⟨childNested, begins, ends⟩
      rcases ih childNested with ⟨innerNested, after, before⟩
      exact ⟨innerNested, le_trans begins after, le_trans before ends⟩

theorem Within.of_leaf {inner tree : Tree} (within : Within inner tree)
    (leaf : tree.children = []) : inner = tree := by
  cases within with
  | self => rfl
  | inChild member _ =>
      simp only [Tree.children] at leaf
      subst leaf
      cases member

/-- A tree falls short of a nonempty range if it ends before the range does. -/
theorem fallsShort_iff (tree : Tree) {start stop : Point} (nonempty : start < stop) :
    tree.fallsShort start stop = true ↔ tree.last < stop := by
  simp only [fallsShort, Bool.or_eq_true, decide_eq_true_eq]
  constructor
  · intro given
    rcases given with short | short
    · exact short
    · split at short
      · exact lt_trans (of_decide_eq_true short) nonempty
      · exact lt_of_le_of_lt (of_decide_eq_true short) nonempty
  · exact Or.inl

/-- The lookup goes on in the child that covers the range. -/
theorem coveringAmong_of_mem {first last start stop : Point} {trees : List Tree}
    (between : Between first last trees) (nonempty : start < stop) {tree : Tree}
    (member : tree ∈ trees) (covers : tree.Covers start stop) :
    coveringAmong start stop trees = some (tree.covering start stop) := by
  induction trees generalizing first with
  | nil => cases member
  | cons head trees ih =>
      rcases between with ⟨_, nested, rest⟩
      rw [coveringAmong]
      rcases List.mem_cons.mp member with equal | member
      · subst equal
        have reaches : ¬ tree.fallsShort start stop = true := by
          rw [fallsShort_iff tree nonempty]
          exact not_lt_of_ge covers.2
        rw [if_neg reaches, if_neg (not_lt_of_ge covers.1)]
      · have short : head.fallsShort start stop = true := by
          rw [fallsShort_iff head nonempty]
          calc head.last ≤ tree.first := (rest.of_mem member).2.1
            _ ≤ start := covers.1
            _ < stop := nonempty
        rw [if_pos short]
        exact ih rest member

theorem covers_of_coveringAmong {start stop : Point} (nonempty : start < stop)
    {trees : List Tree} {found : Tree}
    (looked : coveringAmong start stop trees = some found) :
    ∃ tree ∈ trees, tree.Covers start stop ∧ found = tree.covering start stop := by
  induction trees with
  | nil => simp [coveringAmong] at looked
  | cons head trees ih =>
      rw [coveringAmong] at looked
      split at looked
      · rcases ih looked with ⟨tree, member, answer⟩
        exact ⟨tree, List.mem_cons_of_mem head member, answer⟩
      · rename_i reaches
        split at looked
        · cases looked
        · rename_i begins
          rw [fallsShort_iff head nonempty] at reaches
          have covers : head.Covers start stop :=
            ⟨not_lt.mp begins, not_lt.mp reaches⟩
          exact ⟨head, List.mem_cons_self, covers, (Option.some.inj looked).symm⟩

/-- The lookup of a range ends at a node without a covering child, or goes on in a
covering child. -/
theorem covering_cases (tree : Tree) {start stop : Point} (nonempty : start < stop) :
    tree.covering start stop = tree ∨
      ∃ child ∈ tree.children, child.Covers start stop ∧
        tree.covering start stop = child.covering start stop := by
  cases tree with
  | node role first last children =>
      rw [covering, Tree.children]
      cases looked : coveringAmong start stop children with
      | none => exact Or.inl rfl
      | some found =>
          right
          exact covers_of_coveringAmong nonempty looked

theorem sizeOf_child_lt {tree child : Tree} (member : child ∈ tree.children) :
    sizeOf child < sizeOf tree := by
  cases tree with
  | node role first last children =>
      have smaller := List.sizeOf_lt_of_mem member
      simp only [Tree.children, Tree.node.sizeOf_spec] at smaller ⊢
      omega

theorem covering_within (tree : Tree) {start stop : Point} (nonempty : start < stop) :
    Within (tree.covering start stop) tree := by
  rcases tree.covering_cases nonempty with answer | ⟨child, member, _, answer⟩
  · rw [answer]
    exact .self
  · rw [answer]
    have inner := covering_within child nonempty
    cases tree with
    | node => exact .inChild member inner
termination_by sizeOf tree
decreasing_by exact sizeOf_child_lt member

theorem covering_covers (tree : Tree) {start stop : Point} (nonempty : start < stop)
    (covers : tree.Covers start stop) : (tree.covering start stop).Covers start stop := by
  rcases tree.covering_cases nonempty with answer | ⟨child, member, childCovers, answer⟩
  · rw [answer]
    exact covers
  · rw [answer]
    exact covering_covers child nonempty childCovers
termination_by sizeOf tree
decreasing_by exact sizeOf_child_lt member

/-- Outside of a nested tree the lookup answers the whole tree. -/
theorem covering_of_not_covers {tree : Tree} (nested : tree.Nested)
    {start stop : Point} (nonempty : start < stop) (outside : ¬ tree.Covers start stop) :
    tree.covering start stop = tree := by
  rcases tree.covering_cases nonempty with answer | ⟨child, member, covers, _⟩
  · exact answer
  · exfalso
    apply outside
    cases tree with
    | node role first last children =>
        rw [Nested] at nested
        rcases nested.of_mem member with ⟨_, begins, ends⟩
        exact ⟨le_trans begins covers.1, le_trans covers.2 ends⟩

/-- The answer of a lookup lies in every node that covers the range. -/
theorem covering_within_of_covers {inner tree : Tree} (within : Within inner tree)
    (nested : tree.Nested) {start stop : Point} (nonempty : start < stop)
    (covers : inner.Covers start stop) : Within (tree.covering start stop) inner := by
  induction within with
  | self => exact inner.covering_within nonempty
  | @inChild role first last children child member within ih =>
      rw [Nested] at nested
      have childNested := (nested.of_mem member).1
      rcases within.bounds childNested with ⟨_, begins, ends⟩
      have childCovers : child.Covers start stop :=
        ⟨le_trans begins covers.1, le_trans covers.2 ends⟩
      rw [covering, coveringAmong_of_mem nested nonempty member childCovers,
        Option.getD_some]
      exact ih childNested

-- Trees are big terms: no elaboration step should compute whether one is nested.
attribute [irreducible] Nested

end Tree

end LintBridge.Syntax
