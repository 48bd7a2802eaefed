import LintBridge.Proofs.Syntax.Covering

/-!
# The smallest node over a range

The nodes of a tree can be listed. In a nested tree the nodes that cover a nonempty
range contain one another, and the lookup answers the last of them in the list.
-/

namespace LintBridge.Syntax.Tree

mutual

/-- All nodes of a tree, each of them before the nodes below it. -/
def nodes : Tree → List Tree
  | node role first last children => node role first last children :: nodesAmong children

/-- All nodes of some trees, one tree after the other. -/
def nodesAmong : List Tree → List Tree
  | [] => []
  | tree :: trees => tree.nodes ++ nodesAmong trees

end

instance (tree : Tree) (start stop : Point) : Decidable (tree.Covers start stop) :=
  inferInstanceAs (Decidable (_ ∧ _))

/-- The smallest node of a tree over a range: of all nodes that cover the range the one
that comes last, or the whole tree if there is none. -/
def smallestOver (tree : Tree) (start stop : Point) : Tree :=
  (tree.nodes.filter (·.Covers start stop)).getLast?.getD tree

/-- A node is the smallest one over a range if it covers the range and lies inside all
nodes that do. -/
structure IsSmallestOver (tree : Tree) (start stop : Point) (node : Tree) : Prop where
  mem : node ∈ tree.nodes
  covers : node.Covers start stop
  inside : ∀ other ∈ tree.nodes, other.Covers start stop → node ∈ other.nodes ∧
    other.first ≤ node.first ∧ node.last ≤ other.last

theorem mem_nodes_self (tree : Tree) : tree ∈ tree.nodes := by
  cases tree
  exact List.mem_cons_self

theorem mem_nodesAmong {node : Tree} {trees : List Tree} :
    node ∈ nodesAmong trees ↔ ∃ tree ∈ trees, node ∈ tree.nodes := by
  induction trees with
  | nil => simp [nodesAmong]
  | cons tree trees ih => simp [nodesAmong, ih]

theorem mem_nodes_iff {node tree : Tree} : node ∈ tree.nodes ↔ node.Within tree := by
  constructor
  · intro listed
    cases tree with
    | node role first last children =>
        rw [nodes, List.mem_cons] at listed
        rcases listed with equal | below
        · rw [equal]
          exact .self
        · rcases mem_nodesAmong.mp below with ⟨child, member, listed⟩
          have smaller : sizeOf child < sizeOf (Tree.node role first last children) :=
            sizeOf_child_lt member
          exact .inChild member (mem_nodes_iff.mp listed)
  · intro within
    induction within with
    | self => exact mem_nodes_self node
    | inChild member _ ih => exact List.mem_cons_of_mem _ (mem_nodesAmong.mpr ⟨_, member, ih⟩)
termination_by sizeOf tree

/-- A node of a nested tree covers a range only if the whole tree does. -/
theorem Covers.of_mem_nodes {node tree : Tree} {start stop : Point}
    (covers : node.Covers start stop) (nested : tree.Nested) (listed : node ∈ tree.nodes) :
    tree.Covers start stop := by
  rcases (mem_nodes_iff.mp listed).bounds nested with ⟨_, begins, ends⟩
  exact ⟨le_trans begins covers.1, le_trans covers.2 ends⟩

theorem filter_nodes_of_not_covers {tree : Tree} (nested : tree.Nested) {start stop : Point}
    (outside : ¬ tree.Covers start stop) :
    tree.nodes.filter (·.Covers start stop) = [] := by
  rw [List.filter_eq_nil_iff]
  intro node listed covers
  exact outside ((of_decide_eq_true covers).of_mem_nodes nested listed)

theorem filter_nodesAmong_of_lt {first last : Point} {trees : List Tree}
    (between : Between first last trees) {start stop : Point} (before : start < first) :
    (nodesAmong trees).filter (·.Covers start stop) = [] := by
  rw [List.filter_eq_nil_iff]
  intro node listed covers
  rcases mem_nodesAmong.mp listed with ⟨tree, member, listed⟩
  rcases between.of_mem member with ⟨nested, begins, _⟩
  have treeCovers := (of_decide_eq_true covers).of_mem_nodes nested listed
  exact absurd (le_trans begins treeCovers.1) (not_le_of_gt before)

mutual

/-- The lookup of a nonempty range in a nested tree answers the smallest node over it. -/
theorem smallestOver_eq_covering {start stop : Point} (nonempty : start < stop) :
    {tree : Tree} → tree.Nested → tree.smallestOver start stop = tree.covering start stop
  | node role first last children, nested => by
      have between := nested
      rw [Nested] at between
      rw [covering, ← getLast?_filter_nodesAmong nonempty between, smallestOver, nodes]
      by_cases covers : (node role first last children).Covers start stop
      · rw [List.filter_cons_of_pos (by simpa using covers), List.getLast?_cons,
          Option.getD_some]
      · rw [List.filter_cons_of_neg (by simpa using covers)]

/-- Among nested siblings the lookup goes on to the last of all nodes that cover the
range. -/
theorem getLast?_filter_nodesAmong {start stop : Point} (nonempty : start < stop) :
    {first last : Point} → {trees : List Tree} → Between first last trees →
      ((nodesAmong trees).filter (·.Covers start stop)).getLast? =
        coveringAmong start stop trees
  | _, _, [], _ => rfl
  | _, _, tree :: trees, between => by
      rcases between with ⟨_, nested, rest⟩
      rw [nodesAmong, List.filter_append, coveringAmong]
      by_cases short : tree.fallsShort start stop = true
      · have ends := (fallsShort_iff tree nonempty).mp short
        rw [if_pos short, filter_nodes_of_not_covers nested fun covers =>
          absurd covers.2 (not_le_of_gt ends), List.nil_append]
        exact getLast?_filter_nodesAmong nonempty rest
      have reaches : stop ≤ tree.last := by
        rwa [fallsShort_iff tree nonempty, not_lt] at short
      rw [if_neg short, filter_nodesAmong_of_lt rest (lt_of_lt_of_le nonempty reaches),
        List.append_nil]
      by_cases late : start < tree.first
      · rw [if_pos late, filter_nodes_of_not_covers nested fun covers =>
          absurd covers.1 (not_le_of_gt late), List.getLast?_nil]
      · rw [if_neg late, ← smallestOver_eq_covering nonempty nested, smallestOver]
        have covers : tree.Covers start stop := ⟨not_lt.mp late, reaches⟩
        have found : tree ∈ tree.nodes.filter (·.Covers start stop) :=
          List.mem_filter.mpr ⟨tree.mem_nodes_self, decide_eq_true covers⟩
        rw [List.getLast?_eq_some_getLast (List.ne_nil_of_mem found), Option.getD_some]

end

/-- In a nested tree that covers a range, the smallest node over it is what its name
says. -/
theorem isSmallestOver_smallestOver {tree : Tree} (nested : tree.Nested) {start stop : Point}
    (nonempty : start < stop) (covers : tree.Covers start stop) :
    tree.IsSmallestOver start stop (tree.smallestOver start stop) := by
  rw [smallestOver_eq_covering nonempty nested]
  refine ⟨mem_nodes_iff.mpr (tree.covering_within nonempty),
    tree.covering_covers nonempty covers, ?_⟩
  intro other listed otherCovers
  have inside := covering_within_of_covers (mem_nodes_iff.mp listed) nested nonempty otherCovers
  have otherNested := ((mem_nodes_iff.mp listed).bounds nested).1
  exact ⟨mem_nodes_iff.mpr inside, (inside.bounds otherNested).2⟩

end LintBridge.Syntax.Tree
