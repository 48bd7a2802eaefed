/-!
# Syntax trees

A node covers the text between two points. The children of a node lie inside it,
one after the other; the text between them belongs to the node itself.
-/

namespace LintBridge.Syntax

/-- A place between two characters: a row, and a column counted in bytes. -/
structure Point where
  row : Nat
  column : Nat
  deriving DecidableEq, Repr, Inhabited

namespace Point

instance : LT Point where
  lt left right := left.row < right.row ∨ left.row = right.row ∧ left.column < right.column

instance : LE Point where
  le left right := left.row < right.row ∨ left.row = right.row ∧ left.column ≤ right.column

theorem lt_def (left right : Point) :
    left < right ↔ left.row < right.row ∨ left.row = right.row ∧ left.column < right.column :=
  Iff.rfl

theorem le_def (left right : Point) :
    left ≤ right ↔ left.row < right.row ∨ left.row = right.row ∧ left.column ≤ right.column :=
  Iff.rfl

instance (left right : Point) : Decidable (left < right) :=
  decidable_of_iff _ (lt_def left right).symm

instance (left right : Point) : Decidable (left ≤ right) :=
  decidable_of_iff _ (le_def left right).symm

theorem not_lt {left right : Point} : ¬left < right ↔ right ≤ left := by
  rw [lt_def, le_def]; omega

theorem not_le {left right : Point} : ¬left ≤ right ↔ right < left := by
  rw [lt_def, le_def]; omega

end Point

/-- What a node of a syntax tree stands for. -/
inductive Role where
  /-- A single token. -/
  | token
  /-- A construct of the grammar, by name. -/
  | construct (name : String)
  /-- A comment or line continuation, which may stand between any two tokens. -/
  | extra
  /-- A stretch of text that takes part in the extent of its construct only. -/
  | hidden
  deriving DecidableEq, Repr

/-- A syntax tree. -/
inductive Tree where
  | node (role : Role) (first last : Point) (children : List Tree)

namespace Tree

/-- What the root of a tree stands for. -/
def role : Tree → Role
  | node role _ _ _ => role

/-- Where a tree begins. -/
def first : Tree → Point
  | node _ first _ _ => first

/-- Where a tree ends. -/
def last : Tree → Point
  | node _ _ last _ => last

/-- The trees directly below the root. -/
def children : Tree → List Tree
  | node _ _ _ children => children

/-- A tree without children. -/
def leaf (role : Role) (first last : Point) : Tree :=
  node role first last []

/-- Whether a tree ends before it can cover a range: it does not reach the end of
the range, or does not exceed its start. An empty tree may end at the start. -/
def fallsShort (tree : Tree) (start stop : Point) : Bool :=
  tree.last < stop ||
    (if tree.first = tree.last then tree.last < start else tree.last ≤ start)

mutual

/-- The smallest node of a tree that covers a range, or the root when none does. -/
def covering (start stop : Point) : Tree → Tree
  | node role first last children =>
      (coveringAmong start stop children).getD (node role first last children)

/-- The smallest covering node below the first of some siblings that does not
fall short of the range, unless that one begins after the range does. -/
def coveringAmong (start stop : Point) : List Tree → Option Tree
  | [] => none
  | tree :: siblings =>
      if tree.fallsShort start stop then coveringAmong start stop siblings
      else if start < tree.first then none
      else some (covering start stop tree)

end

/-- The node that answers a lookup of a range; a reversed range has none. -/
def lookup? (tree : Tree) (start stop : Point) : Option Tree :=
  if start ≤ stop then some (tree.covering start stop) else none

end Tree

end LintBridge.Syntax
