/-!
# Similar texts

How alike two texts are: the share of the characters that stand in common blocks. The
longest common block is taken first, and then those to the left and to the right of it.
-/

namespace LintBridge.Text

/-- The length of the longest common beginning of two texts. -/
def commonStart : List Char → List Char → Nat
  | a :: as, b :: bs => if a = b then commonStart as bs + 1 else 0
  | _, _ => 0

/-- A block that two texts have in common: where it begins in each, and its length. -/
structure Block where
  left : Nat
  right : Nat
  length : Nat
  deriving DecidableEq, Repr

/-- The longest of some blocks, the first one if there are several. -/
def longestBlock (blocks : List Block) : Block :=
  blocks.foldl (fun best block => if best.length < block.length then block else best) ⟨0, 0, 0⟩

/-- The longest common block, the leftmost one if there are several. -/
def commonBlock (left right : List Char) : Block :=
  longestBlock <| (List.range left.length).flatMap fun i =>
    (List.range right.length).map fun j => ⟨i, j, commonStart (left.drop i) (right.drop j)⟩

/-- The number of characters in common blocks. The number bounds the blocks. -/
def commonCount : Nat → List Char → List Char → Nat
  | 0, _, _ => 0
  | bound + 1, left, right =>
      let block := commonBlock left right
      if block.length = 0 then 0
      else
        commonCount bound (left.take block.left) (right.take block.right) + block.length
          + commonCount bound (left.drop (block.left + block.length))
              (right.drop (block.right + block.length))

/-- Whether two texts are alike: at least three fifths of all characters stand in common
blocks. -/
def isSimilar (left right : String) : Bool :=
  let left := left.toList
  let right := right.toList
  let common := commonCount left.length left right
  3 * (left.length + right.length) ≤ 10 * common

end LintBridge.Text
