import LintBridge.Proofs.Syntax.Lookup
import LintBridge.Proofs.Syntax.Nodes
import LintBridge.Proofs.Syntax.ParseNested
import LintBridge.Proofs.Text.Bytes

/-!
# Looking up tokens in characters

A tree that counts columns in bytes can be written with columns in characters, as far
as one row is concerned. If the nodes begin and end between characters there, looking
up a character in the one tree is the same as looking it up in the other.
-/

namespace LintBridge.Syntax

open LintBridge.Text

/-! ## Trees in characters -/

/-- The number of characters of a line that end within its first bytes. -/
def charactersWithin (line : Line) (bytes : Nat) : Nat :=
  (List.range line.length).countP fun column =>
    (encode (line.take (column + 1))).length ≤ bytes

/-- That so many bytes of a line are whole characters. -/
def IsBetweenCharacters (line : Line) (bytes : Nat) : Prop :=
  ∃ column, column ≤ line.length ∧ (encode (line.take column)).length = bytes

instance (line : Line) (bytes : Nat) : Decidable (IsBetweenCharacters line bytes) :=
  decidable_of_iff
    ((List.range (line.length + 1)).any fun column =>
      (encode (line.take column)).length = bytes)
    (by
      simp only [IsBetweenCharacters, List.any_eq_true, List.mem_range, decide_eq_true_eq,
        Nat.lt_succ_iff])

/-- A point with its column in characters, if it is on the row of a line. -/
def Point.inCharacters (line : Line) (row : Nat) (point : Point) : Point :=
  if point.row = row then ⟨row, charactersWithin line point.column⟩ else point

namespace Tree

mutual

/-- A tree with other points. -/
def mapPoints (image : Point → Point) : Tree → Tree
  | node role first last children =>
      node role (image first) (image last) (mapPointsAmong image children)

/-- Trees with other points. -/
def mapPointsAmong (image : Point → Point) : List Tree → List Tree
  | [] => []
  | tree :: trees => tree.mapPoints image :: mapPointsAmong image trees

end

/-- A tree with the columns of a row in characters. -/
def inCharacters (line : Line) (row : Nat) (tree : Tree) : Tree :=
  tree.mapPoints (Point.inCharacters line row)

/-- That the nodes of a tree begin and end between the characters of a row. -/
def Aligned (line : Line) (row : Nat) (tree : Tree) : Prop :=
  ∀ node ∈ tree.nodes, ∀ point ∈ [node.first, node.last],
    point.row = row → IsBetweenCharacters line point.column

instance (line : Line) (row : Nat) (tree : Tree) : Decidable (tree.Aligned line row) :=
  inferInstanceAs (Decidable (∀ node ∈ tree.nodes, ∀ point ∈ [node.first, node.last], _ → _))

/-- Where the smallest node over a character ends in a tree with columns in characters,
provided that the node lies on the row of the character and extends past it. -/
def endOver? (tree : Tree) (row column : Nat) : Option Nat :=
  let node := tree.smallestOver ⟨row, column⟩ ⟨row, column + 1⟩
  if node.first.row = row ∧ node.last.row = row ∧ column < node.last.column then
    some node.last.column
  else none

/-! ## Other points -/

section

variable {image : Point → Point}

@[simp] theorem first_mapPoints (tree : Tree) :
    (tree.mapPoints image).first = image tree.first := by
  cases tree
  rfl

@[simp] theorem last_mapPoints (tree : Tree) : (tree.mapPoints image).last = image tree.last := by
  cases tree
  rfl

mutual

theorem nodes_mapPoints : (tree : Tree) →
    (tree.mapPoints image).nodes = tree.nodes.map (mapPoints image)
  | node _ _ _ children => by
      rw [mapPoints, nodes, nodes, List.map_cons, nodesAmong_mapPointsAmong children, mapPoints]

theorem nodesAmong_mapPointsAmong : (trees : List Tree) →
    nodesAmong (mapPointsAmong image trees) = (nodesAmong trees).map (mapPoints image)
  | [] => rfl
  | tree :: trees => by
      rw [mapPointsAmong, nodesAmong, nodesAmong, List.map_append, nodes_mapPoints tree,
        nodesAmong_mapPointsAmong trees]

end

/-- Points stay in order. -/
def KeepsOrder (image : Point → Point) : Prop :=
  ∀ ⦃left right : Point⦄, left ≤ right → image left ≤ image right

mutual

/-- A tree stays nested if its points stay in order. -/
theorem Nested.mapPoints (ordered : KeepsOrder image) :
    {tree : Tree} → tree.Nested → (tree.mapPoints image).Nested
  | node _ _ _ _, nested => by
      rw [Nested] at nested
      rw [Tree.mapPoints, Nested]
      exact nested.mapPointsAmong ordered

theorem Between.mapPointsAmong (ordered : KeepsOrder image) :
    {first last : Point} → {trees : List Tree} → Between first last trees →
      Between (image first) (image last) (Tree.mapPointsAmong image trees)
  | _, _, [], between => by
      rw [Between] at between
      rw [Tree.mapPointsAmong, Between]
      exact ordered between
  | _, _, tree :: trees, between => by
      rw [Between] at between
      rw [Tree.mapPointsAmong, Between, first_mapPoints, last_mapPoints]
      exact ⟨ordered between.1, between.2.1.mapPoints ordered,
        between.2.2.mapPointsAmong ordered⟩

end

/-- The smallest node stays the same if the nodes cover the same ranges as before. -/
theorem smallestOver_mapPoints {tree : Tree} {start stop start' stop' : Point}
    (same : ∀ node ∈ tree.nodes,
      (node.mapPoints image).Covers start' stop' ↔ node.Covers start stop) :
    (tree.mapPoints image).smallestOver start' stop' =
      (tree.smallestOver start stop).mapPoints image := by
  have covering : tree.nodes.filter (fun node => (node.mapPoints image).Covers start' stop') =
      tree.nodes.filter (·.Covers start stop) := by
    apply List.filter_congr
    intro node listed
    exact decide_eq_decide.mpr (same node listed)
  rw [smallestOver, nodes_mapPoints, List.filter_map, List.getLast?_map, Option.getD_map,
    smallestOver, ← covering]
  rfl

end

end Tree

/-! ## Bytes and characters -/

section

variable {line : Line} {row : Nat}

theorem countP_range_lt (bound count : Nat) :
    (List.range bound).countP (· < count) = min bound count := by
  induction bound with
  | zero => simp
  | succ bound ih =>
      rw [List.range_succ, List.countP_append, ih]
      by_cases inside : bound < count
      · simp [inside]
        omega
      · simp [inside]
        omega

theorem charactersWithin_eq (line : Line) (bytes : Nat) :
    charactersWithin line bytes = charColumn line bytes := by
  have ends : ∀ column ∈ List.range line.length,
      decide ((encode (line.take (column + 1))).length ≤ bytes) = true ↔
        decide (column < charColumn line bytes) = true := by
    intro column inLine
    have next : column + 1 ≤ line.length := List.mem_range.mp inLine
    rw [decide_eq_true_iff, decide_eq_true_iff, length_encode, ← byteColumn_ofNat line next,
      byteColumn_le_iff line next]
    exact Iff.rfl
  rw [charactersWithin, List.countP_congr ends, countP_range_lt]
  exact Nat.min_eq_right (charColumn_le_length line bytes)

theorem inCharacters_of_row {point : Point} (onRow : point.row = row) :
    point.inCharacters line row = ⟨row, charColumn line point.column⟩ := by
  rw [Point.inCharacters, if_pos onRow, charactersWithin_eq]

@[simp] theorem row_inCharacters (point : Point) :
    (point.inCharacters line row).row = point.row := by
  rw [Point.inCharacters]
  split
  · rename_i onRow
    exact onRow.symm
  · rfl

theorem keepsOrder_inCharacters (line : Line) (row : Nat) :
    Tree.KeepsOrder (Point.inCharacters line row) := by
  intro left right le
  rw [Point.le_def] at le ⊢
  rw [row_inCharacters, row_inCharacters]
  rcases le with before | ⟨sameRow, before⟩
  · exact .inl before
  · refine .inr ⟨sameRow, ?_⟩
    by_cases onRow : left.row = row
    · rw [inCharacters_of_row onRow, inCharacters_of_row (sameRow.symm.trans onRow)]
      exact charColumn_le_charColumn line before
    · rw [Point.inCharacters, if_neg onRow, Point.inCharacters,
        if_neg fun onRow' => onRow (sameRow.trans onRow')]
      exact before

theorem columnPoint_le_iff_inCharacters {column : Nat} (inLine : column ≤ line.length)
    (point : Point) :
    columnPoint line row column ≤ point ↔ ⟨row, column⟩ ≤ point.inCharacters line row := by
  by_cases onRow : point.row = row
  · rw [columnPoint_le_iff inLine onRow, inCharacters_of_row onRow, Point.le_def]
    simp
  · rw [Point.inCharacters, if_neg onRow, Point.le_def, Point.le_def]
    simp [columnPoint, Ne.symm onRow]

theorem le_columnPoint_iff_inCharacters {column : Nat} (inLine : column ≤ line.length)
    {point : Point} (between : point.row = row → IsBetweenCharacters line point.column) :
    point ≤ columnPoint line row column ↔ point.inCharacters line row ≤ ⟨row, column⟩ := by
  by_cases onRow : point.row = row
  · rcases between onRow with ⟨own, ownInLine, bytes⟩
    rw [length_encode, ← byteColumn_ofNat line ownInLine] at bytes
    have back : charColumn line point.column = own := by
      rw [← bytes, charColumn_byteColumn line ownInLine]
    rw [inCharacters_of_row onRow, back, Point.le_def, Point.le_def]
    simp [columnPoint, onRow, ← bytes, byteColumn_le_iff line ownInLine,
      charColumn_byteColumn line inLine]
  · rw [Point.inCharacters, if_neg onRow, Point.le_def, Point.le_def]
    simp [columnPoint, onRow]

/-- The nodes of an aligned tree cover the same characters when their columns are counted
in characters. -/
theorem covers_inCharacters_iff {tree : Tree} (aligned : tree.Aligned line row) {column : Nat}
    (inLine : column < line.length) {node : Tree} (listed : node ∈ tree.nodes) :
    (node.inCharacters line row).Covers ⟨row, column⟩ ⟨row, column + 1⟩ ↔
      node.Covers (columnPoint line row column) (columnPoint line row (column + 1)) := by
  have between := aligned node listed node.first List.mem_cons_self
  rw [Tree.Covers, Tree.Covers, le_columnPoint_iff_inCharacters (Nat.le_of_lt inLine) between,
    columnPoint_le_iff_inCharacters inLine, Tree.inCharacters, Tree.first_mapPoints,
    Tree.last_mapPoints]

/-- The smallest node over a character is the same one in bytes and in characters. -/
theorem smallestOver_inCharacters {tree : Tree} (nested : tree.Nested)
    (aligned : tree.Aligned line row) {column : Nat} (inLine : column < line.length) :
    (tree.inCharacters line row).smallestOver ⟨row, column⟩ ⟨row, column + 1⟩ =
      (nodeOver tree line row column).inCharacters line row := by
  rw [nodeOver, ← Tree.smallestOver_eq_covering (columnPoint_lt_succ inLine) nested]
  exact Tree.smallestOver_mapPoints fun node listed =>
    covers_inCharacters_iff aligned inLine listed

end

/-- In a nested tree whose nodes begin and end between characters, the token lookup answers
the end of the smallest node over the character, looked for and counted in characters
throughout, if that node lies on the row. -/
theorem tokenEnd?_eq_endOver? (tree : Tree) (nested : tree.Nested) (line : Line) (row : Nat)
    (aligned : tree.Aligned line row) (column : Nat) (inLine : column < line.length) :
    let characters := tree.inCharacters line row
    let start : Point := ⟨row, column⟩
    let stop : Point := ⟨row, column + 1⟩
    tokenEnd? tree line row column = characters.endOver? row column ∧
      (characters.Covers start stop →
        characters.IsSmallestOver start stop (characters.smallestOver start stop)) := by
  intro characters start stop
  constructor
  · ext answer
    rw [tokenEnd?_eq_some_iff inLine, Tree.endOver?,
      smallestOver_inCharacters nested aligned inLine, Tree.inCharacters, Tree.first_mapPoints,
      Tree.last_mapPoints, row_inCharacters, row_inCharacters, Option.ite_none_right_eq_some,
      Option.some_inj, and_assoc, and_assoc]
    refine and_congr_right fun _ => and_congr_right fun onRow => ?_
    rw [inCharacters_of_row onRow]
    constructor
    · rintro ⟨rfl, past⟩
      exact ⟨past, rfl⟩
    · rintro ⟨past, rfl⟩
      exact ⟨rfl, past⟩
  · have nonempty : start < stop := .inr ⟨rfl, Nat.lt_succ_self column⟩
    exact Tree.isSmallestOver_smallestOver (nested.mapPoints (keepsOrder_inCharacters line row))
      nonempty

/-- A line with characters of one, two and four bytes. -/
def mixedLine : Line := "é = f(\"🐍ß\") + я".toList

/-- The blank after the call belongs to the whole assignment, which is fifteen characters
long. -/
theorem tokenEnd?_eq_endOver?_mixed :
    (parseRows [mixedLine]).Nested ∧ (parseRows [mixedLine]).Aligned mixedLine 0 ∧
      (11 : Nat) < mixedLine.length ∧
      tokenEnd? (parseRows [mixedLine]) mixedLine 0 (11 : Nat) =
        ((parseRows [mixedLine]).inCharacters mixedLine 0).endOver? 0 11 ∧
      ((parseRows [mixedLine]).inCharacters mixedLine 0).endOver? 0 11 = some 15 := by
  have nested := parseRows_nested [mixedLine]
  have aligned : (parseRows [mixedLine]).Aligned mixedLine 0 := by
    decide +kernel
  have inLine : (11 : Nat) < mixedLine.length := by
    decide
  have agree := tokenEnd?_eq_endOver? _ nested mixedLine 0 aligned 11 inLine
  exact ⟨nested, aligned, inLine, agree.1, by decide +kernel⟩

end LintBridge.Syntax
