/-!
# Ranges of code points

A character class beyond ASCII is a table of ranges in ascending order, searched
by halving.
-/

namespace LintBridge.Text

/-- The code points from the first number to the second, both included. -/
abbrev CodeRange := Nat × Nat

/-- Search the entries of a sorted table from `low` up to but excluding `high`.
The first argument bounds the number of halvings. -/
def searchRanges (table : Array CodeRange) (code : Nat) : Nat → Nat → Nat → Bool
  | 0, _, _ => false
  | fuel + 1, low, high =>
      if low < high then
        let middle := (low + high) / 2
        match table[middle]? with
        | none => false
        | some (first, last) =>
            if code < first then searchRanges table code fuel low middle
            else if last < code then searchRanges table code fuel (middle + 1) high
            else true
      else false

/-- Whether a sorted table covers a code point. -/
def covers (table : Array CodeRange) (code : Nat) : Bool :=
  searchRanges table code (table.size + 1) 0 table.size

end LintBridge.Text
