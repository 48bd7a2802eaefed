import LintBridge.Syntax.Parse
import LintBridge.Text.Column
import LintBridge.Buffer

/-!
# Looking up tokens by column

A token is asked for by the column of a character. The tree counts columns in
bytes, so the range of the character is converted on the way in and the end of the
token on the way out.
-/

namespace LintBridge.Syntax

open LintBridge.Text

/-- The syntax tree of some rows, whatever line breaks separated them. -/
def parseRows (lines : List Line) : Tree :=
  parseSource (joinLines ['\n'] lines)

/-- The languages whose source text can be parsed. -/
inductive Language where
  | python
  deriving DecidableEq, Repr

/-- The scope of Python source. -/
def pythonScope : String := "source.python"

/-- The language of a scope. -/
def languageOf? (scope : String) : Option Language :=
  if scope = pythonScope then some .python else none

/-- Why a scope has no parser. -/
def unsupportedScopeMessage (scope : String) : String :=
  s!"Grammar scope {scope} is not supported."

/-- The node of a tree that spans one character of a row. At the end of the row
the span is empty. -/
def nodeAt? (tree : Tree) (line : Line) (row : Nat) (column : Int) : Option Tree :=
  let stop := min (column + 1) line.length
  tree.lookup? ⟨row, byteColumn line column⟩ ⟨row, byteColumn line stop⟩

/-- The character column where the token at a column ends, if the token lies on
the row and extends past the column. -/
def tokenEnd? (tree : Tree) (line : Line) (row : Nat) (column : Int) : Option Nat := do
  let node ← nodeAt? tree line row column
  if node.first.row = row ∧ node.last.row = row then
    let stop := charColumn line node.last.column
    if (stop : Int) ≤ column then none else some stop
  else none

end LintBridge.Syntax
