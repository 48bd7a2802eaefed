import LintBridge.Syntax.Grammar
import LintBridge.Syntax.Layout

/-!
# The syntax tree of a source text
-/

namespace LintBridge.Syntax

/-- The point at the end of a text. -/
def endOf (source : List Char) : Point :=
  source.foldl Lexer.advance ⟨0, 0⟩

/-- The tree over some trees: from the first of them to the end of the text. -/
def root (source : List Char) (trees : List Tree) : Tree :=
  let stop := endOf source
  .node (.construct "module") ((trees.head?.map Tree.first).getD stop) stop
    (trees.filter (·.role != .hidden))

/-- The leading comments of some tokens. -/
def comments : List Token → List Tree × List Token
  | [] => ([], [])
  | token :: rest =>
      if token.isExtra then
        let (trees, left) := comments rest
        (token.leaf :: trees, left)
      else ([], token :: rest)

/-- The trees of the statements of a text, or only its tokens when they are not a
sequence of statements. -/
def statements (tokens : List Token) : List Tree :=
  let depth := 1000 * (tokens.length + 1)
  match Rule.run Grammar.rule depth (.many (.call .statement)) tokens with
  | some (trees, rest) =>
      match comments rest with
      | (final, []) => trees ++ final
      | _ => tokens.map Token.leaf
  | none => tokens.map Token.leaf

/-- The syntax tree of a source text. -/
def parseSource (source : List Char) : Tree :=
  root source (statements (tokenize source))

end LintBridge.Syntax
