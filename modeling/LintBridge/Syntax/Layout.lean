import LintBridge.Syntax.Lexer

/-!
# Line structure

Adds the marks of logical lines and of indented blocks to a sequence of tokens. A
mark takes no room and stands directly after the token before it.

A comment on a line of its own stays inside a block as long as it is indented at
least as far as the block; the first one that is indented less lets the block end
before it, provided that the block ends before the next token anyway.
-/

namespace LintBridge.Syntax

/-- The blocks that are open, by indentation and innermost first; whether a logical
line is open; and where the token before ends. -/
structure Layout where
  blocks : List Nat
  lineOpen : Bool
  last : Point

namespace Layout

/-- The indentation of the innermost open block. -/
def indentation (layout : Layout) : Nat :=
  layout.blocks.headD 0

/-- Close the open logical line before a token with the given indentation: with
the start of a block if the token is indented further than the block around. -/
def endLine (layout : Layout) (indentation : Nat) : List Token × Layout :=
  if !layout.lineOpen then ([], layout)
  else if layout.indentation < indentation then
    ([Token.mark .indent layout.last],
      { layout with blocks := indentation :: layout.blocks, lineOpen := false })
  else ([Token.mark .newline layout.last], { layout with lineOpen := false })

/-- Close the blocks that are indented further than both given indentations. -/
def endBlocks (layout : Layout) (next comment : Nat) : List Token × Layout :=
  let (ended, blocks) := layout.blocks.span fun block => next < block && comment < block
  (ended.map fun _ => Token.mark .dedent layout.last, { layout with blocks })

/-- The indentation of the first line that begins with a token other than a comment. -/
def nextIndentation : List LineToken → Nat
  | [] => 0
  | lineToken :: rest =>
      if lineToken.token.kind == .comment then nextIndentation rest
      else lineToken.indentation.getD 0

/-- The marks before a token, and the layout after the token. -/
def before (layout : Layout) (lineToken : LineToken) (rest : List LineToken) :
    List Token × Layout :=
  let comment := lineToken.token.kind == .comment
  let (marks, layout) := match lineToken.indentation with
    | none => ([], layout)
    | some own =>
        let next := if comment then nextIndentation rest else own
        let (line, layout) := layout.endLine next
        let (blocks, layout) := layout.endBlocks next own
        (line ++ blocks, layout)
  (marks, { layout with
    lineOpen := layout.lineOpen || !lineToken.token.isExtra, last := lineToken.token.last })

/-- The tokens with the marks between them and after them. -/
def place : List LineToken → Layout → List Token
  | [], layout =>
      let (line, layout) := layout.endLine 0
      line ++ layout.blocks.map fun _ => Token.mark .dedent layout.last
  | lineToken :: rest, layout =>
      let (marks, layout) := layout.before lineToken rest
      marks ++ lineToken.token :: place rest layout

end Layout

/-- The tokens of a source text with its line structure. -/
def tokenize (source : List Char) : List Token :=
  Layout.place (lex source) ⟨[], false, ⟨0, 0⟩⟩

end LintBridge.Syntax
