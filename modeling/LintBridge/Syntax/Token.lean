import LintBridge.Syntax.Tree

/-!
# Tokens

The pieces of a source text, and the marks of its line structure.
-/

namespace LintBridge.Syntax

/-- Kinds of tokens. -/
inductive TokenKind where
  /-- An identifier or a keyword. -/
  | word
  | number
  /-- An operator, a bracket or another mark. -/
  | symbol
  /-- The prefix and the opening quotes of a string. -/
  | stringStart
  /-- A stretch of text inside a string or a format specifier. -/
  | stringText
  /-- An escape inside a string, or a doubled brace of a format string. -/
  | escape
  | stringEnd
  /-- The conversion in a replacement field of a format string. -/
  | conversion
  | comment
  /-- A backslash with the line break after it. -/
  | continuation
  /-- The end of a logical line. -/
  | newline
  /-- The start of an indented block. -/
  | indent
  /-- The end of an indented block. -/
  | dedent
  /-- A character that begins no token. -/
  | stray
  deriving DecidableEq, Repr

/-- A token with its text and its extent. -/
structure Token where
  kind : TokenKind
  text : String
  first : Point
  last : Point
  deriving Repr

namespace Token

/-- Whether a token may stand between any two others. -/
def isExtra (token : Token) : Bool :=
  token.kind == .comment || token.kind == .continuation

/-- Whether a token has no node of its own. -/
def isHidden (token : Token) : Bool :=
  match token.kind with
  | .stringText | .newline | .indent | .dedent => true
  | _ => false

/-- The leaf that a token becomes. -/
def leaf (token : Token) : Tree :=
  let role := if token.isExtra then .extra else if token.isHidden then .hidden else .token
  Tree.leaf role token.first token.last

/-- A mark of the line structure, which takes no room. -/
def mark (kind : TokenKind) (point : Point) : Token :=
  ⟨kind, "", point, point⟩

end Token

end LintBridge.Syntax
