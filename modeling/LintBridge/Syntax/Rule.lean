import LintBridge.Syntax.Token

/-!
# Grammar rules

A grammar gives a rule to each of its names. Matching is greedy and ordered: an
alternative is tried only when those before it fail, and a repetition takes as
much as it can. A rule that matches answers the trees of what it read, which lie
one after the other in the text.

Comments and line continuations may stand before any token. Those in front of a
construct are no part of it; those inside it are among its children.
-/

namespace LintBridge.Syntax

/-- A rule over the names of a grammar. -/
inductive Rule (Name : Type) where
  /-- A given word. -/
  | keyword (text : String)
  /-- A word that is not reserved. -/
  | identifier
  /-- A given symbol. -/
  | symbol (text : String)
  /-- Any token of a kind. -/
  | any (kind : TokenKind)
  /-- The rule of a name. -/
  | call (name : Name)
  /-- One rule after the other. -/
  | seq (rules : List (Rule Name))
  /-- The first rule that matches. -/
  | alt (rules : List (Rule Name))
  | opt (rule : Rule Name)
  | many (rule : Rule Name)
  /-- A rule that has to match next but reads nothing. -/
  | ahead (rule : Rule Name)
  /-- A construct. -/
  | construct (name : String) (rule : Rule Name)
  /-- A construct that is one token to the reader, such as a run of dots. -/
  | merged (rule : Rule Name)
  /-- A stem, made one construct with the first ending that matches; an ending
  without a name leaves the stem as it is. -/
  | fork (stem : Rule Name) (endings : List (Option String × Rule Name))
  /-- A stem, made one construct with an ending again and again. -/
  | chain (stem : Rule Name) (endings : List (String × Rule Name))

namespace Rule

/-- The rule that matches without reading anything. -/
def nothing {Name : Type} : Rule Name := .seq []

/-- One or more. -/
def repeated {Name : Type} (rule : Rule Name) : Rule Name := .seq [rule, .many rule]

/-- One or more, with commas between them and perhaps one at the end. -/
def listed {Name : Type} (rule : Rule Name) : Rule Name :=
  .seq [rule, .many (.seq [.symbol ",", rule]), .opt (.symbol ",")]

end Rule

/-- The words that are no identifiers. -/
def reservedWords : List String :=
  ["and", "as", "assert", "async", "await", "break", "class", "continue", "def", "del", "elif",
    "else", "except", "finally", "for", "from", "global", "if", "import", "in", "is", "lambda",
    "nonlocal", "not", "or", "pass", "raise", "return", "try", "while", "with", "yield",
    "True", "False", "None"]

/-- What matching a rule answers: the trees of what was read, and the tokens left. -/
abbrev Matched := Option (List Tree × List Token)

/-- Read one token that passes a test, with the comments before it. -/
def readToken (accepts : Token → Bool) : List Token → Matched
  | [] => none
  | token :: rest =>
      if token.isExtra then
        (readToken accepts rest).map fun (trees, left) => (token.leaf :: trees, left)
      else if accepts token then some ([token.leaf], rest)
      else none

/-- Make a construct out of the trees of what was read. Comments in front stay
outside, and hidden text takes part in the extent only. -/
def gather (role : Role) (inner : Bool) (trees : List Tree) : List Tree :=
  let (front, body) := trees.span (·.role == .extra)
  match body.head?, body.getLast? with
  | some head, some final =>
      front ++ [.node role head.first final.last
        (if inner then body.filter (·.role != .hidden) else [])]
  | _, _ => trees

namespace Rule

variable {Name : Type}

/-- Match the first of some endings after a stem. -/
def tryEndings (matching : Rule Name → List Token → Matched) (stem : List Tree)
    (tokens : List Token) : List (Option String × Rule Name) → Matched
  | [] => none
  | (name?, ending) :: endings =>
      match matching ending tokens with
      | some (trees, rest) =>
          match name? with
          | some name => some (gather (.construct name) true (stem ++ trees), rest)
          | none => some (stem ++ trees, rest)
      | none => tryEndings matching stem tokens endings

/-- Match endings after a stem as long as one matches. The number bounds how often. -/
def repeatEndings (matching : Rule Name → List Token → Matched)
    (endings : List (String × Rule Name)) : Nat → List Tree → List Token → List Tree × List Token
  | 0, stem, tokens => (stem, tokens)
  | bound + 1, stem, tokens =>
      let named := endings.map fun (name, ending) => (some name, ending)
      match tryEndings matching stem tokens named with
      | some (trees, rest) => repeatEndings matching endings bound trees rest
      | none => (stem, tokens)

/-- Match a rule. The first argument bounds the depth of the rules in use. -/
def run (grammar : Name → Rule Name) : Nat → Rule Name → List Token → Matched
  | 0, _, _ => none
  | fuel + 1, rule, tokens =>
      match rule with
      | keyword text => readToken (fun t => t.kind == .word && t.text == text) tokens
      | identifier =>
          readToken (fun t => t.kind == .word && !reservedWords.contains t.text) tokens
      | symbol text => readToken (fun t => t.kind == .symbol && t.text == text) tokens
      | any kind => readToken (fun t => t.kind == kind) tokens
      | call name => run grammar fuel (grammar name) tokens
      | seq [] => some ([], tokens)
      | seq (rule :: rules) =>
          (run grammar fuel rule tokens).bind fun (trees, rest) =>
            (run grammar fuel (seq rules) rest).map fun (others, rest) => (trees ++ others, rest)
      | alt [] => none
      | alt (rule :: rules) =>
          run grammar fuel rule tokens <|> run grammar fuel (alt rules) tokens
      | opt rule => run grammar fuel rule tokens <|> some ([], tokens)
      | many rule =>
          match run grammar fuel rule tokens with
          | none => some ([], tokens)
          | some ([], rest) => some ([], rest)
          | some (trees, rest) =>
              (run grammar fuel (many rule) rest).map fun (others, rest) => (trees ++ others, rest)
      | ahead rule => (run grammar fuel rule tokens).map fun _ => ([], tokens)
      | construct name rule =>
          (run grammar fuel rule tokens).map fun (trees, rest) =>
            (gather (.construct name) true trees, rest)
      | merged rule =>
          (run grammar fuel rule tokens).map fun (trees, rest) => (gather .token false trees, rest)
      | fork stem endings =>
          (run grammar fuel stem tokens).bind fun (trees, rest) =>
            tryEndings (run grammar fuel) trees rest endings
      | chain stem endings =>
          (run grammar fuel stem tokens).map fun (trees, rest) =>
            repeatEndings (run grammar fuel) endings fuel trees rest

end Rule

end LintBridge.Syntax
