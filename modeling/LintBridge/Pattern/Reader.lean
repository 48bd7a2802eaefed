import LintBridge.Pattern

/-!
# The written form of patterns

Letters stand for themselves; a backslash, a bracket, a parenthesis and the
quantifiers have the meaning they have in regular expressions. What has a meaning
there that patterns do not express is not read: ranges and classes in brackets, counts
in braces, alternatives, and escapes for anything but one of the classes or a character.
-/

namespace LintBridge.Pattern

/-- The character that a character after a backslash stands for. -/
def escapedChar? : Char → Option Char
  | 'r' => some '\r'
  | 'n' => some '\n'
  | 't' => some '\t'
  | c => if c.isAlphanum then none else some c

/-- The class that a character after a backslash stands for. -/
def escapedClass? : Char → Option CharClass
  | 'd' => some .digit
  | 'w' => some .word
  | 's' => some .blank
  | 'S' => some .notBlank
  | c => (escapedChar? c).map .literal

/-- Whether a range from the character in front begins with a text in a bracket. -/
def beginsRange : List Char → Bool
  | '-' :: ']' :: _ => false
  | '-' :: _ => true
  | _ => false

/-- The characters of a bracket up to its end. -/
def readMembers : List Char → Option (List Char × List Char)
  | [] => none
  | ']' :: rest => some ([], rest)
  | '\\' :: c :: rest =>
      match beginsRange rest, escapedChar? c, readMembers rest with
      | false, some c, some (chars, rest) => some (c :: chars, rest)
      | _, _, _ => none
  | c :: rest =>
      match beginsRange rest, readMembers rest with
      | false, some (chars, rest) => some (c :: chars, rest)
      | _, _ => none

/-- The characters of a bracket, of which the first may be the one that ends brackets. -/
def readBracket : List Char → Option (List Char × List Char)
  | ']' :: rest =>
      match beginsRange rest, readMembers rest with
      | false, some (chars, rest) => some (']' :: chars, rest)
      | _, _ => none
  | text => readMembers text

/-- Whether a text may name a group. -/
def isGroupName : List Char → Bool
  | [] => false
  | c :: rest => (c.isAlpha || c == '_') && rest.all fun c => c.isAlphanum || c == '_'

/-- The name of a group up to the character that ends it. -/
def readName (final : Char) (text : List Char) : Option (String × List Char) :=
  let name := text.takeWhile (· != final)
  match isGroupName name, text.drop name.length with
  | true, _ :: rest => some (String.ofList name, rest)
  | _, _ => none

/-- Whether a quantifier stands in front of a text. -/
def beginsQuantifier : List Char → Bool
  | [] => false
  | c :: _ => "*+?".toList.contains c

/-- Apply the quantifier in front of a text, if there is one, to a pattern. -/
def quantify (pattern : Pattern) : List Char → Pattern × List Char
  | '*' :: '?' :: rest => (star false pattern, rest)
  | '*' :: rest => (star true pattern, rest)
  | '+' :: '?' :: rest => (plus false pattern, rest)
  | '+' :: rest => (plus true pattern, rest)
  | '?' :: '?' :: rest => (opt false pattern, rest)
  | '?' :: rest => (opt true pattern, rest)
  | rest => (pattern, rest)

mutual

/-- Read one pattern without its quantifier. The number bounds the depth. -/
def readAtom : Nat → List Char → Option (Pattern × List Char)
  | 0, _ => none
  | fuel + 1, text =>
      match text with
      | '(' :: '?' :: 'P' :: '<' :: rest => do
          let (name, rest) ← readName '>' rest
          let (body, rest) ← readGroup fuel rest
          return (group name body, rest)
      | '(' :: '?' :: '(' :: rest => do
          let (name, rest) ← readName ')' rest
          let (body, rest) ← readGroup fuel rest
          return (ifGroup name body, rest)
      | '(' :: '?' :: ':' :: rest => readGroup fuel rest
      | '(' :: rest => readGroup fuel rest
      | '[' :: '^' :: rest => do
          let (chars, rest) ← readBracket rest
          return (one (.noneOf chars), rest)
      | '[' :: rest => do
          let (chars, rest) ← readBracket rest
          return (one (.oneOf chars), rest)
      | '\\' :: c :: rest => (escapedClass? c).map fun chars => (one chars, rest)
      | '.' :: rest => some (one .any, rest)
      | '^' :: rest => if beginsQuantifier rest then none else some (start, rest)
      | '$' :: rest => if beginsQuantifier rest then none else some (stop, rest)
      | c :: rest =>
          if ")*+?\\|\x7b".toList.contains c then none else some (one (.literal c), rest)
      | [] => none

/-- Read the inside of a group and its closing parenthesis. -/
def readGroup : Nat → List Char → Option (Pattern × List Char)
  | 0, _ => none
  | fuel + 1, text => do
      match ← readSequence fuel text with
      | (patterns, ')' :: rest) => return (all patterns, rest)
      | _ => none

/-- Read patterns up to a closing parenthesis or the end. -/
def readSequence : Nat → List Char → Option (List Pattern × List Char)
  | 0, _ => none
  | fuel + 1, text =>
      match text with
      | [] => some ([], [])
      | ')' :: rest => some ([], ')' :: rest)
      | text => do
          let (pattern, rest) ← readAtom fuel text
          let (pattern, rest) := quantify pattern rest
          let (patterns, rest) ← readSequence fuel rest
          return (pattern :: patterns, rest)

end

/-- The pattern that a text writes. -/
def ofText? (text : String) : Option Pattern :=
  match readSequence (2 * text.length + 2) text.toList with
  | some (patterns, []) => some (all patterns)
  | _ => none

end LintBridge.Pattern
