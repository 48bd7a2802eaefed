import LintBridge.Text.Blank
import LintBridge.Text.DecimalDigit
import LintBridge.Text.WordChar

/-!
# Line patterns

Patterns of text with named groups. A match is looked for from left to right, and
at one place in a fixed order: a greedy repetition tries more before less, a lazy
one less before more.
-/

namespace LintBridge

/-- A class of single characters. -/
inductive CharClass where
  | literal (c : Char)
  /-- Anything but a line feed. -/
  | any
  | digit
  | word
  | blank
  | notBlank
  | oneOf (chars : List Char)
  | noneOf (chars : List Char)
  deriving DecidableEq, Repr

/-- Whether a class holds a character. -/
def CharClass.holds : CharClass → Char → Bool
  | literal c, d => c == d
  | any, d => d != '\n'
  | digit, d => Text.isDecimalDigit d
  | word, d => Text.isWordChar d
  | blank, d => Text.isBlank d
  | notBlank, d => !Text.isBlank d
  | oneOf chars, d => chars.contains d
  | noneOf chars, d => !chars.contains d

/-- A pattern. -/
inductive Pattern where
  | empty
  /-- The start of the text. -/
  | start
  /-- The end of the text, or the place before a final line feed. -/
  | stop
  | one (chars : CharClass)
  | seq (left right : Pattern)
  | opt (greedy : Bool) (body : Pattern)
  | star (greedy : Bool) (body : Pattern)
  /-- A group that remembers what it matched under a name. -/
  | group (name : String) (body : Pattern)
  /-- A pattern that is asked for only if the group of a name has matched. -/
  | ifGroup (name : String) (body : Pattern)
  deriving DecidableEq, Repr

namespace Pattern

/-- One or more. -/
def plus (greedy : Bool) (body : Pattern) : Pattern :=
  seq body (star greedy body)

/-- A sequence of patterns. -/
def all : List Pattern → Pattern
  | [] => empty
  | [pattern] => pattern
  | pattern :: patterns => seq pattern (all patterns)

/-- A given text. -/
def literal (text : String) : Pattern :=
  all (text.toList.map fun c => one (.literal c))

/-- The names of the groups, from left to right. -/
def groupNames : Pattern → List String
  | empty | start | stop | one _ => []
  | seq left right => left.groupNames ++ right.groupNames
  | opt _ body | star _ body | ifGroup _ body => body.groupNames
  | group name body => name :: body.groupNames

/-- What a named group has matched: a number of characters from some place of the
text on. -/
structure Capture where
  name : String
  source : List Char
  length : Nat

/-- The text that a group has matched. -/
def Capture.text (capture : Capture) : List Char :=
  capture.source.take capture.length

/-- What the named groups have matched, latest first. -/
abbrev Captures := List Capture

/-- A place in a text on the way to a match: what is left, how much has been
read, and what the groups have matched. -/
structure Place where
  rest : List Char
  position : Nat
  captures : Captures

/-- What remains to be matched after a pattern. -/
abbrev Next := Place → Option Place

/-- Match one pattern again and again. A round that reads nothing is the last one. The
number bounds the rounds. -/
def iterate (round : Place → Next → Option Place) (greedy : Bool) :
    Nat → Place → Next → Option Place
  | 0, place, next => next place
  | bound + 1, place, next =>
      let more := fun (_ : Unit) => round place fun after =>
        if after.position = place.position then next after
        else iterate round greedy bound after next
      if greedy then more () <|> next place else next place <|> more ()

/-- Match a pattern at a place and what remains after it. -/
def run : Pattern → Place → Next → Option Place
  | empty, place, next => next place
  | start, place, next => if place.position = 0 then next place else none
  | stop, place, next =>
      if place.rest = [] ∨ place.rest = ['\n'] then next place else none
  | one chars, place, next =>
      match place.rest with
      | [] => none
      | c :: rest =>
          if chars.holds c then next ⟨rest, place.position + 1, place.captures⟩ else none
  | seq left right, place, next => run left place fun after => run right after next
  | opt true body, place, next => run body place next <|> next place
  | opt false body, place, next => next place <|> run body place next
  | star greedy body, place, next =>
      iterate (run body) greedy (place.rest.length + 1) place next
  | group name body, place, next =>
      run body place fun after =>
        let capture := ⟨name, place.rest, after.position - place.position⟩
        next { after with captures := capture :: after.captures }
  | ifGroup name body, place, next =>
      if place.captures.any (·.name == name) then run body place next else next place

/-- Match a pattern at the first place of a text where it matches. -/
def searchFrom (pattern : Pattern) : List Char → Nat → Option Captures
  | [], position => (run pattern ⟨[], position, []⟩ some).map (·.captures)
  | c :: rest, position =>
      match run pattern ⟨c :: rest, position, []⟩ some with
      | some place => some place.captures
      | none => searchFrom pattern rest (position + 1)

/-- What the groups of a pattern match in a text, if the pattern matches anywhere. -/
def search (pattern : Pattern) (text : List Char) : Option Captures :=
  searchFrom pattern text 0

/-- Whether a pattern matches somewhere in a text. -/
def occursIn (pattern : Pattern) (text : List Char) : Bool :=
  (search pattern text).isSome

/-- The text that a group has matched. -/
def Captures.text? (captures : Captures) (name : String) : Option (List Char) :=
  (captures.find? (·.name == name)).map (·.text)

end Pattern

end LintBridge
