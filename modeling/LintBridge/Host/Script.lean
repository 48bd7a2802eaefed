import LintBridge.Text.Utf8

/-!
# Shell scripts

The commands of a shell script: words with their quotes and parameters, where the
output of a command goes, and when it runs. Loops, pipes and other compound
commands are left out. A script is a sequence of bytes; a byte stands here as the
character of the same number.
-/

namespace LintBridge.Script

/-- A part of a word: given text, or the value of a parameter. Text in quotes is
never split. -/
inductive Piece where
  | text (chars : List Char) (quoted : Bool)
  | parameter (name : List Char) (quoted : Bool)
  deriving DecidableEq, Repr

/-- When a command runs: always, after a success, or after a failure. -/
inductive Condition where
  | always
  | success
  | failure
  deriving DecidableEq, Repr

/-- Where a stream of a command goes: to where another one goes, or nowhere. -/
inductive Target where
  | stream (number : Nat)
  | nowhere
  deriving DecidableEq, Repr

/-- A command of a script. -/
structure Command where
  condition : Condition
  words : List (List Piece)
  redirections : List (Nat × Target)
  deriving DecidableEq, Repr

/-- A word or a character with a meaning of its own. -/
inductive Token where
  | word (pieces : List Piece)
  | mark (c : Char)
  deriving DecidableEq, Repr

/-- What the next character of a script belongs to. -/
inductive Mode where
  | plain
  | single
  | double
  | escape (quoted : Bool)
  | dollar (quoted : Bool)
  | name (reversed : List Char) (quoted : Bool)
  | braces (reversed : List Char) (quoted : Bool)
  | comment
  deriving DecidableEq, Repr

/-- A reader of scripts: the tokens so far and the pieces of the word that has begun,
both in reverse. -/
structure Reader where
  tokens : List Token
  pieces : Option (List Piece)
  mode : Mode

namespace Reader

/-- Add a piece to the word. -/
def add (reader : Reader) (piece : Piece) : Reader :=
  { reader with pieces := some (piece :: reader.pieces.getD []) }

/-- End the word, if one has begun. -/
def endWord (reader : Reader) : Reader :=
  match reader.pieces with
  | none => reader
  | some pieces => { reader with tokens := .word pieces.reverse :: reader.tokens, pieces := none }

/-- End the word and add a mark. -/
def mark (reader : Reader) (c : Char) : Reader :=
  let reader := reader.endWord
  { reader with tokens := .mark c :: reader.tokens }

/-- The mode around a parameter or an escape. -/
def outer (quoted : Bool) : Mode :=
  if quoted then .double else .plain

/-- Read a character outside of all quotes. -/
def plain (reader : Reader) (c : Char) : Reader :=
  if c = ' ' ∨ c = '\t' then reader.endWord
  else if c = ';' ∨ c = '\n' ∨ c = '&' ∨ c = '|' ∨ c = '>' ∨ c = '<' then reader.mark c
  else if c = '\'' then { reader.add (.text [] true) with mode := .single }
  else if c = '"' then { reader.add (.text [] true) with mode := .double }
  else if c = '\\' then { reader with mode := .escape false }
  else if c = '$' then { reader with mode := .dollar false }
  else if c = '#' ∧ reader.pieces = none then { reader with mode := .comment }
  else reader.add (.text [c] false)

/-- Read a character between double quotes. -/
def double (reader : Reader) (c : Char) : Reader :=
  if c = '"' then { reader with mode := .plain }
  else if c = '\\' then { reader with mode := .escape true }
  else if c = '$' then { reader with mode := .dollar true }
  else reader.add (.text [c] true)

/-- Read a character in the mode around a parameter that has ended. -/
def resume (reader : Reader) (quoted : Bool) (c : Char) : Reader :=
  let reader := { reader with mode := outer quoted }
  if quoted then reader.double c else reader.plain c

/-- Characters of the names of variables. -/
def isNameChar (c : Char) : Bool :=
  c.isAlphanum || c = '_'

/-- Read a character. -/
def read (reader : Reader) (c : Char) : Reader :=
  match reader.mode with
  | .plain => reader.plain c
  | .double => reader.double c
  | .single =>
      if c = '\'' then { reader with mode := .plain } else reader.add (.text [c] true)
  | .comment => if c = '\n' then { reader.mark c with mode := .plain } else reader
  | .escape quoted =>
      let reader := { reader with mode := outer quoted }
      if c = '\n' then reader
      else if quoted && !(['"', '\\', '$'].contains c) then reader.add (.text ['\\', c] true)
      else reader.add (.text [c] true)
  | .dollar quoted =>
      if c = '\x7b' then { reader with mode := .braces [] quoted }
      else if c.isDigit || ['$', '?', '#', '@', '*'].contains c then
        { reader.add (.parameter [c] quoted) with mode := outer quoted }
      else if isNameChar c then { reader with mode := .name [c] quoted }
      else (reader.add (.text ['$'] quoted)).resume quoted c
  | .name reversed quoted =>
      if isNameChar c then { reader with mode := .name (c :: reversed) quoted }
      else (reader.add (.parameter reversed.reverse quoted)).resume quoted c
  | .braces reversed quoted =>
      if c = '\x7d' then
        { reader.add (.parameter reversed.reverse quoted) with mode := outer quoted }
      else { reader with mode := .braces (c :: reversed) quoted }

/-- The tokens that have been read, unless a quote is still open. -/
def finish? (reader : Reader) : Option (List Token) :=
  match reader.mode with
  | .plain | .comment => some reader.endWord.tokens.reverse
  | .escape false => some (reader.add (.text ['\\'] true)).endWord.tokens.reverse
  | .dollar false => some (reader.add (.text ['$'] false)).endWord.tokens.reverse
  | .name reversed false =>
      some (reader.add (.parameter reversed.reverse false)).endWord.tokens.reverse
  | _ => none

end Reader

/-- The tokens of a script, unless a quote stays open. -/
def tokens? (script : List Char) : Option (List Token) :=
  (script.foldl Reader.read ⟨[], none, .plain⟩).finish?

/-- The digit that a word consists of. -/
def digit? : List Piece → Option Nat
  | [.text [c] false] => if c.isDigit then some (c.toNat - '0'.toNat) else none
  | _ => none

/-- A command with another word in front. -/
def Command.addWord (word : List Piece) (command : Command) : Command :=
  { command with words := word :: command.words }

/-- A command with another redirection in front. -/
def Command.addRedirection (stream : Nat) (target : Target) (command : Command) : Command :=
  { command with redirections := (stream, target) :: command.redirections }

/-- A command without words. -/
def Command.none (condition : Condition) : Command :=
  ⟨condition, [], []⟩

/-- Change the first of some commands. -/
def onFirst (change : Command → Command) : List Command → List Command
  | [] => []
  | command :: commands => change command :: commands

/-- The commands that tokens make up, the first of which runs under a condition. -/
def commandsFrom (condition : Condition) : List Token → List Command
  | [] => [.none condition]
  | .mark '&' :: .mark '&' :: rest => .none condition :: commandsFrom .success rest
  | .mark '|' :: .mark '|' :: rest => .none condition :: commandsFrom .failure rest
  | .word word :: .mark '>' :: .mark '&' :: .word target :: rest =>
      match digit? word, digit? target with
      | some stream, some number =>
          onFirst (·.addRedirection stream (.stream number)) (commandsFrom condition rest)
      | _, some number =>
          onFirst (fun command => (command.addRedirection 1 (.stream number)).addWord word)
            (commandsFrom condition rest)
      | _, none => onFirst (·.addWord word) (commandsFrom condition rest)
  | .mark '>' :: .mark '&' :: .word target :: rest =>
      onFirst (·.addRedirection 1 (.stream ((digit? target).getD 1))) (commandsFrom condition rest)
  | .word word :: .mark '>' :: .word _ :: rest =>
      match digit? word with
      | some stream => onFirst (·.addRedirection stream .nowhere) (commandsFrom condition rest)
      | none =>
          onFirst (fun command => (command.addRedirection 1 .nowhere).addWord word)
            (commandsFrom condition rest)
  | .mark '>' :: .word _ :: rest =>
      onFirst (·.addRedirection 1 .nowhere) (commandsFrom condition rest)
  | .mark '<' :: .word _ :: rest => commandsFrom condition rest
  | .word word :: rest => onFirst (·.addWord word) (commandsFrom condition rest)
  | .mark _ :: rest => .none condition :: commandsFrom .always rest

/-- The commands of a script, unless a quote stays open. -/
def commands? (script : List Char) : Option (List Command) :=
  (tokens? script).map (commandsFrom .always)

end LintBridge.Script
