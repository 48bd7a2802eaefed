/-!
# Terminal text

Text that is not written to a terminal is written without the sequences that would
change its color there.
-/

namespace LintBridge.Text

/-- Characters of the parameters of a sequence. -/
def isSequenceParameter (c : Char) : Bool :=
  c = ';' || c = '?' || c.isDigit

/-- The number of characters of a sequence, after its escape character. -/
def sequenceLength? (text : List Char) : Option Nat :=
  match text with
  | '[' :: rest =>
      let parameters := rest.takeWhile isSequenceParameter
      match rest.drop parameters.length with
      | c :: _ => if c.isAlpha then some (parameters.length + 2) else none
      | [] => none
  | _ => none

/-- Leave out all sequences. The number counts characters that are to be left out. -/
def dropSequencesFrom : Nat → List Char → List Char
  | _, [] => []
  | skip + 1, _ :: rest => dropSequencesFrom skip rest
  | 0, c :: rest =>
      match (if c = '\x1b' then sequenceLength? rest else none) with
      | some length => dropSequencesFrom length rest
      | none => c :: dropSequencesFrom 0 rest

/-- A text without sequences. -/
def dropSequences (text : String) : String :=
  String.ofList (dropSequencesFrom 0 text.toList)

end LintBridge.Text
