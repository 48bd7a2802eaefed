import LintBridge.Text.Quoted

/-!
# Usage

The commands there are, with their options and operands; what is shown about them on
request; and what is said about a call that does not fit them.
-/

namespace LintBridge.CommandLine

/-- An option. It takes a value if it has a name for one. -/
structure Switch where
  names : List String
  value? : Option String
  help : String
  deriving DecidableEq, Repr

/-- A command. The last of its words is its own name. -/
structure Usage where
  words : List String
  summary : String
  switches : List Switch
  operands : List String
  /-- The names and the summaries of the commands that it is a group of. -/
  commands : List (String × String)
  deriving DecidableEq, Repr

/-- Why a call does not fit a command. -/
inductive UsageFault where
  | noSuchCommand (name : String)
  | noSuchSwitch (name : String) (similar : List String)
  | needsValue (name : String)
  | takesNoValue (name : String)
  | missingCommand
  | missingOperand (name : String)
  | extraOperands (operands : List String)
  | invalid (subject text : String)
  deriving DecidableEq, Repr

/-- The option that every command has. -/
def helpSwitch : Switch :=
  ⟨["--help"], none, "Show this message and exit."⟩

namespace Switch

/-- Whether an option takes a value. -/
def takesValue (switch : Switch) : Bool :=
  switch.value?.isSome

/-- Whether a name is a dash and a single character. -/
def isShort (name : String) : Bool :=
  name.length = 2

/-- The names of an option that are not short. -/
def longNames (switch : Switch) : List String :=
  switch.names.filter fun name => !isShort name

/-- An option as it is listed: short names first, and the name of its value. -/
def label (switch : Switch) : String :=
  ", ".intercalate (switch.names.filter isShort ++ switch.longNames)
    ++ (switch.value?.map (" " ++ ·)).getD ""

/-- An option as it is called in a complaint. -/
def subject (switch : Switch) : String :=
  " / ".intercalate (switch.names.map Text.quoted)

end Switch

namespace Usage

/-- Whether a command is a group of commands. -/
def isGroup (usage : Usage) : Bool :=
  !usage.commands.isEmpty

/-- The words that call a command. -/
def path (usage : Usage) : String :=
  " ".intercalate usage.words

/-- All options of a command. -/
def allSwitches (usage : Usage) : List Switch :=
  usage.switches ++ [helpSwitch]

/-- The form of a call. -/
def line (usage : Usage) : String :=
  let operands := if usage.isGroup then ["COMMAND", "[ARGS]..."] else usage.operands
  "Usage: " ++ " ".intercalate (usage.path :: "[OPTIONS]" :: operands)

/-- The columns of a page. -/
def pageWidth : Nat := 78

/-- The widest that labels may make their column. -/
def maxLabelWidth : Nat := 30

/-- Put words on lines of a limited width; a word that is longer has a line of its own. -/
def fillLines (width : Nat) : String → List String → List String
  | line, [] => if line.isEmpty then [] else [line]
  | line, word :: words =>
      if line.isEmpty then fillLines width word words
      else if line.length + 1 + word.length ≤ width then fillLines width (line ++ " " ++ word) words
      else line :: fillLines width word words

/-- Blanks. -/
def blanks (count : Nat) : String :=
  String.ofList (List.replicate count ' ')

/-- A label and the lines of its explanation beside it. A label that is too wide has a
line of its own. -/
def entry (column : Nat) (label : String) (lines : List String) : List String :=
  let rest := lines.map fun line => blanks (column + 2) ++ line
  if label.length + 2 ≤ column then
    match lines with
    | [] => ["  " ++ label]
    | first :: _ => ("  " ++ label ++ blanks (column - label.length) ++ first) :: rest.drop 1
  else ("  " ++ label) :: rest

/-- Labels with their explanations in two columns. -/
def table (entries : List (String × String)) : List String :=
  let widest := (entries.map (·.1.length)).foldl max 0
  let column := min widest maxLabelWidth + 2
  entries.flatMap fun (label, text) =>
    entry column label (fillLines (pageWidth - column - 2) "" (text.splitOn " "))

/-- What is shown about a command on request. -/
def help (usage : Usage) : String :=
  let options := table (usage.allSwitches.map fun switch => (switch.label, switch.help))
  let commands := if usage.isGroup then ["", "Commands:"] ++ table usage.commands else []
  let lines :=
    [usage.line, "", "  " ++ usage.summary, "", "Options:"] ++ options ++ commands
  "\n".intercalate lines ++ "\n"

end Usage

namespace UsageFault

/-- A fault that is told without the form of the call. -/
def isAlone : UsageFault → Bool
  | needsValue _ | takesNoValue _ => true
  | _ => false

/-- What may have been meant. -/
def suggestion : List String → String
  | [] => ""
  | [name] => s!" Did you mean " ++ Text.quoted name ++ "?"
  | names =>
      " (Possible options: " ++ ", ".intercalate ((names.mergeSort (· ≤ ·)).map Text.quoted) ++ ")"

/-- What a fault says. -/
def message : UsageFault → String
  | noSuchCommand name => "No such command " ++ Text.quoted name ++ "."
  | noSuchSwitch name similar => "No such option " ++ Text.quoted name ++ "." ++ suggestion similar
  | needsValue name => "Option " ++ Text.quoted name ++ " requires an argument."
  | takesNoValue name => "Option " ++ Text.quoted name ++ " does not take a value."
  | missingCommand => "Missing command."
  | missingOperand name => s!"Missing argument '{name}'."
  | extraOperands operands =>
      "Got unexpected extra argument" ++ (if operands.length = 1 then "" else "s") ++ " ("
        ++ " ".intercalate operands ++ ")"
  | invalid subject text => s!"Invalid value for {subject}: {text}"

/-- What is said about a call of a command. -/
def report (usage : Usage) (fault : UsageFault) : String :=
  let complaint := "Error: " ++ fault.message ++ "\n"
  if fault.isAlone then complaint
  else usage.line ++ s!"\nTry '{usage.path} --help' for help.\n\n" ++ complaint

end UsageFault

end LintBridge.CommandLine
