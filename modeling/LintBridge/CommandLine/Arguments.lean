import LintBridge.CommandLine.Usage
import LintBridge.Text.Similarity

/-!
# Arguments

The arguments of a call, taken apart into options and operands. A value follows its
option, or is attached to it; what follows two dashes is no option.
-/

namespace LintBridge.CommandLine

/-- The options that are given, with their values, and the operands. -/
structure Arguments where
  given : List (Switch × Option String)
  operands : List String
  deriving DecidableEq, Repr

namespace Arguments

/-- No argument at all. -/
def empty : Arguments := ⟨[], []⟩

/-- Some arguments with more options in front. -/
def withGiven (given : List (Switch × Option String)) (arguments : Arguments) : Arguments :=
  { arguments with given := given ++ arguments.given }

/-- Some arguments with another operand in front. -/
def withOperand (operand : String) (arguments : Arguments) : Arguments :=
  { arguments with operands := operand :: arguments.operands }

/-- Options that are given by one argument, and an option that still needs a value. -/
structure Reading where
  given : List (Switch × Option String)
  pending? : Option (Switch × String)

/-- The option that has a name. -/
def named? (switches : List Switch) (name : String) : Option Switch :=
  switches.find? (·.names.contains name)

/-- Read an option by a long name, with the value that is attached to it. -/
def readLong (switches : List Switch) (name : String) (attached? : Option String) :
    Except UsageFault Reading :=
  match switches.find? (·.longNames.contains name) with
  | none =>
      .error (.noSuchSwitch name
        ((switches.flatMap (·.longNames)).filter (Text.isSimilar · name)))
  | some switch =>
      if switch.takesValue then
        match attached? with
        | some value => .ok ⟨[(switch, some value)], none⟩
        | none => .ok ⟨[], some (switch, name)⟩
      else
        match attached? with
        | some _ => .error (.takesNoValue name)
        | none => .ok ⟨[(switch, none)], none⟩

/-- Read options by their short names, written together after one dash. -/
def readShort (switches : List Switch) : List Char → Except UsageFault Reading
  | [] => .ok ⟨[], none⟩
  | c :: rest =>
      let name := String.ofList ['-', c]
      match named? switches name with
      | none => .error (.noSuchSwitch name [])
      | some switch =>
          if switch.takesValue then
            if rest = [] then .ok ⟨[], some (switch, name)⟩
            else .ok ⟨[(switch, some (String.ofList rest))], none⟩
          else
            (readShort switches rest).map fun reading =>
              { reading with given := (switch, none) :: reading.given }

/-- Read an argument that begins with a dash. -/
def readSwitch (switches : List Switch) (argument : List Char) : Except UsageFault Reading :=
  let name := argument.takeWhile (· ≠ '=')
  let attached? := (argument.drop name.length).tail?
  match readLong switches (String.ofList name) (attached?.map String.ofList) with
  | .error (.noSuchSwitch name similar) =>
      if argument.take 2 = ['-', '-'] then .error (.noSuchSwitch name similar)
      else readShort switches (argument.drop 1)
  | result => result

/-- Whether an argument gives options. -/
def isSwitch (argument : List Char) : Bool :=
  argument.head? = some '-' && 1 < argument.length

/-- Take arguments apart. Unless options may follow operands, the first operand ends
the options. -/
def read (switches : List Switch) (mixed : Bool) : List String → Except UsageFault Arguments
  | [] => .ok empty
  | argument :: rest =>
      if argument = "--" then .ok ⟨[], rest⟩
      else if isSwitch argument.toList then
        match readSwitch switches argument.toList with
        | .error fault => .error fault
        | .ok ⟨given, none⟩ => (read switches mixed rest).map (withGiven given)
        | .ok ⟨given, some (switch, name)⟩ =>
            match rest with
            | [] => .error (.needsValue name)
            | value :: rest =>
                (read switches mixed rest).map (withGiven (given ++ [(switch, some value)]))
      else if mixed then (read switches mixed rest).map (withOperand argument)
      else .ok ⟨[], argument :: rest⟩

/-- Whether an option is given. -/
def has (arguments : Arguments) (switch : Switch) : Bool :=
  arguments.given.any (·.1 = switch)

/-- The values of an option, in order. -/
def values (arguments : Arguments) (switch : Switch) : List String :=
  arguments.given.filterMap fun given => if given.1 = switch then given.2 else none

/-- The operands, of which there have to be as many as there are names. -/
def operandsFor (names : List String) (operands : List String) : Except UsageFault (List String) :=
  match names[operands.length]? with
  | some name => .error (.missingOperand name)
  | none =>
      match operands.drop names.length with
      | [] => .ok operands
      | extra => .error (.extraOperands extra)

end Arguments

end LintBridge.CommandLine
