import LintBridge.Host.Disk
import LintBridge.Host.Script

/-!
# The shell

What running a script comes to. A few commands are built in; any other is not found.
-/

namespace LintBridge.Shell

open Script

/-- The characters that stand for the bytes of a text. -/
def charsOf (text : String) : List Char :=
  (Text.encode text.toList).map fun byte => Char.ofNat byte.toNat

/-- The bytes that characters stand for. -/
def bytesOf (chars : List Char) : List UInt8 :=
  chars.map fun c => c.toNat.toUInt8

/-- The text of characters that stand for bytes. -/
def textOf (chars : List Char) : String :=
  String.ofList (Text.decodeLossy (bytesOf chars))

/-- The number by which a shell knows itself. -/
def ownNumber : List Char := ['4', '2']

/-- A shell at work. -/
structure State where
  call : Call
  /-- The name of the script, and its arguments. -/
  positional : List (List Char)
  environment : Environment
  status : Nat
  output : List Char
  errors : List Char
  duration : Nat
  /-- How it has ended, if it has. -/
  ended : Option Int

namespace State

/-- The value of a parameter. -/
def parameter (state : State) (name : List Char) : List Char :=
  match name with
  | ['$'] => ownNumber
  | ['?'] => Nat.toDigits 10 state.status
  | ['#'] => Nat.toDigits 10 (state.positional.length - 1)
  | ['@'] | ['*'] => (" ".toList.intercalate (state.positional.drop 1))
  | _ =>
      match (String.ofList name).toNat? with
      | some number => state.positional[number]?.getD []
      | none => charsOf ((state.environment.get? (textOf name)).getD "")

end State

/-- Whether a value is split at a character. -/
def isFieldBreak (c : Char) : Bool :=
  c = ' ' || c = '\t' || c = '\n'

/-- Add a value to some fields, the last of which comes first and may go on. -/
def addSplit (fields : Option (List Char) × List (List Char)) (c : Char) :
    Option (List Char) × List (List Char) :=
  if isFieldBreak c then
    match fields with
    | (none, ended) => (none, ended)
    | (some field, ended) => (none, field :: ended)
  else (some (c :: fields.1.getD []), fields.2)

/-- Add a piece of a word to some fields; characters of a field are in reverse. -/
def addPiece (state : State) (fields : Option (List Char) × List (List Char)) (piece : Piece) :
    Option (List Char) × List (List Char) :=
  match piece with
  | .text chars _ => (some (chars.reverse ++ fields.1.getD []), fields.2)
  | .parameter name true => (some ((state.parameter name).reverse ++ fields.1.getD []), fields.2)
  | .parameter name false => (state.parameter name).foldl addSplit fields

/-- The fields that a word stands for. -/
def fieldsOf (state : State) (word : List Piece) : List (List Char) :=
  let (last, ended) := word.foldl (addPiece state) (none, [])
  ((last.toList ++ ended).map List.reverse).reverse

/-- The value of a run of octal digits. -/
def octalValue (digits : List Char) : Nat :=
  digits.foldl (fun n c => 8 * n + (c.toNat - '0'.toNat)) 0

/-- Whether a character is an octal digit. -/
def isOctal (c : Char) : Bool :=
  '0' ≤ c && c ≤ '7'

/-- The character that a letter after a backslash stands for. -/
def escapeOf? : Char → Option Char
  | 'a' => some '\x07'
  | 'b' => some '\x08'
  | 'f' => some '\x0c'
  | 'n' => some '\n'
  | 'r' => some '\r'
  | 't' => some '\t'
  | 'v' => some '\x0b'
  | '\\' => some '\\'
  | _ => none

/-- Replace escapes. Up to `width` octal digits after a backslash are the number of a
byte; the first argument counts the characters that belong to the escape before. -/
def unescape (width : Nat) : Nat → List Char → List Char
  | _, [] => []
  | skip + 1, _ :: rest => unescape width skip rest
  | 0, '\\' :: rest =>
      let digits := (rest.take width).takeWhile isOctal
      if digits = [] then
        match rest with
        | [] => ['\\']
        | c :: _ =>
            match escapeOf? c with
            | some d => d :: unescape width 1 rest
            | none => '\\' :: unescape width 0 rest
      else Char.ofNat (octalValue digits % 256) :: unescape width digits.length rest
  | 0, c :: rest => c :: unescape width 0 rest

/-- Put arguments in the places of conversions: the text, and the arguments left. -/
def convert : List Char → List (List Char) → List Char × List (List Char)
  | [], arguments => ([], arguments)
  | '%' :: '%' :: rest, arguments =>
      let (text, left) := convert rest arguments
      ('%' :: text, left)
  | '%' :: c :: rest, arguments =>
      if c = 's' ∨ c = 'd' ∨ c = 'i' ∨ c = 'b' then
        let missing := if c = 'd' ∨ c = 'i' then ['0'] else []
        let (text, left) := convert rest arguments.tail
        (arguments.head?.getD missing ++ text, left)
      else
        let (text, left) := convert rest arguments
        ('%' :: c :: text, left)
  | c :: rest, arguments =>
      let (text, left) := convert rest arguments
      (c :: text, left)

/-- Use a format again and again until no argument is left. -/
def format (template : List Char) : Nat → List (List Char) → List Char
  | 0, _ => []
  | bound + 1, arguments =>
      let (text, left) := convert template arguments
      if left = [] ∨ left.length = arguments.length then text
      else text ++ format template bound left

/-- The names of signals. -/
def signalNames : List (String × Nat) :=
  [("HUP", 1), ("INT", 2), ("QUIT", 3), ("ABRT", 6), ("KILL", 9), ("USR1", 10), ("SEGV", 11),
    ("USR2", 12), ("PIPE", 13), ("ALRM", 14), ("TERM", 15)]

/-- The signal that a word names. -/
def signal? (word : List Char) : Option Nat :=
  let text := String.ofList word
  text.toNat?.orElse fun _ => signalNames.lookup text

/-- The duration that a word gives in seconds, in microseconds. -/
def microseconds (word : List Char) : Nat :=
  let whole := word.takeWhile (· ≠ '.')
  let fraction := ((word.dropWhile (· ≠ '.')).drop 1).take 6
  let padded := fraction ++ List.replicate (6 - fraction.length) '0'
  (String.ofList whole).toNat?.getD 0 * 1000000 + (String.ofList padded).toNat?.getD 0

/-- The sum of some durations. -/
def total (durations : List Nat) : Nat :=
  durations.foldl (· + ·) 0

/-- What a command comes to: its status, what it writes, how long it takes, and how
the shell ends if it does. -/
structure Effect where
  status : Nat
  output : List Char := []
  errors : List Char := []
  duration : Nat := 0
  ended : Option Int := none

/-- The files of some paths, one after the other. -/
def concatenate (call : Call) : List (List Char) → Effect
  | [] => { status := 0 }
  | path :: paths =>
      let rest := concatenate call paths
      match call.read (textOf path) with
      | .ok bytes =>
          { rest with output := bytes.map (fun byte => Char.ofNat byte.toNat) ++ rest.output }
      | .error fault =>
          { rest with
            status := 1
            errors :=
              charsOf "cat: " ++ path ++ charsOf (": " ++ fault.reason ++ "\n") ++ rest.errors }

/-- End another process or the shell itself. -/
def kill : List (List Char) → Effect
  | [['-', 's'], name, number] =>
      if number = ownNumber then
        match signal? name with
        | some signal => { status := 0, ended := some (-(signal : Int)) }
        | none => { status := 1 }
      else { status := 1 }
  | ['-' :: name, number] =>
      if number = ownNumber then
        match signal? name with
        | some 0 => { status := 0 }
        | some signal => { status := 0, ended := some (-(signal : Int)) }
        | none => { status := 1 }
      else { status := 1 }
  | [number] => if number = ownNumber then { status := 0, ended := some (-15) } else { status := 1 }
  | _ => { status := 2 }

/-- Run a command by its name. -/
def command (state : State) (name : List Char) (arguments : List (List Char)) : Effect :=
  let line := fun (chars : List Char) => chars ++ ['\n']
  match String.ofList name with
  | ":" | "true" => { status := 0 }
  | "false" => { status := 1 }
  | "exit" =>
      let status := match arguments with
        | [] => state.status
        | word :: _ => (String.ofList word).toNat?.getD 2 % 256
      { status, ended := some status }
  | "echo" =>
      let (words, finish) := match arguments with
        | ['-', 'n'] :: words => (words, id)
        | words => (words, line)
      { status := 0, output := finish (unescape 4 0 ([' '].intercalate words)) }
  | "printf" =>
      match arguments with
      | [] => { status := 2 }
      | template :: words =>
          { status := 0, output := format (unescape 3 0 template) (words.length + 1) words }
  | "kill" => kill arguments
  | "pwd" => { status := 0, output := line (charsOf state.call.directory) }
  | "cat" => concatenate state.call arguments
  | "sleep" => { status := 0, duration := total (arguments.map microseconds) }
  | _ =>
      { status := 127
        errors := state.positional.head?.getD [] ++ charsOf ": 1: " ++ name
          ++ charsOf ": not found\n" }

/-- Where the two streams of a command go, after its redirections. -/
def streams (redirections : List (Nat × Target)) : Nat → Target :=
  redirections.foldl
    (fun target redirection stream =>
      if stream = redirection.1 then
        match redirection.2 with
        | .nowhere => .nowhere
        | .stream number => target number
      else target stream)
    .stream

/-- What goes to a stream from the output and the errors of a command. -/
def gather (target : Nat → Target) (stream : Nat) (effect : Effect) : List Char :=
  (if target 1 = .stream stream then effect.output else [])
    ++ (if target 2 = .stream stream then effect.errors else [])

/-- The name and the value of a word that sets a variable. -/
def assignment? (word : List Char) : Option (List Char × List Char) :=
  let name := word.takeWhile Reader.isNameChar
  match word.drop name.length with
  | '=' :: value => if name ≠ [] ∧ !(name.headD '0').isDigit then some (name, value) else none
  | _ => none

/-- Whether a command runs after a status. -/
def Condition.holds (condition : Condition) (status : Nat) : Bool :=
  match condition with
  | .always => true
  | .success => status = 0
  | .failure => status ≠ 0

/-- Run one command of a script. -/
def step (state : State) (next : Script.Command) : State :=
  if state.ended.isSome ∨ next.words = [] ∨ !Condition.holds next.condition state.status then state
  else
    match next.words.flatMap (fieldsOf state) with
    | [] => { state with status := 0 }
    | name :: arguments =>
        match assignment? name with
        | some (variableName, value) =>
            { state with
              status := 0
              environment := state.environment.set (textOf variableName) (textOf value) }
        | none =>
            let effect := command state name arguments
            let target := streams next.redirections
            { state with
              status := effect.status
              output := state.output ++ gather target 1 effect
              errors := state.errors ++ gather target 2 effect
              duration := state.duration + effect.duration
              ended := effect.ended }

/-- Run a script with its name and its arguments. -/
def runScript (call : Call) (script : List Char) (positional : List (List Char)) : Outcome :=
  match commands? script with
  | none =>
      let text :=
        positional.head?.getD [] ++ charsOf ": 1: Syntax error: Unterminated quoted string\n"
      { code := 2, output := [], errors := bytesOf text, duration := 0 }
  | some commands =>
      let state := commands.foldl step ⟨call, positional, call.environment, 0, [], [], 0, none⟩
      { code := state.ended.getD state.status
        output := bytesOf state.output
        errors := bytesOf state.errors
        duration := state.duration }

/-- The shell as a program: it runs the script that follows `-c`, or a script file. -/
def run : Program := fun call =>
  let refuse := fun (code : Nat) (text : String) =>
    ({ code, output := [], errors := Text.encode text.toList, duration := 0 } : Outcome)
  match call.arguments with
  | [] => { code := 0, output := [], errors := [], duration := 0 }
  | "-c" :: script :: names =>
      runScript call (charsOf script)
        (if names = [] then [charsOf call.name] else names.map charsOf)
  | path :: arguments =>
      if path.toList.head? = some '-' then
        refuse 2 (call.name ++ ": 0: Illegal option " ++ String.ofList (path.toList.take 2) ++ "\n")
      else
        match call.read path with
        | .ok bytes =>
            runScript call (bytes.map fun byte => Char.ofNat byte.toNat)
              ((path :: arguments).map charsOf)
        | .error _ => refuse 2 (call.name ++ ": 0: cannot open " ++ path ++ ": No such file\n")

end LintBridge.Shell
