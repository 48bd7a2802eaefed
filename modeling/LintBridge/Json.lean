import LintBridge.Diagnostic
import LintBridge.Text.Quoted

/-!
# JSON

Diagnostics as a JSON document of ASCII characters, one value a line.
-/

namespace LintBridge

/-- A JSON value. -/
inductive Json where
  | null
  | number (value : Int)
  | text (value : String)
  | list (items : List Json)
  | record (fields : List (String × Json))

namespace Json

/-- A 16-bit unit as an escape. -/
def unitEscape (unit : Nat) : List Char :=
  '\\' :: 'u' :: Text.hexDigits 4 unit

/-- A character of a text; beyond ASCII it is written as one or two 16-bit units. -/
def escapeChar (c : Char) : List Char :=
  let code := c.toNat
  if c = '"' ∨ c = '\\' then ['\\', c]
  else if c = '\n' then ['\\', 'n']
  else if c = '\r' then ['\\', 'r']
  else if c = '\t' then ['\\', 't']
  else if c = '\x08' then ['\\', 'b']
  else if c = '\x0c' then ['\\', 'f']
  else if 0x20 ≤ code ∧ code ≤ 0x7E then [c]
  else if code < 0x10000 then unitEscape code
  else
    let rest := code - 0x10000
    unitEscape (0xD800 + rest / 0x400) ++ unitEscape (0xDC00 + rest % 0x400)

/-- A text between quotes. -/
def quote (text : String) : String :=
  String.ofList ('"' :: text.toList.flatMap escapeChar ++ ['"'])

/-- The beginning of a line at some depth. -/
def newLine (depth : Nat) : String :=
  String.ofList ('\n' :: List.replicate (2 * depth) ' ')

mutual

/-- A value as it stands at some depth. -/
def render (depth : Nat) : Json → String
  | null => "null"
  | number value => toString value
  | text value => quote value
  | list [] => "[]"
  | list items => "[" ++ renderItems (depth + 1) items ++ newLine depth ++ "]"
  | record [] => "\x7b\x7d"
  | record fields => "\x7b" ++ renderFields (depth + 1) fields ++ newLine depth ++ "\x7d"

/-- The items of a list, each on a line of its own. -/
def renderItems (depth : Nat) : List Json → String
  | [] => ""
  | [item] => newLine depth ++ item.render depth
  | item :: items => newLine depth ++ item.render depth ++ "," ++ renderItems depth items

/-- The fields of a record, each on a line of its own. -/
def renderFields (depth : Nat) : List (String × Json) → String
  | [] => ""
  | [(name, value)] => newLine depth ++ quote name ++ ": " ++ value.render depth
  | (name, value) :: fields =>
      newLine depth ++ quote name ++ ": " ++ value.render depth ++ "," ++ renderFields depth fields

end

/-- A number that may be unknown. -/
def ofNumber : Option Int → Json
  | none => null
  | some value => number value

/-- A text that may be unknown. -/
def ofText : Option String → Json
  | none => null
  | some value => text value

/-- A position as a list of its line and its column. -/
def ofPosition (position : Position) : Json :=
  list [ofNumber position.line, number position.column]

/-- A diagnostic as a record. -/
def ofDiagnostic (diagnostic : Diagnostic) : Json :=
  record [
    ("severity", ofText diagnostic.severity),
    ("message", ofText diagnostic.message),
    ("file_path", ofText diagnostic.filePath),
    ("range", list [ofPosition diagnostic.range.start, ofPosition diagnostic.range.stop]),
    ("rule_id", ofText diagnostic.ruleId)]

end Json

end LintBridge
