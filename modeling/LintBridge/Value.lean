import LintBridge.Decimal.Shortest
import LintBridge.Text.Quoted

/-!
# Values

What a user may offer as the value of a setting, and its written form in messages.
-/

namespace LintBridge

/-- A value of any kind. Only texts are values that settings can have. -/
inductive Value where
  | absent
  | truth (value : Bool)
  | integer (value : Int)
  | decimal (negative : Bool) (value : Decimal)
  | text (value : String)
  | list (items : List Value)
  | table (entries : List (String × Value))
  deriving Inhabited

namespace Value

mutual

/-- The written form of a value. -/
def shown : Value → String
  | absent => "None"
  | truth true => "True"
  | truth false => "False"
  | integer value => toString value
  | decimal negative value => (if negative then "-" else "") ++ value.text
  | text value => Text.quoted value
  | list items => "[" ++ shownItems items ++ "]"
  | table entries => "\x7b" ++ shownEntries entries ++ "\x7d"

/-- The written forms of some values, with commas between them. -/
def shownItems : List Value → String
  | [] => ""
  | [item] => item.shown
  | item :: items => item.shown ++ ", " ++ shownItems items

/-- The written forms of some entries of a table, with commas between them. -/
def shownEntries : List (String × Value) → String
  | [] => ""
  | [(key, value)] => Text.quoted key ++ ": " ++ value.shown
  | (key, value) :: entries =>
      Text.quoted key ++ ": " ++ value.shown ++ ", " ++ shownEntries entries

end

end Value

end LintBridge
