/-!
# Templates

A template is a text with placeholders: a percent sign followed by a letter.
-/

namespace LintBridge.Text

/-- Put a value in the place of every placeholder of one letter. The value
itself is not looked into. -/
def fill (letter : Char) (value : List Char) : List Char → List Char
  | [] => []
  | [c] => [c]
  | c :: d :: rest =>
      if c = '%' ∧ d = letter then value ++ fill letter value rest
      else c :: fill letter value (d :: rest)

/-- Put values in the places of several placeholders in one pass from left to right. -/
def fillAll (value? : Char → Option (List Char)) : List Char → List Char
  | [] => []
  | [c] => [c]
  | c :: d :: rest =>
      match (if c = '%' then value? d else none) with
      | some value => value ++ fillAll value? rest
      | none => c :: fillAll value? (d :: rest)

/-- Whether a placeholder occurs in a template. -/
def hasPlaceholder (letter : Char) : List Char → Bool
  | [] => false
  | [_] => false
  | c :: d :: rest => (c = '%' && d = letter) || hasPlaceholder letter (d :: rest)

/-- `fill` on strings. -/
def fillString (letter : Char) (value template : String) : String :=
  String.ofList (fill letter value.toList template.toList)

end LintBridge.Text
