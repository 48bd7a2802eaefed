import LintBridge.Settings.Archive
import LintBridge.Text.Lines

/-!
# Records of settings

The values that are set in a directory, as text: a line for each, with the key, an
equals sign and the value. A value is kept on its line by escapes, which reading undoes.
-/

namespace LintBridge.Settings

/-- A value on a single line: a backslash is written twice, and a line feed as a
backslash and a letter. -/
def encodeLine : List Char → List Char
  | [] => []
  | c :: rest =>
      if c = '\n' then '\\' :: 'n' :: encodeLine rest
      else if c = '\\' then '\\' :: '\\' :: encodeLine rest
      else c :: encodeLine rest

/-- The value that a line holds. -/
def decodeLine : List Char → List Char
  | [] => []
  | '\\' :: 'n' :: rest => '\n' :: decodeLine rest
  | '\\' :: c :: rest => c :: decodeLine rest
  | c :: rest => c :: decodeLine rest

/-- The record of a directory. -/
def record (archive : Archive) (directory : String) : String :=
  String.join (Setting.all.map fun setting =>
    match archive.get? directory setting with
    | none => ""
    | some value => setting.key ++ "=" ++ String.ofList (encodeLine value.toList) ++ "\n")

/-- The setting and the value of a line. -/
def readLine? (line : List Char) : Option (Setting × String) :=
  let key := line.takeWhile (· ≠ '=')
  (Setting.ofKey? (String.ofList key)).map fun setting =>
    (setting, String.ofList (decodeLine (line.drop (key.length + 1))))

/-- An archive with the values of a directory that a record holds. -/
def restore (archive : Archive) (directory text : String) : Archive :=
  ((Text.splitAtChar '\n' text.toList).filterMap readLine?).foldl
    (fun archive entry => archive.set directory entry.1 entry.2) archive

end LintBridge.Settings
