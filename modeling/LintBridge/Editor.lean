import LintBridge.Range

/-!
# Editors

An open file: its path, its buffer, and the syntax tree of the buffer as it was
when the tree was last asked for. The tree is kept together with the version of
the buffer that it belongs to.
-/

namespace LintBridge

/-- An open file. -/
structure Editor where
  path : String
  buffer : Buffer
  tree? : Option (Nat × Syntax.Tree)

namespace Editor

/-- An editor as it is opened. -/
def ofText (path text : String) : Editor :=
  ⟨path, .ofText text, none⟩

/-- Replace the text. -/
def setText (editor : Editor) (text : String) : Editor :=
  { editor with buffer := editor.buffer.setText text }

/-- Endings of the names of Python files. -/
def pythonExtensions : List String := [".py", ".pyi"]

/-- The scope of the text, as far as the name of the file tells. -/
def scope? (editor : Editor) : Option String :=
  if pythonExtensions.any (·.toList.isSuffixOf editor.path.toList) then some Syntax.pythonScope
  else none

/-- Turns rows into a syntax tree. -/
abbrev Parser := List Line → Syntax.Tree

/-- The syntax tree of the buffer, which is parsed again after a change. -/
def syntaxTree (parse : Parser) (editor : Editor) : Syntax.Tree × Editor :=
  let fresh := fun (_ : Unit) =>
    let tree := parse editor.buffer.lines
    (tree, { editor with tree? := some (editor.buffer.version, tree) })
  match editor.tree? with
  | none => fresh ()
  | some (version, tree) => if version = editor.buffer.version then (tree, editor) else fresh ()

/-- The range that a point of the buffer expands to. -/
def rangeAt (parse : Parser) (editor : Editor) (line : Option Int) (column : Option Int) :
    Except RangeFault Range × Editor :=
  match anchorAt editor.buffer.lines line column with
  | .error fault => (.error fault, editor)
  | .ok (.span range) => (.ok range, editor)
  | .ok anchor =>
      let (tree, editor) := editor.syntaxTree parse
      (.ok (anchor.range tree), editor)

/-- Whether the kept tree, if it is of the current version, is the tree of the
current rows. -/
def Fresh (parse : Parser) (editor : Editor) : Prop :=
  ∀ version tree, editor.tree? = some (version, tree) →
    version ≤ editor.buffer.version ∧
      (version = editor.buffer.version → tree = parse editor.buffer.lines)

end Editor

end LintBridge
