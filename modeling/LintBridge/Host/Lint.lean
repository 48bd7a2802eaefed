import LintBridge.Command
import LintBridge.ErrorOutput
import LintBridge.Extraction
import LintBridge.Host.Settings

/-!
# Linting

A lint writes the text of an editor to a temporary file, runs the analyzer on it, and
turns what the analyzer writes into diagnostics. The error output decides whether the
lint has failed; the code does not matter.
-/

namespace LintBridge

namespace Linter

/-- The name that a linter is shown by. -/
def name : String := "Pylint"

/-- The scopes that a linter is for. -/
def scopes : List String := [Syntax.pythonScope]

/-- What a linter looks at at once. -/
def extent : String := "file"

/-- Whether a linter runs while a text is being edited. -/
def onTheFly : Bool := true

/-- What an execution of the analyzer means for an editor: a complaint, or diagnostics. -/
def judge (parse : Editor.Parser) (editor : Editor) (execution : Execution) :
    Except Fault Extraction :=
  let complaint := ErrorOutput.genuine ErrorOutput.harmless execution.errors
  if complaint.isEmpty then
    match Extraction.run parse Issue.linePattern (some editor.path) Extraction.undisturbed editor
        execution.output with
    | .ok extraction => .ok extraction
    | .error names => .error (.missingGroups names)
  else .error (.tool (.invocation complaint))

end Linter

namespace Host

/-- The project that a linter belongs to. -/
def projectOf (host : Host) (linter : Linter) : Option Project :=
  linter.project?.bind (host.projects[·]?)

/-- How a linter calls the analyzer for a file, without the file to analyze. -/
def commandFor (linter : Linter) (path : String) : Action Command := do
  let store ← useStore linter.store
  let host ← get
  let project := Project.directoryOf (host.projectOf linter) host.directory path
  return .forFile path project (store.snapshot host.exchange.archive)
    (linter.environment?.getD host.environment)

/-- Extract the diagnostics of an editor from an execution of the analyzer. -/
def collect (number : Nat) (editor : Editor) (execution : Execution) :
    Action (List Diagnostic) := do
  match Linter.judge Syntax.parseRows editor execution with
  | .error fault => throw fault
  | .ok extraction =>
      noteAll extraction.log
      modify fun host => { host with editors := host.editors.set number extraction.editor }
      return extraction.diagnostics

/-- Lint the text of an editor. -/
def lint (linter : Linter) (number : Nat) (editor : Editor) : Action (List Diagnostic) := do
  let command ← commandFor linter editor.path
  let diagnostics ← withTemporaryFile (Path.name editor.path) editor.buffer.text fun path => do
    let call := command.withTarget path
    match ← execute call.executable call.arguments (some call.environment) (some call.directory)
        none with
    | none => return []
    | some execution => collect number editor execution
  note .debug s!"{diagnostics.length} diagnostics for {editor.path}"
  return diagnostics

end Host

end LintBridge
