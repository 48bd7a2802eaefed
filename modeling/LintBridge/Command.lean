import LintBridge.Environment
import LintBridge.Path
import LintBridge.Settings.Basic
import LintBridge.Text.Template

/-!
# Commands

How the analyzer is called: which program, with which arguments, where, and in
which environment. Settings are templates in which `%f` stands for the directory
of the file and `%p` for the directory of the project.
-/

namespace LintBridge

/-- The directories that templates speak of. -/
structure Directories where
  file : String
  project : String
  deriving DecidableEq, Repr

/-- A template with the directory of the file put in, and then that of the project. -/
def Directories.substitute (directories : Directories) (template : String) : String :=
  Text.fillString 'p' directories.project (Text.fillString 'f' directories.file template)

/-- A call of a program. -/
structure Command where
  executable : String
  arguments : List String
  directory : String
  environment : Environment
  deriving DecidableEq, Repr

namespace Command

/-- The fields of a message, with the letters of their placeholders. -/
def messageFields : List (Char × String) :=
  [('m', "msg"), ('i', "msg_id"), ('s', "symbol")]

/-- The written form of a field of the analyzer's own templates. -/
def fieldReference (name : String) : String :=
  "\x7b" ++ name ++ "\x7d"

/-- A message format in the form that the analyzer reads. -/
def messageFormat (format : String) : String :=
  messageFields.foldl
    (fun format field => Text.fillString field.1 (fieldReference field.2) format) format

/-- The fields that stand in front of the message on every line of a report. -/
def leadingFields : List String :=
  ["line", "column", "category", "msg_id"]

/-- The template of a report line, in single quotes. -/
def lineTemplate (format : String) : String :=
  "'" ++ ",".intercalate (leadingFields.map fieldReference) ++ ":" ++ messageFormat format ++ "'"

/-- The arguments of the analyzer, without the file to analyze. -/
def argumentsFor (settings : Settings) (directories : Directories) : List String :=
  ["--msg-template=" ++ lineTemplate settings.messageFormat, "--reports=n", "--output-format=text"]
    ++ if settings.rcFile.isEmpty then []
      else ["--rcfile=" ++ directories.substitute settings.rcFile]

/-- The variable with the directories that modules are looked for in. -/
def modulePath : String := "PYTHONPATH"

/-- The variable with the language of messages. -/
def language : String := "LANG"

/-- The language that messages are asked for in. -/
def pinnedLanguage : String := "en_US.UTF-8"

/-- The directories that modules are looked for in: those of the base environment,
of the file, of the project, and those that are set. Empty ones are left out. -/
def moduleDirectories (base : Environment) (directories : Directories) (pythonPath : String) :
    List String :=
  [(base.get? modulePath).getD "", directories.file, directories.project,
    directories.substitute pythonPath].filter (! ·.isEmpty)

/-- The environment of the analyzer. -/
def environmentFor (base : Environment) (directories : Directories) (pythonPath : String) :
    Environment :=
  (base.set modulePath (":".intercalate (moduleDirectories base directories pythonPath))).set
    language pinnedLanguage

/-- The call of the analyzer for a file, without the file to analyze. -/
def forFile (path project : String) (settings : Settings) (base : Environment) : Command :=
  let directories : Directories := ⟨Path.parent path, project⟩
  { executable := Text.fillString 'p' project settings.executable
    arguments := argumentsFor settings directories
    directory := directories.substitute settings.workingDirectory
    environment := environmentFor base directories settings.pythonPath }

/-- The call with the file to analyze. -/
def withTarget (command : Command) (path : String) : Command :=
  { command with arguments := command.arguments ++ [path] }

end Command

end LintBridge
