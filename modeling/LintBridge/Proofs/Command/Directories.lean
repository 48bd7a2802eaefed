import LintBridge.Command
import LintBridge.Proofs.Text.Template

/-!
# Directories in commands

The placeholders of a template for directories are filled one after the other, so the
directory of the file is looked through for the placeholder of the project. What comes
of it is what is meant, both directories put in at once, exactly if no placeholder
arises on the way or the project is the placeholder itself. A directory that is inert
never lets one arise, and any other one does so in some template.
-/

namespace LintBridge

namespace Directories

/-- What the placeholders for directories stand for. -/
def value? (directories : Directories) : Char → Option (List Char)
  | 'f' => some directories.file.toList
  | 'p' => some directories.project.toList
  | _ => none

/-- A template with both directories put in at once. No text that has been put in is
looked into. -/
def substituteAtOnce (directories : Directories) (template : String) : String :=
  String.ofList (Text.fillAll directories.value? template.toList)

/-- What the placeholder for the directory of the file stands for. -/
def fileValue? (directories : Directories) : Char → Option (List Char) :=
  Function.update (fun _ => none) 'f' (some directories.file.toList)

variable (directories : Directories)

theorem value?_eq :
    directories.value? =
      Function.update directories.fileValue? 'p' (some directories.project.toList) := by
  funext c
  by_cases project : c = 'p'
  · subst project
    rfl
  · by_cases file : c = 'f'
    · subst file
      rfl
    · rw [Function.update_of_ne project, fileValue?, Function.update_of_ne file, value?.eq_def]
      split <;> simp_all

theorem project_eq_iff : directories.project = "%p" ↔ directories.project.toList = ['%', 'p'] := by
  rw [← String.toList_inj]
  rfl

/-- The directories are put in one after the other as they are at once exactly if no
placeholder of the project arises from the directory of the file, or if the project is
that placeholder itself. -/
theorem substitute_eq_iff (template : String) :
    directories.substitute template = directories.substituteAtOnce template ↔
      directories.project = "%p" ∨
        Text.placeholderCount 'p' (Text.fill 'f' directories.file.toList template.toList) =
          Text.placeholderCount 'p' template.toList := by
  have file : Text.fill 'f' directories.file.toList template.toList =
      Text.fillAll directories.fileValue? template.toList :=
    Text.fill_eq_fillAll _
  rw [substitute, substituteAtOnce, Text.fillString, Text.fillString, String.ofList_inj,
    String.toList_ofList, file, value?_eq, project_eq_iff]
  exact Text.fill_fillAll_eq_iff (by decide) rfl rfl _

theorem forall_substitute_eq_iff :
    (∀ template, directories.substitute template = directories.substituteAtOnce template) ↔
      directories.project = "%p" ∨ Text.Inert 'p' directories.file.toList := by
  simp only [substitute_eq_iff]
  constructor
  · intro all
    -- Here the directory stands right between a percent sign and the letter.
    have between := all "%%fp"
    have filled : Text.fill 'f' directories.file.toList "%%fp".toList =
        '%' :: (directories.file.toList ++ ['p']) := by
      simp [Text.fill]
    rw [filled] at between
    rw [Text.inert_iff]
    exact between
  · intro given template
    cases given with
    | inl itself => exact Or.inl itself
    | inr inert =>
        right
        rw [Text.fill_eq_fillAll]
        apply Text.placeholderCount_fillAll (by decide) rfl rfl
        intro c value found
        by_cases file : c = 'f'
        · rw [file, Function.update_self] at found
          cases found
          exact inert
        · rw [Function.update_of_ne file] at found
          cases found

end Directories

namespace Command

/-- In a command every placeholder for a directory has become the directory: in the
directory to work in, in the option for a configuration file, and in the directories
that modules are looked for in. -/
structure IsExact (directories : Directories) (settings : Settings) (base : Environment)
    (command : Command) : Prop where
  directory : command.directory = directories.substituteAtOnce settings.workingDirectory
  configuration : command.arguments.drop 3 =
    if settings.rcFile.isEmpty then []
    else ["--rcfile=" ++ directories.substituteAtOnce settings.rcFile]
  modules : command.environment.get? modulePath = some (":".intercalate
    ([(base.get? modulePath).getD "", directories.file, directories.project,
      directories.substituteAtOnce settings.pythonPath].filter (! ·.isEmpty)))

theorem forFile_isExact_iff (path project : String) :
    (∀ settings base,
        (forFile path project settings base).IsExact ⟨Path.parent path, project⟩ settings base) ↔
      project = "%p" ∨ Text.Inert 'p' (Path.parent path).toList := by
  rw [← Directories.forall_substitute_eq_iff ⟨Path.parent path, project⟩]
  constructor
  · intro exact template
    exact (exact { Settings.defaults with workingDirectory := template } .empty).directory
  · intro same settings base
    constructor
    · exact same settings.workingDirectory
    · rw [← same settings.rcFile]
      rfl
    · rw [← same settings.pythonPath]
      exact (Environment.get?_set _ _ _ _).trans (Environment.get?_set _ _ _ _)

/-- The directories are put into a template one after the other as they are at once exactly
if no placeholder of the project arises from the directory of the file, or if the project
is that placeholder itself. So every template gets the exact directories just if nothing can
arise from the directory of the file, and then, and only then, every command does. -/
theorem substitution_exact_iff (directories : Directories) (path : String) :
    (∀ template,
      directories.substitute template = directories.substituteAtOnce template ↔
        directories.project = "%p" ∨
          Text.placeholderCount 'p' (Text.fill 'f' directories.file.toList template.toList) =
            Text.placeholderCount 'p' template.toList) ∧
      ((∀ template, directories.substitute template = directories.substituteAtOnce template) ↔
        directories.project = "%p" ∨ Text.Inert 'p' directories.file.toList) ∧
      ((∀ settings base, (forFile path directories.project settings base).IsExact
          ⟨Path.parent path, directories.project⟩ settings base) ↔
        directories.project = "%p" ∨ Text.Inert 'p' (Path.parent path).toList) :=
  ⟨directories.substitute_eq_iff, directories.forall_substitute_eq_iff,
    forFile_isExact_iff path directories.project⟩

/-- A directory whose name holds a placeholder is not what is put in. -/
theorem exists_substitution_inexact :
    let directories : Directories := ⟨"/work/100%pure", "/work"⟩
    let settings := { Settings.defaults with workingDirectory := "%f" }
    directories.substituteAtOnce "%f" = "/work/100%pure" ∧
      directories.substitute "%f" = "/work/100/workure" ∧
      (forFile "/work/100%pure/mod.py" "/work" settings .empty).directory =
        "/work/100/workure" := by
  decide +kernel

end Command

end LintBridge
