import LintBridge.Proofs.Host.Lint
import LintBridge.Proofs.Text.Lines

/-!
# The environment of a command

The analyzer gets the environment that its linter has, with two variables set. One of them
is a list of paths in which an empty path would mean the directory to work in, so an empty
part must not leave a separator behind.
-/

namespace LintBridge

namespace Environment

variable {name value : String}

theorem mem_names_setEntry_iff (other : String) (entries : List (String × String)) :
    other ∈ (setEntry name value entries).map (·.1) ↔
      other = name ∨ other ∈ entries.map (·.1) := by
  induction entries with
  | nil => simp [setEntry]
  | cons entry entries ih =>
      rw [setEntry]
      split
      · rename_i same
        simp [same]
      · rw [List.map_cons, List.mem_cons, ih, List.map_cons, List.mem_cons, or_left_comm]

theorem mem_names_set_iff (environment : Environment) (other : String) :
    other ∈ (environment.set name value).names ↔ other = name ∨ other ∈ environment.names :=
  mem_names_setEntry_iff other environment.entries

end Environment

/-! ## Lists of paths -/

/-- The paths of a list of paths, which has colons between them. Where there is nothing at
all there is no path. -/
def pathsIn (list : String) : List (List Char) :=
  if list = "" then [] else Text.splitAtChar ':' list.toList

theorem pathsIn_append {left right : String} (someLeft : left ≠ "") (someRight : right ≠ "") :
    pathsIn (left ++ ":" ++ right) = pathsIn left ++ pathsIn right := by
  have some : left ++ ":" ++ right ≠ "" := by simp
  have colon : ":".toList = [':'] := rfl
  rw [pathsIn, pathsIn, pathsIn, if_neg some, if_neg someLeft, if_neg someRight,
    String.toList_append, String.toList_append, colon, List.append_assoc, List.singleton_append,
    Text.splitAtChar_append]

theorem pathsIn_eq_nil_iff (list : String) : pathsIn list = [] ↔ list = "" := by
  rw [pathsIn]
  split
  · simp [*]
  · simp [*, Text.splitAtChar_ne_nil]

/-- A list of paths that is put together has the paths of its parts, if no part is empty. -/
theorem pathsIn_intercalate {parts : List String} (some : ∀ part ∈ parts, part ≠ "") :
    pathsIn (":".intercalate parts) = parts.flatMap pathsIn := by
  induction parts with
  | nil => rfl
  | cons part parts ih =>
      rw [List.forall_mem_cons] at some
      have paths := ih some.2
      cases parts with
      | nil => simp
      | cons next parts =>
          have there : ":".intercalate (next :: parts) ≠ "" := by
            rw [Ne, ← pathsIn_eq_nil_iff, paths, List.flatMap_cons, List.append_eq_nil_iff,
              pathsIn_eq_nil_iff]
            exact fun empty => some.2 next List.mem_cons_self empty.1
          rw [String.intercalate_cons_cons, pathsIn_append some.1 there, paths,
            ← List.flatMap_cons]

theorem flatMap_pathsIn_filter (parts : List String) :
    (parts.filter (! ·.isEmpty)).flatMap pathsIn = parts.flatMap pathsIn := by
  induction parts with
  | nil => rfl
  | cons part parts ih =>
      rw [List.filter_cons]
      split
      · rw [List.flatMap_cons, List.flatMap_cons, ih]
      · rename_i empty
        have none : part = "" := by simpa using empty
        rw [List.flatMap_cons, ih, (pathsIn_eq_nil_iff part).mpr none, List.nil_append]

namespace Command

section

variable (base : Environment) (directories : Directories) (pythonPath : String)

theorem get?_modulePath_environmentFor :
    (environmentFor base directories pythonPath).get? modulePath =
      some (":".intercalate (moduleDirectories base directories pythonPath)) := by
  rw [environmentFor, Environment.get?_set, if_neg (by decide), Environment.get?_set, if_pos rfl]

theorem get?_environmentFor_of_ne {name : String} (notPath : name ≠ modulePath)
    (notLanguage : name ≠ language) :
    (environmentFor base directories pythonPath).get? name = base.get? name := by
  rw [environmentFor, Environment.get?_set, if_neg notLanguage, Environment.get?_set,
    if_neg notPath]

theorem mem_names_environmentFor_iff (name : String) :
    name ∈ (environmentFor base directories pythonPath).names ↔
      name = modulePath ∨ name = language ∨ name ∈ base.names := by
  rw [environmentFor, Environment.mem_names_set_iff, Environment.mem_names_set_iff, or_left_comm]

/-- The directories that modules are looked for in come from four places, in this order. -/
theorem pathsIn_moduleDirectories :
    pathsIn (":".intercalate (moduleDirectories base directories pythonPath)) =
      pathsIn ((base.get? modulePath).getD "") ++ pathsIn directories.file ++
        pathsIn directories.project ++ pathsIn (directories.substitute pythonPath) := by
  rw [pathsIn_intercalate, moduleDirectories, flatMap_pathsIn_filter]
  · simp only [List.flatMap_cons, List.flatMap_nil, List.append_nil, List.append_assoc]
  · intro part member
    simpa using (List.mem_filter.mp member).2

end

/-- Making the command for a file leaves alone the environments that it may be made from. -/
theorem environments_of_commandFor {host after : Host} {linter : Linter} {path : String}
    {command : Command}
    (made : host.perform (Host.commandFor linter path) = (.ok command, after)) :
    (∃ project settings, command =
      forFile path project settings (linter.environment?.getD host.environment)) ∧
      after.environment = host.environment ∧ after.linters = host.linters := by
  rw [Host.commandFor, Host.perform_bind] at made
  rcases Host.useStore_cases host linter.store with ⟨store, there, used⟩ | ⟨failed, -⟩
  · rw [used] at made
    cases made
    exact ⟨⟨_, _, rfl⟩, rfl, rfl⟩
  · rw [failed] at made
    cases made

/-- The environment of a command is the one that it is made from, in which two variables
are set and nothing else is changed or added. In one of them are the directories that
modules are looked for in: those that were there, the directory of the file, that of the
project, and those that are set. Any of these may be a list, and one that is empty adds
nothing. The environment that the command is made from stays as it is. -/
theorem environment_with_two_changes (base : Environment) (directories : Directories)
    (pythonPath : String) :
    let environment := environmentFor base directories pythonPath
    let before := (base.get? modulePath).getD ""
    let given := directories.substitute pythonPath
    (∀ name, name ≠ modulePath → name ≠ language → environment.get? name = base.get? name) ∧
      (∀ name, name ∈ environment.names ↔
        name = modulePath ∨ name = language ∨ name ∈ base.names) ∧
      (∃ value, environment.get? modulePath = some value ∧
        pathsIn value = pathsIn before ++ pathsIn directories.file ++
          pathsIn directories.project ++ pathsIn given ∧
        ([] ∈ pathsIn value ↔ [] ∈ pathsIn before ∨ [] ∈ pathsIn directories.file ∨
          [] ∈ pathsIn directories.project ∨ [] ∈ pathsIn given) ∧
        (value = "" ↔ before = "" ∧ directories.file = "" ∧ directories.project = "" ∧
          given = "")) ∧
      ∀ (host after : Host) (linter : Linter) (path : String) (command : Command),
        linter.environment?.getD host.environment = base →
        host.perform (Host.commandFor linter path) = (.ok command, after) →
        (∃ project settings, command = forFile path project settings base) ∧
          after.environment = host.environment ∧ after.linters = host.linters := by
  intro environment before given
  have paths := pathsIn_moduleDirectories base directories pythonPath
  refine ⟨fun name => get?_environmentFor_of_ne base directories pythonPath,
    mem_names_environmentFor_iff base directories pythonPath,
    ⟨_, get?_modulePath_environmentFor base directories pythonPath, paths, ?_, ?_⟩, ?_⟩
  · rw [paths]
    simp only [List.mem_append, or_assoc]
    rfl
  · rw [← pathsIn_eq_nil_iff, paths]
    simp only [List.append_eq_nil_iff, pathsIn_eq_nil_iff, and_assoc]
    rfl
  · rintro host after linter path command rfl made
    exact environments_of_commandFor made

end Command

end LintBridge
