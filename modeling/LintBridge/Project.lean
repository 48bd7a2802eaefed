import LintBridge.Path

/-!
# Projects

The directories that are open as project roots. A file belongs to the deepest root
that contains it.
-/

namespace LintBridge

/-- A project, with the normal paths of its roots in the order in which they were added. -/
structure Project where
  roots : List String
  deriving DecidableEq, Repr

namespace Project

/-- A project with some roots, whose paths are seen from a directory. -/
def ofRoots (directory : String) (paths : List String) : Project :=
  ⟨paths.map (Path.absolute directory)⟩

/-- Add a root. -/
def addRoot (project : Project) (directory path : String) : Project :=
  ⟨project.roots ++ [Path.absolute directory path]⟩

/-- Whether a root contains a path, both being normal: the path is the root itself,
or goes on with a slash after it. -/
def contains (root path : List Char) : Bool :=
  path = root || ((root.reverse.dropWhile (· = '/')).reverse ++ ['/']).isPrefixOf path

/-- The longest of some texts, the first one if there are several. -/
def longest? : List String → Option String
  | [] => none
  | text :: texts =>
      match longest? texts with
      | none => some text
      | some other => some (if text.length < other.length then other else text)

/-- The deepest root that contains a normal path. -/
def rootOf? (project : Project) (path : String) : Option String :=
  longest? (project.roots.filter fun root => contains root.toList path.toList)

/-- The deepest root that contains a path, and the path as seen from there. Without
such a root it is the normal path. -/
def split (project : Project) (directory path : String) : Option String × String :=
  let path := Path.absolute directory path
  match project.rootOf? path with
  | none => (none, path)
  | some root => (some root, Path.relative path root)

/-- The directory that a file's project is in: the deepest root that contains the
file, or the directory of the file. -/
def directoryOf (project? : Option Project) (directory path : String) : String :=
  match project?.bind fun project => (project.split directory path).1 with
  | some root => root
  | none => Path.parent path

end Project

end LintBridge
