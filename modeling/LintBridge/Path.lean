import LintBridge.Text.Lines

/-!
# Paths

A path is a text; what it means is read off its slashes and the names between
them. A path that begins with exactly two slashes is not the same as one that
begins with one; three or more are the same as one.
-/

namespace LintBridge

/-- A path taken apart: how many slashes it begins with, and its names. -/
structure Path where
  slashes : Nat
  names : List (List Char)
  deriving DecidableEq, Repr

namespace Path

/-- The name of a directory in itself. -/
def here : List Char := ['.']

/-- The name of the directory above. -/
def above : List Char := ['.', '.']

/-- The number of slashes that a path begins with, as far as it makes a difference. -/
def leadingSlashes : List Char → Nat
  | '/' :: '/' :: '/' :: _ => 1
  | '/' :: '/' :: _ => 2
  | '/' :: _ => 1
  | _ => 0

/-- Put one more name after the names before it, the last of which comes first.
There is nothing above the top of a path that begins with a slash. -/
def follow (rooted : Bool) (before : List (List Char)) (name : List Char) : List (List Char) :=
  if name = [] ∨ name = here then before
  else if name = above then
    match before with
    | [] => if rooted then [] else [above]
    | last :: rest => if last = above then above :: before else rest
  else name :: before

/-- The names that remain when every step up has undone the step before it. -/
def settle (rooted : Bool) (names : List (List Char)) : List (List Char) :=
  (names.foldl (follow rooted) []).reverse

/-- Take a path apart. -/
def ofChars (text : List Char) : Path :=
  let slashes := leadingSlashes text
  ⟨slashes, settle (slashes ≠ 0) (Text.splitAtChar '/' text)⟩

/-- Put a path together again. -/
def toChars (path : Path) : List Char :=
  match List.replicate path.slashes '/' ++ Text.joinLines ['/'] path.names with
  | [] => here
  | text => text

/-- The names of a path that are not empty, in order. -/
def components (path : String) : List (List Char) :=
  (Text.splitAtChar '/' path.toList).filter (· ≠ [])

/-- The shortest path that leads the same way, if no link is followed. -/
def normal (path : String) : String :=
  String.ofList (ofChars path.toList).toChars

/-- Whether a path begins at the top. -/
def isAbsolute (path : String) : Bool :=
  path.toList.head? = some '/'

/-- A path seen from a directory. -/
def join (directory path : String) : String :=
  if isAbsolute path then path
  else if directory.isEmpty ∨ directory.toList.getLast? = some '/' then directory ++ path
  else directory ++ "/" ++ path

/-- The normal path from the top, for a path seen from a directory. -/
def absolute (directory path : String) : String :=
  normal (join directory path)

/-- The part of a text up to its last slash. -/
def throughLastSlash (text : List Char) : List Char :=
  (text.reverse.dropWhile (· ≠ '/')).reverse

/-- The directory part of a path; without slashes at its end, unless it has nothing else. -/
def parent (path : String) : String :=
  let front := throughLastSlash path.toList
  let trimmed := (front.reverse.dropWhile (· = '/')).reverse
  String.ofList (if trimmed = [] then front else trimmed)

/-- The last name of a path, which is empty after a slash. -/
def name (path : String) : String :=
  String.ofList (path.toList.reverse.takeWhile (· ≠ '/')).reverse

/-- Whether a list begins with another, and if so what follows. -/
def dropCommon : List (List Char) → List (List Char) → List (List Char) × List (List Char)
  | a :: as, b :: bs => if a = b then dropCommon as bs else (a :: as, b :: bs)
  | as, bs => (as, bs)

/-- The way from one absolute path to another. -/
def relative (path start : String) : String :=
  let (down, up) := dropCommon (components path) (components start)
  match up.map (fun _ => above) ++ down with
  | [] => String.ofList here
  | names => String.ofList (Text.joinLines ['/'] names)

/-- A path written without empty names and without steps to the same directory. -/
def tidy (path : String) : String :=
  let text := path.toList
  let names := (Text.splitAtChar '/' text).filter fun name => name ≠ [] ∧ name ≠ here
  String.ofList (toChars ⟨leadingSlashes text, names⟩)

/-- A path with a tilde at its front replaced by the home directory. -/
def expandHome (home path : String) : String :=
  match path.toList with
  | '~' :: rest =>
      if rest = [] ∨ rest.head? = some '/' then
        match (home.toList.reverse.dropWhile (· = '/')).reverse ++ rest with
        | [] => "/"
        | text => String.ofList text
      else path
  | _ => path

end Path

end LintBridge
