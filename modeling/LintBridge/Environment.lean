/-!
# Environments

The variables that a process starts with, in the order in which they were set.
-/

namespace LintBridge

/-- Variables with their values. The first entry of a name counts. -/
structure Environment where
  entries : List (String × String)
  deriving DecidableEq, Repr

namespace Environment

/-- No variable at all. -/
def empty : Environment := ⟨[]⟩

/-- The value of a variable. -/
def get? (environment : Environment) (name : String) : Option String :=
  environment.entries.lookup name

/-- The names of the variables. -/
def names (environment : Environment) : List String :=
  environment.entries.map (·.1)

/-- Give the first entry of a name another value, or add an entry. -/
def setEntry (name value : String) : List (String × String) → List (String × String)
  | [] => [(name, value)]
  | entry :: entries =>
      if entry.1 = name then (name, value) :: entries else entry :: setEntry name value entries

/-- Set a variable. -/
def set (environment : Environment) (name value : String) : Environment :=
  ⟨setEntry name value environment.entries⟩

/-- Set several variables, one after the other. -/
def update (environment : Environment) (entries : List (String × String)) : Environment :=
  entries.foldl (fun environment entry => environment.set entry.1 entry.2) environment

/-- Characters of the names of variables in a text. -/
def isNameChar (c : Char) : Bool :=
  c.isAlphanum || c = '_'

/-- The reference to a variable that a text begins with, after its dollar sign: the
name, and the number of characters it takes. -/
def reference? (text : List Char) : Option (List Char × Nat) :=
  match text with
  | '\x7b' :: rest =>
      let name := rest.takeWhile (· ≠ '\x7d')
      if name.length < rest.length then some (name, name.length + 2) else none
  | _ =>
      let name := text.takeWhile isNameChar
      if name = [] then none else some (name, name.length)

/-- Put the values of variables in the places of references to them. References to
other variables stay. The number counts characters that are to be left out. -/
def expandFrom (environment : Environment) : Nat → List Char → List Char
  | _, [] => []
  | skip + 1, _ :: rest => expandFrom environment skip rest
  | 0, c :: rest =>
      match (if c = '$' then reference? rest else none) with
      | none => c :: expandFrom environment 0 rest
      | some (name, width) =>
          match environment.get? (String.ofList name) with
          | none => c :: expandFrom environment 0 rest
          | some value => value.toList ++ expandFrom environment width rest

/-- A text with the values of variables in the places of references to them. -/
def expand (environment : Environment) (text : String) : String :=
  String.ofList (environment.expandFrom 0 text.toList)

theorem lookup_setEntry (name value other : String) (entries : List (String × String)) :
    (setEntry name value entries).lookup other =
      if other = name then some value else entries.lookup other := by
  induction entries with
  | nil =>
      by_cases equal : other = name
      · simp [setEntry, equal]
      · have different : (other == name) = false := by simpa using equal
        simp [setEntry, List.lookup_cons, equal, different]
  | cons entry entries ih =>
      obtain ⟨key, old⟩ := entry
      by_cases same : key = name
      · subst same
        by_cases equal : other = key
        · simp [setEntry, equal]
        · have different : (other == key) = false := by simpa using equal
          simp [setEntry, List.lookup_cons, equal, different]
      · by_cases equal : other = key
        · subst equal
          simp [setEntry, same]
        · have different : (other == key) = false := by simpa using equal
          simp [setEntry, List.lookup_cons, same, different, ih]

/-- Setting a variable changes that variable and no other. -/
@[simp] theorem get?_set (environment : Environment) (name value other : String) :
    (environment.set name value).get? other =
      if other = name then some value else environment.get? other :=
  lookup_setEntry name value other environment.entries

end Environment

end LintBridge
