import LintBridge.Settings.Basic

/-!
# Archives

The values that have been set, kept by directory. All that use one directory see the
same values.
-/

namespace LintBridge

/-- The values in all directories. -/
structure Archive where
  entries : List ((String × Setting) × String)
  deriving DecidableEq, Repr

namespace Archive

/-- Nothing has been set. -/
def empty : Archive := ⟨[]⟩

/-- The value of a setting in a directory, if it has been set. -/
def get? (archive : Archive) (directory : String) (setting : Setting) : Option String :=
  archive.entries.lookup (directory, setting)

/-- Forget the value of a setting. -/
def erase (archive : Archive) (directory : String) (setting : Setting) : Archive :=
  ⟨archive.entries.filter (·.1 ≠ (directory, setting))⟩

/-- Set a value. -/
def set (archive : Archive) (directory : String) (setting : Setting) (value : String) : Archive :=
  ⟨((directory, setting), value) :: (archive.erase directory setting).entries⟩

/-- Forget all values in a directory. -/
def clear (archive : Archive) (directory : String) : Archive :=
  ⟨archive.entries.filter (·.1.1 ≠ directory)⟩

/-- Forgetting a key leaves every other key alone. -/
theorem lookup_filter_ne {α β : Type} [BEq α] [LawfulBEq α] [DecidableEq α]
    (entries : List (α × β)) (erased query : α) :
    (entries.filter (·.1 ≠ erased)).lookup query =
      if query = erased then none else entries.lookup query := by
  induction entries with
  | nil => simp
  | cons entry entries ih =>
      obtain ⟨key, value⟩ := entry
      by_cases same : key = erased
      · subst same
        rw [List.filter_cons_of_neg (by simp), ih]
        by_cases equal : query = key
        · simp [equal]
        · have different : (query == key) = false := by simpa using equal
          simp [List.lookup_cons, equal, different]
      · rw [List.filter_cons_of_pos (by simpa using same)]
        by_cases equal : query = key
        · subst equal
          simp [same]
        · have different : (query == key) = false := by simpa using equal
          simp only [List.lookup_cons, different, ih]

/-- Forgetting a value leaves every other value alone. -/
theorem get?_erase (archive : Archive) (directory other : String) (setting query : Setting) :
    (archive.erase directory setting).get? other query =
      if (other, query) = (directory, setting) then none else archive.get? other query :=
  lookup_filter_ne archive.entries (directory, setting) (other, query)

/-- Setting a value leaves every other value alone. -/
theorem get?_set (archive : Archive) (directory other : String) (setting query : Setting)
    (value : String) :
    (archive.set directory setting value).get? other query =
      if (other, query) = (directory, setting) then some value else archive.get? other query := by
  by_cases equal : (other, query) = (directory, setting)
  · simp [set, get?, equal]
  · have different : ((other, query) == (directory, setting)) = false := by simpa using equal
    have kept := get?_erase archive directory other setting query
    simp only [get?, equal, if_false] at kept
    simp only [set, get?, List.lookup_cons, different, equal, if_false, kept]

end Archive

end LintBridge
