import LintBridge.Path
import LintBridge.Proofs.Text.Lines

/-!
# Absolute and tidy paths

A path that begins at the top does not depend on the directory that it is seen from.
What is below an absolute path is absolute, and a tidy path begins where the path did.
The tidy path of something in a directory is that of the directory, a slash and a name.
-/

namespace LintBridge.Path

theorem join_of_isAbsolute {path : String} (absolute : isAbsolute path = true)
    (directory : String) : join directory path = path := by
  rw [join, if_pos absolute]

theorem isAbsolute_iff {path : String} :
    isAbsolute path = true ↔ path.toList.head? = some '/' := by
  rw [isAbsolute, decide_eq_true_iff]

theorem isAbsolute_append {path : String} (absolute : isAbsolute path = true) (rest : String) :
    isAbsolute (path ++ rest) = true := by
  rw [isAbsolute_iff] at absolute ⊢
  rw [String.toList_append, List.head?_append, absolute, Option.some_or]

theorem isAbsolute_join {directory : String} (absolute : isAbsolute directory = true)
    (path : String) : isAbsolute (join directory path) = true := by
  rw [join]
  split
  · assumption
  split
  · exact isAbsolute_append absolute path
  · exact isAbsolute_append (isAbsolute_append absolute "/") path

theorem leadingSlashes_ne_zero {text : List Char} (absolute : text.head? = some '/') :
    leadingSlashes text ≠ 0 := by
  cases text with
  | nil => cases absolute
  | cons c rest =>
      cases absolute
      rw [leadingSlashes.eq_def]
      split <;> simp_all

theorem toChars_of_rooted {path : Path} (rooted : path.slashes ≠ 0) :
    path.toChars = List.replicate path.slashes '/' ++ Text.joinLines ['/'] path.names := by
  obtain ⟨count, same⟩ := Nat.exists_eq_succ_of_ne_zero rooted
  rw [toChars, same, List.replicate_succ]
  rfl

theorem isAbsolute_tidy {path : String} (absolute : isAbsolute path = true) :
    isAbsolute (tidy path) = true := by
  rw [isAbsolute_iff] at absolute ⊢
  have rooted := leadingSlashes_ne_zero absolute
  obtain ⟨count, same⟩ := Nat.exists_eq_succ_of_ne_zero rooted
  rw [tidy, String.toList_ofList, toChars_of_rooted rooted, same, List.replicate_succ]
  rfl

/-! ## Names on the way -/

/-- A name that leads from one directory to another. -/
def leadsOn (name : List Char) : Bool :=
  name ≠ [] ∧ name ≠ here

theorem leadsOn_iff {name : List Char} :
    leadsOn name = true ↔ ¬ (name = [] ∨ name = here) := by
  rw [leadsOn, decide_eq_true_iff, not_or]

/-- The names of a path that lead from one directory to another. -/
def steps (path : String) : List (List Char) :=
  (Text.splitAtChar '/' path.toList).filter leadsOn

theorem steps_append (front back : String) :
    steps (front ++ "/" ++ back) = steps front ++ steps back := by
  have text : (front ++ "/" ++ back).toList = front.toList ++ '/' :: back.toList := by simp
  rw [steps, text, Text.splitAtChar_append, List.filter_append, steps, steps]

theorem steps_eq_nil : steps "" = [] := by
  decide

theorem steps_of_notMem {name : String} (free : '/' ∉ name.toList) :
    steps name = [name.toList].filter leadsOn := by
  rw [steps, Text.splitAtChar_eq_singleton free]

theorem steps_join {path : String} (relative : isAbsolute path = false) (directory : String) :
    steps (join directory path) = steps directory ++ steps path := by
  rw [join, if_neg (by rw [relative]; exact Bool.false_ne_true)]
  split
  · rename_i closed
    rcases closed with none | last
    · rw [String.isEmpty_iff.mp none, steps_eq_nil, List.nil_append, String.empty_append]
    · rcases List.getLast?_eq_some_iff.mp last with ⟨front, text⟩
      have parts : directory = String.ofList front ++ "/" ++ "" := by
        rw [← String.toList_inj, text]
        simp
      rw [parts, steps_append, steps_eq_nil, List.append_nil, String.append_empty, steps_append]
  · exact steps_append directory path

theorem toList_tidy {path : String} (absolute : isAbsolute path = true) :
    (tidy path).toList =
      List.replicate (leadingSlashes path.toList) '/' ++ Text.joinLines ['/'] (steps path) := by
  rw [tidy, String.toList_ofList, toChars_of_rooted
    (leadingSlashes_ne_zero (isAbsolute_iff.mp absolute))]
  rfl

theorem leadingSlashes_cons {c : Char} (noSlash : c ≠ '/') (rest : List Char) :
    leadingSlashes (c :: rest) = 0 := by
  rw [leadingSlashes.eq_def]
  split <;> simp_all

/-- Tidying a path leaves the names on the way as they are. -/
theorem steps_tidy {path : String} (absolute : isAbsolute path = true) :
    steps (tidy path) = steps path := by
  rw [steps.eq_def (tidy path), toList_tidy absolute,
    Text.filter_splitAtChar_replicate (by decide)]
  apply Text.filter_splitAtChar_joinLines (by decide)
  · intro name member
    exact Text.notMem_of_mem_splitAtChar (List.mem_filter.mp member).1
  · intro name member
    exact (List.mem_filter.mp member).2

/-- How many slashes a text begins with is seen from any part that does not end in one. -/
theorem leadingSlashes_append {text : List Char} (ended : ∃ c, text.getLast? = some c ∧ c ≠ '/')
    (rest : List Char) : leadingSlashes (text ++ rest) = leadingSlashes text := by
  rcases ended with ⟨last, ends, noSlash⟩
  rcases text with _ | ⟨a, text⟩
  · cases ends
  by_cases first : a = '/'
  · rw [first]
    rcases text with _ | ⟨b, text⟩
    · cases ends
      exact absurd first noSlash
    by_cases second : b = '/'
    · rw [second]
      rcases text with _ | ⟨c, text⟩
      · cases ends
        exact absurd second noSlash
      by_cases third : c = '/'
      · rw [third]
        rfl
      · simp [leadingSlashes, third]
    · simp [leadingSlashes, second]
  · rw [List.cons_append, leadingSlashes_cons first, leadingSlashes_cons first]

theorem leadingSlashes_append_of_head? {rest : List Char} (starts : rest.head? ≠ some '/')
    (text : List Char) : leadingSlashes (text ++ rest) = leadingSlashes text := by
  cases rest with
  | nil => rw [List.append_nil]
  | cons c rest =>
      have noSlash : c ≠ '/' := fun same => starts (congrArg some same)
      fun_cases leadingSlashes text with
      | case1 => rfl
      | case2 text | case3 text =>
          cases text with
          | nil => simp [leadingSlashes, noSlash]
          | cons d text => simp_all [leadingSlashes]
      | case4 _ _ _ other =>
          cases text with
          | nil => exact leadingSlashes_cons noSlash rest
          | cons d text =>
              have first : d ≠ '/' := fun same => other text (by rw [same])
              exact leadingSlashes_cons first (text ++ c :: rest)

theorem leadingSlashes_join {path : String} (relative : isAbsolute path = false)
    (directory : String) :
    leadingSlashes (join directory path).toList = leadingSlashes directory.toList := by
  have starts : path.toList.head? ≠ some '/' := by
    rw [Ne, ← isAbsolute_iff, relative]
    exact Bool.false_ne_true
  rw [join, if_neg (by rw [relative]; exact Bool.false_ne_true)]
  split
  · rw [String.toList_append, leadingSlashes_append_of_head? starts]
  · rename_i apart
    rw [String.toList_append, String.toList_append, List.append_assoc]
    apply leadingSlashes_append
    cases last : directory.toList.getLast? with
    | none =>
        rw [List.getLast?_eq_none_iff, String.toList_eq_nil_iff] at last
        rw [last] at apart
        exact absurd (Or.inl rfl) apart
    | some c =>
        refine ⟨c, rfl, ?_⟩
        rintro rfl
        exact apart (Or.inr last)

/-- The name of something in a directory. -/
structure IsName (name : String) : Prop where
  free : '/' ∉ name.toList
  nonempty : name ≠ ""
  inside : name ≠ "."
  below : name ≠ ".."

theorem IsName.leadsOn {name : String} (isName : IsName name) : leadsOn name.toList = true := by
  rw [leadsOn_iff]
  rintro (none | same)
  · exact isName.nonempty (String.toList_inj.mp none)
  · exact isName.inside (String.toList_inj.mp same)

theorem IsName.steps_eq {name : String} (isName : IsName name) : steps name = [name.toList] := by
  rw [steps_of_notMem isName.free, List.filter_cons_of_pos isName.leadsOn, List.filter_nil]

theorem isAbsolute_of_notMem {name : String} (free : '/' ∉ name.toList) :
    isAbsolute name = false := by
  rw [Bool.eq_false_iff, Ne, isAbsolute_iff]
  intro first
  exact free (List.mem_of_mem_head? first)

/-- The tidy path of something in a directory. -/
theorem tidy_join {directory name : String} (absolute : isAbsolute directory = true)
    (leads : steps directory ≠ []) (isName : IsName name) :
    tidy (join directory name) = tidy directory ++ "/" ++ name := by
  rw [← String.toList_inj, toList_tidy (isAbsolute_join absolute name),
    leadingSlashes_join (isAbsolute_of_notMem isName.free),
    steps_join (isAbsolute_of_notMem isName.free), isName.steps_eq, Text.joinLines_concat leads]
  simp [toList_tidy absolute]

end LintBridge.Path
