import Mathlib.Data.List.Find
import LintBridge.Proofs.Project

/-!
# The order of the roots

A project finds the same directory for a file in whatever order and how often its roots
are given, but for one case. The root of two slashes counts as one that contains whatever
begins at the top. It is as long as a root at the top whose name is one character, and if no
longer root contains the file either, then the first of the two is found.
-/

namespace LintBridge.Project

/-- A project that is opened with some roots, and to which others are added. -/
def opened (directory : String) (given added : List String) : Project :=
  added.foldl (fun project path => project.addRoot directory path) (ofRoots directory given)

theorem roots_opened (directory : String) (given added : List String) :
    (opened directory given added).roots = (given ++ added).map (Path.absolute directory) := by
  have extended : ∀ (added : List String) (project : Project),
      (added.foldl (fun project path => project.addRoot directory path) project).roots =
        project.roots ++ added.map (Path.absolute directory) := by
    intro added
    induction added with
    | nil => exact fun project => (List.append_nil project.roots).symm
    | cons path added ih =>
        intro project
        rw [List.foldl_cons, ih, addRoot, List.append_assoc, List.singleton_append,
          List.map_cons]
  rw [opened, extended, ofRoots, List.map_append]

/-! ## Roots of one length -/

/-- A directory at the top with a name of one character. -/
def atTop (c : Char) : String :=
  String.ofList ['/', c]

theorem toList_atTop (c : Char) : (atTop c).toList = ['/', c] :=
  String.toList_ofList

theorem prefix_of_contains {root path : List Char} (last : root.getLast? ≠ some '/')
    (within : contains root path = true) : root <+: path := by
  rw [contains, Bool.or_eq_true, decide_eq_true_iff, List.isPrefixOf_iff_prefix,
    Path.reverse_dropWhile_reverse last] at within
  rcases within with rfl | longer
  · exact List.prefix_rfl
  · exact (List.prefix_append root ['/']).trans longer

theorem head?_of_contains {root path : List Char} (slashes : root = ['/'] ∨ root = ['/', '/']) :
    contains root path = true ↔ path.head? = some '/' := by
  have cut : (root.reverse.dropWhile (· = '/')).reverse = [] := by
    rcases slashes with rfl | rfl <;> decide
  rw [contains, cut, Bool.or_eq_true, decide_eq_true_iff, List.nil_append,
    List.isPrefixOf_iff_prefix]
  constructor
  · rintro (rfl | ⟨rest, rfl⟩)
    · rcases slashes with rfl | rfl <;> rfl
    · rfl
  · intro first
    obtain ⟨rest, rfl⟩ := List.head?_eq_some_iff.mp first
    exact Or.inr ⟨rest, rfl⟩

/-- A root that contains a path from the top, and does not end in a slash, has a name. -/
theorem eq_cons_cons_of_contains {root path : List Char} (last : root.getLast? ≠ some '/')
    (within : contains root path = true) (top : path.head? = some '/') (nonempty : root ≠ []) :
    ∃ c rest, root = '/' :: c :: rest := by
  obtain ⟨behind, rfl⟩ := prefix_of_contains last within
  match root with
  | [] => exact absurd rfl nonempty
  | [c] =>
      cases top
      exact absurd rfl last
  | first :: c :: rest =>
      cases top
      exact ⟨c, rest, rfl⟩

/-- The form that roots have in a project. -/
def IsNormal (root : String) : Prop :=
  ∃ text, root = Path.normal text

theorem isNormal_of_mem_opened {directory : String} {given added : List String} :
    ∀ root ∈ (opened directory given added).roots, IsNormal root := by
  intro root listed
  rw [roots_opened] at listed
  obtain ⟨path, -, rfl⟩ := List.mem_map.mp listed
  exact ⟨Path.join directory path, rfl⟩

theorem IsNormal.cases_getLast? {root : String} (normal : IsNormal root) :
    root = "/" ∨ root = "//" ∨ root.toList.getLast? ≠ some '/' := by
  obtain ⟨text, rfl⟩ := normal
  by_cases last : (Path.normal text).toList.getLast? = some '/'
  · exact (Path.normal_eq_of_getLast? last).imp_right Or.inl
  · exact Or.inr (Or.inr last)

/-- One root is that of two slashes, and the other is a directory at the top. -/
def AreRivals (root other : String) : Prop :=
  root = "//" ∧ ∃ c, c ≠ '/' ∧ other = atTop c

section

variable {path root other : String} (normalOther : IsNormal other)
  (within : contains root.toList path.toList = true)
  (withinOther : contains other.toList path.toList = true) (same : root.length = other.length)

include normalOther within withinOther same

/-- What contains a path like a root of slashes, and is as long, is that root or its rival. -/
theorem eq_or_areRivals_of_slashes (slashes : root = "/" ∨ root = "//") :
    root = other ∨ AreRivals root other := by
  have top : path.toList.head? = some '/' :=
    (head?_of_contains (slashes.imp (congrArg String.toList) (congrArg String.toList))).mp within
  rcases normalOther.cases_getLast? with rfl | rfl | last
  · rcases slashes with rfl | rfl
    · exact Or.inl rfl
    · cases same
  · rcases slashes with rfl | rfl
    · cases same
    · exact Or.inl rfl
  · have nonempty : other.toList ≠ [] := by
      intro none
      rw [← String.length_toList, ← String.length_toList, none] at same
      rcases slashes with rfl | rfl <;> cases same
    obtain ⟨c, rest, text⟩ := eq_cons_cons_of_contains last withinOther top nonempty
    rw [← String.length_toList, ← String.length_toList, text] at same
    rcases slashes with rfl | rfl
    · cases same
    · have nothing : rest = [] := List.eq_nil_of_length_eq_zero (by simpa using same.symm)
      rw [nothing] at text
      refine Or.inr ⟨rfl, c, ?_, ?_⟩
      · rintro rfl
        rw [text] at last
        exact last rfl
      · rw [← String.toList_inj, text, toList_atTop]

/-- Two roots of one length that contain a path are the same, or they are rivals. -/
theorem eq_or_areRivals (normal : IsNormal root) :
    root = other ∨ AreRivals root other ∨ AreRivals other root := by
  have ofSlashes : root = "/" ∨ root = "//" →
      root = other ∨ AreRivals root other ∨ AreRivals other root :=
    fun slashes =>
      (eq_or_areRivals_of_slashes normalOther within withinOther same slashes).imp_right Or.inl
  have ofOtherSlashes : other = "/" ∨ other = "//" →
      root = other ∨ AreRivals root other ∨ AreRivals other root :=
    fun slashes => (eq_or_areRivals_of_slashes normal withinOther within same.symm slashes).imp
      Eq.symm Or.inr
  rcases normal.cases_getLast? with top | doubled | last
  · exact ofSlashes (Or.inl top)
  · exact ofSlashes (Or.inr doubled)
  rcases normalOther.cases_getLast? with top | doubled | lastOther
  · exact ofOtherSlashes (Or.inl top)
  · exact ofOtherSlashes (Or.inr doubled)
  · left
    rw [← String.length_toList, ← String.length_toList] at same
    have parts := List.prefix_of_prefix_length_le (prefix_of_contains last within)
      (prefix_of_contains lastOther withinOther) (Nat.le_of_eq same)
    exact String.toList_inj.mp (parts.eq_of_length same)

end

/-! ## The root that is found -/

/-- The longest of some texts is the first one that is as long. -/
theorem find?_of_longest? {texts : List String} {text : String}
    (found : longest? texts = some text) :
    texts.find? (fun other => text.length ≤ other.length) = some text := by
  induction texts generalizing text with
  | nil => cases found
  | cons first texts ih =>
      rw [longest?] at found
      cases rest : longest? texts with
      | none =>
          rw [rest] at found
          cases found
          exact List.find?_cons_of_pos (by simp)
      | some other =>
          rw [rest] at found
          dsimp only at found
          split at found
          · rename_i shorter
            cases found
            rw [List.find?_cons_of_neg (by simpa using shorter), ih rest]
          · cases found
            exact List.find?_cons_of_pos (by simp)

/-- Two roots contain a path and are rivals, and no longer root contains it. -/
structure IsTied (project : Project) (path : String) (c : Char) : Prop where
  doubled : "//" ∈ project.roots
  short : atTop c ∈ project.roots
  named : c ≠ '/'
  within : contains (atTop c).toList path.toList = true
  longest : ∀ root ∈ project.roots, contains root.toList path.toList = true → root.length ≤ 2

/-- Two projects have the same roots, in whatever order and how often. -/
def HaveSameRoots (project other : Project) : Prop :=
  ∀ root, root ∈ other.roots ↔ root ∈ project.roots

section

variable {project other : Project} {path : String} {c : Char}

theorem length_atTop : (atTop c).length = 2 := by
  rw [← String.length_toList, toList_atTop]
  rfl

theorem atTop_ne (named : c ≠ '/') : atTop c ≠ "//" := by
  intro equal
  have chars := congrArg String.toList equal
  rw [toList_atTop] at chars
  cases chars
  exact named rfl

theorem IsTied.of_haveSameRoots (tied : project.IsTied path c)
    (same : HaveSameRoots project other) : other.IsTied path c where
  doubled := (same "//").mpr tied.doubled
  short := (same (atTop c)).mpr tied.short
  named := tied.named
  within := tied.within
  longest := fun root listed => tied.longest root ((same root).mp listed)

theorem exists_isTied {root rival : String} (rivals : AreRivals root rival)
    (listed : root ∈ project.roots) (listedRival : rival ∈ project.roots)
    (within : contains rival.toList path.toList = true)
    (longest : ∀ other ∈ project.roots, contains other.toList path.toList = true →
      other.length ≤ root.length) :
    ∃ c, project.IsTied path c := by
  obtain ⟨rfl, c, named, rfl⟩ := rivals
  exact ⟨c, listed, listedRival, named, within, longest⟩

variable (normal : ∀ root ∈ project.roots, IsNormal root)

include normal

/-- In a tie, the roots of two characters that contain the path are the rivals. -/
theorem contains_and_length_iff_of_isTied (tied : project.IsTied path c) {root : String}
    (listed : root ∈ project.roots) :
    contains root.toList path.toList = true ∧ 2 ≤ root.length ↔ root = "//" ∨ root = atTop c := by
  constructor
  · rintro ⟨within, long⟩
    have length : (atTop c).length = root.length := by
      rw [length_atTop]
      exact Nat.le_antisymm long (tied.longest root listed within)
    rcases eq_or_areRivals (normal root listed) tied.within within length
      (normal (atTop c) tied.short) with equal | ⟨doubled, -⟩ | ⟨doubled, -⟩
    · exact Or.inr equal.symm
    · exact absurd doubled (atTop_ne tied.named)
    · exact Or.inl doubled
  · rintro (rfl | rfl)
    · obtain ⟨behind, path_eq⟩ := prefix_of_contains
        (by rw [toList_atTop]; simpa using tied.named) tied.within
      refine ⟨(head?_of_contains (Or.inr rfl)).mpr ?_, Nat.le_refl 2⟩
      rw [← path_eq, toList_atTop]
      rfl
    · exact ⟨tied.within, Nat.le_of_eq length_atTop.symm⟩

/-- Of the rivals, the one that comes first is found. -/
theorem rootOf?_of_isTied (tied : project.IsTied path c) :
    project.rootOf? path = project.roots.find? fun root => root = "//" ∨ root = atTop c := by
  cases found : project.rootOf? path with
  | none => exact absurd tied.within (rootOf?_eq_none_iff.mp found (atTop c) tied.short)
  | some root =>
      obtain ⟨⟨listed, within⟩, longest⟩ := rootOf?_eq_some found
      have length : root.length = 2 :=
        Nat.le_antisymm (tied.longest root listed within)
          (length_atTop ▸ longest (atTop c) tied.short tied.within)
      have first := find?_of_longest? found
      rw [length, List.find?_filter] at first
      rw [← first]
      refine List.find?_congr fun other listedOther => ?_
      rw [Bool.eq_iff_iff]
      simpa using contains_and_length_iff_of_isTied normal tied listedOther

/-- Without a tie, the root of a path does not depend on the order of the roots. -/
theorem rootOf?_congr (same : HaveSameRoots project other)
    (untied : ∀ c, ¬ project.IsTied path c) : other.rootOf? path = project.rootOf? path := by
  cases found : project.rootOf? path with
  | none =>
      refine rootOf?_eq_none_iff.mpr fun root listed => ?_
      exact rootOf?_eq_none_iff.mp found root ((same root).mp listed)
  | some root =>
      obtain ⟨⟨listed, within⟩, longest⟩ := rootOf?_eq_some found
      cases foundOther : other.rootOf? path with
      | none =>
          have apart := rootOf?_eq_none_iff.mp foundOther root ((same root).mpr listed)
          exact absurd within apart
      | some otherRoot =>
          obtain ⟨⟨listedOther, withinOther⟩, longestOther⟩ := rootOf?_eq_some foundOther
          rw [same] at listedOther
          have length : root.length = otherRoot.length :=
            Nat.le_antisymm (longestOther root ((same root).mpr listed) within)
              (longest otherRoot listedOther withinOther)
          rcases eq_or_areRivals (normal otherRoot listedOther) within withinOther length
            (normal root listed) with equal | rivals | rivals
          · rw [equal]
          · obtain ⟨c, tied⟩ := exists_isTied rivals listed listedOther withinOther longest
            exact absurd tied (untied c)
          · obtain ⟨c, tied⟩ := exists_isTied rivals listedOther listed within
              (length ▸ longest)
            exact absurd tied (untied c)

end

/-! ## The directory of a file -/

theorem directoryOf_eq_of_rootOf? {project : Project} {directory path root : String}
    (found : project.rootOf? (Path.absolute directory path) = some root) :
    directoryOf (some project) directory path = root := by
  rw [directoryOf, Option.bind_some, split_of_rootOf?_eq_some found]

theorem directoryOf_congr {project other : Project} {directory path : String}
    (same : other.rootOf? (Path.absolute directory path) =
      project.rootOf? (Path.absolute directory path)) :
    directoryOf (some other) directory path = directoryOf (some project) directory path := by
  rw [directoryOf, directoryOf, Option.bind_some, Option.bind_some, split, split, same]

theorem haveSameRoots_cons {directory again : String} {given added : List String}
    (listed : Path.absolute directory again ∈ (opened directory given added).roots) :
    HaveSameRoots (opened directory given added) (opened directory (again :: given) added) := by
  intro root
  rw [roots_opened, List.cons_append, List.map_cons, ← roots_opened, List.mem_cons]
  constructor
  · rintro (rfl | former)
    · exact listed
    · exact former
  · exact Or.inr

/-- A rival that is given once more, in front of the others, is the directory. -/
theorem directoryOf_cons_of_isTied {directory path again : String} {given added : List String}
    {c : Char} (tied : (opened directory given added).IsTied (Path.absolute directory path) c)
    (listed : Path.absolute directory again ∈ (opened directory given added).roots)
    (rival : Path.absolute directory again = "//" ∨ Path.absolute directory again = atTop c) :
    directoryOf (some (opened directory (again :: given) added)) directory path =
      Path.absolute directory again := by
  apply directoryOf_eq_of_rootOf?
  rw [rootOf?_of_isTied isNormal_of_mem_opened (tied.of_haveSameRoots (haveSameRoots_cons listed)),
    roots_opened, List.cons_append, List.map_cons, List.find?_cons_of_pos (by simpa using rival)]

/-- The directory of a file does not depend on the order of a project's roots, on how often
they are given or on when they are added, exactly if there is no tie. In a tie it is the
rival that comes first. -/
theorem order_free_iff (directory path : String) (given added : List String) :
    let project := opened directory given added
    let whole := Path.absolute directory path
    ((∀ given' added', HaveSameRoots project (opened directory given' added') →
        directoryOf (some (opened directory given' added')) directory path =
          directoryOf (some project) directory path) ↔
      ∀ c, ¬ project.IsTied whole c) ∧
      ∀ c, project.IsTied whole c →
        (project.roots.find? fun root => root = "//" ∨ root = atTop c) =
          some (directoryOf (some project) directory path) := by
  intro project whole
  have normal : ∀ root ∈ project.roots, IsNormal root := isNormal_of_mem_opened
  refine ⟨⟨?_, ?_⟩, ?_⟩
  · intro free c tied
    -- Each rival becomes the directory when it is given once more, in front of the others.
    have first : ∀ rival, rival ∈ project.roots → rival = "//" ∨ rival = atTop c →
        directoryOf (some project) directory path = rival := by
      intro rival listed isRival
      have origin := listed
      rw [roots_opened] at origin
      obtain ⟨again, -, rfl⟩ := List.mem_map.mp origin
      rw [← free (again :: given) added (haveSameRoots_cons listed)]
      exact directoryOf_cons_of_isTied tied listed isRival
    have short := first (atTop c) tied.short (Or.inr rfl)
    rw [first "//" tied.doubled (Or.inl rfl)] at short
    exact atTop_ne tied.named short.symm
  · intro untied given' added' same
    exact directoryOf_congr (rootOf?_congr normal same untied)
  · intro c tied
    have found := rootOf?_of_isTied normal tied
    cases root : project.rootOf? whole with
    | none => exact absurd tied.within (rootOf?_eq_none_iff.mp root (atTop c) tied.short)
    | some root =>
        rw [← found, root, directoryOf_eq_of_rootOf? root]

/-- Of the roots `/a` and `//`, the one that is given first is the directory of `/a/x`. -/
theorem exists_order_matters :
    ∃ directory path given given',
      HaveSameRoots (opened directory given []) (opened directory given' []) ∧
      directoryOf (some (opened directory given [])) directory path = "/a" ∧
      directoryOf (some (opened directory given' [])) directory path = "//" := by
  refine ⟨"/", "/a/x", ["/a", "//"], ["//", "/a"], ?_, by decide +kernel, by decide +kernel⟩
  intro root
  rw [roots_opened, roots_opened]
  simp [or_comm]

end LintBridge.Project
