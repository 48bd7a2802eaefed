import LintBridge.Project
import LintBridge.Proofs.Path.Normal

/-!
# The project of a file

Whether a root contains a path is seen from its text, and which root is the deepest from
how long the text is. Among normal paths with as many slashes at the front, a root
contains a path exactly if the names of the path begin with those of the root, and of two
roots that contain it the longer one has more names. So the root that a project finds is
the deepest one that contains the path.
-/

namespace LintBridge

namespace Path

variable {root other whole : Path}

theorem reverse_dropWhile_reverse {text : List Char} (last : text.getLast? ≠ some '/') :
    (text.reverse.dropWhile (· = '/')).reverse = text := by
  rcases List.eq_nil_or_concat' text with rfl | ⟨front, c, rfl⟩
  · rfl
  · rw [List.getLast?_concat] at last
    have noSlash : c ≠ '/' := fun same => last (congrArg some same)
    rw [List.reverse_concat, List.dropWhile_cons_of_neg (by simpa using noSlash),
      ← List.reverse_concat, List.reverse_reverse]

/-- With a slash behind it, a path is a prefix of another exactly if more names follow
its own there. -/
theorem toChars_concat_prefix_iff (isRoot : root.IsNormal) (isWhole : whole.IsNormal)
    (slashes : root.slashes = whole.slashes) (some : root.names ≠ []) :
    root.toChars ++ ['/'] <+: whole.toChars ↔
      ∃ rest, rest ≠ [] ∧ root.names ++ rest = whole.names := by
  rw [toChars_of_rooted isRoot.rooted, toChars_of_rooted isWhole.rooted, slashes,
    List.append_assoc, List.prefix_append_right_inj]
  exact Text.joinLines_concat_prefix_iff some isRoot.free isWhole.free

/-- A root contains a path exactly if the names of the path begin with those of the root. -/
theorem contains_toChars_iff (isRoot : root.IsNormal) (isWhole : whole.IsNormal)
    (slashes : root.slashes = whole.slashes) :
    Project.contains root.toChars whole.toChars = true ↔ root.names <+: whole.names := by
  rw [Project.contains, Bool.or_eq_true, decide_eq_true_iff, List.isPrefixOf_iff_prefix]
  by_cases top : root.names = []
  · -- Nothing is left of the root without its slashes, and every path begins with a slash.
    have cut : (root.toChars.reverse.dropWhile (· = '/')).reverse = [] := by
      rw [toChars_of_rooted isRoot.rooted, top, Text.joinLines, List.append_nil]
      simp
    rw [cut, top, List.nil_append]
    refine iff_of_true (Or.inr ?_) List.nil_prefix
    obtain ⟨count, same⟩ := Nat.exists_eq_succ_of_ne_zero isWhole.rooted
    rw [toChars_of_rooted isWhole.rooted, same, List.replicate_succ]
    exact List.prefix_append ['/'] _
  · have last : root.toChars.getLast? ≠ some '/' := by
      rw [toChars_of_rooted isRoot.rooted,
        List.getLast?_append_of_ne_nil _ (joinLines_ne_nil isRoot.components top)]
      exact getLast?_joinLines_ne isRoot.components
    rw [reverse_dropWhile_reverse last, toChars_concat_prefix_iff isRoot isWhole slashes top]
    constructor
    · rintro (same | ⟨rest, -, names⟩)
      · have names : root.names = whole.names := by
          rw [← isRoot.steps_toChars, ← isWhole.steps_toChars, same]
        exact names ▸ List.prefix_rfl
      · exact ⟨rest, names⟩
    · rintro ⟨rest, names⟩
      by_cases none : rest = []
      · rw [none, List.append_nil] at names
        left
        rw [toChars_of_rooted isRoot.rooted, toChars_of_rooted isWhole.rooted, slashes, names]
      · exact Or.inr ⟨rest, none, names⟩

theorem length_toChars_lt (isRoot : root.IsNormal) (isOther : other.IsNormal)
    (slashes : root.slashes = other.slashes) (within : root.names <+: other.names)
    (deeper : root.names.length < other.names.length) :
    root.toChars.length < other.toChars.length := by
  obtain ⟨rest, names⟩ := within
  have more : rest ≠ [] := by
    rintro rfl
    rw [← names, List.append_nil] at deeper
    exact absurd deeper (Nat.lt_irrefl _)
  rw [toChars_of_rooted isRoot.rooted, toChars_of_rooted isOther.rooted, slashes,
    List.length_append, List.length_append, ← names]
  apply Nat.add_lt_add_left
  by_cases top : root.names = []
  · rw [top, List.nil_append, Text.joinLines, List.length_nil, List.length_pos_iff]
    refine joinLines_ne_nil (fun name member => isOther.components name ?_) more
    rw [← names]
    exact List.mem_append_right root.names member
  · rw [Text.joinLines_append top more, List.length_append, List.length_append]
    simp
    omega

end Path

namespace Project

/-! ## The longest text -/

theorem longest?_eq_none_iff {texts : List String} : longest? texts = none ↔ texts = [] := by
  fun_cases longest? texts with
  | case1 => exact iff_of_true rfl rfl
  | case2 => exact iff_of_false nofun (List.cons_ne_nil _ _)
  | case3 => exact iff_of_false nofun (List.cons_ne_nil _ _)

theorem longest?_eq_some {texts : List String} {text : String}
    (found : longest? texts = some text) :
    text ∈ texts ∧ ∀ other ∈ texts, other.length ≤ text.length := by
  induction texts generalizing text with
  | nil => cases found
  | cons first texts ih =>
      rw [longest?] at found
      cases rest : longest? texts with
      | none =>
          rw [rest] at found
          cases found
          rw [longest?_eq_none_iff.mp rest]
          simp
      | some other =>
          rw [rest] at found
          obtain ⟨listed, longest⟩ := ih rest
          dsimp only at found
          split at found
          · rename_i shorter
            cases found
            exact ⟨List.mem_cons_of_mem first listed,
              List.forall_mem_cons.mpr ⟨Nat.le_of_lt shorter, longest⟩⟩
          · rename_i noShorter
            cases found
            refine ⟨List.mem_cons_self, List.forall_mem_cons.mpr ⟨Nat.le_refl _, ?_⟩⟩
            intro later member
            exact Nat.le_trans (longest later member) (Nat.le_of_not_lt noShorter)

/-! ## The root of a path -/

variable {project : Project} {path root : String}

theorem rootOf?_eq_none_iff :
    project.rootOf? path = none ↔
      ∀ root ∈ project.roots, ¬ contains root.toList path.toList = true := by
  rw [rootOf?, longest?_eq_none_iff, List.filter_eq_nil_iff]

/-- The root of a path contains it, and no longer one does. -/
theorem rootOf?_eq_some (found : project.rootOf? path = some root) :
    (root ∈ project.roots ∧ contains root.toList path.toList = true) ∧
      ∀ other ∈ project.roots, contains other.toList path.toList = true →
        other.length ≤ root.length := by
  obtain ⟨member, longest⟩ := longest?_eq_some found
  refine ⟨List.mem_filter.mp member, ?_⟩
  intro other listed within
  exact longest other (List.mem_filter.mpr ⟨listed, within⟩)

/-! ## The deepest root -/

/-- The absolute form of some path, which begins with a single slash. -/
structure IsPlain (text : String) : Prop where
  absolute : ∃ directory path, text = Path.absolute directory path
  single : Path.leadingSlashes text.toList = 1

/-- A root of a project whose components a path begins with, and no other such root has
more components. -/
structure IsDeepest (project : Project) (path root : String) : Prop where
  given : root ∈ project.roots
  within : Path.components root <+: Path.components path
  deepest : ∀ other ∈ project.roots, Path.components other <+: Path.components path →
    (Path.components other).length ≤ (Path.components root).length

theorem IsPlain.exists_isNormal {text : String} (plain : IsPlain text) :
    ∃ whole : Path, whole.IsNormal ∧ whole.slashes = 1 ∧
      text = String.ofList whole.toChars := by
  rcases plain with ⟨⟨directory, path, rfl⟩, single⟩
  rw [← single]
  apply Path.exists_isNormal
  rw [single]
  exact Nat.one_ne_zero

section

variable (plainRoot : IsPlain root) (plain : IsPlain path)

include plainRoot plain

/-- A plain root contains a plain path exactly if the components of the path begin with
those of the root, so it is not enough that its text does. -/
theorem contains_iff :
    contains root.toList path.toList = true ↔
      Path.components root <+: Path.components path := by
  obtain ⟨whole, isWhole, single, rfl⟩ := plain.exists_isNormal
  obtain ⟨start, isStart, same, rfl⟩ := plainRoot.exists_isNormal
  rw [isWhole.components_toChars, isStart.components_toChars, String.toList_ofList,
    String.toList_ofList]
  exact Path.contains_toChars_iff isStart isWhole (same.trans single.symm)

/-- From a plain root to a plain path that it contains, the way leads down. -/
theorem isWayDown_relative (within : Path.components root <+: Path.components path) :
    Path.IsWayDown root (Path.relative path root) path := by
  obtain ⟨whole, isWhole, single, rfl⟩ := plain.exists_isNormal
  obtain ⟨start, isStart, same, rfl⟩ := plainRoot.exists_isNormal
  rw [isWhole.components_toChars, isStart.components_toChars] at within
  exact Path.isWayDown_relative isStart isWhole (same.trans single.symm) within

end

theorem length_components_le {other : String} (plainRoot : IsPlain root)
    (plainOther : IsPlain other) (within : Path.components root <+: Path.components path)
    (withinOther : Path.components other <+: Path.components path)
    (longest : other.length ≤ root.length) :
    (Path.components other).length ≤ (Path.components root).length := by
  by_contra deeper
  obtain ⟨start, isStart, single, rfl⟩ := plainRoot.exists_isNormal
  obtain ⟨deep, isDeep, same, rfl⟩ := plainOther.exists_isNormal
  rw [Nat.not_le] at deeper
  have onward := List.prefix_of_prefix_length_le within withinOther (Nat.le_of_lt deeper)
  rw [isStart.components_toChars, isDeep.components_toChars] at onward deeper
  have longer := Path.length_toChars_lt isStart isDeep (single.trans same.symm) onward deeper
  rw [String.length_ofList, String.length_ofList] at longest
  exact absurd longer (Nat.not_lt.mpr longest)

section

variable (plainRoots : ∀ root ∈ project.roots, IsPlain root) (plain : IsPlain path)

include plainRoots plain

theorem not_within_of_rootOf?_eq_none (found : project.rootOf? path = none) :
    ∀ root ∈ project.roots, ¬ Path.components root <+: Path.components path := by
  intro root listed within
  apply rootOf?_eq_none_iff.mp found root listed
  exact (contains_iff (plainRoots root listed) plain).mpr within

/-- The longest root that contains a path is the deepest one. -/
theorem isDeepest_of_rootOf?_eq_some (found : project.rootOf? path = some root) :
    project.IsDeepest path root := by
  obtain ⟨⟨listed, containing⟩, longest⟩ := rootOf?_eq_some found
  have within := (contains_iff (plainRoots root listed) plain).mp containing
  refine ⟨listed, within, ?_⟩
  intro other otherListed otherWithin
  have otherContaining := (contains_iff (plainRoots other otherListed) plain).mpr otherWithin
  exact length_components_le (plainRoots root listed) (plainRoots other otherListed) within
    otherWithin (longest other otherListed otherContaining)

end

theorem split_of_rootOf?_eq_none {directory : String}
    (found : project.rootOf? (Path.absolute directory path) = none) :
    project.split directory path = (none, Path.absolute directory path) := by
  simp only [split, found]

theorem split_of_rootOf?_eq_some {directory : String}
    (found : project.rootOf? (Path.absolute directory path) = some root) :
    project.split directory path =
      (some root, Path.relative (Path.absolute directory path) root) := by
  simp only [split, found]

/-- A project finds no root for a path exactly if none contains it by its components.
Otherwise it finds the deepest one that does, and the way down from there to the path. -/
theorem split_deepest {directory : String} (plainRoots : ∀ root ∈ project.roots, IsPlain root)
    (single : Path.leadingSlashes (Path.absolute directory path).toList = 1) :
    let whole := Path.absolute directory path
    let result := project.split directory path
    (result.1 = none ↔
        ∀ root ∈ project.roots, ¬ Path.components root <+: Path.components whole) ∧
      (result.1 = none → result.2 = whole) ∧
      (∀ root, result.1 = some root →
        project.IsDeepest whole root ∧ Path.IsWayDown root result.2 whole) ∧
      ∀ root ∈ project.roots,
        (contains root.toList whole.toList = true ↔
          Path.components root <+: Path.components whole) := by
  intro whole result
  have plain : IsPlain whole := ⟨⟨directory, path, rfl⟩, single⟩
  have contained : ∀ root ∈ project.roots, (contains root.toList whole.toList = true ↔
      Path.components root <+: Path.components whole) :=
    fun root listed => contains_iff (plainRoots root listed) plain
  cases found : project.rootOf? whole with
  | none =>
      have ends : result = (none, whole) := split_of_rootOf?_eq_none found
      have apart := not_within_of_rootOf?_eq_none plainRoots plain found
      rw [ends]
      exact ⟨iff_of_true rfl apart, fun _ => rfl, nofun, contained⟩
  | some root =>
      have ends : result = (some root, Path.relative whole root) :=
        split_of_rootOf?_eq_some found
      have isDeepest := isDeepest_of_rootOf?_eq_some plainRoots plain found
      have plainRoot := plainRoots root isDeepest.given
      rw [ends]
      dsimp only
      refine ⟨iff_of_false nofun fun apart => apart root isDeepest.given isDeepest.within, nofun,
        ?_, contained⟩
      intro same equal
      cases equal
      exact ⟨isDeepest, isWayDown_relative plainRoot plain isDeepest.within⟩

/-- A file whose path begins like that of a root that does not contain it. -/
theorem split_deepest_namesake :
    let project := ofRoots "/a" ["/", "/a/proj", "../a/"]
    project.split "/a" "proj/../projectile/x" = (some "/a", "projectile/x") ∧
      project.IsDeepest "/a/projectile/x" "/a" ∧
      ¬ contains "/a/proj".toList "/a/projectile/x".toList = true := by
  intro project
  have answer : project.split "/a" "proj/../projectile/x" = (some "/a", "projectile/x") := by
    decide +kernel
  have whole : Path.absolute "/a" "proj/../projectile/x" = "/a/projectile/x" := by
    decide +kernel
  have single : Path.leadingSlashes (Path.absolute "/a" "proj/../projectile/x").toList = 1 := by
    rw [whole]
    decide
  have plainRoots : ∀ root ∈ project.roots, IsPlain root := by
    intro root listed
    refine ⟨?_, ?_⟩
    · obtain ⟨path, -, same⟩ := List.mem_map.mp listed
      exact ⟨"/a", path, same.symm⟩
    · revert root
      decide +kernel
  obtain ⟨-, -, deepest, contained⟩ := split_deepest plainRoots single
  rw [answer, whole] at deepest
  rw [whole] at contained
  refine ⟨answer, (deepest "/a" rfl).1, ?_⟩
  rw [contained "/a/proj" (by decide +kernel)]
  decide +kernel

end Project

end LintBridge
