import LintBridge.Proofs.Path

/-!
# Normal paths

The names of a path that is normal and begins at the top only lead down, from each
directory to something in it. They are all that it holds besides the slashes, so every
path that leads through the same names has it as its normal form. If the names of one
begin with those of another, the way from the other to it is what remains of them.
-/

namespace LintBridge.Path

/-! ## Names of a normal path -/

/-- What can stand between two slashes of a normal path. -/
structure IsComponent (name : List Char) : Prop where
  free : '/' ∉ name
  leads : leadsOn name = true

/-- What leads from a directory to something in it. -/
structure IsDescent (name : List Char) : Prop extends IsComponent name where
  down : name ≠ above

theorem isComponent_of_descents {names : List (List Char)}
    (descents : ∀ name ∈ names, IsDescent name) : ∀ name ∈ names, IsComponent name :=
  fun name member => (descents name member).toIsComponent

theorem IsComponent.ne_nil {name : List Char} (component : IsComponent name) : name ≠ [] :=
  fun none => leadsOn_iff.mp component.leads (Or.inl none)

section

variable {rooted : Bool} {before names : List (List Char)} {name : List Char}

theorem follow_of_not_leadsOn (stays : leadsOn name = false) :
    follow rooted before name = before := by
  have nowhere : name = [] ∨ name = here := by
    by_contra leads
    rw [leadsOn_iff.mpr leads] at stays
    cases stays
  rw [follow.eq_def, if_pos nowhere]

theorem follow_of_isDescent (descent : IsDescent name) :
    follow rooted before name = name :: before := by
  rw [follow.eq_def, if_neg (leadsOn_iff.mp descent.leads), if_neg descent.down]

/-- What is on the way after one more name was there before or is that name, which does not
lead above the top. -/
theorem mem_follow {other : List Char} : other ∈ follow rooted before name →
    other ∈ before ∨ (other = name ∧ leadsOn name = true ∧ (rooted = true → name ≠ above)) := by
  fun_cases follow rooted before name with
  | case1 => exact Or.inl
  | case2 => exact nofun
  | case3 leads up unrooted =>
      intro member
      rw [List.mem_singleton] at member
      exact Or.inr ⟨member.trans up.symm, leadsOn_iff.mpr leads, fun top => absurd top unrooted⟩
  | case4 leads up rest =>
      intro member
      rcases List.mem_cons.mp member with rfl | earlier
      · exact Or.inl List.mem_cons_self
      · exact Or.inl earlier
  | case5 leads up last rest => exact fun member => Or.inl (List.mem_cons_of_mem last member)
  | case6 before leads down =>
      intro member
      rcases List.mem_cons.mp member with rfl | earlier
      · exact Or.inr ⟨rfl, leadsOn_iff.mpr leads, fun _ => down⟩
      · exact Or.inl earlier

/-- What remains of some names was one of them. It leads on, and not above the top. -/
theorem mem_settle {other : List Char} (member : other ∈ settle rooted names) :
    other ∈ names ∧ leadsOn other = true ∧ (rooted = true → other ≠ above) := by
  have kept : ∀ other ∈ names.foldl (follow rooted) [],
      other ∈ names ∧ leadsOn other = true ∧ (rooted = true → other ≠ above) := by
    refine List.foldlRecOn names (follow rooted) (motive := fun found => ∀ other ∈ found,
      other ∈ names ∧ leadsOn other = true ∧ (rooted = true → other ≠ above)) nofun ?_
    · intro before kept name listed other member
      rcases mem_follow member with earlier | ⟨rfl, leads⟩
      · exact kept other earlier
      · exact ⟨listed, leads⟩
  exact kept other (List.mem_reverse.mp member)

/-- Names that do not lead on make no difference. -/
theorem settle_filter_leadsOn (names : List (List Char)) :
    settle rooted (names.filter leadsOn) = settle rooted names := by
  rw [settle, settle, List.foldl_filter]
  congr 2
  funext before name
  cases leads : leadsOn name with
  | false => rw [follow_of_not_leadsOn leads, if_neg Bool.false_ne_true]
  | true => rw [if_pos rfl]

theorem settle_eq_self (descents : ∀ name ∈ names, IsDescent name) :
    settle rooted names = names := by
  have kept : ∀ before, names.foldl (follow rooted) before = names.reverse ++ before := by
    induction names with
    | nil => exact fun _ => rfl
    | cons name names ih =>
        intro before
        rw [List.forall_mem_cons] at descents
        rw [List.foldl_cons, follow_of_isDescent descents.1, ih descents.2, List.reverse_cons,
          List.append_assoc, List.singleton_append]
  rw [settle, kept, List.append_nil, List.reverse_reverse]

end

/-! ## Names that are joined -/

section

variable {names : List (List Char)}

theorem head?_joinLines_ne (components : ∀ name ∈ names, IsComponent name) :
    (Text.joinLines ['/'] names).head? ≠ some '/' := by
  cases names with
  | nil => exact nofun
  | cons name names =>
      have component := components name List.mem_cons_self
      have begins : (Text.joinLines ['/'] (name :: names)).head? = name.head? := by
        by_cases last : names = []
        · rw [last, Text.joinLines]
        · rw [Text.joinLines_cons last, List.append_assoc,
            List.head?_append_of_ne_nil _ component.ne_nil]
      rw [begins]
      exact fun first => component.free (List.mem_of_mem_head? first)

/-- Of names that are joined, all are found again by whatever skips only the gaps. -/
theorem filter_joinLines {keep : List Char → Bool} (skips : keep [] = false)
    (kept : ∀ name, IsComponent name → keep name = true)
    (components : ∀ name ∈ names, IsComponent name) :
    (Text.splitAtChar '/' (Text.joinLines ['/'] names)).filter keep = names := by
  apply Text.filter_splitAtChar_joinLines skips
  · intro name member
    exact (components name member).free
  · intro name member
    exact kept name (components name member)

theorem joinLines_ne_nil (components : ∀ name ∈ names, IsComponent name) (some : names ≠ []) :
    Text.joinLines ['/'] names ≠ [] := by
  intro none
  have found := filter_joinLines rfl (fun name => IsComponent.leads) components
  rw [none] at found
  exact some found.symm

theorem getLast?_joinLines_ne (components : ∀ name ∈ names, IsComponent name) :
    (Text.joinLines ['/'] names).getLast? ≠ some '/' := by
  rcases List.eq_nil_or_concat' names with rfl | ⟨front, name, rfl⟩
  · exact nofun
  · have component := components name (List.mem_append_right front List.mem_cons_self)
    have ends : (Text.joinLines ['/'] (front ++ [name])).getLast? = name.getLast? := by
      by_cases only : front = []
      · rw [only, List.nil_append, Text.joinLines]
      · rw [Text.joinLines_concat only, List.getLast?_append_of_ne_nil _ component.ne_nil]
    rw [ends]
    exact fun last => component.free (List.mem_of_getLast? last)

end

/-! ## Slashes at the front -/

theorem leadingSlashes_le (text : List Char) : leadingSlashes text ≤ 2 := by
  fun_cases leadingSlashes text <;> decide

theorem leadingSlashes_replicate {count : Nat} (bound : count ≤ 2) {text : List Char}
    (starts : text.head? ≠ some '/') :
    leadingSlashes (List.replicate count '/' ++ text) = count := by
  rw [leadingSlashes_append_of_head? starts]
  match count, bound with
  | 0, _ => rfl
  | 1, _ => rfl
  | 2, _ => rfl

theorem isComponent_of_mem_ofChars (text : List Char) :
    ∀ name ∈ (ofChars text).names, IsComponent name := by
  intro name member
  have kept := mem_settle member
  exact ⟨Text.notMem_of_mem_splitAtChar kept.1, kept.2.1⟩

theorem leadingSlashes_normal (path : String) :
    leadingSlashes (normal path).toList = leadingSlashes path.toList := by
  have found := leadingSlashes_replicate (leadingSlashes_le path.toList)
    (head?_joinLines_ne (isComponent_of_mem_ofChars path.toList))
  rw [normal, String.toList_ofList, toChars]
  split
  · rename_i none
    have same : (ofChars path.toList).slashes = leadingSlashes path.toList := rfl
    rw [same] at none
    rw [none] at found
    exact found
  · exact found

/-- A path with names is put together from its slashes and the joined names. -/
theorem toChars_of_names {path : Path} (components : ∀ name ∈ path.names, IsComponent name)
    (some : path.names ≠ []) :
    path.toChars = List.replicate path.slashes '/' ++ Text.joinLines ['/'] path.names := by
  obtain ⟨c, text, same⟩ := List.exists_cons_of_ne_nil
    (List.append_ne_nil_of_right_ne_nil (List.replicate path.slashes '/')
      (joinLines_ne_nil components some))
  rw [toChars, same]

/-- A normal path that ends in a slash has no names. -/
theorem normal_eq_of_getLast? {path : String}
    (last : (normal path).toList.getLast? = some '/') :
    normal path = "/" ∨ normal path = "//" := by
  have components := isComponent_of_mem_ofChars path.toList
  rw [normal, String.toList_ofList] at last
  by_cases none : (ofChars path.toList).names = []
  · have bound : (ofChars path.toList).slashes ≤ 2 := leadingSlashes_le path.toList
    rw [normal]
    generalize ofChars path.toList = whole at last none bound
    obtain ⟨slashes, names⟩ := whole
    subst none
    match slashes, bound with
    | 0, _ => cases last
    | 1, _ => exact Or.inl rfl
    | 2, _ => exact Or.inr rfl
  · rw [toChars_of_names components none,
      List.getLast?_append_of_ne_nil _ (joinLines_ne_nil components none)] at last
    exact absurd last (getLast?_joinLines_ne components)

/-! ## Paths from the top -/

/-- A normal path that begins at the top, taken apart. -/
structure IsNormal (path : Path) : Prop where
  rooted : path.slashes ≠ 0
  slashes_le : path.slashes ≤ 2
  descents : ∀ name ∈ path.names, IsDescent name

theorem isNormal_ofChars {path : String} (absolute : leadingSlashes path.toList ≠ 0) :
    (ofChars path.toList).IsNormal where
  rooted := absolute
  slashes_le := leadingSlashes_le path.toList
  descents := by
    intro name member
    rcases mem_settle member with ⟨listed, leads, down⟩
    exact ⟨⟨Text.notMem_of_mem_splitAtChar listed, leads⟩, down (decide_eq_true absolute)⟩

namespace IsNormal

variable {path : Path} (isNormal : path.IsNormal)

include isNormal

theorem components : ∀ name ∈ path.names, IsComponent name :=
  isComponent_of_descents isNormal.descents

theorem free : ∀ name ∈ path.names, '/' ∉ name :=
  fun name member => (isNormal.descents name member).free

theorem leadingSlashes_toChars : leadingSlashes path.toChars = path.slashes := by
  rw [toChars_of_rooted isNormal.rooted]
  exact leadingSlashes_replicate isNormal.slashes_le (head?_joinLines_ne isNormal.components)

theorem steps_toChars : steps (String.ofList path.toChars) = path.names := by
  rw [steps, String.toList_ofList, toChars_of_rooted isNormal.rooted,
    Text.filter_splitAtChar_replicate rfl]
  exact filter_joinLines rfl (fun name => IsComponent.leads) isNormal.components

theorem components_toChars : Path.components (String.ofList path.toChars) = path.names := by
  rw [Path.components, String.toList_ofList, toChars_of_rooted isNormal.rooted,
    Text.filter_splitAtChar_replicate rfl]
  exact filter_joinLines rfl (fun name component => decide_eq_true component.ne_nil)
    isNormal.components

end IsNormal

/-- A path is taken apart into its slashes and what remains of its steps. -/
theorem ofChars_eq (path : String) :
    ofChars path.toList = ⟨leadingSlashes path.toList,
      settle (leadingSlashes path.toList ≠ 0) (steps path)⟩ := by
  rw [ofChars, steps, settle_filter_leadsOn]

/-- A path that leads through the names of a normal one is taken apart into it. -/
theorem IsNormal.normal_eq {path : Path} (isNormal : path.IsNormal) {text : String}
    (slashes : leadingSlashes text.toList = path.slashes) (names : steps text = path.names) :
    normal text = String.ofList path.toChars := by
  rw [normal, ofChars_eq, slashes, names, settle_eq_self isNormal.descents]

/-- The absolute form of a path is what a normal path is put together to. -/
theorem exists_isNormal {directory path : String}
    (rooted : leadingSlashes (absolute directory path).toList ≠ 0) :
    ∃ whole : Path, whole.IsNormal ∧
      whole.slashes = leadingSlashes (absolute directory path).toList ∧
      absolute directory path = String.ofList whole.toChars := by
  rw [absolute, leadingSlashes_normal] at rooted
  refine ⟨ofChars (join directory path).toList, isNormal_ofChars rooted, ?_, rfl⟩
  rw [absolute, leadingSlashes_normal]
  rfl

/-! ## The way down -/

section

variable {names : List (List Char)} (descents : ∀ name ∈ names, IsDescent name)

include descents

theorem toChars_of_descents (some : names ≠ []) :
    toChars ⟨0, names⟩ = Text.joinLines ['/'] names :=
  toChars_of_names (isComponent_of_descents descents) some

theorem isAbsolute_of_descents : isAbsolute (String.ofList (toChars ⟨0, names⟩)) = false := by
  rw [Bool.eq_false_iff, Ne, isAbsolute_iff, String.toList_ofList]
  by_cases none : names = []
  · rw [none]
    decide
  · rw [toChars_of_descents descents none]
    exact head?_joinLines_ne (isComponent_of_descents descents)

theorem steps_of_descents : steps (String.ofList (toChars ⟨0, names⟩)) = names := by
  by_cases none : names = []
  · rw [none]
    decide
  · rw [steps, String.toList_ofList, toChars_of_descents descents none]
    exact filter_joinLines rfl (fun name => IsComponent.leads) (isComponent_of_descents descents)

theorem above_notMem_of_descents :
    above ∉ Path.components (String.ofList (toChars ⟨0, names⟩)) := by
  by_cases none : names = []
  · rw [none]
    decide
  · rw [Path.components, String.toList_ofList, toChars_of_descents descents none,
      filter_joinLines rfl (fun name component => decide_eq_true component.ne_nil)
        (isComponent_of_descents descents)]
    exact fun member => (descents above member).down rfl

end

theorem dropCommon_append (front back : List (List Char)) :
    dropCommon (front ++ back) front = (back, []) := by
  induction front with
  | nil =>
      cases back <;> rfl
  | cons name front ih => rw [List.cons_append, dropCommon, if_pos rfl, ih]

/-- The way to a path from one whose names it goes on from is the rest of its names. -/
theorem relative_of_components {path start : String} {rest : List (List Char)}
    (descents : ∀ name ∈ rest, IsDescent name)
    (names : Path.components path = Path.components start ++ rest) :
    relative path start = String.ofList (toChars ⟨0, rest⟩) := by
  rw [relative, names, dropCommon_append]
  dsimp only
  rw [List.map_nil, List.nil_append]
  cases rest with
  | nil => rfl
  | cons name rest => rw [toChars_of_descents descents (List.cons_ne_nil name rest)]

/-- A relative path that does not lead up, and that leads from one path to another. -/
structure IsWayDown (start relative path : String) : Prop where
  down : above ∉ Path.components relative
  back : normal (join start relative) = path

/-- Between normal paths one of which goes on from the other, the way leads down. -/
theorem isWayDown_relative {start whole : Path} (isStart : start.IsNormal)
    (isWhole : whole.IsNormal) (slashes : start.slashes = whole.slashes)
    (within : start.names <+: whole.names) :
    IsWayDown (String.ofList start.toChars)
      (relative (String.ofList whole.toChars) (String.ofList start.toChars))
      (String.ofList whole.toChars) := by
  obtain ⟨rest, names⟩ := within
  have descents : ∀ name ∈ rest, IsDescent name := by
    intro name member
    apply isWhole.descents name
    rw [← names]
    exact List.mem_append_right start.names member
  have parts : Path.components (String.ofList whole.toChars) =
      Path.components (String.ofList start.toChars) ++ rest := by
    rw [isWhole.components_toChars, isStart.components_toChars, names]
  rw [relative_of_components descents parts]
  constructor
  · exact above_notMem_of_descents descents
  · apply isWhole.normal_eq
    · rw [leadingSlashes_join (isAbsolute_of_descents descents), String.toList_ofList,
        isStart.leadingSlashes_toChars, slashes]
    · rw [steps_join (isAbsolute_of_descents descents), isStart.steps_toChars,
        steps_of_descents descents, names]

end LintBridge.Path
