import LintBridge.Host.Disk
import LintBridge.Proofs.Path
import LintBridge.Settings.Archive

/-!
# Directories stay

Making a directory puts new directories where nothing was. So every path that leads
to something leads to the same thing afterwards. Writing a file takes no directory
away, so the file is found where it was written.
-/

namespace LintBridge.Disk

variable {disk larger : Disk}

theorem node?_put_of_ne {place other : Place} {node : Node} (different : other ≠ place) :
    (disk.put place node).node? other = disk.node? other := by
  have apart : (other == place) = false := by simpa using different
  rw [node?, node?, put, List.lookup_cons, apart, Archive.lookup_filter_ne, if_neg different]

/-- A disk has everything that another disk has, at the same places. -/
def Extends (disk larger : Disk) : Prop :=
  ∀ place node, disk.node? place = some node → larger.node? place = some node

theorem Extends.refl (disk : Disk) : disk.Extends disk :=
  fun _ _ there => there

theorem extends_put {place : Place} (free : disk.node? place = none) (node : Node) :
    disk.Extends (disk.put place node) := by
  intro other found there
  rw [node?_put_of_ne]
  · exact there
  · rintro rfl
    rw [free] at there
    cases there

theorem Extends.trans {largest : Disk} (first : disk.Extends larger)
    (second : larger.Extends largest) : disk.Extends largest :=
  fun place node there => second place node (first place node there)

theorem extends_makeDirectories {place : Place} {names : List (List Char)}
    (done : disk.makeDirectories place names = .ok larger) : disk.Extends larger := by
  induction names generalizing disk place with
  | nil =>
      rw [makeDirectories] at done
      split at done
      · cases done
        exact .refl _
      · cases done
  | cons name names ih =>
      rw [makeDirectories] at done
      split at done
      · cases done
      split at done
      · exact ih done
      split at done
      · exact ih done
      split at done
      · cases done
      dsimp only at done
      split at done
      · rename_i free
        exact (extends_put free .directory).trans (ih done)
      · exact ih done

theorem extends_makeDirectory {directory path : String}
    (done : disk.makeDirectory directory path = .ok larger) : disk.Extends larger :=
  extends_makeDirectories done

/-! ## Ways along directories -/

/-- A disk has all directories of another disk. -/
def KeepsDirectories (disk after : Disk) : Prop :=
  ∀ place, disk.node? place = some .directory → after.node? place = some .directory

theorem Extends.keepsDirectories (grown : disk.Extends larger) : disk.KeepsDirectories larger :=
  fun place there => grown place .directory there

theorem keepsDirectories_put {place : Place} (free : disk.isDirectory place = false)
    (node : Node) : disk.KeepsDirectories (disk.put place node) := by
  intro other there
  rw [node?_put_of_ne]
  · exact there
  · rintro rfl
    rw [isDirectory, there] at free
    cases free

/-- Where one name leads from a directory. -/
def enter (place : Place) (name : List Char) : Except PathFault Place :=
  if name = [] ∨ name = Path.here then .ok place
  else if name = Path.above then .ok place.dropLast
  else if maxNameBytes < (Text.encode name).length then .error .nameTooLong
  else .ok (place ++ [name])

theorem walk_nil (disk : Disk) (place : Place) : disk.walk place [] = .ok place := by
  rw [walk]

theorem walk_of_directory {place : Place} (there : disk.node? place = some .directory)
    (name : List Char) (names : List (List Char)) :
    disk.walk place (name :: names) = (enter place name).bind (disk.walk · names) := by
  rw [walk, there, enter]
  dsimp only
  split_ifs <;> rfl

theorem directory_of_walk {place last : Place} {name : List Char} {names : List (List Char)}
    (walked : disk.walk place (name :: names) = .ok last) :
    disk.node? place = some .directory := by
  rw [walk] at walked
  cases there : disk.node? place with
  | none =>
      rw [there] at walked
      cases walked
  | some node =>
      rw [there] at walked
      cases node with
      | file bytes executable => cases walked
      | program run => cases walked
      | directory => rfl

/-- A way leads through directories only, so it can still be gone if they are all kept. -/
theorem KeepsDirectories.walk {after : Disk} (kept : disk.KeepsDirectories after)
    {place last : Place} {names : List (List Char)}
    (walked : disk.walk place names = .ok last) : after.walk place names = .ok last := by
  induction names generalizing place with
  | nil =>
      rw [walk_nil] at walked ⊢
      exact walked
  | cons name names ih =>
      have there := directory_of_walk walked
      rw [walk_of_directory there] at walked
      rw [walk_of_directory (kept place there)]
      cases entered : enter place name with
      | error fault =>
          rw [entered] at walked
          cases walked
      | ok next =>
          rw [entered] at walked
          exact ih walked

theorem KeepsDirectories.locate {after : Disk} (kept : disk.KeepsDirectories after)
    {directory path : String} {place : Place}
    (located : disk.locate directory path = .ok place) :
    after.locate directory path = .ok place := by
  rw [Disk.locate] at located ⊢
  by_cases none : path.isEmpty = true
  · rw [if_pos none] at located
    cases located
  rw [if_neg none] at located ⊢
  by_cases long : maxPathBytes < path.utf8ByteSize
  · rw [if_pos long] at located
    cases located
  rw [if_neg long] at located ⊢
  exact kept.walk located

/-- A path that leads to something leads to the same thing on a larger disk. -/
theorem Extends.find (grown : disk.Extends larger) {directory path : String} {node : Node}
    (found : disk.find directory path = .ok node) : larger.find directory path = .ok node := by
  rw [Disk.find] at found ⊢
  cases located : disk.locate directory path with
  | error fault =>
      rw [located] at found
      cases found
  | ok place =>
      rw [located] at found
      rw [grown.keepsDirectories.locate located]
      cases there : disk.node? place with
      | none =>
          simp only [there] at found
          cases found
      | some other =>
          simp only [there] at found
          simp only [grown place other there]
          exact found

/-! ## Files that have been written -/

theorem node?_put_self {place : Place} (inside : place ≠ []) (node : Node) :
    (disk.put place node).node? place = some node := by
  rw [node?, if_neg inside, put, List.lookup_cons, beq_self_eq_true]

theorem locate_of_isAbsolute {path : String} (absolute : Path.isAbsolute path = true)
    (disk : Disk) (directory other : String) :
    disk.locate directory path = disk.locate other path := by
  rw [locate, locate, Path.join_of_isAbsolute absolute, Path.join_of_isAbsolute absolute]

theorem isDirectory_iff {place : Place} :
    disk.isDirectory place = true ↔ disk.node? place = some .directory := by
  rw [isDirectory]
  split <;> simp_all

theorem exists_of_write {directory path : String} {bytes : List UInt8} {executable : Bool}
    (written : disk.write directory path bytes executable = .ok larger) :
    ∃ place, disk.locate directory path = .ok place ∧ disk.isDirectory place = false ∧
      larger = disk.put place (.file bytes executable) := by
  rw [write] at written
  cases located : disk.locate directory path with
  | error fault =>
      rw [located] at written
      cases written
  | ok place =>
      rw [located] at written
      dsimp only at written
      split at written
      · cases written
      rename_i free
      split at written
      · cases written
      split at written
      · cases written
      cases written
      exact ⟨place, rfl, Bool.eq_false_iff.mpr free, rfl⟩

theorem keepsDirectories_of_write {directory path : String} {bytes : List UInt8}
    {executable : Bool} (written : disk.write directory path bytes executable = .ok larger) :
    disk.KeepsDirectories larger := by
  rcases exists_of_write written with ⟨place, -, free, rfl⟩
  exact keepsDirectories_put free _

theorem exists_of_addDirectory {directory path : String}
    (added : disk.addDirectory directory path = .ok larger) :
    ∃ place, disk.locate directory path = .ok place ∧ disk.node? place = none ∧
      disk.node? place.dropLast = some .directory ∧ larger = disk.put place .directory := by
  rw [addDirectory] at added
  cases located : disk.locate directory path with
  | error fault =>
      rw [located] at added
      cases added
  | ok place =>
      rw [located] at added
      dsimp only at added
      split at added
      · cases added
      rename_i free
      split at added
      · cases added
      rename_i above
      cases added
      exact ⟨place, rfl, by simpa using free, isDirectory_iff.mp (by simpa using above), rfl⟩

/-- A file that has been written at an absolute path is read back from anywhere. -/
theorem read_of_write {after : Disk} {directory path : String} {bytes : List UInt8}
    {executable : Bool} (absolute : Path.isAbsolute path = true)
    (written : disk.write directory path bytes executable = .ok after) (other : String) :
    after.read other path = .ok bytes := by
  rcases exists_of_write written with ⟨place, located, free, rfl⟩
  have inside : place ≠ [] := by
    rintro rfl
    cases free
  have kept := keepsDirectories_put free (.file bytes executable)
  have there : (disk.put place (.file bytes executable)).find other path =
      .ok (.file bytes executable) := by
    rw [find, locate_of_isAbsolute absolute _ other directory, kept.locate located]
    dsimp only
    rw [node?_put_self inside]
  rw [read, there]

/-! ## Tidy ways -/

theorem walk_append (disk : Disk) (place : Place) (names more : List (List Char)) :
    disk.walk place (names ++ more) = (disk.walk place names).bind (disk.walk · more) := by
  induction names generalizing place with
  | nil =>
      rw [List.nil_append, walk_nil]
      rfl
  | cons name names ih =>
      cases there : disk.node? place with
      | none => rw [List.cons_append, walk, walk, there]; rfl
      | some node =>
          cases node with
          | file bytes executable => rw [List.cons_append, walk, walk, there]; rfl
          | program run => rw [List.cons_append, walk, walk, there]; rfl
          | directory =>
              rw [List.cons_append, walk_of_directory there, walk_of_directory there]
              cases enter place name with
              | error fault => rfl
              | ok next => exact ih next

theorem walk_filter {place last : Place} {names : List (List Char)}
    (walked : disk.walk place names = .ok last) :
    disk.walk place (names.filter Path.leadsOn) = .ok last := by
  induction names generalizing place with
  | nil => exact walked
  | cons name names ih =>
      have there := directory_of_walk walked
      rw [walk_of_directory there] at walked
      by_cases stays : name = [] ∨ name = Path.here
      · rw [enter, if_pos stays] at walked
        rw [List.filter_cons_of_neg (mt Path.leadsOn_iff.mp (not_not_intro stays))]
        exact ih walked
      · rw [List.filter_cons_of_pos (Path.leadsOn_iff.mpr stays), walk_of_directory there]
        cases entered : enter place name with
        | error fault =>
            rw [entered] at walked
            cases walked
        | ok next =>
            rw [entered] at walked
            exact ih walked

/-- A place that a path leads to is reached by the names on the way. -/
theorem walk_of_locate {directory path : String} {place : Place}
    (absolute : Path.isAbsolute path = true) (located : disk.locate directory path = .ok place) :
    disk.walk [] (Path.steps path) = .ok place := by
  rw [locate] at located
  split at located
  · cases located
  split at located
  · cases located
  rw [Path.join_of_isAbsolute absolute] at located
  exact walk_filter located

theorem exists_of_write_join {parent name directory : String} {place : Place}
    {bytes : List UInt8} {executable : Bool} (absolute : Path.isAbsolute parent = true)
    (walked : disk.walk [] (Path.steps parent) = .ok place)
    (there : disk.node? place = some .directory)
    (above : disk.node? place.dropLast = some .directory) (free : '/' ∉ name.toList)
    (written : disk.write directory (Path.tidy (Path.join parent name)) bytes executable =
      .ok larger) :
    Path.IsName name ∧ larger = disk.put (place ++ [name.toList]) (.file bytes executable) := by
  rcases exists_of_write written with ⟨inner, located, file, rfl⟩
  have joined : Path.isAbsolute (Path.join parent name) = true :=
    Path.isAbsolute_join absolute name
  have reached := walk_of_locate (Path.isAbsolute_tidy joined) located
  rw [Path.steps_tidy joined, Path.steps_join (Path.isAbsolute_of_notMem free), walk_append,
    walked] at reached
  change disk.walk place (Path.steps name) = .ok inner at reached
  have noDirectory : ∀ other, disk.node? other = some .directory → inner ≠ other := by
    rintro _ occupied rfl
    rw [isDirectory_iff.mpr occupied] at file
    cases file
  -- A path to the directory itself or to the one above it is no path of a file.
  have stays : name = "" ∨ name = "." → False := by
    intro equal
    have nowhere : Path.steps name = [] := by
      rcases equal with rfl | rfl <;> decide
    rw [nowhere, walk_nil] at reached
    exact noDirectory place there (Except.ok.inj reached).symm
  have rises : name ≠ ".." := by
    rintro rfl
    rw [show Path.steps ".." = [Path.above] by decide, walk_of_directory there] at reached
    exact noDirectory place.dropLast above (Except.ok.inj reached).symm
  have isName : Path.IsName name :=
    ⟨free, fun none => stays (.inl none), fun here => stays (.inr here), rises⟩
  refine ⟨isName, ?_⟩
  have notAbove : name.toList ≠ Path.above := fun same => rises (String.toList_inj.mp same)
  rw [isName.steps_eq, walk_of_directory there, enter,
    if_neg (Path.leadsOn_iff.mp isName.leadsOn), if_neg notAbove] at reached
  split at reached
  · cases reached
  · cases Except.ok.inj ((walk_nil disk _).symm.trans reached)
    rfl

/-! ## What is outside of a place -/

/-- A disk has the same things as another one outside of a place. -/
def AgreesOutside (place : Place) (disk other : Disk) : Prop :=
  ∀ there, ¬ place <+: there → other.node? there = disk.node? there

theorem AgreesOutside.refl (place : Place) (disk : Disk) : AgreesOutside place disk disk :=
  fun _ _ => rfl

theorem AgreesOutside.put {place inner : Place} {other : Disk}
    (agrees : AgreesOutside place disk other) (within : place <+: inner) (node : Node) :
    AgreesOutside place disk (other.put inner node) := by
  intro there outside
  rw [node?_put_of_ne, agrees there outside]
  rintro rfl
  exact outside within

theorem lookup_filter_key {α β : Type} [BEq α] [LawfulBEq α] (keep : α → Bool)
    (entries : List (α × β)) (key : α) :
    (entries.filter fun entry => keep entry.1).lookup key =
      if keep key then entries.lookup key else none := by
  induction entries with
  | nil => simp
  | cons entry entries ih =>
      rcases entry with ⟨other, value⟩
      rw [List.lookup_cons]
      by_cases same : key = other
      · subst same
        by_cases kept : keep key = true
        · simp [kept]
        · simp [kept, ih]
      · have apart : (key == other) = false := by simpa using same
        by_cases kept : keep other = true
        · simp [kept, List.lookup_cons, apart, ih]
        · simp [kept, apart, ih]

theorem node?_removeTree {place : Place} (inside : place ≠ []) (there : Place) :
    (disk.removeTree place).node? there =
      if place <+: there then none else disk.node? there := by
  have kept := lookup_filter_key (!place.isPrefixOf ·) disk.entries there
  rw [node?, node?, removeTree, kept]
  by_cases below : place <+: there
  · have lower : there ≠ [] := by
      rintro rfl
      exact inside (List.prefix_nil.mp below)
    rw [if_neg lower, if_pos below, List.isPrefixOf_iff_prefix.mpr below]
    rfl
  · have apart : place.isPrefixOf there = false :=
      Bool.eq_false_iff.mpr fun same => below (List.isPrefixOf_iff_prefix.mp same)
    rw [if_neg below, apart]
    rfl

/-- A place is not below another one; it may be the other one itself. -/
def IsNotBelow (place there : Place) : Prop :=
  place <+: there → there = place

/-- A name leads from a place that is not below another one to such a place again. -/
theorem IsNotBelow.enter {place start next : Place} {name : List Char}
    (notBelow : IsNotBelow place start) (apart : start ≠ place)
    (entered : Disk.enter start name = .ok next) : IsNotBelow place next := by
  intro below
  rw [Disk.enter] at entered
  split at entered
  · cases entered
    exact notBelow below
  split at entered
  · cases entered
    exact absurd (notBelow (below.trans (List.dropLast_prefix start))) apart
  split at entered
  · cases entered
  cases entered
  rcases List.prefix_concat_iff.mp below with same | above
  · exact same.symm
  · exact absurd (notBelow above) apart

/-- A place that is not below one where nothing is has the same things on both disks. -/
theorem AgreesOutside.node? {place : Place} {other : Disk}
    (agrees : AgreesOutside place disk other) (free : disk.node? place = none)
    (gone : other.node? place = none) {there : Place} (notBelow : IsNotBelow place there) :
    other.node? there = disk.node? there := by
  by_cases below : place <+: there
  · rw [notBelow below, gone, free]
  · exact agrees there below

/-- A way does not depend on what is below a place where nothing is. -/
theorem AgreesOutside.walk {place : Place} {other : Disk}
    (agrees : AgreesOutside place disk other) (free : disk.node? place = none)
    (gone : other.node? place = none) {start : Place} (notBelow : IsNotBelow place start)
    (names : List (List Char)) :
    other.walk start names = disk.walk start names ∧
      ∀ last, disk.walk start names = .ok last → IsNotBelow place last := by
  induction names generalizing start with
  | nil =>
      rw [walk_nil, walk_nil]
      refine ⟨rfl, ?_⟩
      rintro _ ⟨⟩
      exact notBelow
  | cons name names ih =>
      have same := agrees.node? free gone notBelow
      cases there : disk.node? start with
      | none =>
          rw [Disk.walk, Disk.walk, same, there]
          exact ⟨rfl, nofun⟩
      | some node =>
          cases node with
          | file bytes executable =>
              rw [Disk.walk, Disk.walk, same, there]
              exact ⟨rfl, nofun⟩
          | program run =>
              rw [Disk.walk, Disk.walk, same, there]
              exact ⟨rfl, nofun⟩
          | directory =>
              have apart : start ≠ place := by
                rintro rfl
                rw [free] at there
                cases there
              rw [walk_of_directory there, walk_of_directory (same.trans there)]
              cases entered : Disk.enter start name with
              | error fault => exact ⟨rfl, nofun⟩
              | ok next => exact ih (notBelow.enter apart entered)

/-- Every path leads to the same thing if a place where nothing was is emptied again. -/
theorem AgreesOutside.find_removeTree {place : Place} {other : Disk}
    (agrees : AgreesOutside place disk other) (free : disk.node? place = none)
    (directory path : String) :
    (other.removeTree place).find directory path = disk.find directory path := by
  have inside : place ≠ [] := by
    rintro rfl
    cases free
  have emptied : AgreesOutside place disk (other.removeTree place) := by
    intro there outside
    rw [node?_removeTree inside, if_neg outside, agrees there outside]
  have gone : (other.removeTree place).node? place = none := by
    rw [node?_removeTree inside, if_pos (List.prefix_refl place)]
  have top : IsNotBelow place [] := fun below => (List.prefix_nil.mp below).symm
  rcases emptied.walk free gone top (Text.splitAtChar '/' (Path.join directory path).toList) with
    ⟨walks, past⟩
  rw [find, find, locate, locate, walks]
  split_ifs
  · rfl
  · rfl
  cases walked : disk.walk [] (Text.splitAtChar '/' (Path.join directory path).toList) with
  | error fault => rfl
  | ok last =>
      dsimp only
      rw [emptied.node? free gone (past last walked)]

/-- A path leads to a place where nothing was. Outside of that place nothing has changed,
so the path still leads there. -/
structure HasMade (disk : Disk) (current path : String) (place : Place) (after : Disk) :
    Prop where
  free : disk.node? place = none
  located : disk.locate current path = .ok place
  standing : after.locate current path = .ok place
  agrees : AgreesOutside place disk after

theorem HasMade.contains {current path : String} {place : Place} {after : Disk}
    (made : disk.HasMade current path place after) : disk.contains current path = false := by
  rw [Disk.contains, find, made.located]
  dsimp only
  rw [made.free]

theorem hasMade_of_addDirectory {current path : String}
    (added : disk.addDirectory current path = .ok larger) :
    ∃ place, disk.HasMade current path place larger ∧
      larger.node? place = some .directory ∧ larger.node? place.dropLast = some .directory := by
  rcases exists_of_addDirectory added with ⟨place, located, free, above, rfl⟩
  have inside : place ≠ [] := by
    rintro rfl
    cases free
  have kept := (extends_put free .directory).keepsDirectories
  have agrees := (AgreesOutside.refl place disk).put (List.prefix_refl place) .directory
  exact ⟨place, ⟨free, located, kept.locate located, agrees⟩,
    node?_put_self inside .directory, kept _ above⟩

/-- What is written below the place stays there. -/
theorem HasMade.write {current path name : String} {place : Place} {after : Disk}
    {bytes : List UInt8} {executable : Bool} (made : disk.HasMade current path place after)
    (absolute : Path.isAbsolute path = true) (there : after.node? place = some .directory)
    (above : after.node? place.dropLast = some .directory) (free : '/' ∉ name.toList)
    (written : after.write current (Path.tidy (Path.join path name)) bytes executable =
      .ok larger) :
    Path.IsName name ∧ disk.HasMade current path place larger := by
  rcases exists_of_write_join absolute (walk_of_locate absolute made.standing) there above free
    written with ⟨isName, same⟩
  refine ⟨isName, made.free, made.located,
    (keepsDirectories_of_write written).locate made.standing, ?_⟩
  rw [same]
  exact made.agrees.put (List.prefix_append _ _) _

end LintBridge.Disk
