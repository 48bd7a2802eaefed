import LintBridge.Proofs.Pattern.Match
import Mathlib.Data.List.Basic

/-!
# Texts that patterns take

Patterns without groups read texts of one kind wherever they stand. Sequences and
repetitions of characters are such patterns, and a group around one remembers the
text that it takes.
-/

namespace LintBridge

/-- One or more characters of a class. -/
def CharClass.IsRun (chars : CharClass) (text : List Char) : Prop :=
  text ≠ [] ∧ ∀ c ∈ text, chars.holds c = true

instance (chars : CharClass) (text : List Char) : Decidable (chars.IsRun text) :=
  decidable_of_iff (text ≠ [] ∧ text.all chars.holds = true)
    (and_congr_right fun _ => List.all_eq_true)

theorem CharClass.IsRun.notMem {chars : CharClass} {text : List Char} {c : Char}
    (run : chars.IsRun text) (outside : chars.holds c = false) : c ∉ text := by
  intro member
  rw [run.2 c member] at outside
  cases outside

/-- A run of a class ends before the first character that is not of the class. -/
theorem CharClass.IsRun.append_cons_inj {chars : CharClass} {left left' : List Char}
    {separator : Char} {right right' : List Char} (run : chars.IsRun left)
    (run' : chars.IsRun left') (ends : chars.holds separator = false)
    (equal : left ++ separator :: right = left' ++ separator :: right') :
    left = left' ∧ right = right' := by
  have takeWhile_eq : ∀ {text rest : List Char}, chars.IsRun text →
      (text ++ separator :: rest).takeWhile chars.holds = text := by
    intro text rest run
    rw [List.takeWhile_append_of_pos run.2, List.takeWhile_cons_of_neg (by simp [ends]),
      List.append_nil]
  have same : left = left' := by
    rw [← takeWhile_eq run, equal, takeWhile_eq run']
  subst same
  exact ⟨rfl, (List.cons.inj (List.append_cancel_left equal)).2⟩

namespace Pattern

/-- That a pattern reads the texts of one kind, wherever it stands, and nothing else. -/
def Takes (pattern : Pattern) (kind : List Char → Prop) : Prop :=
  ∀ place after, pattern.Reaches place after ↔
    ∃ read, kind read ∧ place.Reads read after ∧ after.captures = place.captures

variable {pattern left right : Pattern} {kind kind' : List Char → Prop}
  {place after : Place} {read more : List Char}

/-- There is a place within every text that is read, whatever the groups hold there. -/
theorem Place.Reads.split (reads : place.Reads (read ++ more) after) (captures : Captures) :
    ∃ middle, place.Reads read middle ∧ middle.Reads more after ∧
      middle.captures = captures := by
  have equal := reads.rest
  have moved := reads.position
  rw [List.append_assoc] at equal
  rw [List.length_append, ← Nat.add_assoc] at moved
  exact ⟨⟨more ++ after.rest, place.position + read.length, captures⟩, ⟨equal, rfl⟩,
    ⟨rfl, moved⟩, rfl⟩

theorem Place.Reads.eq_mk (reads : place.Reads read after) :
    after = ⟨after.rest, place.position + read.length, after.captures⟩ := by
  rw [← reads.position]

theorem Place.Reads.eq_of_nil (reads : place.Reads [] after)
    (same : after.captures = place.captures) : after = place := by
  rw [reads.eq_mk, same, ← show place.rest = after.rest from reads.rest]
  rfl

theorem Takes.congr (takes : pattern.Takes kind) (same : ∀ text, kind text ↔ kind' text) :
    pattern.Takes kind' := by
  intro place after
  rw [takes place after]
  simp only [same]

theorem takes_one (chars : CharClass) :
    (one chars).Takes fun text => ∃ c, text = [c] ∧ chars.holds c = true := by
  intro place after
  constructor
  · intro given
    rcases given with ⟨c, rest, equal, holds, rfl⟩
    exact ⟨[c], ⟨c, rfl, holds⟩, ⟨equal, rfl⟩, rfl⟩
  · intro given
    rcases given with ⟨_, ⟨c, rfl, holds⟩, reads, captures⟩
    refine ⟨c, after.rest, reads.rest, holds, ?_⟩
    rw [reads.eq_mk, captures]
    rfl

theorem takes_literal (c : Char) : (one (.literal c)).Takes fun text => text = [c] := by
  apply (takes_one _).congr
  intro text
  simp [CharClass.holds]

theorem Takes.seq (takes : left.Takes kind) (takes' : right.Takes kind') :
    (Pattern.seq left right).Takes fun text =>
      ∃ first second, text = first ++ second ∧ kind first ∧ kind' second := by
  intro place after
  constructor
  · intro given
    rcases given with ⟨middle, reached, reached'⟩
    rcases (takes _ _).mp reached with ⟨first, isKind, reads, captures⟩
    rcases (takes' _ _).mp reached' with ⟨second, isKind', reads', captures'⟩
    exact ⟨first ++ second, ⟨first, second, rfl, isKind, isKind'⟩, reads.append reads',
      captures'.trans captures⟩
  · intro given
    rcases given with ⟨_, ⟨first, second, rfl, isKind, isKind'⟩, reads, captures⟩
    rcases reads.split place.captures with ⟨middle, reads, reads', captures'⟩
    exact ⟨middle, (takes _ _).mpr ⟨first, isKind, reads, captures'⟩,
      (takes' _ _).mpr ⟨second, isKind', reads', captures.trans captures'.symm⟩⟩

/-- A character that may be present or not. -/
def onlyIf (present : Bool) (c : Char) : List Char :=
  if present then [c] else []

theorem takes_opt_literal (greedy : Bool) (c : Char) :
    (opt greedy (one (.literal c))).Takes fun text => ∃ present, text = onlyIf present c := by
  intro place after
  constructor
  · intro given
    rcases given with reached | rfl
    · rcases (takes_literal c _ _).mp reached with ⟨_, rfl, reads, captures⟩
      exact ⟨[c], ⟨true, rfl⟩, reads, captures⟩
    · exact ⟨[], ⟨false, rfl⟩, .nil after, rfl⟩
  · intro given
    rcases given with ⟨_, ⟨present, rfl⟩, reads, captures⟩
    cases present with
    | true => exact Or.inl ((takes_literal c _ _).mpr ⟨_, rfl, reads, captures⟩)
    | false => exact Or.inr (reads.eq_of_nil captures)

/-- A character that a group asks for is present when the group has matched. -/
theorem reaches_ifGroup_literal (name : String) (c : Char) :
    (ifGroup name (one (.literal c))).Reaches place after ↔
      place.Reads (onlyIf (place.captures.any (·.name == name)) c) after ∧
        after.captures = place.captures := by
  rw [Reaches]
  cases place.captures.any (·.name == name) with
  | true =>
      rw [if_pos rfl, takes_literal c place after]
      simp [onlyIf]
  | false =>
      rw [if_neg Bool.false_ne_true]
      constructor
      · intro equal
        rw [equal]
        exact ⟨.nil place, rfl⟩
      · intro given
        rcases given with ⟨reads, captures⟩
        exact reads.eq_of_nil captures

/-- A repetition of a character reads any number of characters of its class. -/
theorem takes_star_one (greedy : Bool) (chars : CharClass) :
    (star greedy (one chars)).Takes fun text => ∀ c ∈ text, chars.holds c = true := by
  intro place after
  constructor
  · intro reached
    have rounds : Rounds (one chars).Reaches place after := reached
    clear reached
    induction rounds with
    | done place => exact ⟨[], by simp, .nil place, rfl⟩
    | last reached stays =>
        rcases reached with ⟨c, rest, equal, holds, rfl⟩
        exact absurd stays (Nat.succ_ne_self _)
    | more reached moves rest further =>
        rcases (takes_one chars _ _).mp reached with ⟨_, ⟨c, rfl, holds⟩, reads, captures⟩
        rcases further with ⟨read, all, reads', captures'⟩
        exact ⟨c :: read, List.forall_mem_cons.mpr ⟨holds, all⟩, reads.append reads',
          captures'.trans captures⟩
  · intro given
    rcases given with ⟨read, all, reads, captures⟩
    induction read generalizing place with
    | nil =>
        rw [reads.eq_of_nil captures]
        exact .done place
    | cons c read rounds =>
        rcases List.forall_mem_cons.mp all with ⟨holds, all⟩
        rcases (show place.Reads ([c] ++ read) after from reads).split place.captures with
          ⟨middle, reads, reads', captures'⟩
        have round : (one chars).Reaches place middle :=
          (takes_one chars _ _).mpr ⟨[c], ⟨c, rfl, holds⟩, reads, captures'⟩
        refine .more round ?_ (rounds middle all reads' (captures.trans captures'.symm))
        rw [reads.position]
        simp

theorem takes_plus_one (greedy : Bool) (chars : CharClass) :
    (plus greedy (one chars)).Takes chars.IsRun := by
  apply ((takes_one chars).seq (takes_star_one greedy chars)).congr
  intro text
  constructor
  · intro given
    rcases given with ⟨_, rest, rfl, ⟨c, rfl, holds⟩, all⟩
    exact ⟨List.cons_ne_nil c rest, List.forall_mem_cons.mpr ⟨holds, all⟩⟩
  · intro given
    rcases given with ⟨nonempty, all⟩
    cases text with
    | nil => exact absurd rfl nonempty
    | cons c rest =>
        rcases List.forall_mem_cons.mp all with ⟨holds, all⟩
        exact ⟨[c], rest, rfl, ⟨c, rfl, holds⟩, all⟩

/-! ## Groups -/

/-- That what a pattern reads, and what its groups remember of it, is given by some
value, wherever the pattern stands. The groups also know the text that follows. -/
def Describes {α : Type} (pattern : Pattern) (text : α → List Char)
    (captures : α → List Char → Captures) : Prop :=
  ∀ place after, pattern.Reaches place after ↔
    ∃ value, place.Reads (text value) after ∧
      after.captures = captures value after.rest ++ place.captures

section Describes

variable {α β : Type} {text : α → List Char} {text' : β → List Char}
  {captures : α → List Char → Captures} {captures' : β → List Char → Captures}

/-- Values that stand for one another describe the same. -/
theorem Describes.map (describes : pattern.Describes text captures) (image : α → β)
    (onto : Function.Surjective image) (sameText : ∀ value, text' (image value) = text value)
    (sameCaptures : ∀ value, captures' (image value) = captures value) :
    pattern.Describes text' captures' := by
  intro place after
  rw [describes place after]
  constructor
  · intro given
    rcases given with ⟨value, reads, held⟩
    exact ⟨image value, by rwa [sameText], by rwa [sameCaptures]⟩
  · intro given
    rcases given with ⟨value, reads, held⟩
    rcases onto value with ⟨value, rfl⟩
    exact ⟨value, by rwa [← sameText], by rwa [← sameCaptures]⟩

theorem Takes.describes (takes : pattern.Takes kind) :
    pattern.Describes (fun text : { text // kind text } => text.val) fun _ _ => [] := by
  intro place after
  rw [takes place after]
  constructor
  · intro given
    rcases given with ⟨read, isKind, reads, held⟩
    exact ⟨⟨read, isKind⟩, reads, held⟩
  · intro given
    rcases given with ⟨⟨read, isKind⟩, reads, held⟩
    exact ⟨read, isKind, reads, held⟩

theorem Takes.describes_group (takes : pattern.Takes kind) (name : String) :
    (group name pattern).Describes (fun text : { text // kind text } => text.val)
      fun text rest => [⟨name, text.val ++ rest, text.val.length⟩] := by
  intro place after
  constructor
  · intro given
    rcases given with ⟨inner, reached, rfl⟩
    rcases (takes _ _).mp reached with ⟨read, isKind, reads, held⟩
    refine ⟨⟨read, isKind⟩, ⟨reads.rest, reads.position⟩, ?_⟩
    simp [reads.position, reads.rest, held]
  · intro given
    rcases given with ⟨⟨read, isKind⟩, reads, held⟩
    refine ⟨{ after with captures := place.captures },
      (takes _ _).mpr ⟨read, isKind, ⟨reads.rest, reads.position⟩, rfl⟩, ?_⟩
    rw [reads.eq_mk, held, reads.rest]
    simp

theorem Describes.seq (describes : left.Describes text captures)
    (describes' : right.Describes text' captures') :
    (Pattern.seq left right).Describes
      (fun value : α × β => text value.1 ++ text' value.2)
      fun value rest =>
        captures' value.2 rest ++ captures value.1 (text' value.2 ++ rest) := by
  intro place after
  constructor
  · intro given
    rcases given with ⟨middle, reached, reached'⟩
    rcases (describes _ _).mp reached with ⟨first, reads, held⟩
    rcases (describes' _ _).mp reached' with ⟨second, reads', held'⟩
    refine ⟨⟨first, second⟩, reads.append reads', ?_⟩
    rw [held', held, reads'.rest, List.append_assoc]
  · intro given
    rcases given with ⟨⟨first, second⟩, reads, held⟩
    rcases reads.split (captures first (text' second ++ after.rest) ++ place.captures) with
      ⟨middle, reads, reads', held'⟩
    refine ⟨middle, (describes _ _).mpr ⟨first, reads, ?_⟩,
      (describes' _ _).mpr ⟨second, reads', ?_⟩⟩
    · rw [held', reads'.rest]
    · rw [held, held', List.append_assoc]

theorem Describes.opt (describes : pattern.Describes text captures) (greedy : Bool) :
    (Pattern.opt greedy pattern).Describes (fun value : Option α => value.elim [] text)
      fun value rest => value.elim [] (captures · rest) := by
  intro place after
  constructor
  · intro given
    rcases given with reached | rfl
    · rcases (describes _ _).mp reached with ⟨value, reads, held⟩
      exact ⟨some value, reads, held⟩
    · exact ⟨none, .nil after, rfl⟩
  · intro given
    rcases given with ⟨_ | value, reads, held⟩
    · exact Or.inr (reads.eq_of_nil held)
    · exact Or.inl ((describes _ _).mpr ⟨value, reads, held⟩)

end Describes

theorem reaches_all_cons (pattern : Pattern) (patterns : List Pattern) :
    (all (pattern :: patterns)).Reaches place after ↔
      ∃ middle, pattern.Reaches place middle ∧ (all patterns).Reaches middle after := by
  cases patterns with
  | nil => simp [all, Reaches]
  | cons next patterns => rfl

theorem reaches_all_append (patterns more : List Pattern) :
    (all (patterns ++ more)).Reaches place after ↔
      ∃ middle, (all patterns).Reaches place middle ∧ (all more).Reaches middle after := by
  induction patterns generalizing place with
  | nil => simp [all, Reaches]
  | cons pattern patterns further =>
      rw [List.cons_append, reaches_all_cons]
      simp only [further, reaches_all_cons]
      constructor
      · intro given
        rcases given with ⟨first, reached, middle, reached', last⟩
        exact ⟨middle, ⟨first, reached, reached'⟩, last⟩
      · intro given
        rcases given with ⟨middle, ⟨first, reached, reached'⟩, last⟩
        exact ⟨first, reached, middle, reached', last⟩

theorem Captures.text?_cons (capture : Capture) (captures : Captures) (name : String) :
    Captures.text? (capture :: captures) name =
      if capture.name = name then some capture.text else captures.text? name := by
  by_cases same : capture.name = name
  · simp [Captures.text?, same]
  · simp [Captures.text?, same]

@[simp] theorem Capture.text_mk_append (name : String) (read rest : List Char) :
    (Capture.mk name (read ++ rest) read.length).text = read := by
  simp [Capture.text]

end Pattern

end LintBridge
