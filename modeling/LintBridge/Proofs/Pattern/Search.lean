import LintBridge.Proofs.Pattern.Taking

/-!
# Which match is found

A pattern leads to many places; the order in which they are tried decides which one is
found. A search finds the first place of a text where the pattern leads anywhere, and a
lazy repetition stops as soon as what remains is satisfied.
-/

namespace LintBridge.Pattern

variable {pattern : Pattern} {place final : Place} {next : Next}

/-! ## Sequences -/

theorem run_all_cons (pattern : Pattern) (patterns : List Pattern) (place : Place)
    (next : Next) :
    run (all (pattern :: patterns)) place next =
      run pattern place fun after => run (all patterns) after next := by
  cases patterns with
  | nil => rfl
  | cons other patterns => rfl

theorem run_all_append (patterns more : List Pattern) (place : Place) (next : Next) :
    run (all (patterns ++ more)) place next =
      run (all patterns) place fun after => run (all more) after next := by
  induction patterns generalizing place with
  | nil => rfl
  | cons pattern patterns ih =>
      rw [List.cons_append, run_all_cons, run_all_cons]
      simp only [ih]

/-! ## The shortest repetition -/

/-- That a repetition of characters of a class reads some text up to the first place that
what remains accepts. -/
structure ReadsShortest (chars : CharClass) (next : Next) (place final : Place)
    (read : List Char) (after : Place) : Prop where
  reads : place.Reads read after
  captures : after.captures = place.captures
  inClass : ∀ c ∈ read, chars.holds c = true
  accepted : next after = some final
  passed : ∀ front back middle, read = front ++ back → back ≠ [] → place.Reads front middle →
    middle.captures = place.captures → next middle = none

theorem readsShortest_nil (chars : CharClass) (accepted : next place = some final) :
    ReadsShortest chars next place final [] place where
  reads := .nil place
  captures := rfl
  inClass := by simp
  accepted := accepted
  passed := fun _ _ _ parts nonempty =>
    absurd (List.append_eq_nil_iff.mp parts.symm).2 nonempty

theorem ReadsShortest.cons {chars : CharClass} {c : Char} {rest read : List Char}
    {after : Place} (text : place.rest = c :: rest) (holds : chars.holds c = true)
    (refused : next place = none)
    (shortest : ReadsShortest chars next ⟨rest, place.position + 1, place.captures⟩ final read
      after) :
    ReadsShortest chars next place final (c :: read) after where
  reads :=
    have first : place.Reads [c] ⟨rest, place.position + 1, place.captures⟩ := ⟨text, rfl⟩
    first.append shortest.reads
  captures := shortest.captures
  inClass := List.forall_mem_cons.mpr ⟨holds, shortest.inClass⟩
  accepted := shortest.accepted
  passed := by
    intro front back middle parts nonempty reads same
    cases front with
    | nil => rwa [reads.eq_of_nil same]
    | cons d front =>
        rcases List.cons.inj parts with ⟨rfl, others⟩
        have continues := reads.rest
        rw [text] at continues
        refine shortest.passed front back middle others nonempty
          ⟨(List.cons.inj continues).2, ?_⟩ same
        rw [reads.position, List.length_cons, Nat.add_comm front.length, Nat.add_assoc]

theorem readsShortest_of_iterate {chars : CharClass} (bound : Nat) :
    ∀ place, iterate (run (one chars)) false bound place next = some final →
      ∃ read after, ReadsShortest chars next place final read after := by
  induction bound with
  | zero =>
      intro place answer
      exact ⟨[], place, readsShortest_nil chars answer⟩
  | succ bound further =>
      intro place answer
      rw [iterate_succ] at answer
      cases stops : next place with
      | some found =>
          rw [stops] at answer
          exact ⟨[], place, readsShortest_nil chars (stops.trans answer)⟩
      | none =>
          rw [stops, prefer, if_neg Bool.false_ne_true, Option.none_or] at answer
          rcases reaches_of_run answer with ⟨_, ⟨c, rest, text, holds, rfl⟩, found⟩
          rw [if_neg (Nat.succ_ne_self _)] at found
          rcases further _ found with ⟨read, after, shortest⟩
          exact ⟨c :: read, after, shortest.cons text holds stops⟩

/-- A lazy repetition of a character reads no further than it has to. -/
theorem readsShortest_of_run_star {chars : CharClass}
    (answer : run (star false (one chars)) place next = some final) :
    ∃ read after, ReadsShortest chars next place final read after :=
  readsShortest_of_iterate (place.rest.length + 1) place answer

/-! ## The first match -/

/-- Places of a text from where nothing is matched are passed over. -/
theorem searchFrom_append (before rest : List Char) (position : Nat)
    (nothing : ∀ front back, before = front ++ back → back ≠ [] →
      run pattern ⟨back ++ rest, position + front.length, []⟩ some = none) :
    searchFrom pattern (before ++ rest) position =
      searchFrom pattern rest (position + before.length) := by
  induction before generalizing position with
  | nil => rfl
  | cons c before further =>
      have here : run pattern ⟨c :: (before ++ rest), position, []⟩ some = none :=
        nothing [] (c :: before) rfl (List.cons_ne_nil c before)
      have shifted : ∀ front : List Char,
          position + 1 + front.length = position + (c :: front).length := by
        intro front
        rw [List.length_cons]
        omega
      rw [List.cons_append, searchFrom, here, ← shifted]
      apply further
      intro front back parts nonempty
      rw [shifted]
      exact nothing (c :: front) back (congrArg (c :: ·) parts) nonempty

/-- A search finds what is matched from the first place of the text from where the pattern
leads anywhere. -/
theorem search_of_first {before rest : List Char}
    (found : run pattern ⟨rest, before.length, []⟩ some = some final)
    (first : ∀ front back after, before = front ++ back → back ≠ [] →
      ¬ pattern.Reaches ⟨back ++ rest, front.length, []⟩ after) :
    search pattern (before ++ rest) = some final.captures := by
  have passed : searchFrom pattern (before ++ rest) 0 =
      searchFrom pattern rest (0 + before.length) := by
    apply searchFrom_append
    intro front back parts nonempty
    rw [Nat.zero_add, Option.eq_none_iff_forall_ne_some]
    intro other answer
    rcases reaches_of_run answer with ⟨after, reaches, _⟩
    exact first front back after parts nonempty reaches
  rw [search, passed, Nat.zero_add]
  cases rest with
  | nil => rw [searchFrom, found, Option.map_some]
  | cons c rest => rw [searchFrom, found]

end LintBridge.Pattern
