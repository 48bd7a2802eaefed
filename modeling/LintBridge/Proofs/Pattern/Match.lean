import LintBridge.Pattern

/-!
# Matches of patterns

The places of a text that a pattern leads to, apart from the order in which they
are tried. Matching finds one of these places that what remains accepts, and it
finds one whenever there is one.
-/

namespace LintBridge

namespace Pattern

/-- That rounds of a repetition lead from one place of a text to another. A round that
reads nothing is the last one. -/
inductive Rounds (round : Place → Place → Prop) : Place → Place → Prop where
  | done (place : Place) : Rounds round place place
  | last {place after : Place} (reached : round place after)
      (stays : after.position = place.position) : Rounds round place after
  | more {place middle after : Place} (reached : round place middle)
      (moves : middle.position ≠ place.position) (rest : Rounds round middle after) :
      Rounds round place after

/-- That a pattern leads from one place of a text to another. -/
def Reaches : Pattern → Place → Place → Prop
  | empty, place, after => after = place
  | start, place, after => place.position = 0 ∧ after = place
  | stop, place, after => (place.rest = [] ∨ place.rest = ['\n']) ∧ after = place
  | one chars, place, after =>
      ∃ c rest, place.rest = c :: rest ∧ chars.holds c = true ∧
        after = ⟨rest, place.position + 1, place.captures⟩
  | seq left right, place, after =>
      ∃ middle, left.Reaches place middle ∧ right.Reaches middle after
  | opt _ body, place, after => body.Reaches place after ∨ after = place
  | star _ body, place, after => Rounds body.Reaches place after
  | group name body, place, after =>
      ∃ inner, body.Reaches place inner ∧
        after = { inner with
          captures := ⟨name, place.rest, inner.position - place.position⟩ :: inner.captures }
  | ifGroup name body, place, after =>
      if place.captures.any (·.name == name) then body.Reaches place after
      else after = place

/-- That a text stands between one place and another. -/
structure Place.Reads (place : Place) (read : List Char) (after : Place) : Prop where
  rest : place.rest = read ++ after.rest
  position : after.position = place.position + read.length

namespace Place.Reads

variable {place middle after : Place} {read more : List Char}

theorem nil (place : Place) : place.Reads [] place :=
  ⟨rfl, rfl⟩

theorem append (first : place.Reads read middle) (second : middle.Reads more after) :
    place.Reads (read ++ more) after := by
  constructor
  · rw [first.rest, second.rest, List.append_assoc]
  · rw [second.position, first.position, List.length_append, Nat.add_assoc]

theorem rest_length_lt (reads : place.Reads read after)
    (further : after.position ≠ place.position) :
    after.rest.length < place.rest.length := by
  have moved := reads.position
  rw [reads.rest, List.length_append]
  omega

end Place.Reads

variable {pattern : Pattern} {place after final : Place} {next : Next}

theorem Reaches.exists_reads (reaches : pattern.Reaches place after) :
    ∃ read, place.Reads read after := by
  induction pattern generalizing place after with
  | empty =>
      rw [show after = place from reaches]
      exact ⟨[], .nil place⟩
  | start =>
      rw [reaches.2]
      exact ⟨[], .nil place⟩
  | stop =>
      rw [reaches.2]
      exact ⟨[], .nil place⟩
  | one chars =>
      rcases reaches with ⟨c, rest, equal, _, rfl⟩
      exact ⟨[c], equal, rfl⟩
  | seq left right leftReads rightReads =>
      rcases reaches with ⟨middle, first, second⟩
      rcases leftReads first with ⟨read, reads⟩
      rcases rightReads second with ⟨more, readsMore⟩
      exact ⟨read ++ more, reads.append readsMore⟩
  | opt greedy body bodyReads =>
      rcases reaches with taken | equal
      · exact bodyReads taken
      · rw [equal]
        exact ⟨[], .nil place⟩
  | star greedy body bodyReads =>
      have rounds : Rounds body.Reaches place after := reaches
      clear reaches
      induction rounds with
      | done place => exact ⟨[], .nil place⟩
      | last reached stays => exact bodyReads reached
      | more reached moves rest restReads =>
          rcases bodyReads reached with ⟨read, reads⟩
          rcases restReads with ⟨more, readsMore⟩
          exact ⟨read ++ more, reads.append readsMore⟩
  | group name body bodyReads =>
      rcases reaches with ⟨inner, reached, rfl⟩
      rcases bodyReads reached with ⟨read, reads⟩
      exact ⟨read, reads.rest, reads.position⟩
  | ifGroup name body bodyReads =>
      simp only [Reaches] at reaches
      split at reaches
      · exact bodyReads reaches
      · rw [reaches]
        exact ⟨[], .nil place⟩

/-! ## Preference -/

/-- The answer of a repetition or an option that prefers more or prefers less. -/
def prefer (greedy : Bool) (more less : Option Place) : Option Place :=
  if greedy then more.or less else less.or more

theorem prefer_eq_some {greedy : Bool} {more less : Option Place}
    (answer : prefer greedy more less = some final) :
    more = some final ∨ less = some final := by
  cases greedy with
  | true =>
      rcases Option.or_eq_some_iff.mp answer with found | ⟨_, found⟩
      · exact Or.inl found
      · exact Or.inr found
  | false =>
      rcases Option.or_eq_some_iff.mp answer with found | ⟨_, found⟩
      · exact Or.inr found
      · exact Or.inl found

theorem isSome_prefer {greedy : Bool} {more less : Option Place} :
    (prefer greedy more less).isSome = true ↔ more.isSome = true ∨ less.isSome = true := by
  cases greedy with
  | true => simp [prefer]
  | false => simp [prefer, or_comm]

theorem run_opt (greedy : Bool) (body : Pattern) (place : Place) (next : Next) :
    run (opt greedy body) place next = prefer greedy (run body place next) (next place) := by
  cases greedy <;> simp [run, prefer]

theorem iterate_succ (round : Place → Next → Option Place) (greedy : Bool) (bound : Nat)
    (place : Place) (next : Next) :
    iterate round greedy (bound + 1) place next =
      prefer greedy
        (round place fun after =>
          if after.position = place.position then next after
          else iterate round greedy bound after next)
        (next place) := by
  cases greedy <;> simp [iterate, prefer]

/-! ## Matching finds places that a pattern leads to -/

/-- What a repetition finds, it finds after rounds of what a single round does. -/
theorem reaches_of_iterate {round : Place → Next → Option Place}
    {step : Place → Place → Prop} {greedy : Bool}
    (sound : ∀ place next, round place next = some final →
      ∃ after, step place after ∧ next after = some final) (bound : Nat) :
    ∀ place, iterate round greedy bound place next = some final →
      ∃ after, Rounds step place after ∧ next after = some final := by
  induction bound with
  | zero =>
      intro place answer
      exact ⟨place, .done place, answer⟩
  | succ bound rounds =>
      intro place answer
      rw [iterate_succ] at answer
      rcases prefer_eq_some answer with more | less
      · rcases sound place _ more with ⟨middle, reached, found⟩
        split at found
        · rename_i stays
          exact ⟨middle, .last reached stays, found⟩
        · rename_i moves
          rcases rounds middle found with ⟨after, rest, found⟩
          exact ⟨after, .more reached moves rest, found⟩
      · exact ⟨place, .done place, less⟩

/-- What matching finds is found at a place that the pattern leads to. -/
theorem reaches_of_run (answer : run pattern place next = some final) :
    ∃ after, pattern.Reaches place after ∧ next after = some final := by
  induction pattern generalizing place next with
  | empty => exact ⟨place, rfl, answer⟩
  | start =>
      simp only [run] at answer
      split at answer
      · exact ⟨place, ⟨by assumption, rfl⟩, answer⟩
      · cases answer
  | stop =>
      simp only [run] at answer
      split at answer
      · exact ⟨place, ⟨by assumption, rfl⟩, answer⟩
      · cases answer
  | one chars =>
      simp only [run] at answer
      split at answer
      · cases answer
      · split at answer
        · exact ⟨_, ⟨_, _, by assumption, by assumption, rfl⟩, answer⟩
        · cases answer
  | seq left right leftSound rightSound =>
      rcases leftSound answer with ⟨middle, first, found⟩
      rcases rightSound found with ⟨after, second, found⟩
      exact ⟨after, ⟨middle, first, second⟩, found⟩
  | opt greedy body sound =>
      rw [run_opt] at answer
      rcases prefer_eq_some answer with taken | skipped
      · rcases sound taken with ⟨after, reached, found⟩
        exact ⟨after, Or.inl reached, found⟩
      · exact ⟨place, Or.inr rfl, skipped⟩
  | star greedy body sound =>
      apply reaches_of_iterate _ (place.rest.length + 1) place answer
      intro place next answer
      exact sound answer
  | group name body sound =>
      rcases sound answer with ⟨inner, reached, found⟩
      exact ⟨_, ⟨inner, reached, rfl⟩, found⟩
  | ifGroup name body sound =>
      simp only [run] at answer
      split at answer
      · rcases sound answer with ⟨after, reached, found⟩
        exact ⟨after, by simp [Reaches, *], found⟩
      · exact ⟨place, by simp [Reaches, *], answer⟩

/-! ## Matching finds every place that a pattern leads to -/

/-- A repetition finds what lies behind any number of rounds, as each of them but the last
leaves less text. -/
theorem isSome_iterate {round : Place → Next → Option Place}
    {step : Place → Place → Prop} {greedy : Bool}
    (complete : ∀ place after next, step place after →
      (next after).isSome = true → (round place next).isSome = true)
    (forward : ∀ place after, step place after → ∃ read, place.Reads read after)
    (rounds : Rounds step place after) (found : (next after).isSome = true) :
    ∀ bound, place.rest.length ≤ bound →
      (iterate round greedy (bound + 1) place next).isSome = true := by
  induction rounds with
  | done place =>
      intro bound _
      rw [iterate_succ, isSome_prefer]
      exact Or.inr found
  | last reached stays =>
      intro bound _
      rw [iterate_succ, isSome_prefer]
      refine Or.inl (complete _ _ _ reached ?_)
      rwa [if_pos stays]
  | more reached moves rest further =>
      intro bound enough
      rcases forward _ _ reached with ⟨read, reads⟩
      have shorter := reads.rest_length_lt moves
      rw [iterate_succ, isSome_prefer]
      refine Or.inl (complete _ _ _ reached ?_)
      rw [if_neg moves]
      cases bound with
      | zero => omega
      | succ bound => exact further found bound (by omega)

/-- Matching finds something when the pattern leads to a place that what remains
accepts. -/
theorem Reaches.isSome_run (reaches : pattern.Reaches place after)
    (found : (next after).isSome = true) : (run pattern place next).isSome = true := by
  induction pattern generalizing place after next with
  | empty =>
      rw [show after = place from reaches] at found
      exact found
  | start =>
      rw [reaches.2] at found
      simpa [run, reaches.1] using found
  | stop =>
      rw [reaches.2] at found
      simpa [run, reaches.1] using found
  | one chars =>
      rcases reaches with ⟨c, rest, equal, holds, rfl⟩
      simpa [run, equal, holds] using found
  | seq left right leftComplete rightComplete =>
      rcases reaches with ⟨middle, first, second⟩
      exact leftComplete first (rightComplete second found)
  | opt greedy body complete =>
      rw [run_opt, isSome_prefer]
      rcases reaches with taken | equal
      · exact Or.inl (complete taken found)
      · rw [equal] at found
        exact Or.inr found
  | star greedy body complete =>
      refine isSome_iterate ?_ ?_ reaches found _ (Nat.le_refl _)
      · intro place after next step found
        exact complete step found
      · intro place after step
        exact step.exists_reads
  | group name body complete =>
      rcases reaches with ⟨inner, reached, rfl⟩
      exact complete reached found
  | ifGroup name body complete =>
      simp only [Reaches] at reaches
      simp only [run]
      split at reaches
      · rw [if_pos (by assumption)]
        exact complete reaches found
      · rw [if_neg (by assumption), ← reaches]
        exact found

/-! ## Search -/

theorem reaches_of_searchFrom {captures : Captures} :
    ∀ text position, searchFrom pattern text position = some captures →
      ∃ before rest after, text = before ++ rest ∧
        pattern.Reaches ⟨rest, position + before.length, []⟩ after ∧
        after.captures = captures := by
  intro text
  induction text with
  | nil =>
      intro position answer
      rcases Option.map_eq_some_iff.mp answer with ⟨final, answer, equal⟩
      rcases reaches_of_run answer with ⟨after, reached, found⟩
      rw [Option.some.inj found] at reached
      exact ⟨[], [], final, rfl, reached, equal⟩
  | cons c text further =>
      intro position answer
      simp only [searchFrom] at answer
      split at answer
      · rename_i final here
        rcases reaches_of_run here with ⟨after, reached, found⟩
        rw [Option.some.inj found] at reached
        exact ⟨[], c :: text, final, rfl, reached, Option.some.inj answer⟩
      · rcases further _ answer with ⟨before, rest, after, equal, reached, captured⟩
        refine ⟨c :: before, rest, after, by rw [equal, List.cons_append], ?_, captured⟩
        rw [List.length_cons, Nat.add_comm before.length, ← Nat.add_assoc]
        exact reached

/-- What the groups match, they match on the way to a place that the pattern leads to. -/
theorem reaches_of_search {text : List Char} {captures : Captures}
    (answer : search pattern text = some captures) :
    ∃ before rest after, text = before ++ rest ∧
      pattern.Reaches ⟨rest, before.length, []⟩ after ∧ after.captures = captures := by
  rcases reaches_of_searchFrom text 0 answer with
    ⟨before, rest, after, equal, reached, captured⟩
  rw [Nat.zero_add] at reached
  exact ⟨before, rest, after, equal, reached, captured⟩

/-- A pattern that matches at the front of a text is not looked for any further. -/
theorem Reaches.search {text : List Char} (reaches : pattern.Reaches ⟨text, 0, []⟩ after) :
    ∃ first, pattern.Reaches ⟨text, 0, []⟩ first ∧
      search pattern text = some first.captures := by
  have found : (run pattern ⟨text, 0, []⟩ some).isSome = true :=
    reaches.isSome_run (by rfl)
  rcases Option.isSome_iff_exists.mp found with ⟨first, answer⟩
  rcases reaches_of_run answer with ⟨same, reached, equal⟩
  cases equal
  refine ⟨first, reached, ?_⟩
  cases text with
  | nil => simp [Pattern.search, searchFrom, answer]
  | cons c rest => simp [Pattern.search, searchFrom, answer]

end Pattern

end LintBridge
