import LintBridge.Proofs.Text.Lines

/-!
# Rows and line breaks

A text is cut at its line breaks, of which there are three kinds. As one of them is made
of the other two, a text could be cut in several ways; only one of these leaves together
what belongs together. Its lines are the rows of the text, and they are found again
whichever kind of line break is written between them.
-/

namespace LintBridge.Text

/-- The kinds of line breaks. -/
inductive LineBreak where
  | lineFeed
  | carriageReturn
  | pair
  deriving DecidableEq, Repr

/-- A line break as it is written. -/
def LineBreak.chars : LineBreak → List Char
  | .lineFeed => ['\n']
  | .carriageReturn => ['\r']
  | .pair => ['\r', '\n']

/-- A text in pieces: its first line, and then each line break with the line behind it. -/
structure Cut where
  first : List Char
  more : List (LineBreak × List Char)
  deriving DecidableEq, Repr

namespace Cut

/-- The lines between the line breaks. -/
def lines (cut : Cut) : List (List Char) :=
  cut.first :: cut.more.map (·.2)

/-- The text that is in pieces. -/
def text (cut : Cut) : List Char :=
  cut.first ++ cut.more.flatMap fun piece => piece.1.chars ++ piece.2

/-- Whether a text is cut at all its line breaks and nowhere within one: no line holds a
carriage return or a line feed, and no carriage return that is a line break of its own is
directly followed by a line feed. -/
structure IsProper (cut : Cut) : Prop where
  free : ∀ line ∈ cut.lines, '\r' ∉ line ∧ '\n' ∉ line
  whole : ∀ before line after, cut.more = before ++ (.carriageReturn, line) :: after →
    (text ⟨line, after⟩).head? ≠ some '\n'

/-- A character in front of the first line. -/
def cons (c : Char) (cut : Cut) : Cut :=
  { cut with first := c :: cut.first }

/-- A line break in front, and nothing in front of it. -/
def behind (lineBreak : LineBreak) (cut : Cut) : Cut :=
  ⟨[], (lineBreak, cut.first) :: cut.more⟩

/-- Cut a text at its line breaks. -/
def ofText : List Char → Cut
  | [] => ⟨[], []⟩
  | '\r' :: '\n' :: rest => (ofText rest).behind .pair
  | c :: rest =>
      if c = '\r' then (ofText rest).behind .carriageReturn
      else if c = '\n' then (ofText rest).behind .lineFeed
      else (ofText rest).cons c

variable {cut : Cut}

@[simp] theorem text_cons (c : Char) (cut : Cut) : (cut.cons c).text = c :: cut.text := rfl

@[simp] theorem text_behind (lineBreak : LineBreak) (cut : Cut) :
    (cut.behind lineBreak).text = lineBreak.chars ++ cut.text := by
  simp [behind, text]

@[simp] theorem lines_cons (c : Char) (cut : Cut) : (cut.cons c).lines = consHead c cut.lines := rfl

@[simp] theorem lines_behind (lineBreak : LineBreak) (cut : Cut) :
    (cut.behind lineBreak).lines = [] :: cut.lines := rfl

theorem text_ofText (text : List Char) : (ofText text).text = text := by
  fun_induction ofText text with
  | case1 => rfl
  | case2 rest ih => rw [text_behind, ih]; rfl
  | case3 rest _ ih => rw [text_behind, ih]; rfl
  | case4 rest _ _ ih => rw [text_behind, ih]; rfl
  | case5 c rest _ _ _ ih => rw [text_cons, ih]

theorem lines_ofText (text : List Char) : (ofText text).lines = splitRows text := by
  fun_induction ofText text with
  | case1 => rfl
  | case2 rest ih => rw [lines_behind, ih, splitRows]
  | case3 rest several ih => rw [lines_behind, ih, splitRows.eq_3 _ _ several, if_pos (.inl rfl)]
  | case4 rest several _ ih => rw [lines_behind, ih, splitRows.eq_3 _ _ several, if_pos (.inr rfl)]
  | case5 c rest several noReturn noFeed ih =>
      rw [lines_cons, ih, splitRows.eq_3 _ _ several, if_neg (by simp [noReturn, noFeed])]

/-- Every text in pieces comes from the empty one by putting characters and line breaks in
front. -/
theorem induct {motive : Cut → Prop} (empty : motive ⟨[], []⟩)
    (cons : ∀ c cut, motive cut → motive (cut.cons c))
    (behind : ∀ lineBreak cut, motive cut → motive (cut.behind lineBreak)) (cut : Cut) :
    motive cut := by
  obtain ⟨first, more⟩ := cut
  -- A first line may be put in front of whatever is there without one.
  have lead : ∀ more, motive ⟨[], more⟩ → ∀ first, motive ⟨first, more⟩ := by
    intro more bare first
    induction first with
    | nil => exact bare
    | cons c first ih => exact cons c _ ih
  apply lead
  induction more with
  | nil => exact empty
  | cons piece more ih => exact behind piece.1 ⟨piece.2, more⟩ (lead more ih piece.2)

theorem isProper_empty : IsProper ⟨[], []⟩ :=
  ⟨by simp [lines], by simp⟩

theorem isProper_cons_iff (c : Char) (cut : Cut) :
    (cut.cons c).IsProper ↔ (c ≠ '\r' ∧ c ≠ '\n') ∧ cut.IsProper := by
  constructor
  · rintro ⟨free, whole⟩
    rcases List.forall_mem_cons.mp free with ⟨⟨noReturn, noFeed⟩, rest⟩
    rw [cons, List.mem_cons, not_or] at noReturn noFeed
    exact ⟨⟨Ne.symm noReturn.1, Ne.symm noFeed.1⟩,
      List.forall_mem_cons.mpr ⟨⟨noReturn.2, noFeed.2⟩, rest⟩, whole⟩
  · rintro ⟨⟨noReturn, noFeed⟩, free, whole⟩
    rcases List.forall_mem_cons.mp free with ⟨first, rest⟩
    refine ⟨List.forall_mem_cons.mpr ⟨?_, rest⟩, whole⟩
    rw [cons, List.mem_cons, not_or, List.mem_cons, not_or]
    exact ⟨⟨noReturn.symm, first.1⟩, noFeed.symm, first.2⟩

theorem isProper_behind_iff (lineBreak : LineBreak) (cut : Cut) :
    (cut.behind lineBreak).IsProper ↔
      (lineBreak = .carriageReturn → cut.text.head? ≠ some '\n') ∧ cut.IsProper := by
  constructor
  · rintro ⟨free, whole⟩
    refine ⟨?_, (List.forall_mem_cons.mp free).2, ?_⟩
    · rintro rfl
      exact whole [] cut.first cut.more rfl
    · intro before line after same
      apply whole ((lineBreak, cut.first) :: before) line after
      rw [behind, same, List.cons_append]
  · rintro ⟨apart, free, whole⟩
    refine ⟨List.forall_mem_cons.mpr ⟨⟨List.not_mem_nil, List.not_mem_nil⟩, free⟩, ?_⟩
    intro before line after same
    cases before with
    | nil =>
        cases same
        exact apart rfl
    | cons piece before => exact whole before line after (List.cons.inj same).2

/-- Cutting a text at its line breaks leaves no line break uncut, and none in parts. -/
theorem isProper_ofText (text : List Char) : (ofText text).IsProper := by
  fun_induction ofText text with
  | case1 => exact isProper_empty
  | case2 rest ih => exact (isProper_behind_iff _ _).mpr ⟨nofun, ih⟩
  | case3 rest several ih =>
      refine (isProper_behind_iff _ _).mpr ⟨fun _ => ?_, ih⟩
      rw [text_ofText]
      intro feed
      obtain ⟨rest, rfl⟩ := List.head?_eq_some_iff.mp feed
      exact several rest rfl rfl
  | case4 rest _ _ ih => exact (isProper_behind_iff _ _).mpr ⟨nofun, ih⟩
  | case5 c rest _ noReturn noFeed ih =>
      exact (isProper_cons_iff _ _).mpr ⟨⟨noReturn, noFeed⟩, ih⟩

theorem IsProper.ofText_text (proper : cut.IsProper) : ofText cut.text = cut := by
  induction cut using induct with
  | empty => rfl
  | cons c cut ih =>
      rw [isProper_cons_iff] at proper
      rcases proper with ⟨⟨noReturn, noFeed⟩, proper⟩
      rw [text_cons, ofText.eq_3 _ _ fun _ same => absurd same noReturn, if_neg noReturn,
        if_neg noFeed, ih proper]
  | behind lineBreak cut ih =>
      rw [isProper_behind_iff] at proper
      rw [text_behind]
      cases lineBreak with
      | lineFeed =>
          rw [LineBreak.chars, List.singleton_append, ofText.eq_3 _ _ (by simp),
            if_neg (by decide), if_pos rfl, ih proper.2]
      | carriageReturn =>
          have apart := proper.1 rfl
          have single : ∀ rest, '\r' = '\r' → cut.text = '\n' :: rest → False := by
            intro rest _ same
            rw [same] at apart
            exact apart rfl
          rw [LineBreak.chars, List.singleton_append, ofText.eq_3 _ _ single, if_pos rfl,
            ih proper.2]
      | pair => rw [LineBreak.chars, List.cons_append, List.singleton_append, ofText, ih proper.2]

theorem isProper_and_text_eq_iff (text : List Char) :
    cut.IsProper ∧ cut.text = text ↔ cut = ofText text := by
  constructor
  · rintro ⟨proper, rfl⟩
    exact proper.ofText_text.symm
  · rintro rfl
    exact ⟨isProper_ofText text, text_ofText text⟩

-- Only the line feed that directly follows a carriage return belongs to it.
example : ofText ['a', '\r', '\n', '\n', '\r', '\r', 'b'] =
    ⟨['a'], [(.pair, []), (.lineFeed, []), (.carriageReturn, []), (.carriageReturn, ['b'])]⟩ := by
  decide

/-- Lines with the same line break between all of them. -/
def uniform (lineBreak : LineBreak) (first : List Char) (others : List (List Char)) : Cut :=
  ⟨first, others.map (lineBreak, ·)⟩

theorem lines_uniform (lineBreak : LineBreak) (first : List Char) (others : List (List Char)) :
    (uniform lineBreak first others).lines = first :: others := by
  simp [uniform, lines, Function.comp_def]

theorem text_uniform (lineBreak : LineBreak) (first : List Char) (others : List (List Char)) :
    (uniform lineBreak first others).text = joinLines lineBreak.chars (first :: others) := by
  induction others generalizing first with
  | nil => simp [uniform, text, joinLines]
  | cons second others ih =>
      rw [joinLines_cons (List.cons_ne_nil _ _), ← ih, uniform, uniform, text, text,
        List.map_cons, List.flatMap_cons]
      simp only [List.append_assoc]

/-- A carriage return may be followed by another one, or by a line, but not by a line feed,
if all line breaks are of one kind. -/
theorem isProper_uniform (lineBreak : LineBreak) {first : List Char} {others : List (List Char)}
    (free : ∀ line ∈ first :: others, '\r' ∉ line ∧ '\n' ∉ line) :
    (uniform lineBreak first others).IsProper := by
  refine ⟨by rwa [lines_uniform], ?_⟩
  intro before line after same
  rcases List.map_eq_append_iff.mp same with ⟨earlier, rest, rfl, -, here⟩
  rcases List.map_eq_cons_iff.mp here with ⟨found, later, rfl, equal, rfl⟩
  cases equal
  have freeHere : '\n' ∉ line := (free line (by simp)).2
  cases line with
  | nil =>
      cases later with
      | nil => simp [text]
      | cons next later => simp [text, LineBreak.chars]
  | cons c line =>
      intro feed
      cases feed
      exact freeHere List.mem_cons_self

end Cut

theorem notMem_of_mem_splitRows {text line : List Char} (member : line ∈ splitRows text) :
    '\r' ∉ line ∧ '\n' ∉ line := by
  rw [← Cut.lines_ofText] at member
  exact (Cut.isProper_ofText text).free line member

/-- Rows are found again whichever kind of line break is written between them. -/
theorem splitRows_joinLines (lineBreak : LineBreak) {lines : List (List Char)}
    (some : lines ≠ []) (free : ∀ line ∈ lines, '\r' ∉ line ∧ '\n' ∉ line) :
    splitRows (joinLines lineBreak.chars lines) = lines := by
  obtain ⟨first, others, rfl⟩ := List.exists_cons_of_ne_nil some
  have proper := Cut.isProper_uniform lineBreak free
  rw [← Cut.text_uniform, ← Cut.lines_ofText, proper.ofText_text, Cut.lines_uniform]

end LintBridge.Text
