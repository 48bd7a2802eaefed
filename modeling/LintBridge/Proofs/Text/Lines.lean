import LintBridge.Text.Lines
import Mathlib.Data.List.Basic

/-!
# Lines of a text

Lines that are written one after another, each ended by a separator that none of
them holds, are cut apart again at the separator. The lines of a report on which
something stands are what stands between line boundaries, so they may be counted
on either side of a boundary.
-/

namespace LintBridge.Text

variable {separator : Char}

theorem splitAtChar_append_cons {line : List Char} (free : separator ∉ line)
    (rest : List Char) :
    splitAtChar separator (line ++ separator :: rest) = line :: splitAtChar separator rest := by
  induction line with
  | nil => simp [splitAtChar]
  | cons c line cut =>
      rw [List.mem_cons, not_or] at free
      rw [List.cons_append, splitAtChar, if_neg fun equal => free.1 equal.symm, cut free.2,
        consHead_cons]

theorem splitAtChar_eq_singleton {line : List Char} (free : separator ∉ line) :
    splitAtChar separator line = [line] := by
  induction line with
  | nil => rfl
  | cons c line cut =>
      rw [List.mem_cons, not_or] at free
      rw [splitAtChar, if_neg fun equal => free.1 equal.symm, cut free.2, consHead_cons]

/-- What follows the last separator is an empty line. -/
theorem splitAtChar_flatMap {α : Type} (render : α → List Char) (items : List α)
    (free : ∀ item ∈ items, separator ∉ render item) :
    splitAtChar separator (items.flatMap fun item => render item ++ [separator]) =
      items.map render ++ [[]] := by
  induction items with
  | nil => rfl
  | cons item items others =>
      rw [List.flatMap_cons, List.append_assoc, List.singleton_append,
        splitAtChar_append_cons (free item List.mem_cons_self),
        others fun other member => free other (List.mem_cons_of_mem item member)]
      rfl

theorem splitAtChar_cons_self (rest : List Char) :
    splitAtChar separator (separator :: rest) = [] :: splitAtChar separator rest := by
  rw [splitAtChar, if_pos rfl]

theorem splitAtChar_append (text rest : List Char) :
    splitAtChar separator (text ++ separator :: rest) =
      splitAtChar separator text ++ splitAtChar separator rest := by
  induction text with
  | nil => exact splitAtChar_cons_self rest
  | cons c text ih =>
      rw [List.cons_append, splitAtChar, splitAtChar]
      split
      · rw [ih, List.cons_append]
      · rw [ih]
        rcases List.exists_cons_of_ne_nil (splitAtChar_ne_nil separator text) with
          ⟨line, lines, equal⟩
        rw [equal, List.cons_append, consHead_cons, consHead_cons, List.cons_append]

/-- After a character is put in front of some lines, each of them is there as before, or
begins with that character. -/
theorem mem_consHead {c : Char} {line : List Char} {lines : List (List Char)}
    (member : line ∈ consHead c lines) :
    line ∈ lines ∨ ∃ rest, line = c :: rest ∧ (rest = [] ∨ rest ∈ lines) := by
  cases lines with
  | nil => exact Or.inr ⟨[], List.mem_singleton.mp member, Or.inl rfl⟩
  | cons first lines =>
      rcases List.mem_cons.mp member with rfl | later
      · exact Or.inr ⟨first, rfl, Or.inr List.mem_cons_self⟩
      · exact Or.inl (List.mem_cons_of_mem first later)

theorem notMem_of_mem_splitAtChar {text line : List Char}
    (member : line ∈ splitAtChar separator text) : separator ∉ line := by
  induction text generalizing line with
  | nil =>
      rw [splitAtChar, List.mem_singleton] at member
      rw [member]
      exact List.not_mem_nil
  | cons c text ih =>
      rw [splitAtChar] at member
      split at member
      · rcases List.mem_cons.mp member with rfl | later
        · exact List.not_mem_nil
        · exact ih later
      · rename_i other
        rcases mem_consHead member with later | ⟨line, rfl, before⟩
        · exact ih later
        · rw [List.mem_cons, not_or]
          refine ⟨fun same => other same.symm, ?_⟩
          rcases before with rfl | later
          · exact List.not_mem_nil
          · exact ih later

theorem joinLines_cons {line : List Char} {lines : List (List Char)} (more : lines ≠ [])
    (between : List Char) :
    joinLines between (line :: lines) = line ++ between ++ joinLines between lines := by
  cases lines with
  | nil => exact absurd rfl more
  | cons other lines => rfl

theorem joinLines_append {front back : List (List Char)} (someFront : front ≠ [])
    (someBack : back ≠ []) (between : List Char) :
    joinLines between (front ++ back) =
      joinLines between front ++ between ++ joinLines between back := by
  induction front with
  | nil => exact absurd rfl someFront
  | cons line front ih =>
      by_cases last : front = []
      · rw [last]
        exact joinLines_cons someBack between
      · rw [List.cons_append, joinLines_cons (List.append_ne_nil_of_left_ne_nil last _),
          joinLines_cons last, ih last]
        simp only [List.append_assoc]

theorem joinLines_concat {names : List (List Char)} (nonempty : names ≠ [])
    (between name : List Char) :
    joinLines between (names ++ [name]) =
      joinLines between names ++ between ++ name :=
  joinLines_append nonempty (List.cons_ne_nil name []) between

theorem splitAtChar_joinLines {lines : List (List Char)} (some : lines ≠ [])
    (free : ∀ line ∈ lines, separator ∉ line) :
    splitAtChar separator (joinLines [separator] lines) = lines := by
  induction lines with
  | nil => exact absurd rfl some
  | cons line lines ih =>
      rw [List.forall_mem_cons] at free
      by_cases last : lines = []
      · rw [last, joinLines, splitAtChar_eq_singleton free.1]
      · rw [joinLines_cons last, List.append_assoc, List.singleton_append,
          splitAtChar_append_cons free.1, ih last free.2]

/-- With a separator behind them, some lines are a prefix of others exactly if more lines
follow them there. -/
theorem joinLines_concat_prefix_iff {front lines : List (List Char)} (someFront : front ≠ [])
    (freeFront : ∀ line ∈ front, separator ∉ line) (free : ∀ line ∈ lines, separator ∉ line) :
    joinLines [separator] front ++ [separator] <+: joinLines [separator] lines ↔
      ∃ back, back ≠ [] ∧ front ++ back = lines := by
  constructor
  · rintro ⟨rest, same⟩
    have some : lines ≠ [] := by
      rintro rfl
      simp [joinLines] at same
    refine ⟨splitAtChar separator rest, splitAtChar_ne_nil separator rest, ?_⟩
    rw [← splitAtChar_joinLines some free, ← same, List.append_assoc, List.singleton_append,
      splitAtChar_append, splitAtChar_joinLines someFront freeFront]
  · rintro ⟨back, someBack, rfl⟩
    rw [joinLines_append someFront someBack]
    exact List.prefix_append _ _

/-! ### Lines that are kept -/

section

variable {keep : List Char → Bool} (skips : keep [] = false)

include skips

/-- Separators at the front bring only empty lines. -/
theorem filter_splitAtChar_replicate (count : Nat) (text : List Char) :
    (splitAtChar separator (List.replicate count separator ++ text)).filter keep =
      (splitAtChar separator text).filter keep := by
  induction count with
  | zero => rfl
  | succ count ih =>
      rw [List.replicate_succ, List.cons_append, splitAtChar_cons_self,
        List.filter_cons_of_neg (by rw [skips]; exact Bool.false_ne_true), ih]

/-- Of joined lines, all that are kept are found again, also if there are none. -/
theorem filter_splitAtChar_joinLines {lines : List (List Char)}
    (free : ∀ line ∈ lines, separator ∉ line) (kept : ∀ line ∈ lines, keep line = true) :
    (splitAtChar separator (joinLines [separator] lines)).filter keep = lines := by
  by_cases none : lines = []
  · rw [none]
    exact List.filter_cons_of_neg (by rw [skips]; exact Bool.false_ne_true)
  · rw [splitAtChar_joinLines none free, List.filter_eq_self.mpr kept]

end

/-! ## Unified line breaks -/

theorem carriageReturn_notMem_unifyBreaks (text : List Char) : '\r' ∉ unifyBreaks text := by
  fun_induction unifyBreaks text with
  | case1 => exact List.not_mem_nil
  | case2 rest ih => simp [ih]
  | case3 c rest _ ih =>
      by_cases isReturn : c = '\r'
      · simp [isReturn, ih]
      · simp [isReturn, ih, Ne.symm isReturn]

/-- A text stays as it is exactly when all its breaks are line feeds. -/
theorem unifyBreaks_eq_self_iff (text : List Char) : unifyBreaks text = text ↔ '\r' ∉ text := by
  constructor
  · intro same
    rw [← same]
    exact carriageReturn_notMem_unifyBreaks text
  · intro free
    fun_induction unifyBreaks text with
    | case1 => rfl
    | case2 rest ih => exact absurd List.mem_cons_self free
    | case3 c rest _ ih =>
        rw [List.mem_cons, not_or] at free
        rw [if_neg fun isReturn => free.1 isReturn.symm, ih free.2]

/-! ## Lines of a report -/

theorem reportLines_lineFeed (rest : List Char) :
    reportLines ('\n' :: rest) = [] :: reportLines rest := by
  rw [reportLines.eq_3 _ _ (by simp), if_pos (by decide)]

theorem reportLines_unifyBreaks (text : List Char) :
    reportLines (unifyBreaks text) = reportLines text := by
  fun_induction unifyBreaks text with
  | case1 => rfl
  | case2 rest ih => rw [reportLines_lineFeed, ih, reportLines]
  | case3 c rest several ih =>
      rw [reportLines.eq_3 c rest several]
      by_cases isReturn : c = '\r'
      · rw [if_pos isReturn, reportLines_lineFeed, ih, isReturn, if_pos (by decide)]
      · rw [if_neg isReturn, reportLines.eq_3 _ _ fun _ same => absurd same isReturn, ih]

theorem foldr_consHead_cons (front line : List Char) (lines : List (List Char)) :
    front.foldr consHead (line :: lines) = (front ++ line) :: lines := by
  induction front with
  | nil => rfl
  | cons c front ih => rw [List.foldr_cons, ih, consHead_cons, List.cons_append]

theorem foldr_consHead_nil {line : List Char} (some : line ≠ []) :
    line.foldr consHead [] = [line] := by
  obtain ⟨front, c, rfl⟩ := (List.eq_nil_or_concat' line).resolve_left some
  rw [List.foldr_append, List.foldr_cons, List.foldr_nil, consHead_nil, foldr_consHead_cons]

theorem isLineBoundary_of_mem_reportLines {text line : List Char}
    (member : line ∈ reportLines text) : ∀ c ∈ line, isLineBoundary c = false := by
  fun_induction reportLines text generalizing line with
  | case1 => cases member
  | case2 rest ih | case3 c rest several ends ih =>
      rcases List.mem_cons.mp member with rfl | later
      · exact nofun
      · exact ih later
  | case4 c rest several inside ih =>
      rcases mem_consHead member with later | ⟨line, rfl, before⟩
      · exact ih later
      · refine List.forall_mem_cons.mpr ⟨Bool.eq_false_iff.mpr inside, ?_⟩
        rcases before with rfl | later
        · exact nofun
        · exact ih later

section

variable {line : List Char} (free : ∀ c ∈ line, isLineBoundary c = false)

include free

/-- Characters that end no line are put in front of the first line behind them. -/
theorem reportLines_append_of_free (rest : List Char) :
    reportLines (line ++ rest) = line.foldr consHead (reportLines rest) := by
  induction line with
  | nil => rfl
  | cons c line ih =>
      rw [List.forall_mem_cons] at free
      have inside : ¬ isLineBoundary c = true := by
        rw [free.1]
        exact Bool.false_ne_true
      have noReturn : c ≠ '\r' := by
        rintro rfl
        exact inside (by decide)
      rw [List.cons_append, reportLines.eq_3 _ _ fun _ same => absurd same noReturn,
        if_neg inside, ih free.2, List.foldr_cons]

theorem reportLines_append_lineFeed (rest : List Char) :
    reportLines (line ++ '\n' :: rest) = line :: reportLines rest := by
  rw [reportLines_append_of_free free, reportLines_lineFeed, foldr_consHead_cons,
    List.append_nil]

theorem reportLines_eq_singleton (some : line ≠ []) : reportLines line = [line] := by
  have alone := reportLines_append_of_free free []
  rw [List.append_nil, reportLines] at alone
  rw [alone, foldr_consHead_nil some]

end

/-- Lines that are joined are the lines of the report that they make up, if none of them is
empty. -/
theorem reportLines_joinLines {lines : List (List Char)} (some : ∀ line ∈ lines, line ≠ [])
    (free : ∀ line ∈ lines, ∀ c ∈ line, isLineBoundary c = false) :
    reportLines (joinLines ['\n'] lines) = lines := by
  induction lines with
  | nil => rfl
  | cons line lines ih =>
      rw [List.forall_mem_cons] at some free
      by_cases last : lines = []
      · rw [last, joinLines, reportLines_eq_singleton free.1 some.1]
      · rw [joinLines_cons last, List.append_assoc, List.singleton_append,
          reportLines_append_lineFeed free.1, ih some.2 free.2]

theorem modifyHead_nil_append (lines : List (List Char)) :
    lines.modifyHead ([] ++ ·) = lines := by
  cases lines <;> rfl

section

variable {keep : List Char → Bool} (blank : keep [] = false)

include blank

/-- Whatever passes over blank lines finds the same lines in a report as between its line
boundaries, with any text in front of the first one. -/
theorem filter_foldr_reportLines (text front : List Char) :
    (front.foldr consHead (reportLines text)).filter keep =
      ((text.splitOnP isLineBoundary).modifyHead (front ++ ·)).filter keep := by
  -- A line that ends leaves nothing to be put in front of the next one.
  have ended : ∀ rest : List Char,
      (∀ front : List Char, (front.foldr consHead (reportLines rest)).filter keep =
        ((rest.splitOnP isLineBoundary).modifyHead (front ++ ·)).filter keep) →
      (reportLines rest).filter keep = (rest.splitOnP isLineBoundary).filter keep := by
    intro rest ih
    have bare := ih []
    rwa [modifyHead_nil_append] at bare
  fun_induction reportLines text generalizing front with
  | case1 =>
      rcases List.eq_nil_or_concat front with rfl | ⟨front, c, rfl⟩
      · simp [List.splitOnP_nil, blank]
      · simp [List.splitOnP_nil, foldr_consHead_cons]
  | case2 rest ih =>
      rw [foldr_consHead_cons, List.append_nil, List.splitOnP_cons_eq_if_modifyHead,
        if_pos (by decide), List.splitOnP_cons_eq_if_modifyHead, if_pos (by decide),
        List.modifyHead_cons, List.append_nil, List.filter_cons, List.filter_cons,
        List.filter_cons_of_neg (by simp [blank]), ended rest ih]
  | case3 c rest several ends ih =>
      rw [foldr_consHead_cons, List.append_nil, List.splitOnP_cons_eq_if_modifyHead, if_pos ends,
        List.modifyHead_cons, List.append_nil, List.filter_cons, List.filter_cons, ended rest ih]
  | case4 c rest several inside ih =>
      have longer := ih (front ++ [c])
      rw [List.foldr_append, List.foldr_cons, List.foldr_nil] at longer
      rw [longer, List.splitOnP_cons_eq_if_modifyHead, if_neg inside, List.modifyHead_modifyHead]
      congr 2
      funext line
      simp

/-- The lines of a report on both sides of a line boundary, but for blank ones. -/
theorem filter_reportLines_append_cons {c : Char} (ends : isLineBoundary c = true)
    (left right : List Char) :
    (reportLines (left ++ c :: right)).filter keep =
      (reportLines left).filter keep ++ (reportLines right).filter keep := by
  have between : ∀ text, (reportLines text).filter keep =
      (text.splitOnP isLineBoundary).filter keep := by
    intro text
    have bare := filter_foldr_reportLines blank text []
    rwa [modifyHead_nil_append] at bare
  rw [between, between, between, List.splitOnP_append_cons left right ends, List.filter_append]

end

end LintBridge.Text
