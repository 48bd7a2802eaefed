import LintBridge.Text.Template
import Mathlib.Data.List.Basic
import Mathlib.Data.List.Induction
import Mathlib.Logic.Function.Basic
import Mathlib.Tactic.Linarith

/-!
# Filling templates

Placeholders can be filled one letter after the other or all in one pass. In the
first way of filling, the text that has been put in for one letter is looked through
for the next one. A placeholder that arises in this way makes the results differ,
unless it is filled with itself. None arises from a value that is inert, so that inert
values may be put in in any order.
-/

namespace LintBridge.Text

/-! ## Reading from the left -/

/-- The number of placeholders of a letter. -/
def placeholderCount (letter : Char) : List Char → Nat
  | [] => 0
  | c :: rest =>
      (if c = '%' ∧ rest.head? = some letter then 1 else 0) + placeholderCount letter rest

section

variable {letter : Char} {value : List Char}

theorem hasPlaceholder_eq_false_iff (text : List Char) :
    hasPlaceholder letter text = false ↔ placeholderCount letter text = 0 := by
  fun_induction hasPlaceholder letter text with
  | case1 => simp [placeholderCount]
  | case2 c => simp [placeholderCount]
  | case3 c d rest ih =>
      rw [placeholderCount]
      simp [ih]

theorem fill_cons (c : Char) (rest : List Char) :
    fill letter value (c :: rest) =
      if c = '%' ∧ rest.head? = some letter then value ++ fill letter value rest.tail
      else c :: fill letter value rest := by
  cases rest with
  | nil => simp [fill]
  | cons d rest => simp [fill]

theorem placeholderCount_cons_cons (c d : Char) (rest : List Char) :
    placeholderCount letter (c :: d :: rest) =
      (if c = '%' ∧ d = letter then 1 else 0) + placeholderCount letter (d :: rest) := by
  rw [placeholderCount]
  simp

theorem placeholderCount_cons_of_ne {c : Char} (plain : c ≠ '%') (rest : List Char) :
    placeholderCount letter (c :: rest) = placeholderCount letter rest := by
  simp [placeholderCount, plain]

/-- A placeholder may arise where two texts meet. -/
theorem placeholderCount_append (left right : List Char) :
    placeholderCount letter (left ++ right) =
      placeholderCount letter left + placeholderCount letter right +
        if left.getLast? = some '%' ∧ right.head? = some letter then 1 else 0 := by
  induction left with
  | nil => simp [placeholderCount]
  | cons c left ih =>
      cases left with
      | nil => simp [placeholderCount, Nat.add_comm]
      | cons d left =>
          rw [List.cons_append, List.cons_append, placeholderCount_cons_cons,
            ← List.cons_append, ih, placeholderCount_cons_cons, List.getLast?_cons_cons]
          omega

theorem length_fill (different : letter ≠ '%') (value text : List Char) :
    (fill letter value text).length + 2 * placeholderCount letter text =
      text.length + value.length * placeholderCount letter text := by
  fun_induction fill letter value text with
  | case1 => simp [placeholderCount]
  | case2 c => simp [placeholderCount]
  | case3 c d rest found ih =>
      have count : placeholderCount letter (c :: d :: rest) =
          placeholderCount letter rest + 1 := by
        rw [found.2, placeholderCount, placeholderCount_cons_of_ne different, found.1]
        simp [Nat.add_comm]
      rw [count, List.length_append, List.length_cons, List.length_cons]
      linarith
  | case4 c d rest other ih =>
      rw [placeholderCount, List.head?_cons, if_neg (by simpa using other), Nat.zero_add,
        List.length_cons, List.length_cons]
      linarith

theorem fill_self (text : List Char) :
    fill letter ['%', letter] text = text := by
  fun_induction fill letter ['%', letter] text with
  | case1 => rfl
  | case2 c => rfl
  | case3 c d rest found ih => simp [found.1, found.2, ih]
  | case4 c d rest other ih => rw [ih]

end

/-! ## Texts with gaps -/

/-- A text with gaps in it, all of which are filled with the same value. -/
def fillGaps (value : List Char) (text : List (Option Char)) : List Char :=
  text.flatMap fun
    | none => value
    | some c => [c]

section

variable {letter : Char} {value : List Char}

@[simp] theorem fillGaps_nil : fillGaps value [] = [] := rfl

@[simp] theorem fillGaps_gap (text : List (Option Char)) :
    fillGaps value (none :: text) = value ++ fillGaps value text := rfl

@[simp] theorem fillGaps_cons (c : Char) (text : List (Option Char)) :
    fillGaps value (some c :: text) = c :: fillGaps value text := rfl

@[simp] theorem fillGaps_map_append (inserted : List Char) (text : List (Option Char)) :
    fillGaps value (inserted.map some ++ text) = inserted ++ fillGaps value text := by
  induction inserted with
  | nil => rfl
  | cons c inserted ih => simp [ih]

theorem length_fillGaps (letter : Char) (value : List Char) (text : List (Option Char)) :
    (fillGaps value text).length + 2 * text.count none =
      (fillGaps ['%', letter] text).length + value.length * text.count none := by
  induction text with
  | nil => simp
  | cons gap text ih =>
      cases gap with
      | none =>
          simp only [fillGaps_gap, List.length_append, List.count_cons_self, List.length_cons,
            List.length_nil]
          linarith
      | some c =>
          rw [fillGaps_cons, fillGaps_cons, List.length_cons, List.length_cons,
            List.count_cons_of_ne (by simp)]
          linarith

/-- A text in which a placeholder stands for every gap has at least as many
placeholders as there are gaps. -/
theorem count_none_le (different : letter ≠ '%') (text : List (Option Char)) :
    text.count none ≤ placeholderCount letter (fillGaps ['%', letter] text) := by
  induction text with
  | nil => simp
  | cons gap text ih =>
      cases gap with
      | none =>
          rw [fillGaps_gap, List.cons_append, List.singleton_append, placeholderCount,
            placeholderCount_cons_of_ne different]
          simp only [List.count_cons_self, List.head?_cons, and_self, if_true]
          omega
      | some c =>
          rw [fillGaps_cons, placeholderCount, List.count_cons_of_ne (by simp)]
          omega

/-- A text that begins with the letter, in which a placeholder stands for every gap,
begins with the letter itself and not with a gap. -/
theorem eq_cons_of_head?_fillGaps (different : letter ≠ '%') {text : List (Option Char)}
    (begins : (fillGaps ['%', letter] text).head? = some letter) :
    ∃ rest, text = some letter :: rest := by
  cases text with
  | nil => cases begins
  | cons gap rest =>
      cases gap with
      | none =>
          cases begins
          exact absurd rfl different
      | some c =>
          cases begins
          exact ⟨rest, rfl⟩

/-- A placeholder that does not stand for a gap is filled as well, which makes the text
another one unless it is filled with itself. -/
theorem append_fill_eq_iff (different : letter ≠ '%') (text : List (Option Char)) :
    value ++ fill letter value (fillGaps ['%', letter] text) =
        '%' :: letter :: fillGaps value text ↔ value = ['%', letter] := by
  constructor
  · intro same
    have filled := length_fill different value (fillGaps ['%', letter] text)
    have gaps := length_fillGaps letter value text
    have lengths := congrArg List.length same
    rw [List.length_append, List.length_cons, List.length_cons] at lengths
    -- With `more` placeholders in all, the lengths agree only for values of length two.
    obtain ⟨more, total⟩ := Nat.exists_eq_add_of_le (count_none_le different text)
    rw [total] at filled
    have product : value.length * (more + 1) = 2 * (more + 1) := by
      linarith
    have two : value.length = 2 := Nat.eq_of_mul_eq_mul_right (Nat.succ_pos more) product
    have parts : value ++ fill letter value (fillGaps ['%', letter] text) =
        ['%', letter] ++ fillGaps value text := same
    exact List.append_inj_left parts two
  · intro itself
    rw [itself, fill_self]
    rfl

/-- Filling all placeholders of a text comes to the same as filling its gaps exactly if
every placeholder stands for a gap, or is filled with itself. -/
theorem fill_fillGaps_eq_iff (different : letter ≠ '%') (value : List Char)
    (text : List (Option Char)) :
    fill letter value (fillGaps ['%', letter] text) = fillGaps value text ↔
      value = ['%', letter] ∨
        placeholderCount letter (fillGaps ['%', letter] text) = text.count none := by
  induction text with
  | nil => simp [fill, placeholderCount]
  | cons gap text ih =>
      cases gap with
      | none =>
          rw [fillGaps_gap, List.cons_append, List.singleton_append, fill_cons,
            placeholderCount, placeholderCount_cons_of_ne different]
          simp only [List.head?_cons, and_self, if_true, List.tail_cons, fillGaps_gap,
            List.append_cancel_left_eq, ih, List.count_cons_self]
          rw [Nat.add_comm 1, Nat.add_right_cancel_iff]
      | some c =>
          rw [fillGaps_cons, fillGaps_cons, fill_cons, placeholderCount]
          by_cases arises : c = '%' ∧ (fillGaps ['%', letter] text).head? = some letter
          · obtain ⟨rest, rfl⟩ := eq_cons_of_head?_fillGaps different arises.2
            have fewer := count_none_le different rest
            rw [if_pos arises, if_pos arises, arises.1, fillGaps_cons, fillGaps_cons,
              List.tail_cons, append_fill_eq_iff different, placeholderCount_cons_of_ne different]
            rw [List.count_cons_of_ne (by simp), List.count_cons_of_ne (by simp)]
            -- The placeholder that arises is one too many.
            constructor
            · exact Or.inl
            · rintro (itself | equal)
              · exact itself
              · omega
          · rw [if_neg arises, if_neg arises, List.cons_inj_right, ih]
            simp

end

/-! ## Filling in one pass -/

/-- Put values in the places of several placeholders, and leave gaps in the places of one
more. -/
def fillAround (value? : Char → Option (List Char)) (letter : Char) :
    List Char → List (Option Char)
  | [] => []
  | [c] => [some c]
  | c :: d :: rest =>
      if c = '%' ∧ d = letter then none :: fillAround value? letter rest
      else
        match (if c = '%' then value? d else none) with
        | some value => value.map some ++ fillAround value? letter rest
        | none => some c :: fillAround value? letter (d :: rest)

section

variable {value? : Char → Option (List Char)} {letter : Char} {value : List Char}

theorem fillAll_cons_of_ne {c : Char} (plain : c ≠ '%') (rest : List Char) :
    fillAll value? (c :: rest) = c :: fillAll value? rest := by
  cases rest with
  | nil => rfl
  | cons d rest => simp [fillAll, plain]

/-- Filling the gaps is filling one more placeholder in the same pass. -/
theorem fillGaps_fillAround (text : List Char) :
    fillGaps value (fillAround value? letter text) =
      fillAll (Function.update value? letter (some value)) text := by
  fun_induction fillAround value? letter text with
  | case1 => rfl
  | case2 c => rfl
  | case3 c d rest found ih => simp [fillAll, found.1, found.2, ih]
  | case4 c d rest other inserted found ih =>
      have apart : c = '%' → d ≠ letter := fun percent same => other ⟨percent, same⟩
      by_cases percent : c = '%'
      · rw [if_pos percent] at found
        simp [fillAll, percent, apart percent, found, ih]
      · rw [if_neg percent] at found
        cases found
  | case5 c d rest other found ih =>
      have apart : c = '%' → d ≠ letter := fun percent same => other ⟨percent, same⟩
      by_cases percent : c = '%'
      · rw [if_pos percent] at found
        simp [fillAll, percent, apart percent, found, ih]
      · simp [fillAll, percent, ih]

/-- A letter that has no value may as well stand for its own placeholder. -/
theorem fillAll_update_self (different : letter ≠ '%') (unfilled : value? letter = none)
    (text : List Char) :
    fillAll (Function.update value? letter (some ['%', letter])) text = fillAll value? text := by
  fun_induction fillAll value? text with
  | case1 => rfl
  | case2 c => rfl
  | case3 c d rest inserted found ih =>
      by_cases percent : c = '%'
      · rw [if_pos percent] at found
        have other : d ≠ letter := by
          rintro rfl
          rw [unfilled] at found
          cases found
        simp [fillAll, percent, other, found, ih]
      · rw [if_neg percent] at found
        cases found
  | case4 c d rest found ih =>
      by_cases percent : c = '%'
      · by_cases same : d = letter
        · subst same
          rw [fillAll_cons_of_ne different, fillAll_cons_of_ne different,
            List.cons_inj_right] at ih
          rw [fillAll_cons_of_ne different]
          simp [fillAll, percent, ih]
        · rw [if_pos percent] at found
          simp [fillAll, percent, same, found, ih]
      · simp [fillAll, percent, ih]

/-- There is a gap for every placeholder of the template. -/
theorem count_none_fillAround (different : letter ≠ '%') (percentFree : value? '%' = none)
    (text : List Char) :
    (fillAround value? letter text).count none = placeholderCount letter text := by
  have plain : ∀ inserted : List Char, (inserted.map some).count none = 0 := by
    intro inserted
    simp [List.count_eq_zero]
  fun_induction fillAround value? letter text with
  | case1 => rfl
  | case2 c => simp [placeholderCount]
  | case3 c d rest found ih =>
      rw [List.count_cons_self, ih, placeholderCount, found.2,
        placeholderCount_cons_of_ne different]
      simp [found.1, Nat.add_comm]
  | case4 c d rest other inserted found ih =>
      have apart : d ≠ '%' := by
        rintro rfl
        rw [percentFree, ite_self] at found
        cases found
      rw [List.count_append, plain, ih, placeholderCount, List.head?_cons,
        if_neg (by simpa using other), placeholderCount_cons_of_ne apart]
  | case5 c d rest other found ih =>
      rw [placeholderCount, List.head?_cons, if_neg (by simpa using other), ← ih]
      simp

theorem fill_eq_fillAll (text : List Char) :
    fill letter value text = fillAll (Function.update (fun _ => none) letter (some value)) text := by
  fun_induction fill letter value text with
  | case1 => rfl
  | case2 c => rfl
  | case3 c d rest found ih => simp [fillAll, found.1, found.2, ih]
  | case4 c d rest other ih =>
      have apart : c = '%' → d ≠ letter := fun percent same => other ⟨percent, same⟩
      by_cases percent : c = '%'
      · simp [fillAll, percent, apart percent, ih]
      · simp [fillAll, percent, ih]

/-- Filling one more placeholder afterwards is filling it in the same pass exactly if no
placeholder has arisen from the values, or if it is filled with itself. -/
theorem fill_fillAll_eq_iff (different : letter ≠ '%') (percentFree : value? '%' = none)
    (unfilled : value? letter = none) (text : List Char) :
    fill letter value (fillAll value? text) =
        fillAll (Function.update value? letter (some value)) text ↔
      value = ['%', letter] ∨
        placeholderCount letter (fillAll value? text) = placeholderCount letter text := by
  have shown : fillGaps ['%', letter] (fillAround value? letter text) = fillAll value? text := by
    rw [fillGaps_fillAround, fillAll_update_self different unfilled]
  have filled := fill_fillGaps_eq_iff different value (fillAround value? letter text)
  rwa [shown, fillGaps_fillAround, count_none_fillAround different percentFree] at filled

end

/-! ## Inert values -/

/-- A value from which no placeholder of a letter can arise, whatever it is put into. -/
structure Inert (letter : Char) (value : List Char) : Prop where
  nonempty : value ≠ []
  head : value.head? ≠ some letter
  last : value.getLast? ≠ some '%'
  free : hasPlaceholder letter value = false

section

variable {value? : Char → Option (List Char)} {letter : Char}

/-- A value is inert exactly if no placeholder arises between a percent sign and the
letter. -/
theorem inert_iff (value : List Char) :
    Inert letter value ↔ placeholderCount letter ('%' :: (value ++ [letter])) = 0 := by
  have parts : placeholderCount letter ('%' :: (value ++ [letter])) = 0 ↔
      (value ++ [letter]).head? ≠ some letter ∧ placeholderCount letter value = 0 ∧
        value.getLast? ≠ some '%' := by
    rw [placeholderCount, placeholderCount_append]
    simp [placeholderCount]
  rw [parts, ← hasPlaceholder_eq_false_iff]
  constructor
  · rintro ⟨nonempty, head, last, free⟩
    exact ⟨by rwa [List.head?_append_of_ne_nil _ nonempty], free, last⟩
  · rintro ⟨head, free, last⟩
    have nonempty : value ≠ [] := by
      rintro rfl
      exact head rfl
    exact ⟨nonempty, by rwa [List.head?_append_of_ne_nil _ nonempty] at head, last, free⟩

/-- What begins with a letter still does when inert values have been put in, and what does
not begin with it does not come to. -/
theorem head?_fillAll_iff (different : letter ≠ '%')
    (inert : ∀ c value, value? c = some value → Inert letter value) (text : List Char) :
    (fillAll value? text).head? = some letter ↔ text.head? = some letter := by
  fun_cases fillAll value? text with
  | case1 => rfl
  | case2 c => rfl
  | case3 c d rest value found =>
      have percent : c = '%' := by
        by_contra plain
        rw [if_neg plain] at found
        cases found
      rw [if_pos percent] at found
      have held := inert d value found
      rw [List.head?_append_of_ne_nil _ held.nonempty, List.head?_cons, percent]
      simp [held.head, different.symm]
  | case4 c d rest found => rfl

/-- Inert values add no placeholder to a template. -/
theorem placeholderCount_fillAll (different : letter ≠ '%') (percentFree : value? '%' = none)
    (unfilled : value? letter = none)
    (inert : ∀ c value, value? c = some value → Inert letter value) (text : List Char) :
    placeholderCount letter (fillAll value? text) = placeholderCount letter text := by
  fun_induction fillAll value? text with
  | case1 => rfl
  | case2 c => rfl
  | case3 c d rest value found ih =>
      have percent : c = '%' := by
        by_contra plain
        rw [if_neg plain] at found
        cases found
      rw [if_pos percent] at found
      have held := inert d value found
      have apart : d ≠ '%' := by
        rintro rfl
        rw [percentFree] at found
        cases found
      have other : d ≠ letter := by
        rintro rfl
        rw [unfilled] at found
        cases found
      have free := (hasPlaceholder_eq_false_iff value).mp held.free
      rw [placeholderCount_append, free, ih, placeholderCount_cons_cons,
        placeholderCount_cons_of_ne apart]
      simp [held.last, other]
  | case4 c d rest found ih =>
      rw [placeholderCount, ih, placeholderCount.eq_2 letter c]
      simp only [head?_fillAll_iff different inert]

end

/-! ## Placeholders that are left -/

section

variable {value? : Char → Option (List Char)} {letter : Char}

theorem placeholderCount_eq_zero_iff (text : List Char) :
    placeholderCount letter text = 0 ↔ ¬ ['%', letter] <:+: text := by
  induction text with
  | nil => simp [placeholderCount]
  | cons c rest ih =>
      have front : ['%', letter] <+: c :: rest ↔ c = '%' ∧ rest.head? = some letter := by
        rw [List.cons_prefix_cons, List.singleton_prefix_iff_head?_eq_some, eq_comm]
      rw [placeholderCount, Nat.add_eq_zero_iff, ih, List.infix_cons_iff, front, not_or]
      simp

/-- Where no letter with a value has a placeholder, there is nothing to fill. -/
theorem fillAll_eq_self {text : List Char}
    (free : ∀ letter value, value? letter = some value → placeholderCount letter text = 0) :
    fillAll value? text = text := by
  fun_induction fillAll value? text with
  | case1 => rfl
  | case2 c => rfl
  | case3 c d rest value found ih =>
      by_cases percent : c = '%'
      · rw [if_pos percent] at found
        have none := free d value found
        rw [placeholderCount_cons_cons, if_pos ⟨percent, rfl⟩] at none
        omega
      · rw [if_neg percent] at found
        cases found
  | case4 c d rest found ih =>
      rw [ih]
      intro letter value given
      have none := free letter value given
      rw [placeholderCount_cons_cons] at none
      omega

/-- When all letters that have values are filled with inert ones, none of their placeholders
is left. -/
theorem placeholderCount_fillAll_eq_zero (different : letter ≠ '%')
    {own : List Char} (filled : value? letter = some own)
    (inert : ∀ c value, value? c = some value → Inert letter value) (text : List Char) :
    placeholderCount letter (fillAll value? text) = 0 := by
  fun_induction fillAll value? text with
  | case1 => rfl
  | case2 c => simp [placeholderCount]
  | case3 c d rest value found ih =>
      by_cases percent : c = '%'
      · rw [if_pos percent] at found
        have held := inert d value found
        rw [placeholderCount_append, (hasPlaceholder_eq_false_iff value).mp held.free, ih,
          if_neg fun seam => held.last seam.1]
      · rw [if_neg percent] at found
        cases found
  | case4 c d rest found ih =>
      rw [placeholderCount, ih, if_neg]
      rintro ⟨percent, begins⟩
      -- What stands behind the percent sign would have been filled.
      rw [head?_fillAll_iff different inert, List.head?_cons] at begins
      rw [if_pos percent, Option.some.inj begins, filled] at found
      cases found

end

/-! ## One placeholder after the other -/

/-- Fill the placeholders of several letters, one letter after the other. -/
def fillEach (fields : List (Char × List Char)) (text : List Char) : List Char :=
  fields.foldl (fun text field => fill field.1 field.2 text) text

/-- Values of different letters from which no placeholder of any of the letters can arise. -/
structure Independent (fields : List (Char × List Char)) : Prop where
  distinct : (fields.map (·.1)).Nodup
  percentFree : '%' ∉ fields.map (·.1)
  inert : ∀ letter ∈ fields.map (·.1), ∀ field ∈ fields, Inert letter field.2

section

variable {fields others : List (Char × List Char)}

theorem lookup_eq_some_iff_mem (distinct : (fields.map (·.1)).Nodup) {letter : Char}
    {value : List Char} : fields.lookup letter = some value ↔ (letter, value) ∈ fields := by
  induction fields with
  | nil => simp
  | cons field fields ih =>
      obtain ⟨first, own⟩ := field
      rw [List.map_cons, List.nodup_cons] at distinct
      by_cases same : letter = first
      · subst same
        have apart : (letter, value) ∉ fields := fun member =>
          distinct.1 (List.mem_map.mpr ⟨_, member, rfl⟩)
        simp [apart, eq_comm]
      · have other : (letter == first) = false := beq_false_of_ne same
        simp [List.lookup_cons, other, ih distinct.2, same]

theorem Independent.of_subset (independent : Independent fields) (subset : others ⊆ fields)
    (distinct : (others.map (·.1)).Nodup) : Independent others := by
  have letters := List.map_subset (·.1) subset
  refine ⟨distinct, fun percent => independent.percentFree (letters percent), ?_⟩
  intro letter given field member
  exact independent.inert letter (letters given) field (subset member)

theorem Independent.perm (independent : Independent fields) (perm : others.Perm fields) :
    Independent others :=
  independent.of_subset perm.subset ((perm.map (·.1)).nodup_iff.mpr independent.distinct)

theorem Independent.inert_of_lookup (independent : Independent fields) {letter : Char}
    (given : letter ∈ fields.map (·.1)) (c : Char) (value : List Char)
    (found : fields.lookup c = some value) : Inert letter value :=
  independent.inert letter given (c, value)
    ((lookup_eq_some_iff_mem independent.distinct).mp found)

theorem Independent.ne_percent (independent : Independent fields) {letter : Char}
    (given : letter ∈ fields.map (·.1)) : letter ≠ '%' := by
  rintro rfl
  exact independent.percentFree given

theorem lookup_eq_none_of_notMem {letter : Char} (missing : letter ∉ fields.map (·.1)) :
    fields.lookup letter = none := by
  rw [List.lookup_eq_none_iff]
  intro field member
  rw [bne_iff_ne]
  rintro rfl
  exact missing (List.mem_map_of_mem member)

theorem lookup_concat {field : Char × List Char} (unfilled : fields.lookup field.1 = none) :
    (fun letter => (fields ++ [field]).lookup letter) =
      Function.update (fun letter => fields.lookup letter) field.1 (some field.2) := by
  funext letter
  rw [List.lookup_append]
  by_cases same : letter = field.1
  · rw [same, unfilled, Function.update_self, Option.none_or, List.lookup_cons_self]
  · rw [Function.update_of_ne same, List.lookup_cons, beq_false_of_ne same, List.lookup_nil,
      Option.or_none]

/-- Independent values may be put in one after the other or all at once. -/
theorem Independent.fillEach_eq_fillAll (independent : Independent fields) (text : List Char) :
    fillEach fields text = fillAll (fun letter => fields.lookup letter) text := by
  induction fields using List.reverseRecOn with
  | nil =>
      refine (fillAll_eq_self ?_).symm
      intro letter value found
      cases found
  | append_singleton fields field ih =>
      have distinct := independent.distinct
      rw [List.map_append, List.map_singleton, List.nodup_append] at distinct
      have fewer : Independent fields :=
        independent.of_subset (List.subset_append_left _ _) distinct.1
      have given : field.1 ∈ (fields ++ [field]).map (·.1) := by simp
      have unfilled : fields.lookup field.1 = none :=
        lookup_eq_none_of_notMem fun there =>
          distinct.2.2 _ there _ (List.mem_singleton_self _) rfl
      have inert : ∀ c value, fields.lookup c = some value → Inert field.1 value := by
        intro c value found
        apply independent.inert field.1 given (c, value)
        exact List.mem_append_left _ ((lookup_eq_some_iff_mem fewer.distinct).mp found)
      have different := independent.ne_percent given
      have percentFree := lookup_eq_none_of_notMem fewer.percentFree
      rw [lookup_concat unfilled, fillEach, List.foldl_append, List.foldl_cons, List.foldl_nil,
        ← fillEach, ih fewer, fill_fillAll_eq_iff different percentFree unfilled]
      exact Or.inr (placeholderCount_fillAll different percentFree unfilled inert text)

theorem Independent.fillEach_perm (independent : Independent fields)
    (perm : others.Perm fields) (text : List Char) :
    fillEach others text = fillEach fields text := by
  have reordered := independent.perm perm
  have same : (fun letter => others.lookup letter) = fun letter => fields.lookup letter := by
    funext letter
    apply Option.ext
    intro value
    rw [lookup_eq_some_iff_mem reordered.distinct, lookup_eq_some_iff_mem independent.distinct,
      perm.mem_iff]
  rw [reordered.fillEach_eq_fillAll, independent.fillEach_eq_fillAll, same]

theorem Independent.placeholderCount_fillEach (independent : Independent fields) {letter : Char}
    (given : letter ∈ fields.map (·.1)) (text : List Char) :
    placeholderCount letter (fillEach fields text) = 0 := by
  rcases List.mem_map.mp given with ⟨⟨_, own⟩, member, rfl⟩
  rw [independent.fillEach_eq_fillAll]
  exact placeholderCount_fillAll_eq_zero (independent.ne_percent given)
    ((lookup_eq_some_iff_mem independent.distinct).mpr member)
    (independent.inert_of_lookup given) text

/-- Once independent values have been put in, there is nothing more to put in. -/
theorem Independent.fillEach_fillEach (independent : Independent fields) (text : List Char) :
    fillEach fields (fillEach fields text) = fillEach fields text := by
  rw [independent.fillEach_eq_fillAll (fillEach fields text)]
  apply fillAll_eq_self
  intro letter value found
  apply independent.placeholderCount_fillEach
  exact List.mem_map_of_mem ((lookup_eq_some_iff_mem independent.distinct).mp found)

end

end LintBridge.Text
