import LintBridge.Command
import LintBridge.Proofs.Text.Template

/-!
# Message formats

The placeholders of a message format are filled one after the other, with references to
fields of the analyzer. No placeholder can arise from such a reference, so the order of the
fields does not matter, and none of their placeholders is left in the end.
-/

namespace LintBridge.Command

/-- A format with the references to some fields put in, one field after the other. -/
def referTo (fields : List (Char × String)) (format : String) : String :=
  fields.foldl (fun format field => Text.fillString field.1 (fieldReference field.2) format) format

/-- What the placeholders of a message format stand for: the message, its identifier, and
its symbol. -/
def messageValue? : Char → Option (List Char)
  | 'm' => some "\x7bmsg\x7d".toList
  | 'i' => some "\x7bmsg_id\x7d".toList
  | 's' => some "\x7bsymbol\x7d".toList
  | _ => none

/-- A message format with all references put in at once. No text that has been put in is
looked into. -/
def messageFormatAtOnce (format : String) : String :=
  String.ofList (Text.fillAll messageValue? format.toList)

/-- The letters of some fields with the references that are put in for them. -/
def references (fields : List (Char × String)) : List (Char × List Char) :=
  fields.map fun field => (field.1, (fieldReference field.2).toList)

theorem toList_referTo (fields : List (Char × String)) (format : String) :
    (referTo fields format).toList = Text.fillEach (references fields) format.toList := by
  induction fields generalizing format with
  | nil => rfl
  | cons field fields ih =>
      rw [referTo, List.foldl_cons, ← referTo, ih, Text.fillString, String.toList_ofList]
      rfl

/-- A reference stands in braces, so that it neither begins with a letter nor ends with a
percent sign. -/
theorem inert_fieldReference {letter : Char} {name : String} (apart : letter ≠ '\x7b')
    (free : '%' ∉ name.toList) : Text.Inert letter (fieldReference name).toList := by
  have written : (fieldReference name).toList = '\x7b' :: (name.toList ++ ['\x7d']) := by
    simp [fieldReference]
  refine ⟨?_, ?_, ?_, ?_⟩
  · simp [written]
  · simpa [written] using apart.symm
  · rw [written, List.getLast?_cons, List.getLast?_concat]
    decide
  · rw [Text.hasPlaceholder_eq_false_iff, Text.placeholderCount_eq_zero_iff]
    intro found
    have percent : '%' ∈ (fieldReference name).toList := found.subset List.mem_cons_self
    simp [written, free] at percent

theorem independent_messageFields : Text.Independent (references messageFields) := by
  refine ⟨by decide, by decide, ?_⟩
  have letters : ∀ letter ∈ (references messageFields).map (·.1), letter ≠ '\x7b' := by
    simp [references, messageFields]
  have names : ∀ field ∈ messageFields, '%' ∉ field.2.toList := by
    simp [messageFields]
  intro letter given reference member
  rcases List.mem_map.mp member with ⟨field, own, rfl⟩
  exact inert_fieldReference (letters letter given) (names field own)

theorem lookup_references_messageFields (letter : Char) :
    (references messageFields).lookup letter = messageValue? letter := by
  apply Option.ext
  intro value
  rw [Text.lookup_eq_some_iff_mem independent_messageFields.distinct, messageValue?.eq_def]
  split <;> simp_all [references, messageFields, fieldReference, eq_comm]

/-- The references are put into a message format as they are at once, and it does not matter
in which order. None of their placeholders is left, so that nothing changes if the format
is taken for one again. -/
theorem messageFormat_in_any_order (format : String) :
    messageFormat format = messageFormatAtOnce format ∧
      (∀ fields, fields.Perm messageFields → referTo fields format = messageFormat format) ∧
      (∀ letter ∈ ['m', 'i', 's'], ¬ ['%', letter] <:+: (messageFormat format).toList) ∧
      messageFormat (messageFormat format) = messageFormat format := by
  have independent := independent_messageFields
  have shown : ∀ format, (messageFormat format).toList =
      Text.fillEach (references messageFields) format.toList := toList_referTo messageFields
  refine ⟨?_, ?_, ?_, ?_⟩
  · rw [← String.toList_inj, shown, independent.fillEach_eq_fillAll, messageFormatAtOnce,
      String.toList_ofList]
    simp only [lookup_references_messageFields]
  · intro fields perm
    rw [← String.toList_inj, shown, toList_referTo]
    exact independent.fillEach_perm (perm.map _) format.toList
  · intro letter given
    rw [shown, ← Text.placeholderCount_eq_zero_iff]
    exact independent.placeholderCount_fillEach given format.toList
  · rw [← String.toList_inj, shown, shown]
    exact independent.fillEach_fillEach format.toList

-- A percent sign in front of a placeholder stays in front of what is put in.
example : messageFormat "%%m: %i %" = "%\x7bmsg\x7d: \x7bmsg_id\x7d %" := by decide +kernel

end LintBridge.Command
