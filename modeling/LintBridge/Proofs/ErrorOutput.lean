import LintBridge.ErrorOutput
import LintBridge.Host.Launch
import LintBridge.Proofs.Text.Lines
import LintBridge.Proofs.Text.Utf8
import Mathlib.Logic.Relation

/-!
# What error output amounts to

What remains of error output has just the lines that tell of a failure. They are found
one by one, so harmless lines may be put in wherever no line is cut apart. The bytes of the
output need not be well-formed for that.
-/

namespace LintBridge.ErrorOutput

variable {whitelist : List Pattern}

/-! ## Lines that tell of a failure -/

theorem isGenuine_iff {line : List Char} :
    isGenuine whitelist line = true ↔
      line ≠ [] ∧ ∀ pattern ∈ whitelist, pattern.occursIn line = false := by
  simp [isGenuine]

/-- The lines on both sides of a line boundary are found apart from each other. -/
theorem genuineLines_append_cons {c : Char} (ends : Text.isLineBoundary c = true)
    (left right : List Char) :
    genuineLines whitelist (left ++ c :: right) =
      genuineLines whitelist left ++ genuineLines whitelist right :=
  Text.filter_reportLines_append_cons rfl ends left right

/-- The lines that tell of a failure are found again in what they are joined to. -/
theorem reportLines_joinLines_genuineLines (output : List Char) :
    Text.reportLines (Text.joinLines ['\n'] (genuineLines whitelist output)) =
      genuineLines whitelist output := by
  apply Text.reportLines_joinLines
  · intro line member
    exact (isGenuine_iff.mp (List.mem_filter.mp member).2).1
  · intro line member
    exact Text.isLineBoundary_of_mem_reportLines (List.mem_filter.mp member).1

theorem joinLines_genuineLines_eq_nil_iff (output : List Char) :
    Text.joinLines ['\n'] (genuineLines whitelist output) = [] ↔
      genuineLines whitelist output = [] := by
  constructor
  · intro nothing
    rw [← reportLines_joinLines_genuineLines, nothing, Text.reportLines]
  · intro nothing
    rw [nothing, Text.joinLines]

theorem genuine_text (bytes : List UInt8) :
    genuine whitelist (Outcome.text bytes) =
      String.ofList (Text.joinLines ['\n'] (genuineLines whitelist (Text.decodeLossy bytes))) := by
  rw [genuine, Outcome.text, String.toList_ofList, genuineLines, Text.reportLines_unifyBreaks,
    genuineLines]

/-! ## What remains -/

theorem toList_genuine (output : String) :
    (genuine whitelist output).toList =
      Text.joinLines ['\n'] (genuineLines whitelist output.toList) := by
  rw [genuine, String.toList_ofList]

theorem reportLines_genuine (output : String) :
    Text.reportLines (genuine whitelist output).toList =
      genuineLines whitelist output.toList := by
  rw [toList_genuine, reportLines_joinLines_genuineLines]

theorem genuine_eq_empty_iff {output : String} :
    genuine whitelist output = "" ↔ genuineLines whitelist output.toList = [] := by
  rw [← String.toList_eq_nil_iff, toList_genuine, joinLines_genuineLines_eq_nil_iff]

theorem genuineLines_genuine (output : String) :
    genuineLines whitelist (genuine whitelist output).toList =
      genuineLines whitelist output.toList := by
  rw [genuineLines, reportLines_genuine, genuineLines, List.filter_filter]
  simp only [Bool.and_self]

/-- The lines of what remains are the lines of the output that are neither empty nor
harmless, in the same order, and nothing remains exactly if there is no such line. What
remains is left as it is by filtering it again. What remains of two outputs, one below the
other, are the lines that remain of the one and of the other. -/
theorem genuine_keeps_lines (whitelist : List Pattern) (output : String) :
    let result := genuine whitelist output
    (Text.reportLines result.toList = (Text.reportLines output.toList).filter fun line =>
        decide (line ≠ [] ∧ ∀ pattern ∈ whitelist, pattern.occursIn line = false)) ∧
      (result = "" ↔ ¬ ∃ line ∈ Text.reportLines output.toList,
        line ≠ [] ∧ ∀ pattern ∈ whitelist, pattern.occursIn line = false) ∧
      genuine whitelist result = result ∧
      ∀ below : String, Text.reportLines (genuine whitelist (output ++ "\n" ++ below)).toList =
        Text.reportLines result.toList ++ Text.reportLines (genuine whitelist below).toList := by
  intro result
  refine ⟨?_, ?_, ?_, ?_⟩
  · rw [reportLines_genuine, genuineLines]
    refine List.filter_congr fun line _ => ?_
    rw [Bool.eq_iff_iff, isGenuine_iff, decide_eq_true_iff]
  · rw [genuine_eq_empty_iff, genuineLines, List.filter_eq_nil_iff]
    simp only [isGenuine_iff, not_exists, not_and]
  · rw [genuine, genuineLines_genuine]
    rfl
  · intro below
    have parts : (output ++ "\n" ++ below).toList = output.toList ++ '\n' :: below.toList := by
      simp
    rw [reportLines_genuine, reportLines_genuine, reportLines_genuine, parts,
      genuineLines_append_cons (by decide)]

/-- A carriage return before a line feed ends one line together with it. -/
example : genuine harmless "a\r\nNo config file found, using default configuration\x0c\n b\r" =
    "a\n b" := by
  decide +kernel

/-! ## Harmless lines -/

/-- No line goes on from the bytes on the left to those on the right: there is a line
boundary between them, or there is nothing on one side. -/
def PartsLines (left right : List UInt8) : Prop :=
  left = [] ∨ right = [] ∨ ∃ c, Text.isLineBoundary c = true ∧
    (String.utf8EncodeChar c <:+ left ∨ String.utf8EncodeChar c <+: right)

theorem PartsLines.append {left middle right : List UInt8} (parts : PartsLines left middle)
    (around : PartsLines left right) : PartsLines left (middle ++ right) := by
  rcases parts with none | rfl | ⟨c, ends, last | first⟩
  · exact .inl none
  · rwa [List.nil_append]
  · exact .inr (.inr ⟨c, ends, .inl last⟩)
  · exact .inr (.inr ⟨c, ends, .inr (first.trans (List.prefix_append _ _))⟩)

theorem genuineLines_append {left right : List UInt8} (parts : PartsLines left right) :
    genuineLines whitelist (Text.decodeLossy (left ++ right)) =
      genuineLines whitelist (Text.decodeLossy left) ++
        genuineLines whitelist (Text.decodeLossy right) := by
  -- A boundary ends the lines before it and is no part of those behind it.
  have around : ∀ (left right : List UInt8) {c : Char}, Text.isLineBoundary c = true →
      genuineLines whitelist (Text.decodeLossy (left ++ String.utf8EncodeChar c ++ right)) =
        genuineLines whitelist (Text.decodeLossy left) ++
          genuineLines whitelist (Text.decodeLossy right) := by
    intro left right c ends
    rw [Text.decodeLossy_append_encodeChar, genuineLines_append_cons ends]
  have nothing : genuineLines whitelist (Text.decodeLossy []) = [] := rfl
  rcases parts with rfl | rfl | ⟨c, ends, ⟨front, rfl⟩ | ⟨back, rfl⟩⟩
  · rw [nothing, List.nil_append, List.nil_append]
  · rw [nothing, List.append_nil, List.append_nil]
  · have alone := around front [] ends
    rw [List.append_nil, nothing, List.append_nil] at alone
    rw [around front right ends, alone]
  · have alone := around [] back ends
    rw [List.nil_append, nothing, List.nil_append] at alone
    rw [← List.append_assoc, around left back ends, alone]

/-- Some harmless or empty lines are put into error output without cutting a line apart. -/
def InsertsHarmless (whitelist : List Pattern) (errors padded : List UInt8) : Prop :=
  ∃ front lines rest, errors = front ++ rest ∧ padded = front ++ lines ++ rest ∧
    PartsLines front rest ∧ PartsLines front lines ∧ PartsLines lines rest ∧
    ∀ line ∈ Text.reportLines (Text.decodeLossy lines),
      line = [] ∨ ∃ pattern ∈ whitelist, pattern.occursIn line = true

theorem genuineLines_of_insertsHarmless {errors padded : List UInt8}
    (inserts : InsertsHarmless whitelist errors padded) :
    genuineLines whitelist (Text.decodeLossy padded) =
      genuineLines whitelist (Text.decodeLossy errors) := by
  rcases inserts with ⟨front, lines, rest, rfl, rfl, around, before, behind, harmless⟩
  have silent : genuineLines whitelist (Text.decodeLossy lines) = [] := by
    rw [genuineLines, List.filter_eq_nil_iff]
    intro line member
    rw [isGenuine_iff, not_and]
    intro nonempty passed
    rcases harmless line member with blank | ⟨pattern, listed, occurs⟩
    · exact nonempty blank
    · rw [passed pattern listed] at occurs
      cases occurs
  rw [List.append_assoc, genuineLines_append (before.append around),
    genuineLines_append behind, silent, List.nil_append, genuineLines_append around]

theorem genuineLines_of_reflTransGen {errors padded : List UInt8}
    (inserted : Relation.ReflTransGen (InsertsHarmless whitelist) errors padded) :
    genuineLines whitelist (Text.decodeLossy padded) =
      genuineLines whitelist (Text.decodeLossy errors) := by
  induction inserted with
  | refl => rfl
  | tail _ inserts ih => rw [genuineLines_of_insertsHarmless inserts, ih]

end LintBridge.ErrorOutput
