import LintBridge.Proofs.ErrorOutput
import LintBridge.Proofs.Host.Lint
import LintBridge.Proofs.Extraction.Origins
import LintBridge.Proofs.Issue.LinePattern

/-!
# What decides a lint

Once the analyzer has been run, its error output alone decides whether the lint has
failed, and otherwise its output alone is turned into diagnostics. Neither the code nor
harmless lines make a difference.
-/

namespace LintBridge

/-- The lines of the error output of the analyzer that tell of a failure. -/
def Outcome.complaints (outcome : Outcome) : List (List Char) :=
  ErrorOutput.genuineLines ErrorOutput.harmless (Text.decodeLossy outcome.errors)

theorem Outcome.complaints_ne_nil_iff {outcome : Outcome} :
    outcome.complaints ≠ [] ↔
      ∃ line ∈ Text.reportLines (Text.decodeLossy outcome.errors),
        line ≠ [] ∧ ∀ pattern ∈ ErrorOutput.harmless, pattern.occursIn line = false := by
  simp only [complaints, ErrorOutput.genuineLines, ne_eq, List.filter_eq_nil_iff,
    ErrorOutput.isGenuine_iff, not_forall, not_not, exists_prop]

namespace Linter

/-- What an outcome of the analyzer means for an editor. -/
def verdict (editor : Editor) (outcome : Outcome) : Except Fault (List Diagnostic) :=
  (judge Syntax.parseRows editor (.ofOutcome outcome)).map (·.diagnostics)

variable {editor : Editor} {outcome other : Outcome}

theorem verdict_of_complaints (heard : outcome.complaints ≠ []) :
    verdict editor outcome =
      .error (.tool (.invocation (String.ofList (Text.joinLines ['\n'] outcome.complaints)))) := by
  have loud : (String.ofList (Text.joinLines ['\n'] outcome.complaints)).isEmpty = false := by
    rw [Bool.eq_false_iff, Ne, String.isEmpty_iff, String.ofList_eq_empty_iff,
      Outcome.complaints, ErrorOutput.joinLines_genuineLines_eq_nil_iff]
    exact heard
  rw [Outcome.complaints] at loud ⊢
  rw [verdict, judge, Execution.ofOutcome]
  dsimp only
  rw [ErrorOutput.genuine_text, if_neg (by rw [loud]; exact Bool.false_ne_true)]
  rfl

theorem exists_run_linePattern (editor : Editor) (report : String) :
    ∃ extraction, Extraction.run Syntax.parseRows Issue.linePattern (some editor.path)
      Extraction.undisturbed editor report = .ok extraction := by
  have parsed : Issue.parse Issue.linePattern { filePath := some editor.path } report =
      .ok (Issue.ofReport Issue.linePattern { filePath := some editor.path } report) := by
    rw [Issue.parse, Issue.missingGroups_linePattern]
  exact ⟨_, Extraction.run_of_parse parsed⟩

theorem verdict_of_silence (silent : outcome.complaints = []) :
    ∃ extraction,
      Extraction.run Syntax.parseRows Issue.linePattern (some editor.path) Extraction.undisturbed
        editor (Outcome.text outcome.output) = .ok extraction ∧
      verdict editor outcome = .ok extraction.diagnostics := by
  rcases exists_run_linePattern editor (Outcome.text outcome.output) with ⟨extraction, ran⟩
  refine ⟨extraction, ran, ?_⟩
  rw [Outcome.complaints] at silent
  rw [verdict, judge, Execution.ofOutcome]
  dsimp only
  rw [ErrorOutput.genuine_text, silent, if_pos (by rfl), ran]
  rfl

/-- Outcomes with the same output and the same complaints mean the same. -/
theorem verdict_congr (sameOutput : other.output = outcome.output)
    (sameComplaints : other.complaints = outcome.complaints) :
    verdict editor other = verdict editor outcome := by
  by_cases silent : outcome.complaints = []
  · rcases verdict_of_silence silent with ⟨extraction, ran, shown⟩
    rcases verdict_of_silence (sameComplaints.trans silent) with
      ⟨otherExtraction, otherRan, otherShown⟩
    rw [sameOutput] at otherRan
    cases ran.symm.trans otherRan
    rw [shown, otherShown]
  · rw [verdict_of_complaints silent, verdict_of_complaints (sameComplaints ▸ silent),
      sameComplaints]

theorem exists_verdict_eq_invocation_iff :
    (∃ complaint, verdict editor outcome = .error (.tool (.invocation complaint))) ↔
      outcome.complaints ≠ [] := by
  constructor
  · rintro ⟨complaint, failed⟩ silent
    rcases verdict_of_silence silent with ⟨extraction, _, shown⟩
    cases failed.symm.trans shown
  · intro heard
    exact ⟨_, verdict_of_complaints heard⟩

end Linter

namespace Host

variable {α β γ : Type} {host : Host}

/-! ## What follows from a run of the analyzer -/

/-- Run the analyzer as a lint does, on a file of its own with the text of the editor. -/
def analyze (linter : Linter) (editor : Editor) : Action Outcome := do
  let command ← commandFor linter editor.path
  withTemporaryFile (Path.name editor.path) editor.buffer.text fun path => do
    let call := command.withTarget path
    start ⟨call.executable, call.arguments, call.environment, some call.directory⟩

/-- An action runs the same programs as another one, and whenever the other one succeeds,
it ends as its answer decides. -/
def FollowsFrom (host : Host) (ending : α → Except Fault β) (first : Action α)
    (second : Action β) : Prop :=
  ∀ answer, (host.perform first).1 = .ok answer →
    (host.perform second).1 = ending answer ∧
      (host.perform second).2.runs = (host.perform first).2.runs

/-- Both actions may begin with the same action. -/
theorem followsFrom_bind {ending : α → Except Fault β} {before : Action γ}
    {first : γ → Action α} {second : γ → Action β}
    (rest : ∀ answer middle, host.perform before = (.ok answer, middle) →
      middle.FollowsFrom ending (first answer) (second answer)) :
    host.FollowsFrom ending (before >>= first) (before >>= second) := by
  intro answer ran
  cases prepared : host.perform before with
  | mk result middle =>
      cases result with
      | error fault =>
          rw [perform_bind_of_error prepared] at ran
          cases ran
      | ok found =>
          rw [perform_bind_of_ok prepared] at ran ⊢
          rw [perform_bind_of_ok prepared]
          exact rest found middle prepared answer ran

/-- The second action may go on with something that runs no program. -/
theorem FollowsFrom.bind {ending : α → Except Fault β} {final : α → Except Fault γ}
    {first : Action α} {second : Action β} {next : β → Action γ}
    (follows : host.FollowsFrom ending first second)
    (goes : ∀ answer found, ending answer = .ok found → ∀ ended : Host,
      (ended.perform (next found)).1 = final answer ∧
        (ended.perform (next found)).2.runs = ended.runs)
    (stops : ∀ answer fault, ending answer = .error fault → final answer = .error fault) :
    host.FollowsFrom final first (second >>= next) := by
  intro answer ran
  rcases follows answer ran with ⟨ends, runs⟩
  cases performed : host.perform second with
  | mk result middle =>
      rw [performed] at ends runs
      rw [← runs]
      cases result with
      | error fault =>
          rw [perform_bind_of_error performed]
          exact ⟨(stops answer fault ends.symm).symm, rfl⟩
      | ok found =>
          rw [perform_bind_of_ok performed]
          exact goes answer found ends.symm middle

theorem FollowsFrom.afterwards {ending : α → Except Fault β} {first : Action α}
    {second : Action β} (follows : host.FollowsFrom ending first second) {last : Host → Host}
    (kept : ∀ ended, (last ended).runs = ended.runs) :
    host.FollowsFrom ending (Host.afterwards first last) (Host.afterwards second last) := by
  intro answer ran
  rw [perform_afterwards, perform_afterwards, kept, kept]
  exact follows answer ran

theorem perform_start_log (host : Host) (log : List LogRecord) (invocation : Invocation) :
    { host with log }.perform (start invocation) =
      ((host.perform (start invocation)).1,
        { (host.perform (start invocation)).2 with log }) := by
  rw [start, perform_bind_of_ok (perform_get _), perform_bind_of_ok (perform_get _)]
  dsimp only
  cases invocation.resolve host.disk host.directory with
  | error fault => rfl
  | ok found => rfl

/-- Executing a program is starting it, and what it leaves is taken as text. -/
theorem followsFrom_execute (executable : String) (arguments : List String)
    (environment : Environment) (directory : String) :
    host.FollowsFrom (fun outcome => .ok (some (Execution.ofOutcome outcome)))
      (start ⟨executable, arguments, environment, some directory⟩)
      (execute executable arguments (some environment) (some directory) none) := by
  intro outcome ran
  rw [execute]
  simp only [Option.getD_some]
  rw [perform_bind_of_ok (perform_note _ _ _), perform_bind_of_ok (perform_get _), perform_bind,
    perform_tryCatch, perform_start_log, ran]
  exact ⟨rfl, rfl⟩

theorem fst_perform_collect (host : Host) (number : Nat) (editor : Editor) (outcome : Outcome) :
    (host.perform (collect number editor (.ofOutcome outcome))).1 =
      Linter.verdict editor outcome := by
  rw [collect, Linter.verdict]
  cases Linter.judge Syntax.parseRows editor (.ofOutcome outcome) with
  | error fault => rfl
  | ok extraction => rfl

/-- A lint is decided by the outcome of the analyzer. -/
theorem followsFrom_analyze (linter : Linter) (number : Nat) (editor : Editor) :
    host.FollowsFrom (Linter.verdict editor) (analyze linter editor)
      (lint linter number editor) := by
  rw [analyze, lint]
  apply followsFrom_bind
  intro command ready _
  apply FollowsFrom.bind
  · apply followsFrom_bind
    intro directory made _
    apply FollowsFrom.afterwards
    · apply followsFrom_bind
      intro _ written _
      apply FollowsFrom.bind (followsFrom_execute _ _ _ _)
      · intro outcome execution? answered ended
        cases answered
        dsimp only
        exact ⟨fst_perform_collect ended number editor outcome,
          runs_collect ended number editor (.ofOutcome outcome)⟩
      · intro outcome fault failed
        cases failed
    · exact runs_removeTree _
  · intro outcome diagnostics judged ended
    exact ⟨judged.symm, rfl⟩
  · intro outcome fault judged
    exact judged

/-- Whenever the analyzer has been run, the lint fails exactly if the error output has a
line that tells of a failure, and then it says just these lines. Otherwise it returns what
is extracted from the output. So neither another code nor any number of harmless lines
between other lines change how the lint ends. -/
theorem lint_of_analyze (host : Host) (linter : Linter) (number : Nat) (editor : Editor)
    (outcome : Outcome) (ran : (host.perform (analyze linter editor)).1 = .ok outcome) :
    let result := (host.perform (lint linter number editor)).1
    let lines := Text.reportLines (Text.decodeLossy outcome.errors)
    let report := String.ofList (Text.unifyBreaks (Text.decodeLossy outcome.output))
    (host.perform (lint linter number editor)).2.runs =
        (host.perform (analyze linter editor)).2.runs ∧
      ((∃ complaint, result = .error (.tool (.invocation complaint))) ↔
        ∃ line ∈ lines, line ≠ [] ∧
          ∀ pattern ∈ ErrorOutput.harmless, pattern.occursIn line = false) ∧
      (∀ complaint, result = .error (.tool (.invocation complaint)) →
        complaint = String.ofList (Text.joinLines ['\n']
          (lines.filter (ErrorOutput.isGenuine ErrorOutput.harmless)))) ∧
      ((∀ complaint, result ≠ .error (.tool (.invocation complaint))) →
        ∃ extraction,
          Extraction.run Syntax.parseRows Issue.linePattern (some editor.path)
            Extraction.undisturbed editor report = .ok extraction ∧
          result = .ok extraction.diagnostics) ∧
      ∀ (other : Host) (otherLinter : Linter) (otherNumber : Nat) (otherOutcome : Outcome),
        (other.perform (analyze otherLinter editor)).1 = .ok otherOutcome →
        otherOutcome.output = outcome.output →
        Relation.ReflTransGen (ErrorOutput.InsertsHarmless ErrorOutput.harmless) outcome.errors
          otherOutcome.errors →
        (other.perform (lint otherLinter otherNumber editor)).1 = result := by
  intro result lines report
  rcases followsFrom_analyze linter number editor outcome ran with ⟨ends, runs⟩
  have decided : result = Linter.verdict editor outcome := ends
  refine ⟨runs, ?_, ?_, ?_, ?_⟩
  · rw [decided, Linter.exists_verdict_eq_invocation_iff, Outcome.complaints_ne_nil_iff]
  · intro complaint failed
    rw [decided] at failed
    have heard := Linter.exists_verdict_eq_invocation_iff.mp ⟨complaint, failed⟩
    cases failed.symm.trans (Linter.verdict_of_complaints heard)
    rfl
  · intro unfailing
    rw [decided] at unfailing ⊢
    apply Linter.verdict_of_silence
    by_contra heard
    exact unfailing _ (Linter.verdict_of_complaints heard)
  · intro other otherLinter otherNumber otherOutcome otherRan sameOutput inserted
    have sameComplaints : otherOutcome.complaints = outcome.complaints :=
      ErrorOutput.genuineLines_of_reflTransGen inserted
    rw [decided, (followsFrom_analyze otherLinter otherNumber editor otherOutcome otherRan).1]
    exact Linter.verdict_congr sameOutput sameComplaints

/-- A host on which the analyzer writes what it is told to. -/
def replayHost (script : Program.Replay) : Host :=
  { disk := ⟨[(["pylint".toList], .program (Program.replay script)),
      (["tmp".toList], .directory)]⟩
    environment := ⟨[("PATH", "/")]⟩
    directory := "/"
    temporary := "/tmp"
    nextTemporary := 0
    exchange := ⟨.empty, [.opened "/tmp" "/tmp" false], [], []⟩
    editors := []
    projects := []
    linters := []
    packages := []
    reporters := 0
    runs := []
    log := [] }

/-- Error output with one complaint. -/
def complaint : List UInt8 :=
  Text.encode "boom\n".toList

/-- Error output with an empty and a harmless line. -/
def remarks : List UInt8 :=
  Text.encode "\nNo config file found, using default configuration\r\n".toList

/-- A complaint is heard among harmless lines, and in spite of a code of success. -/
theorem lint_of_analyze_padded :
    let linter : Linter := ⟨0, none, none⟩
    let editor := Editor.ofText "/mod.py" "x\n"
    ((replayHost ⟨[], complaint, 0, 0⟩).perform (analyze linter editor)).1 =
        .ok ⟨0, [], complaint, 0⟩ ∧
      ((replayHost ⟨[], complaint, 0, 0⟩).perform (lint linter 0 editor)).1 =
        .error (.tool (.invocation "boom")) ∧
      ((replayHost ⟨[], remarks ++ complaint, 32, 0⟩).perform (lint linter 0 editor)).1 =
        .error (.tool (.invocation "boom")) := by
  intro linter editor
  have ran : ((replayHost ⟨[], complaint, 0, 0⟩).perform (analyze linter editor)).1 =
      .ok ⟨0, [], complaint, 0⟩ :=
    eq_ok_of_toOption (by decide +kernel)
  have otherRan :
      ((replayHost ⟨[], remarks ++ complaint, 32, 0⟩).perform (analyze linter editor)).1 =
        .ok ⟨32, [], remarks ++ complaint, 0⟩ :=
    eq_ok_of_toOption (by decide +kernel)
  have ended : ErrorOutput.PartsLines remarks complaint :=
    .inr (.inr ⟨'\n', by decide, .inl (by decide +kernel)⟩)
  have inserts : ErrorOutput.InsertsHarmless ErrorOutput.harmless complaint
      (remarks ++ complaint) := by
    refine ⟨[], remarks, complaint, ?_, ?_, .inl rfl, .inl rfl, ended, by decide +kernel⟩
    · rw [List.nil_append]
    · rw [List.nil_append]
  have heard : ∃ line ∈ Text.reportLines (Text.decodeLossy complaint), line ≠ [] ∧
      ∀ pattern ∈ ErrorOutput.harmless, pattern.occursIn line = false :=
    ⟨"boom".toList, by decide +kernel, by decide, by decide +kernel⟩
  rcases lint_of_analyze _ linter 0 editor _ ran with ⟨_, fails, message, _, kept⟩
  rcases fails.mpr heard with ⟨text, failed⟩
  have said : text = "boom" := (message text failed).trans (by decide +kernel)
  rw [said] at failed
  exact ⟨ran, failed, (kept _ linter 0 _ otherRan rfl (.single inserts)).trans failed⟩

end Host

end LintBridge
