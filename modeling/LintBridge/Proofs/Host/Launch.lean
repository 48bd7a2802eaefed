import LintBridge.CommandLine.Run
import LintBridge.Proofs.Host.Cleanup
import LintBridge.Proofs.Host.Package

/-!
# Launches that fail

A program that cannot be started is a failure of the tool as far as the system refuses a
path for it. Texts that cannot be given to the system at all fail in another way, which
neither a lint nor the command line reports as a failure of the tool.
-/

namespace LintBridge

/-! ## Texts for the system -/

namespace Invocation

variable {invocation : Invocation} {disk : Disk} {directory : String}

/-- The texts of an invocation can be given to the system: no name of a variable holds an
equals sign, and no text holds the character zero. -/
structure IsWellFormed (invocation : Invocation) : Prop where
  names : ∀ entry ∈ invocation.environment.entries, '=' ∉ entry.1.toList
  texts : ∀ text ∈ invocation.texts, '\x00' ∉ text.toList

theorem malformed?_of_name {entry : String × String}
    (member : entry ∈ invocation.environment.entries) (equals : '=' ∈ entry.1.toList) :
    invocation.malformed? = some .variableName := by
  have listed : invocation.environment.names.any (·.toList.contains '=') = true := by
    rw [List.any_eq_true]
    exact ⟨entry.1, List.mem_map_of_mem member, List.contains_iff_mem.mpr equals⟩
  rw [malformed?, if_pos listed]

theorem malformed?_of_text
    (names : ∀ entry ∈ invocation.environment.entries, '=' ∉ entry.1.toList) {text : String}
    (member : text ∈ invocation.texts) (zero : '\x00' ∈ text.toList) :
    invocation.malformed? = some .nullCharacter := by
  have unlisted : ¬ invocation.environment.names.any (·.toList.contains '=') = true := by
    simpa [Environment.names] using names
  have found : (!invocation.texts.all isPlain) = true := by
    rw [Bool.not_eq_true', List.all_eq_false]
    exact ⟨text, member, by simp [isPlain, zero]⟩
  rw [malformed?, if_neg unlisted, if_pos found]

theorem IsWellFormed.malformed? (wellFormed : invocation.IsWellFormed) :
    invocation.malformed? = none := by
  have unlisted : ¬ invocation.environment.names.any (·.toList.contains '=') = true := by
    simpa [Environment.names] using wellFormed.names
  have plain : ¬ (!invocation.texts.all isPlain) = true := by
    simpa [isPlain] using wellFormed.texts
  rw [Invocation.malformed?, if_neg unlisted, if_neg plain]

theorem exists_malformed? (malformed : ¬ invocation.IsWellFormed) :
    invocation.malformed? = some .variableName ∨ invocation.malformed? = some .nullCharacter := by
  by_cases names : ∀ entry ∈ invocation.environment.entries, '=' ∉ entry.1.toList
  · by_cases texts : ∀ text ∈ invocation.texts, '\x00' ∉ text.toList
    · exact absurd ⟨names, texts⟩ malformed
    · push Not at texts
      obtain ⟨text, member, zero⟩ := texts
      exact Or.inr (malformed?_of_text names member zero)
  · push Not at names
    obtain ⟨entry, member, equals⟩ := names
    exact Or.inl (malformed?_of_name member equals)

theorem resolve_of_malformed? {fault : Fault} (malformed : invocation.malformed? = some fault) :
    invocation.resolve disk directory = .error fault := by
  rw [resolve, malformed]

theorem isWellFormed_of_resolve {found : Place × Program × String}
    (resolved : invocation.resolve disk directory = .ok found) : invocation.IsWellFormed := by
  by_contra malformed
  cases exists_malformed? malformed with
  | inl name => cases (resolve_of_malformed? name).symm.trans resolved
  | inr text => cases (resolve_of_malformed? text).symm.trans resolved

/-- What can be given to the system is found, or the system refuses a path. -/
theorem IsWellFormed.resolve_cases (wellFormed : invocation.IsWellFormed) (disk : Disk)
    (directory : String) :
    (∃ found, invocation.resolve disk directory = .ok found) ∨
      ∃ fault path, invocation.resolve disk directory = .error (.refused fault path) := by
  rw [resolve, wellFormed.malformed?]
  dsimp only
  split
  · exact Or.inr ⟨_, _, rfl⟩
  · split
    · exact Or.inr ⟨_, _, rfl⟩
    · exact Or.inl ⟨_, rfl⟩

end Invocation

namespace Fault

/-- What a fault is for those who have asked for a program: a refused path is a failure of
the tool, and any other fault stays what it is. -/
def ofLaunch (executable : String) : Fault → Fault
  | .refused fault path => .tool (.launch executable (fault.message path))
  | fault => fault

/-- A failure of the tool that says that a program cannot be started. -/
def IsLaunch (executable : String) (fault : Fault) : Prop :=
  ∃ reason, fault = .tool (.launch executable reason)

end Fault

namespace Invocation

variable {invocation : Invocation} {disk : Disk} {directory : String} {fault : Fault}

/-- A program fails to start as a failure of the tool if its texts can be given to the
system, and in one of two other ways if they cannot. -/
theorem failure_cases (failed : invocation.resolve disk directory = .error fault)
    (executable : String) :
    invocation.IsWellFormed ∧ (fault.ofLaunch executable).IsLaunch executable ∨
      ¬ invocation.IsWellFormed ∧ (fault = .variableName ∨ fault = .nullCharacter) := by
  by_cases wellFormed : invocation.IsWellFormed
  · left
    rcases wellFormed.resolve_cases disk directory with
      ⟨found, resolved⟩ | ⟨refusal, path, refused⟩
    · cases resolved.symm.trans failed
    · cases refused.symm.trans failed
      exact ⟨wellFormed, _, rfl⟩
  · right
    refine ⟨wellFormed, ?_⟩
    cases exists_malformed? wellFormed with
    | inl name =>
        cases (resolve_of_malformed? name).symm.trans failed
        exact Or.inl rfl
    | inr text =>
        cases (resolve_of_malformed? text).symm.trans failed
        exact Or.inr rfl

theorem isLaunch_iff (failed : invocation.resolve disk directory = .error fault)
    (executable : String) :
    (fault.ofLaunch executable).IsLaunch executable ↔ invocation.IsWellFormed := by
  rcases failure_cases failed executable with ⟨wellFormed, launch⟩ | ⟨malformed, rfl | rfl⟩
  · exact iff_of_true launch wellFormed
  · exact iff_of_false nofun malformed
  · exact iff_of_false nofun malformed

end Invocation

namespace Host

variable {α β : Type} {host : Host}

/-! ## Executing programs -/

theorem start_of_resolve_error {invocation : Invocation} {fault : Fault}
    (failed : invocation.resolve host.disk host.directory = .error fault) :
    host.perform (start invocation) = (.error fault, host) := by
  rw [start, perform_bind_of_ok (perform_get host), failed]
  rfl

theorem start_of_resolve_ok {invocation : Invocation} {found : Place × Program × String}
    (resolved : invocation.resolve host.disk host.directory = .ok found) :
    ∃ outcome run, host.perform (start invocation) =
        (.ok outcome, { host with runs := run :: host.runs }) ∧
      run.arguments = invocation.arguments := by
  rw [start, perform_bind_of_ok (perform_get host), resolved]
  exact ⟨_, _, rfl, rfl⟩

/-- A program is started and ends, or the fault is handed on as a fault of a launch. -/
theorem execute_cases_resolve (host : Host) (executable : String) (arguments : List String)
    (environment? : Option Environment) (directory? : Option String) :
    let invocation : Invocation :=
      ⟨executable, arguments, environment?.getD host.environment, directory?⟩
    (∃ execution run log,
        host.perform (execute executable arguments environment? directory? none) =
            (.ok (some execution), { host with runs := run :: host.runs, log }) ∧
          run.arguments = arguments ∧ invocation.IsWellFormed) ∨
      ∃ fault log, invocation.resolve host.disk host.directory = .error fault ∧
        host.perform (execute executable arguments environment? directory? none) =
          (.error (fault.ofLaunch executable), { host with log }) := by
  intro invocation
  rw [execute]
  dsimp only
  rw [perform_bind_of_ok (perform_note _ _ _), perform_bind_of_ok (perform_get _), perform_bind,
    perform_tryCatch, perform_start_log]
  cases resolved : invocation.resolve host.disk host.directory with
  | error fault =>
      rw [start_of_resolve_error resolved]
      cases fault <;> exact Or.inr ⟨_, _, rfl, rfl⟩
  | ok found =>
      obtain ⟨outcome, run, started, called⟩ := start_of_resolve_ok resolved
      rw [started]
      exact Or.inl ⟨_, _, _, rfl, called, Invocation.isWellFormed_of_resolve resolved⟩

/-! ## Lints and calls of the command line -/

/-- Start a program, and see what was to be started and how that ended. -/
def attempt (invocation : Invocation) : Action (Invocation × Except Fault Outcome) :=
  ExceptT.mk fun host =>
    (.ok (invocation, (host.perform (start invocation)).1), (host.perform (start invocation)).2)

@[simp] theorem perform_attempt (host : Host) (invocation : Invocation) :
    host.perform (attempt invocation) =
      (.ok (invocation, (host.perform (start invocation)).1),
        (host.perform (start invocation)).2) :=
  rfl

/-- Attempt to run the analyzer as a lint does. -/
def attemptAnalysis (linter : Linter) (editor : Editor) :
    Action (Invocation × Except Fault Outcome) := do
  let command ← commandFor linter editor.path
  withTemporaryFile (Path.name editor.path) editor.buffer.text fun path => do
    let call := command.withTarget path
    attempt ⟨call.executable, call.arguments, call.environment, some call.directory⟩

/-- Attempt to run the analyzer as a call of the command line does. -/
def attemptCall (store : Nat) (path : String) (roots : List String) :
    Action (Invocation × Except Fault Outcome) := do
  let number ← openEditor path none
  let project ← openProject roots
  match (← get).editors[number]? with
  | none => throw (.unknownName path)
  | some editor => attemptAnalysis ⟨store, some project, none⟩ editor

/-- How an execution ends after an attempt to start the program. -/
def executionOf : Invocation × Except Fault Outcome → Except Fault (Option Execution)
  | (_, .ok outcome) => .ok (some (.ofOutcome outcome))
  | (invocation, .error fault) => .error (fault.ofLaunch invocation.executable)

/-- How a lint ends after an attempt to run the analyzer. -/
def lintingOf (editor : Editor) :
    Invocation × Except Fault Outcome → Except Fault (List Diagnostic)
  | (_, .ok outcome) => Linter.verdict editor outcome
  | (invocation, .error fault) => .error (fault.ofLaunch invocation.executable)

theorem followsFrom_attempt (executable : String) (arguments : List String)
    (environment : Environment) (directory : String) :
    host.FollowsFrom executionOf
      (attempt ⟨executable, arguments, environment, some directory⟩)
      (execute executable arguments (some environment) (some directory) none) := by
  rintro ⟨invocation, result⟩ ran
  rw [perform_attempt] at ran
  cases ran
  rw [execute]
  simp only [Option.getD_some]
  rw [perform_bind_of_ok (perform_note _ _ _), perform_bind_of_ok (perform_get _), perform_bind,
    perform_tryCatch, perform_start_log, perform_attempt]
  cases (host.perform (start ⟨executable, arguments, environment, some directory⟩)).1 with
  | ok outcome => exact ⟨rfl, rfl⟩
  | error fault => cases fault <;> exact ⟨rfl, rfl⟩

theorem fst_perform_tryCatch_bind_of_error {action : Action α} {fault : Fault}
    (failed : (host.perform action).1 = .error fault) (next : α → Action β)
    (handle : Fault → Action β) :
    (host.perform (tryCatch (action >>= next) handle)).1 =
      ((host.perform action).2.perform (handle fault)).1 := by
  cases ran : host.perform action with
  | mk result after =>
      rw [ran] at failed
      cases failed
      rw [perform_tryCatch, perform_bind_of_error ran]

/-- What a lint does with the copy of the text is decided by the attempt to run the
analyzer on it. -/
theorem followsFrom_lintCopy (command : Command) (number : Nat) (editor : Editor)
    (path : String) :
    let call := command.withTarget path
    host.FollowsFrom (lintingOf editor)
      (attempt ⟨call.executable, call.arguments, call.environment, some call.directory⟩)
      (lintCopy command number editor path) := by
  intro call
  apply FollowsFrom.bind (followsFrom_attempt _ _ _ _)
  · rintro ⟨invocation, result⟩ execution? executed ended
    cases result with
    | error fault => cases executed
    | ok outcome =>
        cases executed
        dsimp only [lintingOf]
        exact ⟨fst_perform_collect ended number editor outcome,
          runs_collect ended number editor (.ofOutcome outcome)⟩
  · rintro ⟨invocation, result⟩ fault failed
    cases result with
    | ok outcome => cases failed
    | error reason =>
        cases failed
        rfl

/-- A lint is decided by the attempt to run the analyzer. -/
theorem followsFrom_attemptAnalysis (linter : Linter) (number : Nat) (editor : Editor) :
    host.FollowsFrom (lintingOf editor) (attemptAnalysis linter editor)
      (lint linter number editor) := by
  rw [attemptAnalysis, lint_eq]
  apply followsFrom_bind
  intro command ready _
  apply FollowsFrom.bind
  · apply followsFrom_bind
    intro directory made _
    apply FollowsFrom.afterwards
    · apply followsFrom_bind
      intro _ written _
      exact followsFrom_lintCopy command number editor _
    · exact runs_removeTree _
  · intro answer diagnostics judged ended
    exact ⟨judged.symm, rfl⟩
  · intro answer fault judged
    exact judged

theorem resolve_of_attempt {called invocation : Invocation} {fault : Fault}
    (attempted : (host.perform (attempt called)).1 = .ok (invocation, .error fault)) :
    invocation.resolve host.disk host.directory = .error fault := by
  rw [perform_attempt, Except.ok.injEq, Prod.mk.injEq] at attempted
  obtain ⟨rfl, failed⟩ := attempted
  cases resolved : called.resolve host.disk host.directory with
  | error other =>
      rw [start_of_resolve_error resolved] at failed
      cases failed
      rfl
  | ok found =>
      obtain ⟨outcome, run, started, -⟩ := start_of_resolve_ok resolved
      rw [started] at failed
      cases failed

theorem exists_resolve_of_attemptAnalysis {linter : Linter} {editor : Editor}
    {invocation : Invocation} {fault : Fault}
    (attempted : (host.perform (attemptAnalysis linter editor)).1 =
      .ok (invocation, .error fault)) :
    ∃ disk directory, invocation.resolve disk directory = .error fault := by
  rw [attemptAnalysis] at attempted
  rcases commandFor_eq host linter editor.path with ⟨result, exchange, built⟩
  cases result with
  | error other =>
      rw [perform_bind_of_error built] at attempted
      cases attempted
  | ok command =>
      rw [perform_bind_of_ok built] at attempted
      rcases withTemporaryFile_cases { host with exchange } (Path.name editor.path)
          editor.buffer.text _ with
        ⟨other, -, failed⟩ | ⟨_, _, _, -, -, -, ⟨other, failed⟩ | ⟨larger, -, worked⟩⟩
      · rw [failed] at attempted
        cases attempted
      · rw [failed] at attempted
        cases attempted
      · rw [worked] at attempted
        exact ⟨_, _, resolve_of_attempt attempted⟩

end Host

namespace CommandLine

/-- Lint an editor and print its diagnostics, or the failure of the tool. -/
def showLint (linter : Linter) (number : Nat) (editor : Editor) (asJson : Bool) : Action Exit :=
  let lint := do
    let diagnostics ← Host.lint linter number editor
    match printed asJson diagnostics with
    | .ok text => return Exit.success text
    | .error fault => throw fault
  tryCatch lint fun fault =>
    match fault with
    | .tool failure => return .failure failure
    | fault => throw fault

/-- An attempt of the command line is one of a lint, on which it goes on to report. -/
theorem exists_lint_of_attemptCall {host : Host} {store : Nat} {path : String}
    {roots : List String} {answer : Invocation × Except Fault Outcome}
    (attempted : (host.perform (Host.attemptCall store path roots)).1 = .ok answer) :
    ∃ (ready : Host) (linter : Linter) (number : Nat) (editor : Editor),
      (ready.perform (Host.attemptAnalysis linter editor)).1 = .ok answer ∧
        ∀ asJson, host.perform (lintFile store path roots asJson) =
          ready.perform (showLint linter number editor asJson) := by
  rw [Host.attemptCall] at attempted
  simp only [lintFile]
  cases opened : host.perform (Host.openEditor path none) with
  | mk result shown =>
      cases result with
      | error other =>
          rw [Host.perform_bind_of_error opened] at attempted
          cases attempted
      | ok number =>
          rw [Host.perform_bind_of_ok opened, Host.openProject,
            Host.perform_bind_of_ok (Host.perform_modifyGet _ _),
            Host.perform_bind_of_ok (Host.perform_get _)] at attempted
          cases there : shown.editors[number]? with
          | none =>
              dsimp only at attempted
              rw [there] at attempted
              cases attempted
          | some editor =>
              dsimp only at attempted
              rw [there] at attempted
              refine ⟨_, _, number, editor, attempted, ?_⟩
              intro asJson
              rw [Host.perform_bind_of_ok opened, Host.openProject,
                Host.perform_bind_of_ok (Host.perform_modifyGet _ _),
                Host.perform_bind_of_ok (Host.perform_get _)]
              dsimp only
              rw [there]
              rfl

/-- When the analyzer cannot be started, the fault of the launch is reported if it is a
failure of the tool, and otherwise ends the call. -/
theorem fst_perform_showLint_of_attempt {host : Host} {linter : Linter} {editor : Editor}
    {invocation : Invocation} {fault : Fault}
    (attempted : (host.perform (Host.attemptAnalysis linter editor)).1 =
      .ok (invocation, .error fault)) (number : Nat) (asJson : Bool) :
    (host.perform (showLint linter number editor asJson)).1 =
      match fault.ofLaunch invocation.executable with
      | .tool failure => .ok (.failure failure)
      | fault => .error fault := by
  have ended := (Host.followsFrom_attemptAnalysis linter number editor _ attempted).1
  rw [showLint, Host.fst_perform_tryCatch_bind_of_error ended]
  cases fault.ofLaunch invocation.executable <;> rfl

end CommandLine

namespace Host

/-- Executing a program starts it and answers, or fails without having started anything. The
fault is the failure of a launch exactly if all texts can be given to the system. An equals
sign in the name of a variable, or else a character zero in any text, ends the execution
with a fault of its own. If a lint or a call of the command line gets as far as starting the
analyzer and cannot do so, it says so just in the same cases. -/
theorem launch_reported_iff (host : Host) :
    (∀ executable arguments environment? directory?,
      let invocation : Invocation :=
        ⟨executable, arguments, environment?.getD host.environment, directory?⟩
      let result := (host.perform (execute executable arguments environment? directory? none)).1
      let after := (host.perform (execute executable arguments environment? directory? none)).2
      ((∃ execution run, result = .ok (some execution) ∧ after.runs = run :: host.runs ∧
            run.arguments = arguments) ∨
          (∃ fault, result = .error fault) ∧ after.runs = host.runs) ∧
        (∀ fault, result = .error fault →
          (fault.IsLaunch executable ↔ invocation.IsWellFormed)) ∧
        ((∃ entry ∈ invocation.environment.entries, '=' ∈ entry.1.toList) →
          result = .error .variableName) ∧
        ((∀ entry ∈ invocation.environment.entries, '=' ∉ entry.1.toList) →
          (∃ text ∈ invocation.texts, '\x00' ∈ text.toList) →
          result = .error .nullCharacter)) ∧
      (∀ linter number editor invocation fault,
        (host.perform (attemptAnalysis linter editor)).1 = .ok (invocation, .error fault) →
        ((∃ reason, (host.perform (lint linter number editor)).1 =
            .error (.tool (.launch invocation.executable reason))) ↔ invocation.IsWellFormed)) ∧
      ∀ store path roots asJson invocation fault,
        (host.perform (attemptCall store path roots)).1 = .ok (invocation, .error fault) →
        ((∃ reason, (host.perform (CommandLine.lintFile store path roots asJson)).1 =
            .ok (.failure (.launch invocation.executable reason))) ↔
          invocation.IsWellFormed) := by
  refine ⟨?_, ?_, ?_⟩
  · intro executable arguments environment? directory? invocation result after
    rcases execute_cases_resolve host executable arguments environment? directory? with
      ⟨execution, run, log, ran, called, wellFormed⟩ | ⟨fault, log, unresolved, failed⟩
    · have ends : result = .ok (some execution) := congrArg Prod.fst ran
      have runs : after.runs = run :: host.runs := congrArg (·.2.runs) ran
      refine ⟨Or.inl ⟨execution, run, ends, runs, called⟩, ?_, ?_, ?_⟩
      · intro fault failed
        cases ends.symm.trans failed
      · rintro ⟨entry, member, equals⟩
        exact absurd equals (wellFormed.names entry member)
      · rintro - ⟨text, member, zero⟩
        exact absurd zero (wellFormed.texts text member)
    · have ends : result = .error (fault.ofLaunch executable) := congrArg Prod.fst failed
      have runs : after.runs = host.runs := congrArg (·.2.runs) failed
      refine ⟨Or.inr ⟨⟨_, ends⟩, runs⟩, ?_, ?_, ?_⟩
      · intro other same
        cases ends.symm.trans same
        exact Invocation.isLaunch_iff unresolved executable
      · rintro ⟨entry, member, equals⟩
        have named := Invocation.malformed?_of_name member equals
        cases (Invocation.resolve_of_malformed? named).symm.trans unresolved
        exact ends
      · rintro names ⟨text, member, zero⟩
        have nulled := Invocation.malformed?_of_text names member zero
        cases (Invocation.resolve_of_malformed? nulled).symm.trans unresolved
        exact ends
  · intro linter number editor invocation fault attempted
    have ended := (followsFrom_attemptAnalysis linter number editor _ attempted).1
    obtain ⟨disk, directory, unresolved⟩ := exists_resolve_of_attemptAnalysis attempted
    rw [ended, ← Invocation.isLaunch_iff unresolved invocation.executable]
    simp [lintingOf, Fault.IsLaunch]
  · intro store path roots asJson invocation fault attempted
    obtain ⟨ready, linter, number, editor, analyzed, reports⟩ :=
      CommandLine.exists_lint_of_attemptCall attempted
    obtain ⟨disk, directory, unresolved⟩ := exists_resolve_of_attemptAnalysis analyzed
    rw [reports, CommandLine.fst_perform_showLint_of_attempt analyzed]
    rcases Invocation.failure_cases unresolved invocation.executable with
      ⟨wellFormed, reason, launch⟩ | ⟨malformed, rfl | rfl⟩
    · rw [launch]
      exact iff_of_true ⟨reason, rfl⟩ wellFormed
    · exact iff_of_false nofun malformed
    · exact iff_of_false nofun malformed

/-- A host with an analyzer that has no program, and with a file to analyze. -/
def absentHost : Host :=
  { replayHost ⟨[], [], 0, 0⟩ with
    disk := ⟨[(["tmp".toList], .directory), (["mod.py".toList], .file [] false)]⟩ }

/-- A host with an analyzer whose name cannot be given to the system, and with a file to
analyze. -/
def nullFileHost : Host :=
  { nullHost with disk := absentHost.disk }

/-- Whether a path was refused for a reason. -/
def isRefused (reason : PathFault) (path : String) : Except Fault α → Bool
  | .error (.refused other refused) => other = reason && refused = path
  | _ => false

theorem eq_error_of_isRefused {reason : PathFault} {path : String} {result : Except Fault α}
    (refused : isRefused reason path result = true) : result = .error (.refused reason path) := by
  rw [isRefused.eq_def] at refused
  split at refused
  · rw [Bool.and_eq_true, decide_eq_true_eq, decide_eq_true_eq] at refused
    obtain ⟨rfl, rfl⟩ := refused
    rfl
  · cases refused

theorem exists_of_seen (attempted : Except Fault (Invocation × Except Fault Outcome))
    (see : Except Fault Outcome → Bool)
    (seen : attempted.toOption.map (fun answer => see answer.2) = some true) :
    ∃ invocation result, attempted = .ok (invocation, result) ∧ see result = true := by
  cases attempted with
  | error fault => cases seen
  | ok answer => exact ⟨answer.1, answer.2, rfl, Option.some.inj seen⟩

/-- A lint says of a missing program that it cannot be started. A call of the command line
does not say so of a name that no program can have. -/
theorem launch_reported_iff_absent :
    let linter : Linter := ⟨0, none, none⟩
    let editor := Editor.ofText "/mod.py" "x\n"
    (∃ invocation, (absentHost.perform (attemptAnalysis linter editor)).1 =
        .ok (invocation, .error (.refused .missing "pylint")) ∧
      ∃ reason, (absentHost.perform (lint linter 0 editor)).1 =
        .error (.tool (.launch invocation.executable reason))) ∧
      ∃ invocation, (nullFileHost.perform (attemptCall 0 "/mod.py" [])).1 =
          .ok (invocation, .error .nullCharacter) ∧
        ¬ ∃ reason, (nullFileHost.perform (CommandLine.lintFile 0 "/mod.py" [] false)).1 =
          .ok (.failure (.launch invocation.executable reason)) := by
  intro linter editor
  constructor
  · obtain ⟨invocation, result, attempted, refused⟩ :=
      exists_of_seen (absentHost.perform (attemptAnalysis linter editor)).1
        (isRefused .missing "pylint") (by decide +kernel)
    rw [eq_error_of_isRefused refused] at attempted
    refine ⟨invocation, attempted,
      ((launch_reported_iff absentHost).2.1 linter 0 editor invocation _ attempted).mpr ?_⟩
    obtain ⟨disk, directory, unresolved⟩ := exists_resolve_of_attemptAnalysis attempted
    exact (Invocation.isLaunch_iff unresolved "pylint").mp ⟨_, rfl⟩
  · obtain ⟨invocation, result, attempted, isNull⟩ :=
      exists_of_seen (nullFileHost.perform (attemptCall 0 "/mod.py" [])).1
        isNullCharacter (by decide +kernel)
    rw [eq_error_of_isNullCharacter isNull] at attempted
    refine ⟨invocation, attempted, mt ((launch_reported_iff nullFileHost).2.2 0 "/mod.py" []
      false invocation _ attempted).mp ?_⟩
    obtain ⟨_, _, _, _, analyzed, -⟩ := CommandLine.exists_lint_of_attemptCall attempted
    obtain ⟨disk, directory, unresolved⟩ := exists_resolve_of_attemptAnalysis analyzed
    exact mt (Invocation.isLaunch_iff unresolved "py\x00lint").mpr nofun

/-- A program that cannot be started is not always a failure of the tool, neither when it is
executed nor for a lint nor for a call of the command line. -/
theorem exists_launch_unreported :
    (nullHost.perform (execute "py\x00lint" [] none none none)).1 = .error .nullCharacter ∧
      (nullFileHost.perform (lint ⟨0, none, none⟩ 0 (.ofText "/mod.py" "x\n"))).1 =
        .error .nullCharacter ∧
      (nullFileHost.perform (CommandLine.lintFile 0 "/mod.py" [] false)).1 =
        .error .nullCharacter := by
  refine ⟨?_, ?_, ?_⟩
  · exact eq_error_of_isNullCharacter (by decide +kernel)
  · exact eq_error_of_isNullCharacter (by decide +kernel)
  · exact eq_error_of_isNullCharacter (by decide +kernel)

end Host

end LintBridge
