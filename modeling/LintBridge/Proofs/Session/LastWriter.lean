import LintBridge.Proofs.Session.Settings

/-!
# The last writer wins

However the stores on one directory are opened, used and closed in a session, every one
of them shows for each setting what was set last through any of them, unless the
setting was unset since.
-/

namespace LintBridge

/-! ## Steps that use settings -/

/-- A step that opens a store on a directory, or uses a store. -/
inductive Step.UsesSettings (directory : String) : Step → Prop where
  | openStore (name : String) : UsesSettings directory (.openStore name (some directory))
  | get (store key : String) : UsesSettings directory (.get store key)
  | set (store key : String) (value : Value) : UsesSettings directory (.set store key value)
  | unset (store key : String) : UsesSettings directory (.unset store key)
  | items (store : String) : UsesSettings directory (.items store)
  | snapshot (store : String) : UsesSettings directory (.snapshot store none)
  | close (store : String) : UsesSettings directory (.close store)

/-- What a step with its result changes a setting to: a text if it has set it, nothing if
it has restored its default. A step that fails changes nothing. -/
def Step.change? (setting : Setting) (step : Step) : Except Fault Reply → Option (Option String)
  | .error _ => none
  | .ok _ =>
      match step with
      | .set _ key (.text text) => if key = setting.key then some (some text) else none
      | .unset _ key => if key = setting.key then some none else none
      | _ => none

/-- The values that have been set after a step. -/
def Step.leaves (step : Step) (result : Except Fault Reply)
    (value? : Setting → Option String) (setting : Setting) : Option String :=
  (step.change? setting result).getD (value? setting)

theorem Step.leaves_of_reads {step : Step}
    (reads : ∀ setting reply, step.change? setting (.ok reply) = none)
    (result : Except Fault Reply) (value? : Setting → Option String) :
    step.leaves result value? = value? := by
  funext setting
  cases result with
  | error fault => rfl
  | ok reply => rw [leaves, reads, Option.getD_none]

/-- The values after a change are those before with one that is replaced. -/
theorem Setting.getD_change {key : String} {setting : Setting}
    (known : Setting.ofKey? key = some setting) (new? : Option String)
    (value? : Setting → Option String) :
    (fun query : Setting =>
        (if key = query.key then some new? else none).getD (value? query)) =
      fun query => if query = setting then new? else value? query := by
  funext query
  have same : key = query.key ↔ query = setting := by
    rw [← Setting.ofKey?_eq_some_iff, known, Option.some_inj]
    exact eq_comm
  by_cases changed : query = setting
  · rw [if_pos (same.mpr changed), if_pos changed, Option.getD_some]
  · rw [if_neg fun equal => changed (same.mp equal), if_neg changed, Option.getD_none]

namespace Session

/-- The last change of a setting in a history. -/
def lastChange? (setting : Setting) (history : List (Step × Entry)) : Option (Option String) :=
  history.reverse.findSome? fun moment => moment.1.change? setting moment.2.result

theorem getD_lastChange?_cons (setting : Setting) (step : Step) (entry : Entry)
    (history : List (Step × Entry)) (value? : Setting → Option String) :
    (lastChange? setting ((step, entry) :: history)).getD (value? setting) =
      (lastChange? setting history).getD (step.leaves entry.result value? setting) := by
  rw [lastChange?, List.reverse_cons, List.findSome?_append, List.findSome?_singleton,
    Option.getD_or]
  rfl

variable {session : Session} {directory : String} {value? : Setting → Option String}

/-! ## One step -/

/-- How a step that uses settings leaves a session. -/
structure Follows (session after : Session) (directory : String)
    (value? : Setting → Option String) (step : Step) (result : Except Fault Reply) : Prop where
  serves : after.Serves directory (step.leaves result value?)
  keeps : ∀ name, session.HasStore name → after.HasStore name
  opens : ∀ name, step = .openStore name (some directory) → ∀ reply, result = .ok reply →
    after.HasStore name

theorem Yields.of_reads {step : Step} {work : Work Reply} {result : Except Fault Reply}
    (yields : session.Yields work directory result value?)
    (reads : ∀ setting reply, step.change? setting (.ok reply) = none) :
    session.Yields work directory result (step.leaves result value?) := by
  rw [Step.leaves_of_reads reads]
  exact yields

/-- A step that uses a store by its name works if the name stands for a store, and fails
without changing anything if not. -/
theorem Serves.useNamed (serves : session.Serves directory value?) {bound : Nat} {name : String}
    {step : Step} {next : Nat → Work Reply}
    (usesName : perform (bound + 1) step = storeNumber name >>= next)
    (noOpening : ∀ other, step ≠ .openStore other (some directory))
    (works : ∀ number, session.objects.lookup name = some (.store number) →
      ∃ result, session.Yields (perform (bound + 1) step) directory result
        (step.leaves result value?)) :
    ∃ result after, session.attempt (perform (bound + 1) step) = (result, after) ∧
      session.Follows after directory value? step result := by
  by_cases named : session.HasStore name
  · rcases named with ⟨number, named⟩
    rcases works number named with ⟨result, after, ran, kept, objects⟩
    refine ⟨result, after, ran, kept, ?_, ?_⟩
    · intro other there
      rw [HasStore, objects]
      exact there
    · intro other opening
      exact absurd opening (noOpening other)
  · refine ⟨.error (.unknownName name), session, ?_, serves, fun _ there => there, ?_⟩
    · rw [usesName, attempt_storeNumber_bind_of_not_hasStore named]
    · intro other opening
      exact absurd opening (noOpening other)

theorem Serves.set (serves : session.Serves directory value?) {name : String} {number : Nat}
    (named : session.objects.lookup name = some (.store number)) (bound : Nat) (key : String)
    (value : Value) :
    session.Yields (perform (bound + 1) (.set name key value)) directory (setResult key value)
      ((Step.set name key value).leaves (setResult key value) value?) := by
  cases known : Setting.ofKey? key with
  | none =>
      rw [setResult.eq_def, known]
      exact ⟨session, attempt_set_of_unknown named bound value known, serves, rfl⟩
  | some setting =>
      by_cases isText : ∃ text, value = .text text
      · rcases isText with ⟨text, rfl⟩
        have set := serves.set_text named bound known text
        rw [← Setting.getD_change known (some text) value?] at set
        rw [setResult.eq_def, known]
        exact set
      · have noText : ∀ text, value ≠ .text text := fun text equal => isText ⟨text, equal⟩
        have fails : setResult key value =
            .error (.tool (.setting setting.key value Store.textHint)) := by
          rw [setResult.eq_def, known]
          cases value with
          | text text => exact absurd rfl (noText text)
          | _ => rfl
        rw [fails]
        exact ⟨session, attempt_set_of_not_text named bound known noText, serves, rfl⟩

theorem Serves.unset (serves : session.Serves directory value?) {name : String} {number : Nat}
    (named : session.objects.lookup name = some (.store number)) (bound : Nat) (key : String) :
    session.Yields (perform (bound + 1) (.unset name key)) directory (unsetResult key)
      ((Step.unset name key).leaves (unsetResult key) value?) := by
  cases known : Setting.ofKey? key with
  | none =>
      rw [unsetResult.eq_def, known]
      exact ⟨session, attempt_unset_of_unknown named bound known, serves, rfl⟩
  | some setting =>
      have unset := serves.unset_known named bound known
      rw [← Setting.getD_change known none value?] at unset
      rw [unsetResult.eq_def, known]
      exact unset

theorem Serves.use (serves : session.Serves directory value?) (bound : Nat) {step : Step}
    (uses : step.UsesSettings directory) :
    ∃ result after, session.attempt (perform (bound + 1) step) = (result, after) ∧
      session.Follows after directory value? step result := by
  cases uses with
  | openStore name =>
      rcases serves.openStore bound name with ⟨result, after, ran, kept, keeps, opened⟩
      refine ⟨result, after, ran, ?_, keeps, ?_⟩
      · rw [Step.leaves_of_reads fun _ _ => rfl]
        exact kept
      · rintro _ ⟨⟩
        exact opened
  | get name key =>
      exact serves.useNamed rfl nofun fun number named =>
        ⟨_, (serves.get named bound key).of_reads fun _ _ => rfl⟩
  | set name key value =>
      exact serves.useNamed rfl nofun fun number named =>
        ⟨_, serves.set named bound key value⟩
  | unset name key =>
      exact serves.useNamed rfl nofun fun number named => ⟨_, serves.unset named bound key⟩
  | items name =>
      exact serves.useNamed rfl nofun fun number named =>
        ⟨_, (serves.items named bound).of_reads fun _ _ => rfl⟩
  | snapshot name =>
      exact serves.useNamed rfl nofun fun number named =>
        ⟨_, (serves.snapshot named bound).of_reads fun _ _ => rfl⟩
  | close name =>
      refine serves.useNamed rfl nofun fun number named => ?_
      rcases serves.close named bound with ⟨there, yields⟩
      exact ⟨_, yields.of_reads fun _ _ => rfl⟩

theorem Serves.advance (serves : session.Serves directory value?) (bound : Nat) {step : Step}
    (uses : step.UsesSettings directory) :
    session.Follows (session.advance (bound + 1) step).2 directory value? step
      (session.advance (bound + 1) step).1.result := by
  rcases serves.use bound uses with ⟨result, after, ran, follows⟩
  rw [advance_of_attempt session ran]
  exact ⟨⟨follows.serves.archive, follows.serves.named⟩, follows.keeps, follows.opens⟩

/-! ## Runs -/

theorem runFrom_cons (session : Session) (bound : Nat) (step : Step) (steps : List Step) :
    session.runFrom bound (step :: steps) =
      ((session.advance bound step).1 ::
          ((session.advance bound step).2.runFrom bound steps).1,
        ((session.advance bound step).2.runFrom bound steps).2) := rfl

theorem Serves.runFrom (serves : session.Serves directory value?) (bound : Nat)
    {steps : List Step} (uses : ∀ step ∈ steps, step.UsesSettings directory) :
    (session.runFrom (bound + 1) steps).2.Serves directory
        (fun setting =>
          (lastChange? setting (steps.zip (session.runFrom (bound + 1) steps).1)).getD
            (value? setting)) ∧
      (∀ name, session.HasStore name → (session.runFrom (bound + 1) steps).2.HasStore name) ∧
      ∀ name entry,
        (Step.openStore name (some directory), entry) ∈
            steps.zip (session.runFrom (bound + 1) steps).1 →
          ∀ reply, entry.result = .ok reply →
            (session.runFrom (bound + 1) steps).2.HasStore name := by
  induction steps generalizing session value? with
  | nil => exact ⟨serves, fun _ there => there, nofun⟩
  | cons step steps ih =>
      rcases List.forall_mem_cons.mp uses with ⟨first, others⟩
      have follows := serves.advance bound first
      rcases ih follows.serves others with ⟨kept, keeps, opens⟩
      rw [runFrom_cons, List.zip_cons_cons]
      -- The rest of the run starts with the values that the first step has left.
      refine ⟨?_, fun name there => keeps name (follows.keeps name there), ?_⟩
      · simp only [getD_lastChange?_cons]
        exact kept
      · intro name entry opened reply succeeded
        rcases List.mem_cons.mp opened with now | later
        · cases now
          exact keeps name (follows.opens name rfl reply succeeded)
        · exact opens name entry later reply succeeded

/-- What comes of using a store by its name when the settings are shown with some values. -/
structure Answers (session : Session) (bound : Nat) (name : String)
    (value : Setting → String) : Prop where
  get : ∀ key, (session.advance bound (.get name key)).1.result = getResult value key
  items : (session.advance bound (.items name)).1.result =
    .ok (.values (Setting.all.map fun setting => (setting, value setting)))
  snapshot : (session.advance bound (.snapshot name none)).1.result =
    .ok (.settings (.ofFunction value))
  set : ∀ key new, (session.advance bound (.set name key new)).1.result = setResult key new
  unset : ∀ key, (session.advance bound (.unset name key)).1.result = unsetResult key

theorem Yields.result_advance {bound : Nat} {step : Step} {result : Except Fault Reply}
    {values : Setting → Option String}
    (yields : session.Yields (perform bound step) directory result values) :
    (session.advance bound step).1.result = result := by
  rcases yields with ⟨after, ran, _⟩
  rw [advance_of_attempt session ran]

theorem Serves.answers (serves : session.Serves directory value?) (bound : Nat) {name : String}
    (named : session.HasStore name) :
    session.Answers (bound + 1) name (shownValue value?) := by
  rcases named with ⟨number, named⟩
  exact {
    get := fun key => (serves.get named bound key).result_advance
    items := (serves.items named bound).result_advance
    snapshot := (serves.snapshot named bound).result_advance
    set := fun key value => (serves.set named bound key value).result_advance
    unset := fun key => (serves.unset named bound key).result_advance }

/-- Changes through a store that are refused: nothing is changed, and nobody is called. -/
structure Refuses (session : Session) (bound : Nat) (name : String) : Prop where
  set_unknown : ∀ key value, Setting.ofKey? key = none →
    session.attempt (perform bound (.set name key value)) = (.error (unknownKey key), session)
  unset_unknown : ∀ key, Setting.ofKey? key = none →
    session.attempt (perform bound (.unset name key)) = (.error (unknownKey key), session)
  set_not_text : ∀ key setting value, Setting.ofKey? key = some setting →
    (∀ text, value ≠ .text text) →
      session.attempt (perform bound (.set name key value)) =
        (.error (.tool (.setting setting.key value Store.textHint)), session)

theorem HasStore.refuses {name : String} (named : session.HasStore name) (bound : Nat) :
    session.Refuses (bound + 1) name := by
  rcases named with ⟨number, named⟩
  exact {
    set_unknown := fun _ value unknown => attempt_set_of_unknown named bound value unknown
    unset_unknown := fun _ unknown => attempt_unset_of_unknown named bound unknown
    set_not_text := fun _ _ _ known noText =>
      attempt_set_of_not_text named bound known noText }

/-- After any steps that open stores on a directory and use them, every store that has
been opened shows for each setting what the last change through any store has made of
it. What has not been set, or has been unset since, is shown with its default. In any
session whatsoever, changes of unknown keys and values that are no texts are refused. -/
theorem last_writer_wins (session : Session) (directory : String) (steps : List Step)
    (bound : Nat)
    (nothingSet : ∀ setting,
      session.host.exchange.archive.get? (session.settingsLocation directory) setting = none)
    (noStores : ∀ name, ¬ session.HasStore name)
    (uses : ∀ step ∈ steps, step.UsesSettings directory) :
    let run := session.runFrom (bound + 1) steps
    let history := steps.zip run.1
    (∀ name entry, (Step.openStore name (some directory), entry) ∈ history →
      ∀ reply, entry.result = .ok reply →
        run.2.Answers (bound + 1) name
          (shownValue fun setting => (lastChange? setting history).getD none)) ∧
      ∀ (other : Session) name, other.HasStore name → other.Refuses (bound + 1) name := by
  have serves : session.Serves directory fun _ => none :=
    ⟨nothingSet, fun name number named => absurd ⟨number, named⟩ (noStores name)⟩
  rcases serves.runFrom bound uses with ⟨kept, -, opens⟩
  refine ⟨?_, fun other name named => named.refuses bound⟩
  intro name entry opened reply succeeded
  exact kept.answers bound (opens name entry opened reply succeeded)

/-- Two stores on one directory that are used in turns. -/
def turns : List Step :=
  [.openStore "a" (some "d"), .openStore "b" (some "d"),
    .set "a" "linter-pylint.workingDirectory" (.text "x:y"), .close "a",
    .set "b" "linter-pylint.workingDirectory" (.text "p:q"),
    .set "b" "linter-pylint.workingDirectory" (.truth true)]

/-- The store that was closed is opened again, and shows what was set through the other. -/
theorem last_writer_wins_turns :
    (∀ setting, (start "/s").host.exchange.archive.get? ((start "/s").settingsLocation "d")
        setting = none) ∧
      (∀ name, ¬ (start "/s").HasStore name) ∧
      (∀ step ∈ turns, step.UsesSettings "d") ∧
      (((start "/s").runFrom 1 turns).2.advance 1
        (.get "a" "linter-pylint.workingDirectory")).1.result = .ok (.text "pq") := by
  have nothingSet : ∀ setting,
      (start "/s").host.exchange.archive.get? ((start "/s").settingsLocation "d") setting =
        none := fun _ => rfl
  have noStores : ∀ name, ¬ (start "/s").HasStore name := nofun
  have uses : ∀ step ∈ turns, step.UsesSettings "d" := by
    intro step there
    simp only [turns, List.mem_cons, List.not_mem_nil, or_false] at there
    rcases there with rfl | rfl | rfl | rfl | rfl | rfl <;> constructor
  refine ⟨nothingSet, noStores, uses, ?_⟩
  have wins := last_writer_wins (start "/s") "d" turns 0 nothingSet noStores uses
  have last : lastChange? .workingDirectory (turns.zip ((start "/s").runFrom 1 turns).1) =
      some (some "p:q") := by
    decide +kernel
  have opened : (Step.openStore "a" (some "d"),
      ((start "/s").advance 1 (.openStore "a" (some "d"))).1) ∈
        turns.zip ((start "/s").runFrom 1 turns).1 := by
    rw [turns, runFrom_cons, List.zip_cons_cons]
    exact List.mem_cons_self
  have isOk : ((start "/s").advance 1 (.openStore "a" (some "d"))).1.result.isOk = true := by
    decide +kernel
  cases succeeded : ((start "/s").advance 1 (.openStore "a" (some "d"))).1.result with
  | error fault =>
      rw [succeeded] at isOk
      cases isOk
  | ok reply =>
      have known : Setting.ofKey? "linter-pylint.workingDirectory" = some .workingDirectory := by
        decide
      have shown : Store.normalize .workingDirectory "p:q" = "pq" := by decide
      rw [(wins.1 "a" _ opened reply succeeded).get, getResult, known]
      dsimp only
      rw [shownValue, last, Option.getD_some, Option.getD_some, shown]

end Session

end LintBridge
