import LintBridge.Proofs.Host.Lifecycle
import LintBridge.Proofs.Session.Callbacks
import LintBridge.Proofs.Session.LastWriter

/-!
# Packages in a session

A package is activated and deactivated, provides linters and gives away its store, and
settings are changed meanwhile, in any order. As long as none of these steps fails, the
package is active exactly after the activations that have not been undone, it reports
changes exactly while it is active, and it closes no store but its own. It has closed all of
its own stores but the one that it uses, and they stay closed unless someone changes a
setting in them.
-/

namespace LintBridge

/-- A step in the life of a package, or a change of a setting in any store. -/
inductive Step.OnPackage (package : String) : Step → Prop where
  | activate : OnPackage package (.activate package)
  | deactivate : OnPackage package (.deactivate package)
  | isActive : OnPackage package (.isActive package)
  | provideLinter (name : String) (other : name ≠ package) :
      OnPackage package (.provideLinter package name)
  | packageStore (name : String) (other : name ≠ package) :
      OnPackage package (.packageStore package name)
  | change (store : String) {step : Step} (changes : step.Changes store) : OnPackage package step

/-- What is logged when a setting of a store gets a value: the change, and then what all who
observe the setting report. -/
def Store.changeRecords (store : Store) (setting : Setting) (value : String) : List LogRecord :=
  .debug (s!"Setting {setting.key} changed to " ++ Text.quoted value) ::
    (store.observers setting).flatMap (·.reported value)

/-- So many of the observers of a setting are reporters from a number on, and each of these
reports a value of the setting in one record. -/
def Store.ReportedBy (store : Store) (first times : Nat) (setting : Setting) (value : String) :
    Prop :=
  (store.observers setting).countP (·.isFrom first) = times ∧
    ∀ callback ∈ store.observers setting, callback.isFrom first = true →
      callback.reported value = [.debug (setting.key ++ " = " ++ Text.quoted value)]

/-- What the steps in the life of a package come to: whether the last one of those that
activate or deactivate it was to activate it, and whether it has provided a linter since
it last closed a store of its own. -/
structure Life where
  active : Bool
  provided : Bool
  deriving DecidableEq, Repr

/-- A life after one more step of a package, which may open stores of its own. -/
def Life.next (owns : Bool) (life : Life) : Step → Life
  | .activate _ => { life with active := true }
  | .deactivate _ => ⟨false, life.provided && !owns⟩
  | .provideLinter _ _ => { life with provided := true }
  | _ => life

/-- The life of a package that has just been opened. -/
def Life.start : Life := ⟨false, false⟩

/-- The number of the store that an object is. -/
def Object.storeNumber? : Object → Option Nat
  | .store number => some number
  | _ => none

namespace Session

/-- The number of the store in which a step changes a setting. -/
def changedStore? (session : Session) : Step → Option Nat
  | .set store _ _ | .unset store _ => (session.objects.lookup store).bind Object.storeNumber?
  | _ => none

/-- The number of the store that a package uses. -/
def usedStore? (session : Session) (number : Nat) : Option Nat :=
  session.host.packages[number]?.bind (·.store?)

/-- The stores of a package that have been reopened after a step: a setting is changed in one
that the package has closed. Its own stores are those from a number on. -/
def reopenedAfter (session : Session) (number first : Nat) (reopened : List Nat) (step : Step) :
    List Nat :=
  match session.changedStore? step with
  | some place => PackageState.reopen first (session.usedStore? number) place reopened
  | none => reopened

/-- The stores of a package that have been reopened after some steps. -/
def reopenedFrom (session : Session) (bound number first : Nat) (reopened : List Nat) :
    List Step → List Nat
  | [] => reopened
  | step :: steps =>
      (session.advance bound step).2.reopenedFrom bound number first
        (session.reopenedAfter number first reopened step) steps

/-- Settings are changed only in the store that a package uses at the time. -/
def ChangesUsed (session : Session) (bound number : Nat) : List Step → Prop
  | [] => True
  | step :: steps =>
      (∀ place ∈ session.changedStore? step, session.usedStore? number = some place) ∧
        (session.advance bound step).2.ChangesUsed bound number steps

/-- A package reopens nothing while settings are changed only in the store that it uses. -/
theorem reopenedFrom_of_changesUsed {session : Session} {bound number first : Nat}
    {reopened : List Nat} {steps : List Step} (used : session.ChangesUsed bound number steps) :
    session.reopenedFrom bound number first reopened steps = reopened := by
  induction steps generalizing session with
  | nil => rfl
  | cons step steps ih =>
      rcases used with ⟨now, later⟩
      have same : session.reopenedAfter number first reopened step = reopened := by
        rw [reopenedAfter]
        cases changed : session.changedStore? step with
        | none => rfl
        | some place =>
            dsimp only
            rw [PackageState.reopen, if_pos (.inr (now place changed))]
      rw [reopenedFrom, same]
      exact ih later

/-- What holds of a session between the steps in the life of a package. -/
structure PackageInvariant (origin : PackageState) (session : Session) (name : String)
    (number : Nat) (given? : Option Nat) (reopened : List Nat) (life : Life)
    (package : Package) (own : List (Setting × Callback)) : Prop where
  named : session.objects.lookup name = some (.package number)
  recording : session.Recording
  host : origin.Invariant session.host.packageState number given? reopened package own
  active : package.subscriptions?.isSome = life.active
  provided : package.linter?.isSome = life.provided
  known : ∀ linter, session.provided.lookup name = some linter →
    linter < session.host.linters.length
  last : ∀ linter, package.linter? = some linter → session.provided.lookup name = some linter

/-- What can be observed of a package that was opened in some state: the reporters in all
stores, the linter, which stores are open, and what the next step shows of them. -/
structure PackageContract (origin : PackageState) (session : Session) (bound : Nat)
    (name : String) (number : Nat) (given? : Option Nat) (reopened : List Nat) (life : Life)
    (package : Package) : Prop where
  there : session.host.packages[number]? = some package
  active : (session.advance bound (.isActive name)).1.result = .ok (.truth life.active)
  stored : life.active = true →
    ∃ place store, package.store? = some place ∧ session.host.exchange.store? place = some store
  reporters : ∀ place store setting, session.host.exchange.store? place = some store →
    (store.observers setting).countP (·.isFrom origin.reporters) =
      if life.active = true ∧ package.store? = some place then 1 else 0
  reports : ∀ storeName place step, session.objects.lookup storeName = some (.store place) →
    step.Changes storeName → (session.advance bound step).1.result.isOk = true →
    ∃ setting store, step.setting? = some setting ∧
      session.host.exchange.store? place = some store ∧
      let value := store.get (session.advance bound step).2.host.exchange.archive setting
      (session.advance bound step).1.log =
          session.host.log ++ store.changeRecords setting value ∧
        store.ReportedBy origin.reporters
          (if life.active = true ∧ package.store? = some place then 1 else 0) setting value
  reads : ∀ linter, package.linter? = some linter →
    ∃ made, session.host.linters[linter]? = some made ∧ package.store? = some made.store
  provided : package.linter?.isSome = life.provided
  same : ∀ other, other ≠ name →
    (session.advance bound (.provideLinter name other)).1.result.isOk = true →
    (session.advance bound (.provideLinter name other)).1.result = .ok (.same life.provided) ∧
      ∀ linter, package.linter? = some linter →
        (session.advance bound (.provideLinter name other)).2.objects.lookup other =
          some (.linter linter)
  given : ∀ place, given? = some place → package.store? = some place
  /-- No step of the package closes a store that was there before. -/
  lasting : ∀ place step, place < origin.exchange.stores.length → step.OnPackage name →
    (session.advance bound step).1.result.isOk = true → session.host.exchange.IsOpen place →
    (session.advance bound step).2.host.exchange.IsOpen place
  /-- Of the stores that the package has opened, the one in use is open, and the package has
  closed the others: they are open only if they have been reopened. -/
  isOpen_iff : ∀ place, origin.exchange.stores.length ≤ place →
    (session.host.exchange.IsOpen place ↔ package.store? = some place ∨ place ∈ reopened)
  closes : (session.advance bound (.deactivate name)).1.result = .ok .done ∧
    (given? = none → ∀ place, package.store? = some place →
      ¬ (session.advance bound (.deactivate name)).2.host.exchange.IsOpen place)

variable {origin : PackageState} {session : Session} {name : String} {number bound : Nat}
  {given? : Option Nat} {reopened : List Nat} {life : Life} {package : Package}
  {own : List (Setting × Callback)}

/-! ## Work that succeeds -/

theorem attempt_packageNumber_bind
    (named : session.objects.lookup name = some (.package number)) (next : Nat → Work Reply) :
    session.attempt (packageNumber name >>= next) = session.attempt (next number) := by
  have found : session.attempt (packageNumber name) = (.ok number, session) := by
    rw [packageNumber, lookup, attempt_bind, attempt_get]
    dsimp only
    rw [named]
    rfl
  exact attempt_bind_of_ok found next

theorem exists_of_isOk {α : Type} {action : Action α} {next : α → Work Reply}
    (isOk : (session.attempt (onHost action >>= next)).1.isOk = true) :
    ∃ answer host, session.host.perform action = (.ok answer, host) ∧
      session.attempt (onHost action >>= next) = { session with host }.attempt (next answer) := by
  cases ran : session.host.perform action with
  | mk result host =>
      cases result with
      | ok answer => exact ⟨answer, host, rfl, attempt_onHost_bind_of_ok ran next⟩
      | error fault =>
          rw [attempt_onHost_bind_of_error ran next] at isOk
          cases isOk

section Invariant

variable
  (invariant : session.PackageInvariant origin name number given? reopened life package own)

include invariant

/-! ## Steps of the package -/

theorem PackageInvariant.settle (seen : List (String × String)) (log : List LogRecord) :
    PackageInvariant origin { session with seen, host := { session.host with log } } name
      number given? reopened life package own :=
  ⟨invariant.named, invariant.recording, invariant.host, invariant.active, invariant.provided,
    invariant.known, invariant.last⟩

theorem PackageInvariant.activate (isOk : (session.attempt (act (.activate name))).1.isOk = true) :
    ∃ active reporters,
      (session.attempt (act (.activate name))).2.PackageInvariant origin name number given?
        reopened { life with active := true } active reporters := by
  have begins : session.attempt (act (.activate name)) = _ :=
    attempt_packageNumber_bind invariant.named _
  rw [begins] at isOk ⊢
  rcases exists_of_isOk isOk with ⟨_, host, ran, goes⟩
  rw [goes, attempt_pure]
  rcases Host.invariant_activate invariant.host ran with
    ⟨active, reporters, kept, isActive, linter, linters⟩
  refine ⟨active, reporters, invariant.named, invariant.recording, kept, isActive, ?_, ?_, ?_⟩
  · rw [linter]
    exact invariant.provided
  · rw [linters]
    exact invariant.known
  · rw [linter]
    exact invariant.last

/-- A package that is deactivated forgets its linter if it had a store of its own. -/
theorem PackageInvariant.deactivate :
    ∃ after rest, session.attempt (act (.deactivate name)) = (.ok .done, after) ∧
      after.PackageInvariant origin name number given? reopened
        ⟨false, life.provided && !given?.isNone⟩ rest [] ∧
      (given? = none → ∀ place, package.store? = some place →
        ¬ after.host.exchange.IsOpen place) := by
  rcases Host.invariant_deactivate invariant.host with ⟨host, rest, ran, deactivated⟩
  refine ⟨{ session with host }, rest, ?_, ⟨invariant.named, invariant.recording,
    deactivated.invariant, ?_, ?_, ?_, ?_⟩, fun ungiven => (deactivated.closed ungiven).2⟩
  · exact (attempt_packageNumber_bind invariant.named _).trans (attempt_onHost_bind_of_ok ran _)
  · rw [deactivated.inactive]
    rfl
  · rw [deactivated.linter?, ← invariant.provided]
    cases given? with
    | none => simp
    | some place => simp
  · rw [deactivated.linters]
    exact invariant.known
  · intro linter provided
    rw [deactivated.linter?] at provided
    split at provided
    · cases provided
    · exact invariant.last linter provided

theorem PackageInvariant.isActive :
    session.attempt (act (.isActive name)) = (.ok (.truth life.active), session) := by
  have answered : session.attempt (act (.isActive name)) =
      session.attempt (pure (.truth package.subscriptions?.isSome)) :=
    (attempt_packageNumber_bind invariant.named _).trans
      (attempt_onHost_bind_of_ok (Host.perform_packageAt invariant.host.there) _)
  rw [answered, invariant.active]
  rfl

/-- A package provides the same linter as before, if it has provided one that it still has. -/
theorem PackageInvariant.provideLinter {other : String} (apart : other ≠ name)
    (isOk : (session.attempt (act (.provideLinter name other))).1.isOk = true) :
    ∃ after provider,
      session.attempt (act (.provideLinter name other)) = (.ok (.same life.provided), after) ∧
        after.PackageInvariant origin name number given? reopened
          { life with provided := true } provider own ∧
        ∀ linter, package.linter? = some linter →
          after.objects.lookup other = some (.linter linter) := by
  have begins : session.attempt (act (.provideLinter name other)) = _ :=
    attempt_packageNumber_bind invariant.named _
  rw [begins] at isOk ⊢
  rcases exists_of_isOk isOk with ⟨linter, host, ran, goes⟩
  rw [goes]
  rcases Host.invariant_provideLinter invariant.host ran with
    ⟨provider, kept, provided, subscriptions, linters⟩
  have same : decide (session.provided.lookup name = some linter) = life.provided := by
    rcases linters with ⟨cached, -⟩ | ⟨missing, new, -⟩
    · rw [← invariant.provided, cached, invariant.last linter cached]
      exact decide_eq_true rfl
    · rw [← invariant.provided, missing]
      apply decide_eq_false
      intro found
      exact Nat.ne_of_lt (invariant.known linter found) new
  have bounded : linter < host.linters.length := by
    rcases kept.reads linter provided with ⟨made, there, -⟩
    exact (List.getElem?_eq_some_iff.mp there).1
  refine ⟨{ session with
    host
    objects := (other, .linter linter) :: session.objects
    provided := (name, linter) :: session.provided }, provider, ?_,
    ⟨?_, invariant.recording, kept, ?_, ?_, ?_, ?_⟩, ?_⟩
  · rw [← same]
    rfl
  · exact (lookup_cons_of_ne apart).trans invariant.named
  · rw [subscriptions]
    exact invariant.active
  · rw [provided]
    rfl
  · intro last found
    change List.lookup name ((name, linter) :: session.provided) = _ at found
    rw [List.lookup_cons_self] at found
    cases found
    exact bounded
  · intro last found
    cases provided.symm.trans found
    exact List.lookup_cons_self
  · intro before found
    rcases linters with ⟨cached, -⟩ | ⟨missing, -⟩
    · cases cached.symm.trans found
      exact List.lookup_cons_self
    · cases missing.symm.trans found

theorem PackageInvariant.packageStore {other : String} (apart : other ≠ name)
    (isOk : (session.attempt (act (.packageStore name other))).1.isOk = true) :
    ∃ user, (session.attempt (act (.packageStore name other))).2.PackageInvariant origin name
      number given? reopened life user own := by
  have begins : session.attempt (act (.packageStore name other)) = _ :=
    attempt_packageNumber_bind invariant.named _
  rw [begins] at isOk ⊢
  rcases exists_of_isOk isOk with ⟨place, host, ran, goes⟩
  rw [goes]
  rcases Host.invariant_packageStore invariant.host ran with ⟨kept, linters⟩
  let after : Session :=
    { session with host, objects := (other, .store place) :: session.objects }
  have named : after.PackageInvariant origin name number given? reopened life
      { package with store? := some place } own := by
    refine ⟨(lookup_cons_of_ne apart).trans invariant.named, invariant.recording, kept,
      invariant.active, invariant.provided, ?_, invariant.last⟩
    rw [linters]
    exact invariant.known
  have bound : attempt { session with host } (bind other (.store place)) = (.ok ⟨⟩, after) := rfl
  refine ⟨{ package with store? := some place }, ?_⟩
  rw [attempt_bind_of_ok bound, attempt_bind_of_ok (attempt_get _)]
  split
  · exact named
  · exact named

/-! ## Changes of settings -/

/-- A change of a setting in a store has been noted, and all who observed the setting have
been called with the new value. -/
def Noted (session after : Session) (place : Nat) (setting : Setting) : Prop :=
  ∃ store, session.host.exchange.store? place = some store ∧
    after.host.log = session.host.log ++
      store.changeRecords setting (store.get after.host.exchange.archive setting)

theorem PackageInvariant.change (run : Step → Work Reply) {action : Action Notice} {place : Nat}
    {setting : Setting} {new? : Option String}
    (changes : session.host.perform action =
      session.host.perform (Host.change place setting new?))
    (isOk : (session.attempt (do
      deliver run (← onHost action)
      return Reply.done)).1.isOk = true) :
    ∃ after,
      session.attempt (do
          deliver run (← onHost action)
          return Reply.done) = (.ok .done, after) ∧
        after.PackageInvariant origin name number given?
          (PackageState.reopen origin.exchange.stores.length package.store? place reopened) life
          package own ∧
        session.Noted after place setting := by
  rcases exists_of_isOk isOk with ⟨notice, host, ran, goes⟩
  rw [goes]
  rw [changes] at ran
  rcases Host.invariant_change invariant.host ran with
    ⟨store, used, rfl, log, kept, linters⟩
  have recording : Recording { session with host } := invariant.recording
  rcases recording.deliver run _ with ⟨behaviors, records, delivered⟩
  refine ⟨_, attempt_bind_of_ok delivered _, ⟨invariant.named, records, kept,
    invariant.active, invariant.provided, ?_, invariant.last⟩, store, used, ?_⟩
  · change ∀ linter, _ → linter < host.linters.length
    rw [linters]
    exact invariant.known
  · change host.log ++ _ = _
    rw [log, List.append_assoc]
    rfl

theorem PackageInvariant.changes {store : String} {step : Step} (changes : step.Changes store)
    (isOk : (session.attempt (perform (bound + 1) step)).1.isOk = true) :
    ∃ place setting after, session.objects.lookup store = some (.store place) ∧
      step.setting? = some setting ∧
      session.attempt (perform (bound + 1) step) = (.ok .done, after) ∧
      after.PackageInvariant origin name number given?
        (PackageState.reopen origin.exchange.stores.length package.store? place reopened) life
        package own ∧
      session.Noted after place setting := by
  rcases hasStore_of_changes changes isOk with ⟨place, named⟩
  rcases attempt_cases_of_changes named bound changes with
    ⟨fault, failed, -⟩ | ⟨action, setting, new?, known, works, changed⟩
  · rw [failed] at isOk
    cases isOk
  · rw [works] at isOk ⊢
    rcases invariant.change (perform bound) changed isOk with ⟨after, ran, kept, noted⟩
    exact ⟨place, setting, after, named, known, ran, kept, noted⟩

/-! ## Runs -/

theorem PackageInvariant.reopenedAfter_of_changes {store : String} {step : Step} {place : Nat}
    (changes : step.Changes store)
    (named : session.objects.lookup store = some (.store place)) :
    session.reopenedAfter number origin.exchange.stores.length reopened step =
      PackageState.reopen origin.exchange.stores.length package.store? place reopened := by
  have used : session.usedStore? number = package.store? := by
    have there : session.host.packages[number]? = some package := invariant.host.there
    rw [usedStore?, there, Option.bind_some]
  have changed : session.changedStore? step = some place := by
    cases changes with
    | set key value => rw [changedStore?, named, Option.bind_some, Object.storeNumber?]
    | unset key => rw [changedStore?, named, Option.bind_some, Object.storeNumber?]
  rw [reopenedAfter, changed, used]

/-- Every step in the life of a package that succeeds leads to the life that is next. -/
theorem PackageInvariant.step {step : Step} (onPackage : step.OnPackage name)
    (isOk : (session.attempt (perform (bound + 1) step)).1.isOk = true) :
    ∃ package own, (session.attempt (perform (bound + 1) step)).2.PackageInvariant origin name
      number given? (session.reopenedAfter number origin.exchange.stores.length reopened step)
      (life.next given?.isNone step) package own := by
  cases onPackage with
  | activate => exact invariant.activate isOk
  | deactivate =>
      rcases invariant.deactivate with ⟨after, rest, ran, kept, -⟩
      have done : session.attempt (perform (bound + 1) (.deactivate name)) = (_, after) := ran
      rw [done]
      exact ⟨rest, [], kept⟩
  | isActive =>
      have done : session.attempt (perform (bound + 1) (.isActive name)) = (_, session) :=
        invariant.isActive
      rw [done]
      exact ⟨package, own, invariant⟩
  | provideLinter other apart =>
      rcases invariant.provideLinter apart isOk with ⟨after, provider, ran, kept, -⟩
      have done : session.attempt (perform (bound + 1) (.provideLinter name other)) =
        (_, after) := ran
      rw [done]
      exact ⟨provider, own, kept⟩
  | packageStore other apart =>
      rcases invariant.packageStore apart isOk with ⟨user, kept⟩
      exact ⟨user, own, kept⟩
  | change store changes =>
      rcases invariant.changes changes isOk with ⟨place, setting, after, named, -, ran, kept, -⟩
      have same : life.next given?.isNone step = life := by cases changes <;> rfl
      rw [ran, invariant.reopenedAfter_of_changes changes named, same]
      exact ⟨package, own, kept⟩

theorem PackageInvariant.advance {step : Step} (onPackage : step.OnPackage name)
    (isOk : (session.advance (bound + 1) step).1.result.isOk = true) :
    ∃ package own, (session.advance (bound + 1) step).2.PackageInvariant origin name number
      given? (session.reopenedAfter number origin.exchange.stores.length reopened step)
      (life.next given?.isNone step) package own := by
  cases ran : session.attempt (perform (bound + 1) step) with
  | mk result after =>
      rw [advance_of_attempt session ran] at isOk ⊢
      have step := invariant.step onPackage (by rw [ran]; exact isOk)
      rw [ran] at step
      rcases step with ⟨package, own, kept⟩
      exact ⟨package, own, kept.settle [] []⟩

theorem PackageInvariant.runFrom {steps : List Step}
    (onPackage : ∀ step ∈ steps, step.OnPackage name)
    (succeeds : ∀ entry ∈ (session.runFrom (bound + 1) steps).1, entry.result.isOk = true) :
    ∃ package own, (session.runFrom (bound + 1) steps).2.PackageInvariant origin name number
      given?
      (session.reopenedFrom (bound + 1) number origin.exchange.stores.length reopened steps)
      (steps.foldl (·.next given?.isNone) life) package own := by
  induction steps generalizing session reopened life package own with
  | nil => exact ⟨package, own, invariant⟩
  | cons step steps ih =>
      rw [runFrom_cons] at succeeds ⊢
      rcases List.forall_mem_cons.mp onPackage with ⟨first, later⟩
      rcases List.forall_mem_cons.mp succeeds with ⟨isOk, others⟩
      rcases invariant.advance first isOk with ⟨package, own, kept⟩
      exact ih kept later others

/-- While a package is active, one reporter observes each setting of its store, and no other
store has any. -/
theorem PackageInvariant.countP_observers {place : Nat} {store : Store}
    (there : session.host.exchange.store? place = some store) (setting : Setting) :
    (store.observers setting).countP (·.isFrom origin.reporters) =
      if life.active = true ∧ package.store? = some place then 1 else 0 := by
  have counted : (store.observers setting).countP (·.isFrom origin.reporters) =
      if package.store? = some place then (own.map (·.1)).count setting else 0 :=
    invariant.host.reports.countP there setting
  rw [counted]
  cases active : package.subscriptions? with
  | none =>
      have inactive : life.active = false := by rw [← invariant.active, active]; rfl
      rw [invariant.host.inactive active, inactive]
      simp
  | some group =>
      have isActive : package.subscriptions?.isSome = true := by rw [active]; rfl
      have once : Setting.all.reverse.count setting = 1 := by cases setting <;> decide
      rw [invariant.host.complete isActive, once, ← invariant.active, isActive]
      simp

theorem PackageInvariant.reportedBy {place : Nat} {store : Store}
    (there : session.host.exchange.store? place = some store) (setting : Setting)
    (value : String) :
    store.ReportedBy origin.reporters
      (if life.active = true ∧ package.store? = some place then 1 else 0) setting value := by
  refine ⟨invariant.countP_observers there setting, ?_⟩
  intro callback observes isFrom
  rcases invariant.host.reports.eq_reporter there observes isFrom with ⟨reporter, rfl⟩
  rfl

theorem PackageInvariant.asOf :
    session.PackageInvariant (origin.asOf session.host.packageState) name number given? reopened
      life package own :=
  ⟨invariant.named, invariant.recording, invariant.host.asOf, invariant.active,
    invariant.provided, invariant.known, invariant.last⟩

theorem PackageInvariant.contract :
    session.PackageContract origin (bound + 1) name number given? reopened life package := by
  refine ⟨invariant.host.there, ?active, ?stored, ?reporters, ?reports, invariant.host.reads,
    invariant.provided, ?same, invariant.host.given, ?lasting, invariant.host.isOpen_iff,
    ?closes⟩
  case active =>
    have answered : session.attempt (perform (bound + 1) (.isActive name)) = _ :=
      invariant.isActive
    rw [advance_of_attempt session answered]
  case stored =>
    intro active
    exact invariant.host.stored_of_active (invariant.active.trans active)
  case reporters =>
    intro place store setting there
    exact invariant.countP_observers there setting
  case reports =>
    intro store place step named changes isOk
    rcases invariant.changes changes isOk with
      ⟨found, setting, after, there, known, ran, -, used, usable, log⟩
    cases named.symm.trans there
    rw [advance_of_attempt session ran]
    exact ⟨setting, used, known, usable, log, invariant.reportedBy usable setting _⟩
  case same =>
    intro other apart isOk
    rcases invariant.provideLinter apart isOk with ⟨after, provider, ran, -, cached⟩
    have answered : session.attempt (perform (bound + 1) (.provideLinter name other)) = _ := ran
    rw [advance_of_attempt session answered]
    exact ⟨rfl, cached⟩
  case lasting =>
    intro place step earlier onPackage isOk isOpen
    rcases invariant.asOf.advance onPackage isOk with ⟨package, own, kept⟩
    exact kept.host.lasting place ((PackageState.isOpen_asOf_iff _ _ _).mpr ⟨earlier, isOpen⟩)
  case closes =>
    rcases invariant.deactivate with ⟨after, rest, ran, -, closed⟩
    have answered : session.attempt (perform (bound + 1) (.deactivate name)) = _ := ran
    rw [advance_of_attempt session answered]
    exact ⟨rfl, closed⟩

end Invariant

/-- If no store has been reopened, at most one store of the package is open. -/
theorem PackageContract.eq_of_isOpen
    (contract : session.PackageContract origin bound name number given? [] life package)
    {first second : Nat} (own : origin.exchange.stores.length ≤ first)
    (isOpen : session.host.exchange.IsOpen first)
    (own' : origin.exchange.stores.length ≤ second)
    (isOpen' : session.host.exchange.IsOpen second) : first = second := by
  have used : ∀ place, origin.exchange.stores.length ≤ place →
      session.host.exchange.IsOpen place → package.store? = some place := by
    intro place own isOpen
    rcases (contract.isOpen_iff place own).mp isOpen with used | again
    · exact used
    · exact absurd again List.not_mem_nil
  exact Option.some.inj ((used first own isOpen).symm.trans (used second own' isOpen'))

/-- A package is opened, with a store or without one, and then activated and deactivated, asked
for linters and for its store, and settings are changed meanwhile. As long as every step
succeeds, the package keeps its contract: it is active after an activation that has not been
undone, has one reporter for each setting of its store while it is active and none
otherwise, and closes its own stores, but no other. At most one of its own stores is open
as long as settings are changed in the store that it uses; a store that it has closed is
only opened again when a setting is changed in it. -/
theorem package_contract (session : Session) (name : String) (number bound : Nat)
    (given? : Option Nat) (directory? : Option String) (project? : Option Nat)
    (steps : List Step) (named : session.objects.lookup name = some (.package number))
    (opened : session.host.packages[number]? =
      some ⟨given?, given?.isNone, directory?, project?, none, none⟩)
    (stored : ∀ place, given? = some place →
      ∃ store, session.host.exchange.store? place = some store)
    (fresh : ∀ place store, session.host.exchange.store? place = some store →
      ∀ registration ∈ store.registrations,
        registration.2.isFrom session.host.reporters = false)
    (known : ∀ linter, session.provided.lookup name = some linter →
      linter < session.host.linters.length)
    (recording : session.Recording) (onPackage : ∀ step ∈ steps, step.OnPackage name)
    (succeeds : ∀ entry ∈ (session.runFrom (bound + 1) steps).1, entry.result.isOk = true) :
    let origin := session.host.packageState
    let own := origin.exchange.stores.length
    let last := (session.runFrom (bound + 1) steps).2
    (∃ package, last.PackageContract origin (bound + 1) name number given?
      (session.reopenedFrom (bound + 1) number own [] steps)
      (steps.foldl (·.next given?.isNone) Life.start) package) ∧
      (session.ChangesUsed (bound + 1) number steps →
        ∀ first second, own ≤ first → last.host.exchange.IsOpen first →
          own ≤ second → last.host.exchange.IsOpen second → first = second) := by
  intro origin own last
  have invariant : session.PackageInvariant origin name number given? [] Life.start
      ⟨given?, given?.isNone, directory?, project?, none, none⟩ [] :=
    ⟨named, recording, Host.invariant_opened opened stored fresh, rfl, rfl, known, nofun⟩
  rcases invariant.runFrom onPackage succeeds with ⟨package, _, kept⟩
  have contract : last.PackageContract origin (bound + 1) name number given?
      (session.reopenedFrom (bound + 1) number own [] steps)
      (steps.foldl (·.next given?.isNone) Life.start) package := kept.contract
  refine ⟨⟨package, contract⟩, fun used first second later isOpen later' isOpen' => ?_⟩
  rw [reopenedFrom_of_changesUsed used] at contract
  exact contract.eq_of_isOpen later isOpen later' isOpen'

/-- A session that has opened a package, which is to have stores of its own. -/
def withPackage : Session :=
  ((start "/s").advance 1 (.openPackage "p" none none (some "d"))).2

/-- A package is activated twice, and a setting is changed in each of the stores that it uses. -/
def twoStores : List Step :=
  [.provideLinter "p" "first",
    .activate "p",
    .packageStore "p" "s",
    .set "s" "linter-pylint.rcFile" (.text "a"),
    .deactivate "p",
    .activate "p",
    .packageStore "p" "s",
    .unset "s" "linter-pylint.rcFile",
    .provideLinter "p" "second"]

/-- In the end the package is active and has provided a linter for its second store, and no
other store is open. -/
theorem package_contract_two_stores :
    withPackage.objects.lookup "p" = some (.package 0) ∧
      withPackage.host.packages[0]? = some ⟨none, true, some "/s/d", none, none, none⟩ ∧
      withPackage.host.exchange.stores = [] ∧ withPackage.provided = [] ∧
      withPackage.Recording ∧ (∀ step ∈ twoStores, step.OnPackage "p") ∧
      (∀ entry ∈ (withPackage.runFrom 1 twoStores).1, entry.result.isOk = true) ∧
      let last := (withPackage.runFrom 1 twoStores).2
      (∃ package, last.PackageContract withPackage.host.packageState 1 "p" 0 none [] ⟨true, true⟩
        package) ∧
        withPackage.ChangesUsed 1 0 twoStores ∧ last.host.exchange.IsOpen 1 ∧
        ∀ place, last.host.exchange.IsOpen place → place = 1 := by
  have objects : withPackage.objects = [("p", .package 0)] := by rfl
  have named : withPackage.objects.lookup "p" = some (.package 0) := by
    rw [objects]
    rfl
  have opened : withPackage.host.packages[0]? =
      some ⟨none, true, some "/s/d", none, none, none⟩ := by
    decide +kernel
  have stores : withPackage.host.exchange.stores = [] := by rfl
  have provided : withPackage.provided = [] := by rfl
  have recording : withPackage.Recording := by
    have idle : withPackage.behaviors = [] := by rfl
    rw [Recording, idle]
    exact List.forall_mem_nil _
  have onPackage : ∀ step ∈ twoStores, step.OnPackage "p" := by
    intro step there
    simp only [twoStores, List.mem_cons, List.not_mem_nil, or_false] at there
    rcases there with rfl | rfl | rfl | rfl | rfl | rfl | rfl | rfl | rfl
    · exact .provideLinter _ (by decide)
    · exact .activate
    · exact .packageStore _ (by decide)
    · exact .change "s" (.set _ _)
    · exact .deactivate
    · exact .activate
    · exact .packageStore _ (by decide)
    · exact .change "s" (.unset _)
    · exact .provideLinter _ (by decide)
  have succeeds : ∀ entry ∈ (withPackage.runFrom 1 twoStores).1, entry.result.isOk = true := by
    decide +kernel
  have used : withPackage.ChangesUsed 1 0 twoStores := by
    simp only [twoStores, ChangesUsed]
    decide +kernel
  have isOpen : (withPackage.runFrom 1 twoStores).2.host.exchange.IsOpen 1 := by
    have second : ((withPackage.runFrom 1 twoStores).2.host.exchange.store? 1).map (·.isOpen) =
        some true := by
      decide +kernel
    exact Option.map_eq_some_iff.mp second
  refine ⟨named, opened, stores, provided, recording, onPackage, succeeds, ?_⟩
  have contract := package_contract withPackage "p" 0 0 none (some "/s/d") none twoStores named
    opened (by rintro _ ⟨⟩)
    (by
      intro place store there
      rw [Exchange.store?, stores] at there
      cases there)
    (by
      rw [provided]
      rintro _ ⟨⟩)
    recording onPackage
  rw [Nat.zero_add] at contract
  rcases contract succeeds with ⟨⟨package, kept⟩, single⟩
  rw [reopenedFrom_of_changesUsed used] at kept
  refine ⟨⟨package, kept⟩, used, isOpen, fun place there => ?_⟩
  exact single used place 1 (Nat.zero_le _) there (Nat.zero_le _) isOpen

end Session

end LintBridge
