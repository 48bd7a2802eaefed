import LintBridge.Proofs.Host.Package
import LintBridge.Proofs.Session.Settings

/-!
# Callbacks that do steps

A callback may do steps when it is called, and these may call callbacks in turn. What
every single step keeps is kept by a call, and by all calls about a change, however they
end: the rest is left out once something fails. Calls are made about a change, and when an
observation begins: what such a step makes of the session is said up to the call, and what
follows from how the call ends.
-/

namespace LintBridge.Session

variable {α β : Type}

/-! ## What work keeps -/

/-- Some work keeps a property, and what it makes of a session is related to the session,
which may depend on whether the work ends well. -/
def Leads (holds : Session → Prop) (relates : Session → Bool → Session → Prop)
    (work : Work α) : Prop :=
  ∀ session, holds session →
    holds (session.attempt work).2 ∧
      relates session (session.attempt work).1.isOk (session.attempt work).2

/-- Relations that go on from one piece of work to the next, up to the first that fails. -/
structure Composes (relates : Session → Bool → Session → Prop) : Prop where
  refl : ∀ session isOk, relates session isOk session
  trans : ∀ {first middle last isOk}, relates first true middle → relates middle isOk last →
    relates first isOk last

variable {holds : Session → Prop} {relates : Session → Bool → Session → Prop}

theorem Composes.leads_pure (composes : Composes relates) (answer : α) :
    Leads holds relates (pure answer : Work α) :=
  fun session there => ⟨there, composes.refl session true⟩

theorem Composes.leads_throw (composes : Composes relates) (fault : Fault) :
    Leads holds relates (throw fault : Work α) :=
  fun session there => ⟨there, composes.refl session false⟩

theorem Composes.leads_bind (composes : Composes relates) {work : Work α} {next : α → Work β}
    (first : Leads holds relates work) (rest : ∀ answer, Leads holds relates (next answer)) :
    Leads holds relates (work >>= next) := by
  intro session there
  have begun := first session there
  rw [attempt_bind]
  cases ran : session.attempt work with
  | mk result middle =>
      rw [ran] at begun
      cases result with
      | error fault => exact begun
      | ok answer =>
          have ended := rest answer middle begun.1
          exact ⟨ended.1, composes.trans begun.2 ended.2⟩

theorem Composes.leads_forM (composes : Composes relates) {items : List α} {work : α → Work Unit}
    (each : ∀ item ∈ items, Leads holds relates (work item)) :
    Leads holds relates (items.forM work) := by
  rw [List.forM_eq_forM]
  induction items with
  | nil => exact composes.leads_pure _
  | cons item items ih =>
      rw [List.forM_cons]
      exact composes.leads_bind (each item List.mem_cons_self)
        fun _ => ih fun other there => each other (List.mem_cons_of_mem _ there)

/-! ## Calls -/

/-- What the callbacks of a session do: each by its name, with the steps that it does. -/
def acts (session : Session) : List (String × List Step) :=
  session.behaviors.map fun behavior => (behavior.name, behavior.steps)

/-- A session in which a call of a callback has been counted and taken down. -/
def counted (session : Session) (name value : String) : Session :=
  { session with
    behaviors := session.behaviors.map fun behavior =>
      if behavior.name = name then { behavior with calls := behavior.calls + 1 } else behavior
    seen := session.seen ++ [(name, value)] }

theorem acts_counted (session : Session) (name value : String) :
    (session.counted name value).acts = session.acts := by
  rw [acts, counted, acts, List.map_map]
  apply List.map_congr_left
  intro behavior _
  rw [Function.comp_apply]
  split <;> rfl

theorem attempt_countCall (session : Session) (name value : String) :
    session.attempt (countCall name value) =
      (.ok ((session.counted name value).behaviors.find? (·.name = name)),
        session.counted name value) := rfl

/-- What a callback does once its call has been counted. -/
def react (run : Step → Work Reply) (name : String) : Option Behavior → Work Unit
  | none => pure ()
  | some behavior => do
      if behavior.calls = behavior.actAt then
        behavior.steps.forM fun step => do let _ ← run step
      if some behavior.calls = behavior.failAt? then throw (.callback name)

/-- A call is counted and taken down, and then the callback does what it does. -/
theorem attempt_call_named (session : Session) (run : Step → Work Reply) (name value : String) :
    session.attempt (call run value (.named name)) =
      (session.counted name value).attempt
        (react run name ((session.counted name value).behaviors.find? (·.name = name))) := by
  rw [call, attempt_bind, attempt_countCall]
  dsimp only
  cases (session.counted name value).behaviors.find? (·.name = name) with
  | none => rfl
  | some behavior => rfl

theorem Composes.leads_react (composes : Composes relates) {run : Step → Work Reply}
    {name : String} {behavior? : Option Behavior}
    (steps : ∀ behavior ∈ behavior?, ∀ step ∈ behavior.steps, Leads holds relates (run step)) :
    Leads holds relates (react run name behavior?) := by
  cases behavior? with
  | none => exact composes.leads_pure ()
  | some behavior =>
      have each := steps behavior rfl
      have ends : Leads holds relates
          (if some behavior.calls = behavior.failAt? then throw (.callback name)
            else pure () : Work Unit) := by
        split
        · exact composes.leads_throw _
        · exact composes.leads_pure _
      rw [react]
      split
      · refine composes.leads_bind (composes.leads_forM fun step there => ?_) fun _ => ends
        exact composes.leads_bind (each step there) fun _ => composes.leads_pure _
      · exact ends

theorem mem_acts_of_find? {session : Session} {name : String} {behavior : Behavior}
    (found : session.behaviors.find? (·.name = name) = some behavior) :
    (name, behavior.steps) ∈ session.acts := by
  have same : behavior.name = name := by simpa using List.find?_some found
  rw [← same]
  exact List.mem_map.mpr ⟨behavior, List.mem_of_find?_eq_some found, rfl⟩

/-- Steps that keep a property make calls keep it, from the moment on that they are counted. -/
theorem Composes.call_named (composes : Composes relates) {session : Session}
    {run : Step → Work Reply} {name value : String} (there : holds (session.counted name value))
    (steps : ∀ act ∈ session.acts, act.1 = name → ∀ step ∈ act.2, Leads holds relates (run step)) :
    let ended := session.attempt (call run value (.named name))
    holds ended.2 ∧ relates (session.counted name value) ended.1.isOk ended.2 := by
  intro ended
  have same : ended = _ := attempt_call_named session run name value
  rw [same]
  refine composes.leads_react (fun behavior found step member => ?_) _ there
  have listed := mem_acts_of_find? found
  rw [acts_counted] at listed
  exact steps _ listed rfl step member

/-! ## Changes -/

/-- A session in which a setting of a store has been changed, before anyone is called. -/
def changed (session : Session) (number : Nat) (store : Store) (setting : Setting)
    (value? : Option String) : Session :=
  let exchange := session.host.exchange.putStore number store
  let archive := Host.assign exchange.archive store.location setting value?
  { session with
    host := { session.host with
      exchange := { exchange with archive }
      log := session.host.log ++
        [.debug (s!"Setting {setting.key} changed to " ++
          Text.quoted (store.get archive setting))] } }

/-- A change is refused and leaves the session as it is, or the setting is changed and those
who observe it are told the value that it has then. -/
theorem attempt_of_changes {name : String} {step : Step} (changes : step.Changes name)
    (session : Session) (bound : Nat) :
    (∃ fault, session.attempt (perform (bound + 1) step) = (.error fault, session)) ∨
      ∃ number store setting value?, session.objects.lookup name = some (.store number) ∧
        session.host.exchange.store? number = some store ∧ step.setting? = some setting ∧
        let told := session.changed number { store with isOpen := true } setting value?
        session.attempt (perform (bound + 1) step) =
          told.attempt (do
            deliver (perform bound)
              ⟨setting, store.get told.host.exchange.archive setting, store.observers setting⟩
            return Reply.done) := by
  by_cases hasStore : session.HasStore name
  · rcases hasStore with ⟨number, named⟩
    rcases attempt_cases_of_changes named bound changes with
      ⟨fault, ran, -⟩ | ⟨action, setting, value?, known, works, same⟩
    · exact .inl ⟨fault, ran⟩
    rcases Host.useStore_cases session.host number with ⟨store, there, ran⟩ | ⟨failed, -⟩
    · refine .inr ⟨number, store, setting, value?, named, there, known, ?_⟩
      have done := Host.perform_change_of_useStore ran setting value?
      rw [works, attempt_onHost_bind_of_ok (same.trans done)]
      rfl
    · refine .inl ⟨.settingsUnavailable, ?_⟩
      have fails : session.host.perform (Host.change number setting value?) =
          (.error .settingsUnavailable, session.host) := by
        rw [Host.change, Host.perform_bind_of_error failed]
      rw [works, attempt_onHost_bind_of_error (same.trans fails)]
  · refine .inl ⟨.unknownName name, ?_⟩
    cases changes with
    | set key value => exact attempt_storeNumber_bind_of_not_hasStore hasStore _
    | unset key => exact attempt_storeNumber_bind_of_not_hasStore hasStore _

/-- What the change itself and the calls about it keep is kept by a step that changes a
setting. -/
theorem Composes.leads_changes (composes : Composes relates) {bound : Nat} {name : String}
    {step : Step} (changes : step.Changes name)
    (tells : ∀ session number store setting value?, holds session →
      session.objects.lookup name = some (.store number) →
      session.host.exchange.store? number = some store → step.setting? = some setting →
      let told := session.changed number { store with isOpen := true } setting value?
      (holds told ∧ relates session true told) ∧
        ∀ value, ∀ callback ∈ store.observers setting,
          Leads holds relates (call (perform bound) value callback)) :
    Leads holds relates (perform (bound + 1) step) := by
  intro session there
  rcases attempt_of_changes changes session bound with
    ⟨fault, ran⟩ | ⟨number, store, setting, value?, named, used, known, ran⟩
  · rw [ran]
    exact ⟨there, composes.refl session false⟩
  · rcases tells session number store setting value? there named used known with
      ⟨⟨kept, changed⟩, calls⟩
    have delivers : ∀ value, Leads holds relates (do
        deliver (perform bound) ⟨setting, value, store.observers setting⟩
        return Reply.done) :=
      fun value => composes.leads_bind (composes.leads_forM (calls value)) fun _ =>
        composes.leads_pure _
    rw [ran]
    rcases delivers _ _ kept with ⟨ended, told⟩
    exact ⟨ended, composes.trans changed told⟩

/-! ## Observing -/

/-- A session in which it is known what a callback does. -/
def behaving (session : Session) (callback : String) (steps : List Step) (actAt : Nat)
    (failAt? : Option Nat) : Session :=
  if session.behaviors.any (·.name = callback) then session
  else { session with behaviors := session.behaviors ++ [⟨callback, 0, steps, actAt, failAt?⟩] }

/-- A session in which a store has a callback more. -/
def registering (session : Session) (number : Nat) (store : Store) (setting : Setting)
    (callback : String) : Session :=
  let exchange := session.host.exchange.putStore number (store.register setting (.named callback))
  { session with host := { session.host with exchange } }

/-- A session in which a subscription has been made for a callback. -/
def subscribing (session : Session) (number : Nat) (setting : Setting) (callback handle : String) :
    Session :=
  let (subscription, exchange) := session.host.exchange.subscribe number setting (.named callback)
  { session with
    host := { session.host with exchange }
    objects := (handle, .subscription subscription) :: session.objects }

section Observing

variable {session : Session} {name : String} {number : Nat} {store : Store} {setting : Setting}
  (callback handle : String) (steps : List Step) (actAt : Nat) (failAt? : Option Nat)

theorem behaving_eq_or (session : Session) :
    ∃ behaviors, session.behaving callback steps actAt failAt? = { session with behaviors } ∧
      ∀ behavior ∈ behaviors, behavior ∈ session.behaviors ∨
        (behavior.name, behavior.steps) = (callback, steps) := by
  rw [behaving]
  split
  · exact ⟨session.behaviors, rfl, fun _ there => .inl there⟩
  · refine ⟨_, rfl, fun behavior there => ?_⟩
    rcases List.mem_append.mp there with before | new
    · exact .inl before
    · rw [List.mem_singleton.mp new]
      exact .inr rfl

theorem attempt_addBehavior (session : Session) :
    session.attempt (addBehavior callback steps actAt failAt?) =
      (.ok ⟨⟩, session.behaving callback steps actAt failAt?) := rfl

theorem attempt_observe (named : session.objects.lookup name = some (.store number))
    (bound : Nat) (key : String) :
    session.attempt
        (perform (bound + 1) (.observe name key callback handle steps actAt failAt?)) =
      (session.behaving callback steps actAt failAt?).attempt (do
        let setting ← onHost (Host.settingOf key)
        let value ← onHost (Host.register number setting (.named callback))
        call (perform bound) value (.named callback)
        bind handle
          (.subscription (← onHost (Host.subscribe number setting (.named callback))))
        return .done) :=
  (attempt_storeNumber_bind named _).trans
    (attempt_bind_of_ok (attempt_addBehavior callback steps actAt failAt? session) _)

theorem attempt_observe_of_ofKey?_eq_none {key : String}
    (named : session.objects.lookup name = some (.store number))
    (unknown : Setting.ofKey? key = none) (bound : Nat) :
    session.attempt
        (perform (bound + 1) (.observe name key callback handle steps actAt failAt?)) =
      (.error (unknownKey key), session.behaving callback steps actAt failAt?) := by
  rw [attempt_observe callback handle steps actAt failAt? named]
  exact attempt_onHost_bind_of_error (Host.perform_settingOf_of_unknown unknown) _

theorem host_behaving (session : Session) :
    (session.behaving callback steps actAt failAt?).host = session.host := by
  rcases behaving_eq_or callback steps actAt failAt? session with ⟨behaviors, same, -⟩
  rw [same]

theorem attempt_observe_of_store?_eq_none {key : String}
    (named : session.objects.lookup name = some (.store number))
    (known : Setting.ofKey? key = some setting)
    (missing : session.host.exchange.store? number = none) (bound : Nat) :
    session.attempt
        (perform (bound + 1) (.observe name key callback handle steps actAt failAt?)) =
      (.error .settingsUnavailable, session.behaving callback steps actAt failAt?) := by
  let begun := session.behaving callback steps actAt failAt?
  have searched : begun.host.perform (Host.settingOf key) = (.ok setting, begun.host) :=
    Host.perform_settingOf_of_known known
  rw [← host_behaving callback steps actAt failAt? session] at missing
  have fails : begun.host.perform (Host.register number setting (.named callback)) =
      (.error .settingsUnavailable, begun.host) := by
    rw [Host.register, Host.perform_bind_of_ok (Host.perform_modify _ _), missing, Host.valueOf]
    dsimp only
    rcases Host.useStore_cases begun.host number with ⟨store, there, -⟩ | ⟨failed, -⟩
    · cases missing.symm.trans there
    · rw [Host.perform_bind_of_error failed]
  rw [attempt_observe callback handle steps actAt failAt? named]
  exact (attempt_onHost_bind_of_ok searched _).trans (attempt_onHost_bind_of_error fails _)

/-- A callback that is to observe a setting is registered. Then a closed store may turn out to
be unusable, or the callback is called, and the subscription is made if the call does not
fail. -/
theorem attempt_observe_cases {key : String}
    (named : session.objects.lookup name = some (.store number))
    (there : session.host.exchange.store? number = some store)
    (known : Setting.ofKey? key = some setting) (bound : Nat) :
    let begun := session.behaving callback steps actAt failAt?
    let work := perform (bound + 1) (.observe name key callback handle steps actAt failAt?)
    store.isOpen = false ∧
        session.attempt work =
          (.error .settingsUnavailable, begun.registering number store setting callback) ∨
      ∃ result after,
        (begun.registering number { store with isOpen := true } setting callback).attempt
            (call (perform bound) (store.get session.host.exchange.archive setting)
              (.named callback)) = (result, after) ∧
          session.attempt work =
            match result with
            | .error fault => (.error fault, after)
            | .ok _ => (.ok .done, after.subscribing number setting callback handle) := by
  intro begun work
  have host : begun.host = session.host := host_behaving ..
  have searched : begun.host.perform (Host.settingOf key) = (.ok setting, begun.host) :=
    Host.perform_settingOf_of_known known
  have begins : session.attempt work = begun.attempt (do
      let value ← onHost (Host.register number setting (.named callback))
      call (perform bound) value (.named callback)
      bind handle
        (.subscription (← onHost (Host.subscribe number setting (.named callback))))
      return .done) :=
    (attempt_observe callback handle steps actAt failAt? named bound key).trans
      (attempt_onHost_bind_of_ok searched _)
  rw [begins]
  rw [← host] at there ⊢
  rcases Host.register_cases there setting (.named callback) with registered | ⟨closed, failed⟩
  · right
    rcases called : (begun.registering number { store with isOpen := true } setting
      callback).attempt (call (perform bound) (store.get begun.host.exchange.archive setting)
        (.named callback)) with ⟨result, after⟩
    refine ⟨result, after, rfl, (attempt_onHost_bind_of_ok registered _).trans ?_⟩
    cases result with
    | error fault => exact attempt_bind_of_error called _
    | ok _ => exact attempt_bind_of_ok called _
  · exact .inl ⟨closed, attempt_onHost_bind_of_error failed _⟩

end Observing

end LintBridge.Session
