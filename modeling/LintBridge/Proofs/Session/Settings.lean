import LintBridge.Proofs.Host.Settings

/-!
# Settings in a session

What the steps that use a store answer and leave behind, in a session whose stores are
all on one directory. A change that fails leaves any session as it was.
-/

namespace LintBridge

/-- A step that changes a setting in a store. -/
inductive Step.Changes (store : String) : Step → Prop where
  | set (key : String) (value : Value) : Changes store (.set store key value)
  | unset (key : String) : Changes store (.unset store key)

/-- The setting that a step changes. -/
def Step.setting? : Step → Option Setting
  | .set _ key _ | .unset _ key => Setting.ofKey? key
  | _ => none

namespace Session

variable {session : Session} {name : String} {number : Nat}

theorem lookup_cons_of_ne {object : Object} {objects : List (String × Object)} {other : String}
    (apart : other ≠ name) :
    List.lookup name ((other, object) :: objects) = objects.lookup name := by
  have different : (name == other) = false := by simpa using apart.symm
  rw [List.lookup_cons, different]

/-- Whether a name stands for a store. -/
def HasStore (session : Session) (name : String) : Prop :=
  ∃ number, session.objects.lookup name = some (.store number)

theorem attempt_storeNumber (named : session.objects.lookup name = some (.store number)) :
    session.attempt (storeNumber name) = (.ok number, session) := by
  rw [storeNumber, lookup, attempt_bind, attempt_get]
  dsimp only
  rw [named]
  rfl

theorem attempt_storeNumber_bind (named : session.objects.lookup name = some (.store number))
    (next : Nat → Work Reply) :
    session.attempt (storeNumber name >>= next) = session.attempt (next number) := by
  rw [attempt_bind, attempt_storeNumber named]

theorem attempt_storeNumber_of_not_hasStore (unnamed : ¬ session.HasStore name) :
    session.attempt (storeNumber name) = (.error (.unknownName name), session) := by
  rw [storeNumber, lookup, attempt_bind, attempt_get]
  dsimp only
  split
  · rename_i found
    rcases Option.bind_eq_some_iff.mp found with ⟨object, there, selected⟩
    split at selected
    · exact absurd ⟨_, there⟩ unnamed
    · cases selected
  · rfl

theorem attempt_storeNumber_bind_of_not_hasStore (unnamed : ¬ session.HasStore name)
    (next : Nat → Work Reply) :
    session.attempt (storeNumber name >>= next) = (.error (.unknownName name), session) := by
  rw [attempt_bind, attempt_storeNumber_of_not_hasStore unnamed]

/-! ## What is done with the store of a name -/

section Steps

variable (named : session.objects.lookup name = some (.store number)) (bound : Nat)

include named

theorem attempt_getSetting (key : String) :
    session.attempt (perform (bound + 1) (.get name key)) =
      session.attempt (do
        return Reply.text (← onHost (do Host.valueOf number (← Host.settingOf key)))) :=
  attempt_storeNumber_bind named _

theorem attempt_closeStore :
    session.attempt (perform (bound + 1) (.close name)) =
      session.attempt (do return Reply.closed (← onHost (Host.closeStore number))) :=
  attempt_storeNumber_bind named _

theorem attempt_setSetting (key : String) (value : Value) :
    session.attempt (perform (bound + 1) (.set name key value)) =
      session.attempt (do
        deliver (perform bound) (← onHost (Host.setSetting number key value))
        return Reply.done) :=
  attempt_storeNumber_bind named _

theorem attempt_unsetSetting (key : String) :
    session.attempt (perform (bound + 1) (.unset name key)) =
      session.attempt (do
        deliver (perform bound) (← onHost (Host.unsetSetting number key))
        return Reply.done) :=
  attempt_storeNumber_bind named _

end Steps

/-! ## What a session keeps -/

/-- The normal path of a directory, which is seen from the directory of the session. -/
def settingsLocation (session : Session) (directory : String) : String :=
  session.host.settingsLocation (session.inScratch directory)

/-- All stores that have names in a session are on one directory and can be used, and the
values that are set in the directory are given. -/
structure Serves (session : Session) (directory : String) (value? : Setting → Option String) :
    Prop where
  archive : ∀ setting,
    session.host.exchange.archive.get? (session.settingsLocation directory) setting =
      value? setting
  named : ∀ name number, session.objects.lookup name = some (.store number) →
    session.host.Serves (session.settingsLocation directory) number

variable {directory : String} {value? : Setting → Option String}

/-- A session goes on serving on a host that continues. -/
theorem Serves.of_continues (serves : session.Serves directory value?) {host : Host}
    {values : Setting → Option String}
    (continues : Host.Continues (session.settingsLocation directory) session.host host)
    (archive : ∀ setting,
      host.exchange.archive.get? (session.settingsLocation directory) setting = values setting) :
    Serves { session with host } directory values := by
  have same : settingsLocation { session with host } directory =
      session.settingsLocation directory :=
    continues.settingsLocation_eq (session.inScratch directory)
  refine ⟨?_, ?_⟩
  · rw [same]
    exact archive
  · rw [same]
    intro name number named
    exact continues.serves number (serves.named name number named)

/-- Some work ends with a result in a session that serves some values, and names stand
for what they stood for. -/
def Yields (session : Session) (work : Work Reply) (directory : String)
    (result : Except Fault Reply) (value? : Setting → Option String) : Prop :=
  ∃ after, session.attempt work = (result, after) ∧ after.Serves directory value? ∧
    after.objects = session.objects

/-- The value of a setting as it is shown. -/
def shownValue (value? : Setting → Option String) (setting : Setting) : String :=
  Store.normalize setting ((value? setting).getD setting.default)

/-- The fault of a key that no setting has. -/
def unknownKey (key : String) : Fault :=
  .tool (.unknownSetting key Setting.keys)

/-- What getting a key answers if the settings have some values. -/
def getResult (value : Setting → String) (key : String) : Except Fault Reply :=
  match Setting.ofKey? key with
  | none => .error (unknownKey key)
  | some setting => .ok (.text (value setting))

theorem Serves.get (serves : session.Serves directory value?)
    (named : session.objects.lookup name = some (.store number)) (bound : Nat) (key : String) :
    session.Yields (perform (bound + 1) (.get name key)) directory
      (getResult (shownValue value?) key) value? := by
  rw [getResult, Yields, attempt_getSetting named]
  cases known : Setting.ofKey? key with
  | none =>
      have fails : session.host.perform (do Host.valueOf number (← Host.settingOf key)) =
          (.error (unknownKey key), session.host) := by
        rw [Host.perform_bind, Host.perform_settingOf_of_unknown known]
        rfl
      exact ⟨session, attempt_onHost_bind_of_error fails _, serves, rfl⟩
  | some setting =>
      rcases (serves.named name number named).valueOf setting with
        ⟨host, valued, archive, continues⟩
      have answers : session.host.perform (do Host.valueOf number (← Host.settingOf key)) =
          (.ok (shownValue value? setting), host) := by
        rw [Host.perform_bind, Host.perform_settingOf_of_known known]
        dsimp only
        rw [valued, serves.archive]
        rfl
      exact ⟨{ session with host }, attempt_onHost_bind_of_ok answers _,
        serves.of_continues continues fun setting => by rw [archive, serves.archive], rfl⟩

theorem Serves.store_get (serves : session.Serves directory value?) {store : Store}
    (location : store.location = session.settingsLocation directory) (setting : Setting) :
    store.get session.host.exchange.archive setting = shownValue value? setting := by
  rw [Store.get, location, serves.archive]
  rfl

/-- A store that is used only to see what is in it. -/
theorem Serves.read (serves : session.Serves directory value?)
    (named : session.objects.lookup name = some (.store number))
    (answer : Store → Archive → Reply) {reply : Reply}
    (answers : ∀ store, store.location = session.settingsLocation directory →
      answer store session.host.exchange.archive = reply) :
    session.Yields
      (do
        let number ← storeNumber name
        let store ← onHost (Host.useStore number)
        return answer store (← MonadState.get).host.exchange.archive)
      directory (.ok reply) value? := by
  rcases (serves.named name number named).useStore with
    ⟨store, host, used, location, _, archive, continues⟩
  have after : Serves { session with host } directory value? :=
    serves.of_continues continues fun setting => by rw [archive, serves.archive]
  rw [Yields, attempt_storeNumber_bind named, attempt_onHost_bind_of_ok used, attempt_bind,
    attempt_get]
  refine ⟨{ session with host }, ?_, after, rfl⟩
  dsimp only
  rw [archive, answers store location]
  rfl

theorem Serves.items (serves : session.Serves directory value?)
    (named : session.objects.lookup name = some (.store number)) (bound : Nat) :
    session.Yields (perform (bound + 1) (.items name)) directory
      (.ok (.values (Setting.all.map fun setting => (setting, shownValue value? setting))))
      value? := by
  refine serves.read named (fun store archive => .values (store.items archive)) ?_
  intro store location
  rw [Store.items, funext (serves.store_get location)]

theorem Serves.snapshot (serves : session.Serves directory value?)
    (named : session.objects.lookup name = some (.store number)) (bound : Nat) :
    session.Yields (perform (bound + 1) (.snapshot name none)) directory
      (.ok (.settings (.ofFunction (shownValue value?)))) value? := by
  refine serves.read named (fun store archive => .settings (store.snapshot archive)) ?_
  intro store location
  rw [Store.snapshot, funext (serves.store_get location)]

theorem Serves.close (serves : session.Serves directory value?)
    (named : session.objects.lookup name = some (.store number)) (bound : Nat) :
    ∃ there, session.Yields (perform (bound + 1) (.close name)) directory
      (.ok (.closed there)) value? := by
  rcases (serves.named name number named).closeStore with
    ⟨there, host, closed, archive, continues⟩
  refine ⟨there, { session with host }, ?_, ?_, rfl⟩
  · rw [attempt_closeStore named, attempt_onHost_bind_of_ok closed]
    rfl
  · exact serves.of_continues continues fun setting => by rw [archive, serves.archive]

theorem attempt_deliver_of_no_callbacks (run : Step → Work Reply) {notice : Notice}
    (none : notice.callbacks = []) :
    session.attempt (deliver run notice) = (.ok ⟨⟩, session) := by
  rw [deliver, none]
  rfl

/-- What setting a key to a value answers. -/
def setResult (key : String) (value : Value) : Except Fault Reply :=
  match Setting.ofKey? key with
  | none => .error (unknownKey key)
  | some setting =>
      match value with
      | .text _ => .ok .done
      | value => .error (.tool (.setting setting.key value Store.textHint))

/-- What restoring the default of a key answers. -/
def unsetResult (key : String) : Except Fault Reply :=
  match Setting.ofKey? key with
  | none => .error (unknownKey key)
  | some _ => .ok .done

theorem Serves.change (serves : session.Serves directory value?)
    (named : session.objects.lookup name = some (.store number)) (run : Step → Work Reply)
    {action : Action Notice} {setting : Setting} {new? : Option String}
    (changes : session.host.perform action =
      session.host.perform (Host.change number setting new?)) :
    session.Yields
      (do
        deliver run (← onHost action)
        return .done)
      directory (.ok .done) (fun query => if query = setting then new? else value? query) := by
  rcases (serves.named name number named).change setting new? with
    ⟨notice, host, changed, quiet, archive, continues⟩
  rw [Yields, attempt_onHost_bind_of_ok (changes.trans changed), attempt_bind,
    attempt_deliver_of_no_callbacks run quiet]
  refine ⟨{ session with host }, rfl, serves.of_continues continues ?_, rfl⟩
  intro query
  rw [archive, serves.archive]

theorem Serves.set_text (serves : session.Serves directory value?)
    (named : session.objects.lookup name = some (.store number)) (bound : Nat) {key : String}
    {setting : Setting} (known : Setting.ofKey? key = some setting) (text : String) :
    session.Yields (perform (bound + 1) (.set name key (.text text))) directory
      (.ok .done) (fun query => if query = setting then some text else value? query) := by
  have changed := serves.change named (perform bound)
    (Host.perform_setSetting_of_text text known)
  rw [Yields, attempt_setSetting named]
  exact changed

theorem Serves.unset_known (serves : session.Serves directory value?)
    (named : session.objects.lookup name = some (.store number)) (bound : Nat) {key : String}
    {setting : Setting} (known : Setting.ofKey? key = some setting) :
    session.Yields (perform (bound + 1) (.unset name key)) directory
      (.ok .done) (fun query => if query = setting then none else value? query) := by
  have changed := serves.change named (perform bound)
    (Host.perform_unsetSetting_of_known known)
  rw [Yields, attempt_unsetSetting named]
  exact changed

/-! ## Changes that fail or are told -/

section Changes

variable (named : session.objects.lookup name = some (.store number)) (bound : Nat)
  {key : String}

include named

theorem attempt_set_of_unknown (value : Value) (unknown : Setting.ofKey? key = none) :
    session.attempt (perform (bound + 1) (.set name key value)) =
      (.error (unknownKey key), session) := by
  rw [attempt_setSetting named]
  exact attempt_onHost_bind_of_error (Host.perform_setSetting_of_unknown value unknown) _

/-- Only a text can be the value of a setting, and anything else leaves the session as it
is. -/
theorem attempt_set_of_not_text {setting : Setting} {value : Value}
    (known : Setting.ofKey? key = some setting) (noText : ∀ text, value ≠ .text text) :
    session.attempt (perform (bound + 1) (.set name key value)) =
      (.error (.tool (.setting setting.key value Store.textHint)), session) := by
  rw [attempt_setSetting named]
  exact attempt_onHost_bind_of_error (Host.perform_setSetting_of_not_text known noText) _

theorem attempt_unset_of_unknown (unknown : Setting.ofKey? key = none) :
    session.attempt (perform (bound + 1) (.unset name key)) =
      (.error (unknownKey key), session) := by
  rw [attempt_unsetSetting named]
  exact attempt_onHost_bind_of_error (Host.perform_unsetSetting_of_unknown unknown) _

/-- A change of a setting is refused and leaves the session as it is, or it is told to all
who are to be called about it. -/
theorem attempt_cases_of_changes {step : Step} (changes : step.Changes name) :
    (∃ fault, session.attempt (perform (bound + 1) step) = (.error fault, session) ∧
        fault ≠ .notRegistered) ∨
      ∃ action setting new?, step.setting? = some setting ∧
        session.attempt (perform (bound + 1) step) =
          session.attempt (do
            deliver (perform bound) (← onHost action)
            return Reply.done) ∧
        session.host.perform action =
          session.host.perform (Host.change number setting new?) := by
  cases changes with
  | set key value =>
      cases known : Setting.ofKey? key with
      | none => exact .inl ⟨_, attempt_set_of_unknown named bound value known, nofun⟩
      | some setting =>
          by_cases isText : ∃ text, value = .text text
          · rcases isText with ⟨text, rfl⟩
            exact .inr ⟨_, setting, some text, known,
              attempt_setSetting named bound key (.text text),
              Host.perform_setSetting_of_text text known⟩
          · exact .inl ⟨_, attempt_set_of_not_text named bound known
              fun text equal => isText ⟨text, equal⟩, nofun⟩
  | unset key =>
      cases known : Setting.ofKey? key with
      | none => exact .inl ⟨_, attempt_unset_of_unknown named bound known, nofun⟩
      | some setting =>
          exact .inr ⟨_, setting, none, known, attempt_unsetSetting named bound key,
            Host.perform_unsetSetting_of_known known⟩

end Changes

theorem hasStore_of_changes {step : Step} (changes : step.Changes name) {bound : Nat}
    (isOk : (session.attempt (perform (bound + 1) step)).1.isOk = true) :
    session.HasStore name := by
  by_cases named : session.HasStore name
  · exact named
  · cases changes with
    | set key value =>
        have failed : session.attempt (perform (bound + 1) (.set name key value)) = _ :=
          attempt_storeNumber_bind_of_not_hasStore named _
        rw [failed] at isOk
        cases isOk
    | unset key =>
        have failed : session.attempt (perform (bound + 1) (.unset name key)) = _ :=
          attempt_storeNumber_bind_of_not_hasStore named _
        rw [failed] at isOk
        cases isOk

/-! ## Opening stores -/

theorem Serves.bind (serves : session.Serves directory value?) (name : String)
    (usable : session.host.Serves (session.settingsLocation directory) number) :
    Serves { session with objects := (name, .store number) :: session.objects }
      directory value? := by
  refine ⟨serves.archive, ?_⟩
  intro other found there
  rw [List.lookup_cons] at there
  split at there
  · cases there
    exact usable
  · exact serves.named other found there

theorem hasStore_bind_iff (host : Host) (name other : String) (number : Nat) :
    HasStore { session with host, objects := (name, .store number) :: session.objects } other ↔
      other = name ∨ session.HasStore other := by
  by_cases same : other = name
  · simp [HasStore, same]
  · simp [HasStore, lookup_cons_of_ne (Ne.symm same), same]

/-- Opening a store changes no value, and if it succeeds the name stands for a store that
can be used like those before. -/
theorem Serves.openStore (serves : session.Serves directory value?) (bound : Nat)
    (name : String) :
    ∃ result after, session.attempt (perform (bound + 1) (.openStore name (some directory))) =
        (result, after) ∧ after.Serves directory value? ∧
      (∀ other, session.HasStore other → after.HasStore other) ∧
      ∀ reply, result = .ok reply → after.HasStore name := by
  rcases Host.openStore_spec session.host (session.inScratch directory) with
    ⟨opened, host, ran, archive, continues, usable⟩
  have kept : Serves { session with host } directory value? :=
    serves.of_continues continues fun setting => by rw [archive, serves.archive]
  have begins : session.attempt (perform (bound + 1) (.openStore name (some directory))) =
      session.attempt (do
        let number ← onHost (Host.openStore (some (session.inScratch directory)))
        Session.bind name (.store number)
        return Reply.done) :=
    attempt_bind_of_ok (attempt_get session) _
  rw [begins]
  cases opened with
  | error fault =>
      exact ⟨_, _, attempt_onHost_bind_of_error ran _, kept, fun _ there => there, nofun⟩
  | ok number =>
      have same : settingsLocation { session with host } directory =
          session.settingsLocation directory :=
        continues.settingsLocation_eq (session.inScratch directory)
      refine ⟨.ok .done, _, attempt_onHost_bind_of_ok ran _, kept.bind name ?_, ?_, ?_⟩
      · rw [same]
        exact usable number rfl
      · intro other there
        exact (hasStore_bind_iff host name other number).mpr (.inr there)
      · intro _ _
        exact (hasStore_bind_iff host name name number).mpr (.inl rfl)

end Session

end LintBridge
