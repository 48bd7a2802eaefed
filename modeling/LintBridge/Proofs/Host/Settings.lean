import LintBridge.Proofs.Host.Action
import LintBridge.Proofs.Host.Disk
import LintBridge.Proofs.Settings.Exchange

/-!
# Stores on a directory

What the actions on stores do, for stores on one lasting directory that nobody
observes. Such a store can be used at any time, also after it has been closed, and
no action makes another store on the directory unusable.
-/

namespace LintBridge.Host

/-- A store of a host is on a directory that is there, lets it last, and is observed by
nobody. -/
def Serves (host : Host) (location : String) (number : Nat) : Prop :=
  host.disk.find host.directory location = .ok .directory ∧
    ∃ store, host.exchange.store? number = some store ∧ store.location = location ∧
      store.registrations = [] ∧ store.temporary = false

/-- A host is at the same place as before, and every store on a directory that could be
used still can. -/
structure Continues (location : String) (host after : Host) : Prop where
  directory : after.directory = host.directory
  environment : after.environment = host.environment
  serves : ∀ number, host.Serves location number → after.Serves location number

variable {host : Host} {location : String} {number : Nat}

theorem Continues.refl (location : String) (host : Host) : host.Continues location host :=
  ⟨rfl, rfl, fun _ serves => serves⟩

theorem Continues.trans {middle after : Host} (first : Continues location host middle)
    (second : Continues location middle after) : Continues location host after :=
  ⟨second.directory.trans first.directory, second.environment.trans first.environment,
    fun number serves => second.serves number (first.serves number serves)⟩

theorem continues_of_archive (archive : Archive) (log : List LogRecord) :
    Continues location host
      { host with exchange := { host.exchange with archive }, log } :=
  ⟨rfl, rfl, fun _ serves => serves⟩

theorem continues_of_extends {disk : Disk} (grown : host.disk.Extends disk) :
    Continues location host { host with disk } :=
  ⟨rfl, rfl, fun _ serves => ⟨grown.find serves.1, serves.2⟩⟩

theorem continues_of_putStore {store replacement : Store}
    (there : host.exchange.store? number = some store)
    (sameLocation : replacement.location = store.location)
    (sameObservers : replacement.registrations = store.registrations)
    (lasting : store.temporary = false → replacement.temporary = false) :
    Continues location host
      { host with exchange := host.exchange.putStore number replacement } := by
  refine ⟨rfl, rfl, ?_⟩
  intro other serves
  rcases serves with ⟨found, used, usedThere, usedLocation, quiet, kept⟩
  refine ⟨found, ?_⟩
  change ∃ store, (host.exchange.stores.set number replacement)[other]? = some store ∧ _
  by_cases same : number = other
  · subst same
    cases there.symm.trans usedThere
    have bound := (List.getElem?_eq_some_iff.mp there).1
    rw [List.getElem?_set_self bound]
    exact ⟨replacement, rfl, sameLocation.trans usedLocation, sameObservers.trans quiet,
      lasting kept⟩
  · rw [List.getElem?_set_ne same]
    exact ⟨used, usedThere, usedLocation, quiet, kept⟩

theorem requireDirectory_of_found
    (found : host.disk.find host.directory location = .ok .directory) :
    host.perform (requireDirectory location) = (.ok ⟨⟩, host) := by
  rw [requireDirectory, perform_bind, perform_get]
  dsimp only
  rw [found]
  rfl

theorem requireDirectory_of_not_found
    (missing : host.disk.find host.directory location ≠ .ok .directory) :
    host.perform (requireDirectory location) = (.error .settingsUnavailable, host) := by
  rw [requireDirectory, perform_bind, perform_get]
  dsimp only
  split
  · rename_i found
    exact absurd found missing
  · rfl

theorem requireDirectory_cases (host : Host) (location : String) :
    host.perform (requireDirectory location) = (.ok ⟨⟩, host) ∨
      host.perform (requireDirectory location) = (.error .settingsUnavailable, host) := by
  by_cases found : host.disk.find host.directory location = .ok .directory
  · exact .inl (requireDirectory_of_found found)
  · exact .inr (requireDirectory_of_not_found found)

/-- A store that is used is open from then on. One that cannot be used stays as it is. -/
theorem useStore_cases (host : Host) (number : Nat) :
    (∃ store, host.exchange.store? number = some store ∧
        host.perform (useStore number) =
          (.ok { store with isOpen := true },
            { host with
              exchange := host.exchange.putStore number { store with isOpen := true } })) ∨
      host.perform (useStore number) = (.error .settingsUnavailable, host) ∧
        ∀ store, host.exchange.store? number = some store → store.isOpen = false := by
  rw [useStore, perform_bind_of_ok (perform_get host)]
  cases there : host.exchange.store? number with
  | none => exact .inr ⟨rfl, nofun⟩
  | some store =>
      dsimp only
      cases isOpen : store.isOpen with
      | true =>
          have same : { store with isOpen := true } = store := by rw [← isOpen]
          rw [if_pos rfl]
          refine .inl ⟨store, rfl, ?_⟩
          rw [same, Exchange.putStore_self there]
          rfl
      | false =>
          rw [if_neg Bool.false_ne_true, perform_bind]
          rcases requireDirectory_cases host store.location with required | failed
          · rw [required]
            exact .inl ⟨store, rfl, rfl⟩
          · rw [failed]
            refine .inr ⟨rfl, ?_⟩
            rintro other ⟨⟩
            exact isOpen

/-! ## Changes and notices -/

/-- The values after a change of one setting in a directory: it gets a value, or its
default is restored. -/
def assign (archive : Archive) (location : String) (setting : Setting) :
    Option String → Archive
  | some value => archive.set location setting value
  | none => archive.erase location setting

theorem get?_assign (archive : Archive) (location : String) (setting : Setting)
    (value? : Option String) (query : Setting) :
    (assign archive location setting value?).get? location query =
      if query = setting then value? else archive.get? location query := by
  cases value? with
  | some value => exact (Archive.get?_set _ _ _ _ _ _).trans (by simp)
  | none => exact (Archive.get?_erase _ _ _ _ _).trans (by simp)

/-- A change is noted with the new value, and is to be told to all who observe the setting. -/
theorem perform_change_of_useStore {store : Store} {ready : Host}
    (used : host.perform (useStore number) = (.ok store, ready)) (setting : Setting)
    (value? : Option String) :
    let archive := assign ready.exchange.archive store.location setting value?
    let notice : Notice := ⟨setting, store.get archive setting, store.observers setting⟩
    host.perform (change number setting value?) =
      (.ok notice,
        { ready with
          exchange := { ready.exchange with archive }
          log := ready.log ++
            [.debug (s!"Setting {setting.key} changed to " ++ Text.quoted notice.value)] }) := by
  intro archive notice
  rw [change, perform_bind, used]
  dsimp only
  rw [perform_bind, perform_modifyGet]
  cases value? with
  | some value => rfl
  | none => rfl

/-! ## Stores on one directory -/

/-- A store that can be used is ready after it is asked for, opened again if need be. -/
theorem Serves.useStore (serves : host.Serves location number) :
    ∃ store after, host.perform (useStore number) = (.ok store, after) ∧
      store.location = location ∧ store.registrations = [] ∧
      after.exchange.archive = host.exchange.archive ∧ Continues location host after := by
  rcases serves with ⟨found, store, there, rfl, quiet, lasting⟩
  rw [Host.useStore, perform_bind, perform_get]
  dsimp only
  rw [there]
  dsimp only
  by_cases isOpen : store.isOpen = true
  · rw [if_pos isOpen]
    exact ⟨store, host, rfl, rfl, quiet, rfl, .refl _ _⟩
  · rw [if_neg isOpen, perform_bind, requireDirectory_of_found found]
    exact ⟨{ store with isOpen := true }, _, rfl, rfl, quiet, rfl,
      continues_of_putStore there rfl rfl id⟩

/-- The value of a setting in a store is that in the archive, or else the default. -/
theorem Serves.valueOf (serves : host.Serves location number) (setting : Setting) :
    ∃ after, host.perform (valueOf number setting) =
        (.ok (Store.normalize setting
          ((host.exchange.archive.get? location setting).getD setting.default)), after) ∧
      after.exchange.archive = host.exchange.archive ∧ Continues location host after := by
  rcases serves.useStore with ⟨store, ready, used, rfl, _, archive, continues⟩
  rw [Host.valueOf, perform_bind, used]
  dsimp only
  rw [perform_bind, perform_get]
  exact ⟨ready, by rw [← archive]; rfl, archive, continues⟩

/-- A change goes to the archive of the directory, and nobody is to be called. -/
theorem Serves.change (serves : host.Serves location number) (setting : Setting)
    (value? : Option String) :
    ∃ notice after, host.perform (change number setting value?) = (.ok notice, after) ∧
      notice.callbacks = [] ∧
      (∀ query, after.exchange.archive.get? location query =
        if query = setting then value? else host.exchange.archive.get? location query) ∧
      Continues location host after := by
  rcases serves.useStore with ⟨store, ready, used, rfl, quiet, archive, continues⟩
  refine ⟨_, _, perform_change_of_useStore used setting value?, ?_, ?_,
    continues.trans (continues_of_archive _ _)⟩
  · simp [Store.observers, quiet]
  · intro query
    rw [← archive]
    exact get?_assign _ _ _ _ query

theorem Serves.closeStore (serves : host.Serves location number) :
    ∃ there after, host.perform (closeStore number) = (.ok there, after) ∧
      after.exchange.archive = host.exchange.archive ∧ Continues location host after := by
  rcases serves with ⟨_, store, there, rfl, quiet, lasting⟩
  rw [Host.closeStore, perform_bind, perform_get]
  dsimp only
  rw [there]
  dsimp only
  rw [lasting, if_neg Bool.false_ne_true, perform_bind, perform_set]
  exact ⟨_, _, rfl, rfl, continues_of_putStore there rfl rfl fun _ => rfl⟩

/-- The normal path of the directory that a path for settings means. -/
def settingsLocation (host : Host) (path : String) : String :=
  Path.absolute host.directory (host.settingsPath (Path.tidy path))

theorem Continues.settingsLocation_eq {after : Host} (continues : Continues location host after)
    (path : String) : after.settingsLocation path = host.settingsLocation path := by
  rw [settingsLocation, settingsPath, continues.directory, continues.environment]
  rfl

/-- Making a directory for settings makes the disk larger, if it changes it at all. -/
theorem continues_makeSettingsDirectory (host : Host) (location path : String) :
    ∃ result after, host.perform (makeSettingsDirectory path) = (result, after) ∧
      after.exchange = host.exchange ∧ Continues location host after := by
  rw [makeSettingsDirectory, perform_bind, perform_get]
  dsimp only
  split
  · exact ⟨_, _, rfl, rfl, .refl _ _⟩
  · exact ⟨_, _, rfl, rfl, .refl _ _⟩
  · rw [plain]
    split
    · rw [perform_bind, perform_pure]
      dsimp only
      split
      · rename_i disk made
        exact ⟨_, _, rfl, rfl, continues_of_extends (Disk.extends_makeDirectory made)⟩
      · exact ⟨_, _, rfl, rfl, .refl _ _⟩
      · exact ⟨_, _, rfl, rfl, .refl _ _⟩
    · exact ⟨_, _, rfl, rfl, .refl _ _⟩

theorem serves_openStore (store : Store)
    (found : host.disk.find host.directory store.location = .ok .directory)
    (quiet : store.registrations = []) (lasting : store.temporary = false) :
    let after := { host with exchange := (host.exchange.openStore store).2 }
    after.Serves store.location (host.exchange.openStore store).1 ∧
      Continues location host after := by
  refine ⟨⟨found, store, List.getElem?_concat_length, rfl, quiet, lasting⟩, rfl, rfl, ?_⟩
  intro number serves
  rcases serves with ⟨there, used, usedThere, properties⟩
  refine ⟨there, used, ?_, properties⟩
  exact (List.getElem?_append_left (List.getElem?_eq_some_iff.mp usedThere).1).trans usedThere

/-- Opening a store changes no value, and if it succeeds the store can be used. -/
theorem openStore_spec (host : Host) (path : String) :
    ∃ result after, host.perform (openStore (some path)) = (result, after) ∧
      after.exchange.archive = host.exchange.archive ∧
      Continues (host.settingsLocation path) host after ∧
      ∀ number, result = .ok number → after.Serves (host.settingsLocation path) number := by
  rw [settingsLocation]
  rcases continues_makeSettingsDirectory host
      (Path.absolute host.directory (host.settingsPath (Path.tidy path)))
      (host.settingsPath (Path.tidy path)) with ⟨result, made, ran, exchange, continues⟩
  have sameArchive : made.exchange.archive = host.exchange.archive :=
    congrArg Exchange.archive exchange
  rw [openStore]
  dsimp only
  rw [perform_bind, perform_pure]
  dsimp only
  rw [perform_bind, perform_get]
  dsimp only
  rw [perform_bind, ran]
  cases result with
  | error fault => exact ⟨_, _, rfl, sameArchive, continues, nofun⟩
  | ok _ =>
      dsimp only
      rw [perform_bind]
      by_cases found : made.disk.find made.directory
          (Path.absolute host.directory (host.settingsPath (Path.tidy path))) = .ok .directory
      · rw [requireDirectory_of_found found]
        dsimp only
        rw [perform_modifyGet]
        rcases serves_openStore (.opened (Path.tidy path)
          (Path.absolute host.directory (host.settingsPath (Path.tidy path))) false)
          found rfl rfl with ⟨serves, opened⟩
        refine ⟨_, _, rfl, sameArchive, continues.trans opened, ?_⟩
        intro number answer
        cases answer
        exact serves
      · rw [requireDirectory_of_not_found found]
        exact ⟨_, _, rfl, sameArchive, continues, nofun⟩

/-! ## Settings by key -/

theorem perform_settingOf_of_known {key : String} {setting : Setting}
    (known : Setting.ofKey? key = some setting) :
    host.perform (settingOf key) = (.ok setting, host) := by
  rw [settingOf, Store.setting, known]
  rfl

theorem perform_settingOf_of_unknown {key : String} (unknown : Setting.ofKey? key = none) :
    host.perform (settingOf key) = (.error (.tool (.unknownSetting key Setting.keys)), host) := by
  rw [settingOf, Store.setting, unknown]
  rfl

theorem perform_setSetting_of_unknown {key : String} (value : Value)
    (unknown : Setting.ofKey? key = none) :
    host.perform (setSetting number key value) =
      (.error (.tool (.unknownSetting key Setting.keys)), host) := by
  rw [setSetting, perform_bind, perform_settingOf_of_unknown unknown]

theorem perform_setSetting_of_not_text {key : String} {setting : Setting} {value : Value}
    (known : Setting.ofKey? key = some setting) (noText : ∀ text, value ≠ .text text) :
    host.perform (setSetting number key value) =
      (.error (.tool (.setting setting.key value Store.textHint)), host) := by
  rw [setSetting, perform_bind, perform_settingOf_of_known known]
  dsimp only
  rw [Store.textOf.eq_2 setting value noText]
  rfl

theorem perform_setSetting_of_text {key : String} {setting : Setting} (text : String)
    (known : Setting.ofKey? key = some setting) :
    host.perform (setSetting number key (.text text)) =
      host.perform (change number setting (some text)) := by
  rw [setSetting, perform_bind, perform_settingOf_of_known known]
  rfl

theorem perform_unsetSetting_of_unknown {key : String} (unknown : Setting.ofKey? key = none) :
    host.perform (unsetSetting number key) =
      (.error (.tool (.unknownSetting key Setting.keys)), host) := by
  rw [unsetSetting, perform_bind, perform_settingOf_of_unknown unknown]

theorem perform_unsetSetting_of_known {key : String} {setting : Setting}
    (known : Setting.ofKey? key = some setting) :
    host.perform (unsetSetting number key) = host.perform (change number setting none) := by
  rw [unsetSetting, perform_bind, perform_settingOf_of_known known]

/-! ## Open stores -/

section

variable {store : Store} (there : host.exchange.store? number = some store)
  (isOpen : store.isOpen = true)

include there isOpen

theorem perform_useStore_of_isOpen : host.perform (useStore number) = (.ok store, host) := by
  rw [useStore, perform_bind, perform_get]
  dsimp only
  rw [there]
  dsimp only
  rw [if_pos isOpen]
  rfl

theorem perform_valueOf_of_isOpen (setting : Setting) :
    host.perform (valueOf number setting) =
      (.ok (store.get host.exchange.archive setting), host) := by
  rw [valueOf, perform_bind, perform_useStore_of_isOpen there isOpen]
  rfl

end

theorem perform_withExchange_of_found {act : Exchange → Bool × Exchange} {exchange : Exchange}
    (found : act host.exchange = (true, exchange)) :
    host.perform (withExchange act) = (.ok ⟨⟩, { host with exchange }) := by
  rw [withExchange, perform_bind_of_ok (perform_modifyGet _ _), found]
  rfl

end LintBridge.Host
