import LintBridge.Host.Basic
import LintBridge.Settings.Directory

/-!
# Settings on a host

Stores are opened on directories of the host's disk. Changes are logged, and answer
with a notice of who is to be called.
-/

namespace LintBridge.Host

/-- What the names of temporary directories for settings begin with. -/
def settingsLabel : String := "linter_pylint_settings_"

/-- The directory that a path for settings means: a tilde and variables are replaced. -/
def settingsPath (host : Host) (path : String) : String :=
  host.environment.expand (Path.expandHome (Settings.home host.environment) path)

/-- Make sure that there is a directory for settings. -/
def makeSettingsDirectory (path : String) : Action Unit := do
  let host ← get
  match host.disk.find host.directory path with
  | .ok .directory => pure ()
  | .ok _ => throw .settingsUnavailable
  | .error _ =>
      plain path
      match host.disk.makeDirectory host.directory path with
      | .ok disk => set { host with disk }
      | .error .taken => throw .settingsUnavailable
      | .error fault => throw (.settingsDirectory fault path)

/-- The settings in a directory can be used if the directory is there. -/
def requireDirectory (location : String) : Action Unit := do
  let host ← get
  match host.disk.find host.directory location with
  | .ok .directory => pure ()
  | _ => throw .settingsUnavailable

/-- Open a store on a directory; without one, on a temporary directory that goes with
the store. -/
def openStore (directory? : Option String) : Action Nat := do
  let given ←
    match directory? with
    | some directory => pure directory
    | none => makeTemporary settingsLabel
  let directory := Path.tidy given
  let host ← get
  let path := host.settingsPath directory
  makeSettingsDirectory path
  let location := Path.absolute host.directory path
  requireDirectory location
  modifyGet fun host =>
    let (number, exchange) :=
      host.exchange.openStore (.opened directory location directory?.isNone)
    (number, { host with exchange })

/-- A store that is about to be used. A closed one is opened again, if its directory is
still there. -/
def useStore (number : Nat) : Action Store := do
  let host ← get
  match host.exchange.store? number with
  | none => throw .settingsUnavailable
  | some store =>
      if store.isOpen then return store
      else
        requireDirectory store.location
        let store := { store with isOpen := true }
        set { host with exchange := host.exchange.putStore number store }
        return store

/-- The setting with a key. -/
def settingOf (key : String) : Action Setting :=
  match Store.setting key with
  | .ok setting => pure setting
  | .error failure => throw (.tool failure)

/-- The value of a setting. -/
def valueOf (store : Nat) (setting : Setting) : Action String := do
  let store ← useStore store
  return store.get (← get).exchange.archive setting

/-- Whether the directory of a store is still there once the store is closed. A
temporary directory is removed. -/
def closeStore (number : Nat) : Action Bool := do
  let host ← get
  match host.exchange.store? number with
  | none => return false
  | some store =>
      let closed := { store with isOpen := false, temporary := false }
      let host := { host with exchange := host.exchange.putStore number closed }
      let host :=
        if store.temporary then
          let archive := host.exchange.archive.clear store.location
          removeTree store.location { host with exchange := { host.exchange with archive } }
        else host
      set host
      return host.disk.contains host.directory store.directory

/-- Log that a setting has changed. -/
def noteChange (notice : Notice) : Action Unit :=
  note .debug (s!"Setting {notice.setting.key} changed to " ++ Text.quoted notice.value)

/-- Change a setting of a store: whom to call with what. -/
def change (number : Nat) (setting : Setting) (value? : Option String) : Action Notice := do
  let store ← useStore number
  let notice ← modifyGet fun host =>
    let (notice, exchange) :=
      match value? with
      | some value => host.exchange.set store setting value
      | none => host.exchange.unset store setting
    (notice, { host with exchange })
  noteChange notice
  return notice

/-- Set a setting by its key: whom to call with what. -/
def setSetting (number : Nat) (key : String) (value : Value) : Action Notice := do
  let setting ← settingOf key
  match Store.textOf setting value with
  | .error failure => throw (.tool failure)
  | .ok text => change number setting (some text)

/-- Restore the default of a setting by its key: whom to call with what. -/
def unsetSetting (number : Nat) (key : String) : Action Notice := do
  change number (← settingOf key) none

/-- Register a callback for a setting; the answer is the value to call it with at once. -/
def register (number : Nat) (setting : Setting) (callback : Callback) : Action String := do
  modify fun host =>
    match host.exchange.store? number with
    | none => host
    | some store =>
        { host with exchange := host.exchange.putStore number (store.register setting callback) }
  valueOf number setting

/-- The number of a new subscription for a callback that has been registered and called. -/
def subscribe (number : Nat) (setting : Setting) (callback : Callback) : Action Nat :=
  modifyGet fun host =>
    let (subscription, exchange) := host.exchange.subscribe number setting callback
    (subscription, { host with exchange })

/-- Undo subscriptions; it is a fault if a registration is not where it should be. -/
def withExchange (act : Exchange → Bool × Exchange) : Action Unit := do
  let found ← modifyGet fun host =>
    let (found, exchange) := act host.exchange
    (found, { host with exchange })
  if found then pure () else throw .notRegistered

end LintBridge.Host
