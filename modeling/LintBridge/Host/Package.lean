import LintBridge.Host.Lint

/-!
# Packages

The life of the linter inside an editor: it is activated, provides a linter, and is
deactivated again. An active package reports every change of a setting to the log.
-/

namespace LintBridge.Host

/-- Change a package. -/
def updatePackage (number : Nat) (update : Package → Package) : Action Unit :=
  modify fun host => { host with packages := host.packages.modify number update }

/-- A package by its number. -/
def packageAt (number : Nat) : Action Package := do
  match (← get).packages[number]? with
  | some package => return package
  | none => throw (.unknownName (toString number))

/-- Add a package. -/
def openPackage (store? : Option Nat) (project? : Option Nat) (directory? : Option String) :
    Action Nat :=
  modifyGet fun host =>
    (host.packages.length,
      { host with
        packages :=
          host.packages ++ [⟨store?, store?.isNone, directory?, project?, none, none⟩] })

/-- The store of a package, which is opened if there is none. -/
def packageStore (number : Nat) : Action Nat := do
  let package ← packageAt number
  match package.store? with
  | some store => return store
  | none =>
      let host ← get
      let given := package.directory?.getD ""
      let store ← openStore
        (if given.isEmpty then Settings.defaultDirectory host.environment else given)
      updatePackage number fun package => { package with store? := some store }
      return store

/-- Report the value of a setting. -/
def report (setting : Setting) (value : String) : Action Unit :=
  note .debug (setting.key ++ " = " ++ Text.quoted value)

/-- A reporter that there has not been before. -/
def newReporter (setting : Setting) : Action Callback :=
  modifyGet fun host =>
    (.reporter host.reporters setting, { host with reporters := host.reporters + 1 })

/-- Report a setting of a package's store from now on. -/
def reportSetting (number group : Nat) (setting : Setting) : Action Unit := do
  let store ← packageStore number
  let reporter ← newReporter setting
  report setting (← register store setting reporter)
  let subscription ← subscribe store setting reporter
  withExchange (·.addToGroup group subscription)

/-- What is logged about an analyzer that cannot be run. -/
def notInstalledText (executable : String) : String :=
  s!"`{executable}` is not installed or not runnable. "
    ++ s!"Install pylint or set {Setting.executable.key}."

/-- Activate a package, unless it is active. -/
def activate (number : Nat) : Action Unit := do
  let package ← packageAt number
  if package.subscriptions?.isSome then return
  let group ← modifyGet fun host =>
    let (group, exchange) := host.exchange.openGroup
    (group, { host with exchange })
  updatePackage number fun package => { package with subscriptions? := some group }
  Setting.all.forM (reportSetting number group)
  let executable ← valueOf (← packageStore number) .executable
  if !Text.hasPlaceholder 'p' executable.toList then
    if !(← isInstalled executable) then note .warning (notInstalledText executable)

/-- Deactivate a package. A store of its own is closed. -/
def deactivate (number : Nat) : Action Unit := do
  let package ← packageAt number
  match package.subscriptions? with
  | none => pure ()
  | some group =>
      withExchange (·.disposeGroup group)
      updatePackage number fun package => { package with subscriptions? := none }
  match package.ownsStore, package.store? with
  | true, some store =>
      let _ ← closeStore store
      updatePackage number fun package => { package with store? := none, linter? := none }
  | _, _ => pure ()

/-- The linter of a package, which is made if there is none. -/
def provideLinter (number : Nat) : Action Nat := do
  let package ← packageAt number
  match package.linter? with
  | some linter => return linter
  | none =>
      let store ← packageStore number
      let linter ← modifyGet fun host =>
        (host.linters.length,
          { host with linters := host.linters ++ [⟨store, package.project?, none⟩] })
      updatePackage number fun package => { package with linter? := some linter }
      return linter

end LintBridge.Host
