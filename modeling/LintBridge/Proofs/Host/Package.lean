import LintBridge.Host.Package
import LintBridge.Proofs.Host.Lint

/-!
# Activating packages

An active package has a reporter for every setting of its store. Activating a package
takes several steps, each of which may fail, but the package counts as active from the
first one on. So a package whose activation fails stays active, with as many reporters
as it had got to.
-/

namespace LintBridge

/-- The subscription to the store of a package that belongs to a registration. -/
def Package.subscription (package : Package) (registration : Setting × Callback) :
    Subscription :=
  ⟨package.store?.getD 0, registration.1, registration.2, false⟩

/-! ## The state of packages -/

/-- What a host keeps for packages, apart from its disk, its programs and its log. -/
structure PackageState where
  exchange : Exchange
  packages : List Package
  linters : List Linter
  /-- The number of reporters that have been made. -/
  reporters : Nat

namespace PackageState

/-- A store is opened for a package. -/
def openStore (state : PackageState) (number : Nat) (store : Store) : PackageState :=
  { state with
    exchange := (state.exchange.openStore store).2
    packages := state.packages.modify number fun package =>
      { package with store? := some state.exchange.stores.length } }

/-- A package becomes active, with a group for its subscriptions. -/
def start (state : PackageState) (number : Nat) : PackageState :=
  { state with
    exchange := state.exchange.openGroup.2
    packages := state.packages.modify number fun package =>
      { package with subscriptions? := some state.exchange.groups.length } }

/-- A new reporter is registered in a store. -/
def register (state : PackageState) (place : Nat) (store : Store) (setting : Setting) :
    PackageState :=
  { state with
    exchange := state.exchange.putStore place
      (store.register setting (.reporter state.reporters setting))
    reporters := state.reporters + 1 }

/-- The last reporter is subscribed for a group with some members. -/
def subscribe (state : PackageState) (place : Nat) (setting : Setting) (reporter group : Nat)
    (members : List Nat) : PackageState :=
  let (subscription, exchange) :=
    state.exchange.subscribe place setting (.reporter reporter setting)
  { state with
    exchange :=
      { exchange with groups := exchange.groups.set group ⟨subscription :: members, false⟩ } }

/-- A package that is not to use its store any more closes it and forgets its linter. -/
def close (state : PackageState) (number place : Nat) (store : Store) (archive : Archive) :
    PackageState :=
  { state with
    exchange :=
      { state.exchange.putStore place { store with isOpen := false, temporary := false } with
        archive }
    packages := state.packages.modify number fun package =>
      { package with store? := none, linter? := none } }

/-- A package has a store, or one has been opened for it. -/
def Provides (state : PackageState) (number : Nat) (package : Package) (place : Nat)
    (ready : PackageState) : Prop :=
  package.store? = some place ∧ ready = state ∨
    package.store? = none ∧ place = state.exchange.stores.length ∧
      ∃ directory location, ready = state.openStore number (.opened directory location false)

/-! ## Packages with reporters -/

/-- What holds of a package with some reporters. All of them are subscribed for the group of
the package. Without a store or a group there are none. -/
structure Observed (state : PackageState) (number first : Nat) (package : Package)
    (own : List (Setting × Callback)) : Prop where
  there : state.packages[number]? = some package
  stored : ∀ place, package.store? = some place → ∃ store, state.exchange.store? place = some store
  numbered : first ≤ state.reporters
  reports : state.exchange.ReportsFrom first package.store? own
  storeless : package.store? = none → own = []
  inactive : package.subscriptions? = none → own = []
  grouped : ∀ group, package.subscriptions? = some group →
    ∃ members, state.exchange.groups[group]? = some ⟨members, false⟩ ∧ members.Nodup ∧
      members.map (state.exchange.subscriptions[·]?) =
        own.map fun registration => some (package.subscription registration)

variable {state ready : PackageState} {number first place group : Nat} {package : Package}
  {own : List (Setting × Callback)} {members : List Nat} {store : Store}

theorem Observed.provides (observed : state.Observed number first package own)
    (provides : state.Provides number package place ready) :
    ready.Observed number first { package with store? := some place } own := by
  rcases provides with ⟨stored, rfl⟩ | ⟨storeless, rfl, directory, location, rfl⟩
  · have same : { package with store? := some place } = package := by rw [← stored]
    rw [same]
    exact observed
  · cases observed.storeless storeless
    refine ⟨?_, ?_, observed.numbered, ?_, nofun, observed.inactive, observed.grouped⟩
    · change (state.packages.modify _ _)[number]? = _
      rw [List.getElem?_modify_eq, observed.there]
      rfl
    · rintro place ⟨⟩
      refine ⟨.opened directory location false, ?_⟩
      exact (Exchange.store?_openStore _ _ _).trans (if_pos rfl)
    · exact (observed.reports.openStore rfl).nil _

theorem Observed.start (observed : state.Observed number first package own)
    (inactive : package.subscriptions? = none) :
    (state.start number).Observed number first
      { package with subscriptions? := some state.exchange.groups.length } [] := by
  cases observed.inactive inactive
  refine ⟨?_, observed.stored, observed.numbered, ?_, fun _ => rfl, nofun, ?_⟩
  · change (state.packages.modify _ _)[number]? = _
    rw [List.getElem?_modify_eq, observed.there]
    rfl
  · exact ⟨nofun, observed.reports.registered⟩
  · rintro group ⟨⟩
    exact ⟨[], List.getElem?_concat_length, List.nodup_nil, rfl⟩

theorem Observed.register (observed : state.Observed number first package own)
    (stored : package.store? = some place) (used : state.exchange.store? place = some store)
    (ready : Store) (same : ready.registrations = store.registrations) (setting : Setting) :
    (state.register place ready setting).exchange.ReportsFrom first (some place)
      ((setting, .reporter state.reporters setting) :: own) := by
  have reports := observed.reports
  rw [stored] at reports
  apply reports.replace used
  · intro registration there
    rcases List.mem_cons.mp there with rfl | before
    · exact ⟨state.reporters, observed.numbered, rfl⟩
    · exact reports.reporting registration before
  · intro others standing
    change (ready.registrations ++ [_]).Perm _
    rw [same]
    exact (standing.append_right [_]).trans List.perm_append_comm

/-- A new reporter is one more of those that the package has. -/
theorem Observed.report (observed : state.Observed number first package own)
    (stored : package.store? = some place) (used : state.exchange.store? place = some store)
    (active : package.subscriptions? = some group)
    (grouped : state.exchange.groups[group]? = some ⟨members, false⟩) (setting : Setting) :
    ((state.register place { store with isOpen := true } setting).subscribe place setting
        state.reporters group members).Observed number first package
      ((setting, .reporter state.reporters setting) :: own) := by
  have inside := (List.getElem?_eq_some_iff.mp grouped).1
  rcases observed.grouped group active with ⟨_, same, nodup, subscribed⟩
  cases grouped.symm.trans same
  refine ⟨observed.there, ?_, Nat.le_succ_of_le observed.numbered, ?_, ?_, ?_, ?_⟩
  · rintro query equal
    cases stored.symm.trans equal
    refine ⟨_, (Exchange.store?_putStore used _ _).trans (if_pos rfl)⟩
  · have registered := observed.register stored used { store with isOpen := true } rfl setting
    rw [stored]
    exact ⟨registered.reporting, registered.registered⟩
  · intro none
    cases stored.symm.trans none
  · intro none
    cases active.symm.trans none
  · intro query equal
    cases active.symm.trans equal
    let subscription : Subscription := ⟨place, setting, .reporter state.reporters setting, false⟩
    have known : ∀ member ∈ members, member < state.exchange.subscriptions.length := by
      intro member there
      have mapped : state.exchange.subscriptions[member]? ∈
          members.map (state.exchange.subscriptions[·]?) := List.mem_map_of_mem there
      rw [subscribed] at mapped
      rcases List.mem_map.mp mapped with ⟨registration, -, found⟩
      exact (List.getElem?_eq_some_iff.mp found.symm).1
    refine ⟨_, List.getElem?_set_self inside, ?_, ?_⟩
    · apply List.nodup_cons.mpr
      exact ⟨fun there => Nat.lt_irrefl _ (known _ there), nodup⟩
    · change (state.exchange.subscriptions.length :: members).map
        ((state.exchange.subscriptions ++ [subscription])[·]?) = _
      rw [List.map_cons, List.map_cons, List.getElem?_concat_length, ← subscribed]
      congr 1
      · simp [subscription, Package.subscription, stored]
      · apply List.map_congr_left
        intro member there
        exact List.getElem?_append_left (known member there)

/-- Reporters have been added to one store, which is open now, and nothing else has
changed but subscriptions. -/
structure Reported (state after : PackageState) (place : Nat) : Prop where
  packages : after.packages = state.packages
  linters : after.linters = state.linters
  length : after.exchange.stores.length = state.exchange.stores.length
  others : ∀ other, other ≠ place → after.exchange.store? other = state.exchange.store? other
  isOpen : ∃ store, after.exchange.store? place = some store ∧ store.isOpen = true

theorem Reported.trans {last : PackageState} (first : state.Reported ready place)
    (second : ready.Reported last place) : state.Reported last place :=
  ⟨second.packages.trans first.packages, second.linters.trans first.linters,
    second.length.trans first.length,
    fun other apart => (second.others other apart).trans (first.others other apart),
    second.isOpen⟩

theorem reported_report (used : state.exchange.store? place = some store) (setting : Setting)
    (reporter group : Nat) (members : List Nat) :
    state.Reported ((state.register place { store with isOpen := true } setting).subscribe place
      setting reporter group members) place := by
  refine ⟨rfl, rfl, List.length_set, ?_, ?_⟩
  · intro other apart
    exact (Exchange.store?_putStore used _ _).trans (if_neg apart)
  · exact ⟨_, (Exchange.store?_putStore used _ _).trans (if_pos rfl), rfl⟩

end PackageState

namespace Host

/-- What a host keeps for packages. -/
def packageState (host : Host) : PackageState :=
  ⟨host.exchange, host.packages, host.linters, host.reporters⟩

variable {host : Host} {number place group : Nat} {package : Package} {members : List Nat}

/-! ## Stores for packages -/

theorem makeSettingsDirectory_eq (host : Host) (path : String) :
    ∃ result disk, host.perform (makeSettingsDirectory path) = (result, { host with disk }) := by
  rw [makeSettingsDirectory, perform_bind_of_ok (perform_get host)]
  split
  · exact ⟨_, _, rfl⟩
  · exact ⟨_, _, rfl⟩
  · rw [plain]
    split
    · rw [perform_bind_of_ok (perform_pure _ _)]
      split
      · exact ⟨_, _, rfl⟩
      · exact ⟨_, _, rfl⟩
      · exact ⟨_, _, rfl⟩
    · exact ⟨_, _, rfl⟩

/-- A store that is opened gets the next number. A failure leaves all stores as they are. -/
theorem openStore_cases (host : Host) (path : String) :
    (∃ fault disk, host.perform (openStore (some path)) = (.error fault, { host with disk })) ∨
      ∃ disk directory location, host.perform (openStore (some path)) =
        (.ok host.exchange.stores.length,
          { host with
            disk, exchange := (host.exchange.openStore (.opened directory location false)).2 }) := by
  rw [openStore]
  dsimp only
  rw [perform_bind_of_ok (perform_pure _ _), perform_bind_of_ok (perform_get _), perform_bind]
  rcases makeSettingsDirectory_eq host (host.settingsPath (Path.tidy path)) with
    ⟨result, disk, made⟩
  rw [made]
  cases result with
  | error fault => exact .inl ⟨fault, disk, rfl⟩
  | ok _ =>
      dsimp only
      rw [perform_bind]
      rcases requireDirectory_cases { host with disk }
        (Path.absolute host.directory (host.settingsPath (Path.tidy path))) with found | missing
      · rw [found]
        exact .inr ⟨disk, _, _, rfl⟩
      · rw [missing]
        exact .inl ⟨_, disk, rfl⟩

theorem perform_packageAt (there : host.packages[number]? = some package) :
    host.perform (packageAt number) = (.ok package, host) := by
  rw [packageAt, perform_bind_of_ok (perform_get host), there]
  rfl

/-- The store of a package is the one that it has, or else one that it opens. -/
theorem packageStore_cases (there : host.packages[number]? = some package) :
    (∃ fault after, host.perform (packageStore number) = (.error fault, after) ∧
        after.packageState = host.packageState ∧ package.store? = none) ∨
      ∃ place after, host.perform (packageStore number) = (.ok place, after) ∧
        host.packageState.Provides number package place after.packageState := by
  rw [packageStore, perform_bind_of_ok (perform_packageAt there)]
  cases stored : package.store? with
  | some place => exact .inr ⟨place, host, rfl, .inl ⟨stored, rfl⟩⟩
  | none =>
      dsimp only
      rw [perform_bind_of_ok (perform_get host), perform_bind, ← apply_ite some]
      rcases openStore_cases host
          (if (package.directory?.getD "").isEmpty then Settings.defaultDirectory host.environment
            else package.directory?.getD "") with
        ⟨fault, disk, failed⟩ | ⟨disk, directory, location, opened⟩
      · rw [failed]
        exact .inl ⟨fault, _, rfl, rfl, rfl⟩
      · rw [opened]
        exact .inr ⟨_, _, rfl, .inr ⟨stored, rfl, directory, location, rfl⟩⟩

theorem perform_packageStore_of_some (there : host.packages[number]? = some package)
    (stored : package.store? = some place) :
    host.perform (packageStore number) = (.ok place, host) := by
  rw [packageStore, perform_bind_of_ok (perform_packageAt there), stored]
  rfl

/-! ## Reporters -/

/-- A callback is registered at once, and called if the store can be used. -/
theorem register_cases {store : Store} (there : host.exchange.store? place = some store)
    (setting : Setting) (callback : Callback) :
    host.perform (register place setting callback) =
        (.ok (store.get host.exchange.archive setting),
          { host with
            exchange := host.exchange.putStore place
              ({ store with isOpen := true }.register setting callback) }) ∨
      store.isOpen = false ∧
        host.perform (register place setting callback) =
          (.error .settingsUnavailable,
            { host with
              exchange := host.exchange.putStore place (store.register setting callback) }) := by
  have inside := (List.getElem?_eq_some_iff.mp there).1
  have registered : (host.exchange.putStore place (store.register setting callback)).store?
      place = some (store.register setting callback) :=
    List.getElem?_set_self inside
  have twice : (host.exchange.putStore place (store.register setting callback)).putStore place
      { store.register setting callback with isOpen := true } =
        host.exchange.putStore place ({ store with isOpen := true }.register setting callback) := by
    rw [Exchange.putStore, Exchange.putStore, List.set_set]
    rfl
  rw [register, perform_bind_of_ok (perform_modify _ _), there, valueOf, perform_bind]
  dsimp only
  rcases useStore_cases { host with
      exchange := host.exchange.putStore place (store.register setting callback) } place with
    ⟨other, same, used⟩ | ⟨failed, closed⟩
  · cases registered.symm.trans same
    rw [used]
    dsimp only
    rw [twice]
    exact .inl rfl
  · rw [failed]
    exact .inr ⟨closed (store.register setting callback) registered, rfl⟩

/-- Once a setting is reported, its reporter is registered and has a subscription in the
group. A store that cannot be used is left with the registration only. -/
theorem reportSetting_cases {store : Store} (there : host.packages[number]? = some package)
    (stored : package.store? = some place) (used : host.exchange.store? place = some store)
    (grouped : host.exchange.groups[group]? = some ⟨members, false⟩) (setting : Setting) :
    (∃ after, host.perform (reportSetting number group setting) = (.ok ⟨⟩, after) ∧
        after.packageState =
          (host.packageState.register place { store with isOpen := true } setting).subscribe place
            setting host.reporters group members) ∨
      store.isOpen = false ∧
        ∃ after, host.perform (reportSetting number group setting) =
            (.error .settingsUnavailable, after) ∧
          after.packageState = host.packageState.register place store setting := by
  rw [reportSetting, perform_bind_of_ok (perform_packageStore_of_some there stored), newReporter,
    perform_bind_of_ok (perform_modifyGet _ _), perform_bind]
  have numbered : ({ host with reporters := host.reporters + 1 } : Host).exchange.store? place =
      some store := used
  rcases register_cases numbered setting (.reporter host.reporters setting) with
    registered | ⟨closed, failed⟩
  · rw [registered]
    dsimp only
    rw [report, perform_bind_of_ok (perform_note _ _ _), subscribe,
      perform_bind_of_ok (perform_modifyGet _ _)]
    refine .inl ⟨_, perform_withExchange_of_found (Exchange.addToGroup_of_standing ?_ _), rfl⟩
    exact grouped
  · rw [failed]
    exact .inr ⟨closed, _, rfl, rfl⟩

section Reporting

variable {first : Nat} {own : List (Setting × Callback)} {store : Store}
  (observed : host.packageState.Observed number first package own)
  (stored : package.store? = some place) (active : package.subscriptions? = some group)
  (used : host.exchange.store? place = some store)

include observed stored active used

/-- Reporting a setting gives the package a reporter, unless the store cannot be used. -/
theorem reports_cases (setting : Setting) :
    (∃ after reporter, host.perform (reportSetting number group setting) = (.ok ⟨⟩, after) ∧
        after.packageState.Observed number first package ((setting, reporter) :: own) ∧
        host.packageState.Reported after.packageState place) ∨
      store.isOpen = false ∧
        ∃ after, host.perform (reportSetting number group setting) =
            (.error .settingsUnavailable, after) ∧
          after.packageState = host.packageState.register place store setting := by
  rcases observed.grouped group active with ⟨members, grouped, -⟩
  rcases reportSetting_cases observed.there stored used grouped setting with
    ⟨after, ran, state⟩ | failed
  · refine .inl ⟨after, .reporter host.reporters setting, ran, ?_, ?_⟩
    · rw [state]
      exact observed.report stored used active grouped setting
    · rw [state]
      exact PackageState.reported_report used setting _ _ _
  · exact .inr failed

theorem reports_of_isOpen (isOpen : store.isOpen = true) (settings : List Setting) :
    ∃ after left, host.perform (settings.forM (reportSetting number group)) = (.ok ⟨⟩, after) ∧
      after.packageState.Observed number first package left ∧
      left.map (·.1) = settings.reverse ++ own.map (·.1) ∧
      host.packageState.Reported after.packageState place := by
  induction settings generalizing host own store with
  | nil => exact ⟨host, own, rfl, observed, rfl, rfl, rfl, rfl, fun _ _ => rfl, store, used, isOpen⟩
  | cons setting settings ih =>
      rcases reports_cases observed stored active used setting with
        ⟨middle, reporter, ran, more, reported⟩ | ⟨closed, -⟩
      · rcases reported.isOpen with ⟨left, usable, stillOpen⟩
        rcases ih more usable stillOpen with ⟨after, all, done, observed, listed, rest⟩
        refine ⟨after, all, ?_, observed, ?_, reported.trans rest⟩
        · rw [List.forM_eq_forM, List.forM_cons, perform_bind_of_ok ran]
          exact done
        · rw [listed, List.reverse_cons, List.append_assoc]
          rfl
      · rw [isOpen] at closed
        cases closed

end Reporting

theorem packageState_isInstalled (host : Host) (executable : String) :
    (host.perform (isInstalled executable)).2.packageState = host.packageState := by
  rw [isInstalled, perform_bind_of_ok (perform_get host), perform_tryCatch, perform_bind]
  rcases start_cases host
      ⟨executable, [Program.versionArgument], host.environment, some host.directory⟩ with
    ⟨fault, failed⟩ | ⟨outcome, run, directory, started, -⟩
  · rw [failed]
    cases fault <;> rfl
  · rw [started]
    rfl

/-- All settings of a package are reported, unless it cannot open a store or cannot use
the one that it has. -/
theorem reportAll_cases {first : Nat} {own : List (Setting × Callback)}
    (observed : host.packageState.Observed number first package own)
    (active : package.subscriptions? = some group) (setting : Setting)
    (settings : List Setting) :
    (∃ fault after,
        host.perform ((setting :: settings).forM (reportSetting number group)) =
          (.error fault, after) ∧
        after.packageState = host.packageState ∧ package.store? = none) ∨
      ∃ place ready, host.packageState.Provides number package place ready ∧
        ((∃ store after,
            host.perform ((setting :: settings).forM (reportSetting number group)) =
              (.error .settingsUnavailable, after) ∧
            ready.exchange.store? place = some store ∧
            after.packageState = ready.register place store setting) ∨
          ∃ after left,
            host.perform ((setting :: settings).forM (reportSetting number group)) =
              (.ok ⟨⟩, after) ∧
            after.packageState.Observed number first { package with store? := some place } left ∧
            left.map (·.1) = settings.reverse ++ setting :: own.map (·.1) ∧
            ready.Reported after.packageState place) := by
  rw [List.forM_eq_forM, List.forM_cons, perform_bind]
  rcases packageStore_cases observed.there with
    ⟨fault, after, failed, state, storeless⟩ | ⟨place, ready, opened, provides⟩
  · rw [reportSetting, perform_bind_of_error failed]
    exact .inl ⟨fault, after, rfl, state, storeless⟩
  · refine .inr ⟨place, ready.packageState, provides, ?_⟩
    have provided := observed.provides provides
    rcases provided.stored place rfl with ⟨store, used⟩
    have same : host.perform (reportSetting number group setting) =
        ready.perform (reportSetting number group setting) := by
      rw [reportSetting, perform_bind_of_ok opened,
        perform_bind_of_ok (perform_packageStore_of_some provided.there rfl)]
    rw [same]
    rcases reports_cases provided rfl active used setting with
      ⟨middle, reporter, reported, more, grown⟩ | ⟨closed, after, failed, state⟩
    · rcases grown.isOpen with ⟨left, usable, isOpen⟩
      rcases reports_of_isOpen more rfl active usable isOpen settings with
        ⟨after, all, done, observed, listed, rest⟩
      refine .inr ⟨after, all, ?_, observed, listed, grown.trans rest⟩
      rw [reported]
      exact done
    · rw [failed]
      exact .inl ⟨store, after, rfl, used, state⟩

/-- Warn that the analyzer of a package cannot be run, if so. -/
def warnUnlessInstalled (number : Nat) : Action Unit := do
  let executable ← valueOf (← packageStore number) .executable
  if !Text.hasPlaceholder 'p' executable.toList then
    if !(← isInstalled executable) then note .warning (notInstalledText executable)

theorem packageState_warnUnlessInstalled {store : Store}
    (there : host.packages[number]? = some package) (stored : package.store? = some place)
    (used : host.exchange.store? place = some store) (isOpen : store.isOpen = true) :
    (host.perform (warnUnlessInstalled number)).2.packageState = host.packageState := by
  rw [warnUnlessInstalled, perform_bind_of_ok (perform_packageStore_of_some there stored),
    perform_bind_of_ok (perform_valueOf_of_isOpen used isOpen .executable)]
  split
  · rw [perform_bind]
    have kept := packageState_isInstalled host (store.get host.exchange.archive .executable)
    cases asked : host.perform (isInstalled (store.get host.exchange.archive .executable)) with
    | mk result after =>
        rw [asked] at kept
        cases result with
        | error fault => exact kept
        | ok installed => cases installed <;> exact kept
  · rfl

/-- A package that is not active becomes active before anything else is done. -/
theorem perform_activate_of_inactive (there : host.packages[number]? = some package)
    (inactive : package.subscriptions? = none) :
    ∃ began : Host, began.packageState = host.packageState.start number ∧
      host.perform (activate number) =
        began.perform (do
          Setting.all.forM (reportSetting number host.exchange.groups.length)
          warnUnlessInstalled number) := by
  refine ⟨{ host with
    exchange := host.exchange.openGroup.2
    packages := host.packages.modify number fun package =>
      { package with subscriptions? := some host.exchange.groups.length } }, rfl, ?_⟩
  rw [activate, perform_bind_of_ok (perform_packageAt there), inactive, Option.isSome_none,
    if_neg Bool.false_ne_true, perform_bind_of_ok (perform_modifyGet _ _), updatePackage,
    perform_bind_of_ok (perform_modify _ _)]
  unfold warnUnlessInstalled
  rfl

/-- Activating a package that is not active makes it active. Then it may fail to open a
store or to use the one that it has, or else it gets a reporter for every setting. -/
theorem activate_cases {first : Nat} {own : List (Setting × Callback)}
    (observed : host.packageState.Observed number first package own)
    (inactive : package.subscriptions? = none) :
    let active := { package with subscriptions? := some host.exchange.groups.length }
    (∃ fault after, host.perform (activate number) = (.error fault, after) ∧
        after.packageState = host.packageState.start number ∧ package.store? = none) ∨
      ∃ place ready, (host.packageState.start number).Provides number active place ready ∧
        ((∃ store after, host.perform (activate number) = (.error .settingsUnavailable, after) ∧
            ready.exchange.store? place = some store ∧
            after.packageState = ready.register place store .executable) ∨
          ∃ result after left, host.perform (activate number) = (result, after) ∧
            after.packageState.Observed number first { active with store? := some place } left ∧
            left.map (·.1) = Setting.all.reverse ∧ ready.Reported after.packageState place) := by
  intro active
  rcases perform_activate_of_inactive observed.there inactive with ⟨began, state, begins⟩
  have started : began.packageState.Observed number first active [] := by
    rw [state]
    exact observed.start inactive
  rw [begins, perform_bind, ← state]
  rcases reportAll_cases started rfl .executable _ with
    ⟨fault, after, failed, kept, storeless⟩ | ⟨place, ready, provides, ended⟩
  · refine .inl ⟨fault, after, ?_, kept, storeless⟩
    rw [Setting.all, failed]
  · refine .inr ⟨place, ready, provides, ended.imp ?_ ?_⟩
    · rintro ⟨store, after, failed, used, kept⟩
      refine ⟨store, after, ?_, used, kept⟩
      rw [Setting.all, failed]
    · rintro ⟨after, left, done, observed, listed, reported⟩
      rcases reported.isOpen with ⟨store, used, isOpen⟩
      have kept := packageState_warnUnlessInstalled observed.there rfl used isOpen
      refine ⟨(after.perform (warnUnlessInstalled number)).1,
        (after.perform (warnUnlessInstalled number)).2, left, ?_, ?_, listed, ?_⟩
      · rw [Setting.all, done]
      · rw [kept]
        exact observed
      · rw [kept]
        exact reported

theorem perform_activate_of_active (there : host.packages[number]? = some package)
    (active : package.subscriptions?.isSome = true) :
    host.perform (activate number) = (.ok ⟨⟩, host) := by
  rw [activate, perform_bind_of_ok (perform_packageAt there), if_pos active]
  rfl

/-- A package is active on a host, so that activating it changes nothing. Among the
reporters that have been made since an earlier host, there is one for some settings of
its store and none for anything else. -/
structure LeftActive (host left : Host) (number : Nat) (package : Package)
    (reported : List Setting) : Prop where
  there : left.packages[number]? = some package
  active : package.subscriptions?.isSome = true
  again : left.perform (activate number) = (.ok ⟨⟩, left)
  reporters : ∀ place store, left.exchange.store? place = some store → ∀ setting,
    (store.observers setting).countP (·.isFrom host.reporters) =
      if package.store? = some place ∧ setting ∈ reported then 1 else 0

theorem leftActive_of_reportsFrom {left : Host} {own : List (Setting × Callback)}
    {reported : List Setting} (there : left.packages[number]? = some package)
    (active : package.subscriptions?.isSome = true)
    (reports : left.exchange.ReportsFrom host.reporters package.store? own)
    (counts : ∀ setting, (own.map (·.1)).count setting = if setting ∈ reported then 1 else 0) :
    host.LeftActive left number package reported := by
  refine ⟨there, active, perform_activate_of_active there active, ?_⟩
  intro place store used setting
  rw [reports.countP used, counts, ite_and]

/-- A package that is not active has none of the reporters that are still to be made. -/
theorem observed_of_inactive (there : host.packages[number]? = some package)
    (inactive : package.subscriptions? = none)
    (stored : ∀ place, package.store? = some place →
      ∃ store, host.exchange.store? place = some store)
    (fresh : ∀ place store, host.exchange.store? place = some store →
      ∀ registration ∈ store.registrations, registration.2.isFrom host.reporters = false) :
    host.packageState.Observed number host.reporters package [] := by
  refine ⟨there, stored, Nat.le_refl _, ⟨nofun, ?_⟩, fun _ => rfl, fun _ => rfl, ?_⟩
  · intro place store used
    refine ⟨store.registrations, ?_, fresh place store used⟩
    rw [ite_self]
    exact List.Perm.refl _
  · intro group active
    cases inactive.symm.trans active

/-- A package whose activation fails is active from then on, and activating it once more
changes nothing. Its reporters are none if it could not open a store, one if it could not
use the store that it has, and otherwise one for every setting. -/
theorem activate_of_fault (host left : Host) (number : Nat) (package : Package) (fault : Fault)
    (there : host.packages[number]? = some package) (inactive : package.subscriptions? = none)
    (stored : ∀ place, package.store? = some place →
      ∃ store, host.exchange.store? place = some store)
    (fresh : ∀ place store, host.exchange.store? place = some store →
      ∀ registration ∈ store.registrations, registration.2.isFrom host.reporters = false)
    (failed : host.perform (activate number) = (.error fault, left)) :
    ∃ active, host.LeftActive left number active [] ∧ active.store? = none ∨
      host.LeftActive left number active [.executable] ∧ fault = .settingsUnavailable ∨
      host.LeftActive left number active Setting.all := by
  have observed := observed_of_inactive there inactive stored fresh
  have started := observed.start inactive
  rcases activate_cases observed inactive with
    ⟨other, after, ran, state, storeless⟩ | ⟨place, ready, provides, ended⟩
  · cases failed.symm.trans ran
    have kept : left.packages[number]? = _ :=
      (congrArg (·.packages[number]?) state).trans started.there
    have exchange : left.exchange = _ := congrArg PackageState.exchange state
    have reports := started.reports
    rw [← exchange] at reports
    exact ⟨_, .inl ⟨leftActive_of_reportsFrom kept rfl reports fun _ => rfl, storeless⟩⟩
  · have provided := started.provides provides
    rcases ended with ⟨store, after, ran, used, state⟩ | ⟨result, after, own, ran, kept, listed, -⟩
    · cases failed.symm.trans ran
      have kept : left.packages[number]? = _ :=
        (congrArg (·.packages[number]?) state).trans provided.there
      have exchange : left.exchange = _ := congrArg PackageState.exchange state
      have reports := provided.register rfl used store rfl .executable
      rw [← exchange] at reports
      refine ⟨_, .inr (.inl ⟨leftActive_of_reportsFrom kept rfl reports ?_, rfl⟩)⟩
      intro setting
      cases setting <;> rfl
    · cases failed.symm.trans ran
      refine ⟨_, .inr (.inr (leftActive_of_reportsFrom kept.there rfl kept.reports ?_))⟩
      intro setting
      rw [listed]
      cases setting <;> decide

/-- A host with a package whose analyzer has a name that no program can have. -/
def nullHost : Host :=
  { disk := ⟨[]⟩
    environment := ⟨[]⟩
    directory := "/"
    temporary := "/tmp"
    nextTemporary := 0
    exchange :=
      ⟨Archive.empty.set "/s" .executable "py\x00lint", [.opened "/s" "/s" false], [], []⟩
    editors := []
    projects := []
    linters := []
    packages := [⟨some 0, false, none, none, none, none⟩]
    reporters := 0
    runs := []
    log := [] }

/-- Whether a path or a program had a null character in it. -/
def isNullCharacter : Except Fault α → Bool
  | .error .nullCharacter => true
  | _ => false

theorem eq_error_of_isNullCharacter {result : Except Fault α}
    (isNull : isNullCharacter result = true) : result = .error .nullCharacter := by
  rw [isNullCharacter.eq_def] at isNull
  split at isNull
  · rfl
  · cases isNull

/-- The activation fails when it comes to the analyzer, and the package has a reporter for
every setting by then. -/
theorem activate_of_fault_null :
    (nullHost.packages[0]?.map (·.subscriptions?)) = some none ∧
      ∃ left active, nullHost.perform (activate 0) = (.error .nullCharacter, left) ∧
        nullHost.LeftActive left 0 active Setting.all := by
  refine ⟨rfl, ?_⟩
  have isNull : isNullCharacter (nullHost.perform (activate 0)).1 = true := by decide +kernel
  have stored : ((nullHost.perform (activate 0)).2.packages[0]?.bind (·.store?)) = some 0 := by
    decide +kernel
  cases failed : nullHost.perform (activate 0) with
  | mk result left =>
      rw [failed] at isNull stored
      dsimp only at isNull stored
      cases eq_error_of_isNullCharacter isNull
      have found := activate_of_fault nullHost left 0 ⟨some 0, false, none, none, none, none⟩
        .nullCharacter rfl rfl ?_ ?_ failed
      · rcases found with ⟨active, ⟨leftActive, storeless⟩ | ⟨-, fault⟩ | leftActive⟩
        · rw [leftActive.there, Option.bind_some, storeless] at stored
          cases stored
        · cases fault
        · exact ⟨left, active, rfl, leftActive⟩
      · rintro place ⟨⟩
        exact ⟨_, rfl⟩
      · intro place store used registration there
        cases List.mem_singleton.mp (List.mem_of_getElem? used)
        cases there

/-- An activation that fails does not always leave a package inactive and without
reporters, so that the next one would do it all again. -/
theorem exists_active_after_fault :
    (nullHost.packages[0]?.map (·.subscriptions?)) = some none ∧
      (nullHost.perform (activate 0)).1.isOk = false ∧
      ((nullHost.perform (activate 0)).2.packages[0]?.map (·.subscriptions?.isSome)) =
        some true ∧
      (nullHost.perform (activate 0)).2.exchange.stores.map
        (fun store => (store.observers .executable).length) = [1] ∧
      ((nullHost.perform (activate 0)).2.perform (activate 0)).1.isOk = true := by
  decide +kernel

end Host

end LintBridge
