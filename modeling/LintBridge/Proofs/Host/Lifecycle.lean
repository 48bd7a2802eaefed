import LintBridge.Proofs.Host.Package

/-!
# The life of a package

What holds of a package between the steps of its life, from the time that it is opened.
Its reporters are those of its store while it is active, its linter reads its store, and
it opens and closes no stores but its own. Every action on the package that succeeds
keeps this, and so does every change of a setting.
-/

namespace LintBridge

/-- Whether there is a store that is open. -/
def Exchange.IsOpen (exchange : Exchange) (place : Nat) : Prop :=
  ∃ store, exchange.store? place = some store ∧ store.isOpen = true

theorem Exchange.IsOpen.lt_length {exchange : Exchange} {place : Nat}
    (isOpen : exchange.IsOpen place) : place < exchange.stores.length := by
  rcases isOpen with ⟨store, there, -⟩
  exact (List.getElem?_eq_some_iff.mp there).1

theorem Exchange.isOpen_openStore_iff (exchange : Exchange) (store : Store) (place : Nat) :
    (exchange.openStore store).2.IsOpen place ↔
      exchange.IsOpen place ∨ place = exchange.stores.length ∧ store.isOpen = true := by
  simp only [IsOpen, store?_openStore]
  by_cases new : place = exchange.stores.length
  · have missing : exchange.store? exchange.stores.length = none :=
      List.getElem?_eq_none (Nat.le_refl _)
    simp [new, missing]
  · simp [new]

theorem Exchange.isOpen_putStore_iff {exchange : Exchange} {number : Nat} {store : Store}
    (there : exchange.store? number = some store) (replacement : Store) (place : Nat) :
    (exchange.putStore number replacement).IsOpen place ↔
      if place = number then replacement.isOpen = true else exchange.IsOpen place := by
  simp only [IsOpen, store?_putStore there]
  by_cases same : place = number
  · simp [same]
  · simp [same]

theorem Exchange.isOpen_putStore_of_same {exchange : Exchange} {number : Nat}
    {store replacement : Store} (there : exchange.store? number = some store)
    (same : replacement.isOpen = store.isOpen) (place : Nat) :
    (exchange.putStore number replacement).IsOpen place ↔ exchange.IsOpen place := by
  rw [isOpen_putStore_iff there]
  split
  · rename_i equal
    rw [equal, same, IsOpen, there]
    simp
  · rfl

namespace PackageState

variable {origin state after ready : PackageState} {number first place query group : Nat}
  {given? : Option Nat} {reopened : List Nat} {package : Package}
  {own : List (Setting × Callback)}

/-- What holds of the store and the linter of a package that has been opened in some earlier
state, with a store or without one. All stores that have been opened since are its own.
The one that it uses is open, and it has closed the others, which are open only if they
have been reopened. -/
structure StoreInvariant (origin state : PackageState) (given? : Option Nat)
    (reopened : List Nat) (package : Package) : Prop where
  owns : package.ownsStore = given?.isNone
  given : ∀ place, given? = some place → package.store? = some place
  earlier : ∀ place, given? = some place → place < origin.exchange.stores.length
  opened : given? = none → ∀ place, package.store? = some place →
    origin.exchange.stores.length ≤ place
  grown : origin.exchange.stores.length ≤ state.exchange.stores.length
  lasting : ∀ place, origin.exchange.IsOpen place → state.exchange.IsOpen place
  isOpen_iff : ∀ place, origin.exchange.stores.length ≤ place →
    (state.exchange.IsOpen place ↔ package.store? = some place ∨ place ∈ reopened)
  apart : ∀ place, package.store? = some place → place ∉ reopened
  reads : ∀ linter, package.linter? = some linter →
    ∃ made, state.linters[linter]? = some made ∧ package.store? = some made.store

/-- What holds of a package between the steps of its life. While it is active, it has a
reporter for every setting. -/
structure Invariant (origin state : PackageState) (number : Nat) (given? : Option Nat)
    (reopened : List Nat) (package : Package) (own : List (Setting × Callback)) : Prop extends
    state.Observed number origin.reporters package own,
    origin.StoreInvariant state given? reopened package where
  complete : package.subscriptions?.isSome = true → own.map (·.1) = Setting.all.reverse

/-! ## Stores and linters -/

/-- Stores may be opened that the package uses, and linters may be added. -/
theorem StoreInvariant.grow (invariant : origin.StoreInvariant state given? reopened package)
    (length : state.exchange.stores.length ≤ after.exchange.stores.length)
    (stays : ∀ place, state.exchange.IsOpen place → after.exchange.IsOpen place)
    (opens : ∀ place, after.exchange.IsOpen place →
      state.exchange.IsOpen place ∨ package.store? = some place)
    (linters : ∀ (linter : Nat) (made : Linter), state.linters[linter]? = some made →
      after.linters[linter]? = some made) :
    origin.StoreInvariant after given? reopened package := by
  refine ⟨invariant.owns, invariant.given, invariant.earlier, invariant.opened,
    Nat.le_trans invariant.grown length, ?_, ?_, invariant.apart, ?_⟩
  · intro place isOpen
    exact stays place (invariant.lasting place isOpen)
  · intro place later
    constructor
    · intro isOpen
      rcases opens place isOpen with before | used
      · exact (invariant.isOpen_iff place later).mp before
      · exact .inl used
    · intro openOrReopened
      exact stays place ((invariant.isOpen_iff place later).mpr openOrReopened)
  · intro linter provided
    rcases invariant.reads linter provided with ⟨made, there, reads⟩
    exact ⟨made, linters linter made there, reads⟩

theorem Provides.linters (provides : state.Provides number package place ready) :
    ready.linters = state.linters := by
  rcases provides with ⟨-, rfl⟩ | ⟨-, -, directory, location, rfl⟩
  · rfl
  · rfl

theorem StoreInvariant.provides (invariant : origin.StoreInvariant state given? reopened package)
    (provides : state.Provides number package place ready) :
    origin.StoreInvariant ready given? reopened { package with store? := some place } := by
  rcases provides with ⟨stored, rfl⟩ | ⟨storeless, rfl, directory, location, rfl⟩
  · have same : { package with store? := some place } = package := by rw [← stored]
    rw [same]
    exact invariant
  · have ungiven : ∀ place, given? ≠ some place := by
      intro place given
      cases storeless.symm.trans (invariant.given place given)
    have new : state.exchange.stores.length ∉ reopened := by
      intro again
      have isOpen := (invariant.isOpen_iff _ invariant.grown).mpr (.inr again)
      exact Nat.lt_irrefl _ isOpen.lt_length
    refine ⟨invariant.owns, fun place given => absurd given (ungiven place),
      invariant.earlier, ?_, ?_, ?_, ?_, ?_, ?_⟩
    · rintro - _ ⟨⟩
      exact invariant.grown
    · exact Nat.le_trans invariant.grown (by simp [openStore, Exchange.openStore])
    · intro place isOpen
      exact (Exchange.isOpen_openStore_iff _ _ _).mpr (.inl (invariant.lasting place isOpen))
    · intro place later
      rw [openStore, Exchange.isOpen_openStore_iff, invariant.isOpen_iff place later, storeless]
      simp [Store.opened, or_comm, eq_comm]
    · rintro _ ⟨⟩
      exact new
    · intro linter provided
      rcases invariant.reads linter provided with ⟨made, there, reads⟩
      cases storeless.symm.trans reads

theorem StoreInvariant.reported (invariant : origin.StoreInvariant ready given? reopened package)
    (stored : package.store? = some place) (reported : ready.Reported after place) :
    origin.StoreInvariant after given? reopened package := by
  apply invariant.grow (Nat.le_of_eq reported.length.symm)
  · intro other isOpen
    by_cases same : other = place
    · rw [same]
      exact reported.isOpen
    · rw [Exchange.IsOpen, reported.others other same]
      exact isOpen
  · intro other isOpen
    by_cases same : other = place
    · exact .inr (by rw [stored, same])
    · rw [Exchange.IsOpen, reported.others other same] at isOpen
      exact .inl isOpen
  · intro linter made there
    rw [reported.linters]
    exact there

theorem StoreInvariant.subscribes (invariant : origin.StoreInvariant state given? reopened package)
    (group? : Option Nat) :
    origin.StoreInvariant state given? reopened { package with subscriptions? := group? } :=
  ⟨invariant.owns, invariant.given, invariant.earlier, invariant.opened, invariant.grown,
    invariant.lasting, invariant.isOpen_iff, invariant.apart, invariant.reads⟩

theorem Invariant.stored_of_active
    (invariant : origin.Invariant state number given? reopened package own)
    (active : package.subscriptions?.isSome = true) :
    ∃ place store, package.store? = some place ∧ state.exchange.store? place = some store := by
  cases stored : package.store? with
  | none =>
      have complete := invariant.complete active
      rw [invariant.storeless stored] at complete
      cases complete
  | some place =>
      rcases invariant.stored place stored with ⟨store, there⟩
      exact ⟨place, store, rfl, there⟩

/-- The subscriptions of an active package are all undone, and no reporters are left. -/
theorem Invariant.dispose (invariant : origin.Invariant state number given? reopened package own)
    (active : package.subscriptions? = some group) :
    ∃ exchange, state.exchange.disposeGroup group = (true, exchange) ∧
      origin.Invariant
        { state with
          exchange
          packages := state.packages.modify number fun package =>
            { package with subscriptions? := none } }
        number given? reopened { package with subscriptions? := none } [] := by
  have isActive : package.subscriptions?.isSome = true := by rw [active]; rfl
  rcases invariant.stored_of_active isActive with ⟨place, store, stored, used⟩
  rcases invariant.grouped group active with ⟨members, grouped, nodup, subscribed⟩
  have reports := invariant.reports
  rw [stored] at reports
  rcases reports.registered place store used with ⟨others, standing, foreign⟩
  rw [if_pos rfl] at standing
  simp only [Package.subscription, stored, Option.getD_some] at subscribed
  rcases Exchange.disposeAll_of_registered used nodup subscribed standing with
    ⟨subscriptions, left, disposed, sameOpen, rest⟩
  have withdrawn : ∀ kept, store.registrations.Perm (own ++ kept) →
      left.registrations.Perm ([] ++ kept) := by
    intro kept same
    exact rest.trans ((List.perm_append_left_iff own).mp (standing.symm.trans same))
  have replaced : (state.exchange.putStore place left).ReportsFrom origin.reporters
      (some place) [] := reports.replace used (List.forall_mem_nil _) withdrawn
  have sameStores := Exchange.isOpen_putStore_of_same used sameOpen
  let exchange : Exchange :=
    { state.exchange with
      subscriptions
      stores := state.exchange.stores.set place left
      groups := state.exchange.groups.set group ⟨[], true⟩ }
  refine ⟨exchange, ?_, ?_⟩
  · rw [Exchange.disposeGroup, grouped]
    dsimp only
    rw [disposed]
  · refine ⟨⟨?_, ?_, invariant.numbered, ?_, fun _ => rfl, fun _ => rfl, ?_⟩, ?_, ?_⟩
    · change (state.packages.modify _ _)[number]? = _
      rw [List.getElem?_modify_eq, invariant.there]
      rfl
    · intro query equal
      cases stored.symm.trans equal
      exact ⟨left, (Exchange.store?_putStore used _ _).trans (if_pos rfl)⟩
    · change Exchange.ReportsFrom _ _ package.store? _
      rw [stored]
      exact ⟨List.forall_mem_nil _, replaced.registered⟩
    · rintro _ ⟨⟩
    · apply StoreInvariant.grow (invariant.toStoreInvariant.subscribes none)
      · exact Nat.le_of_eq List.length_set.symm
      · exact fun query => (sameStores query).mpr
      · exact fun query isOpen => .inl ((sameStores query).mp isOpen)
      · exact fun _ _ there => there
    · rintro ⟨⟩

theorem Invariant.close {store : Store}
    (invariant : origin.Invariant state number given? reopened package [])
    (inactive : package.subscriptions? = none) (ungiven : given? = none)
    (stored : package.store? = some place) (used : state.exchange.store? place = some store)
    (archive : Archive) :
    origin.Invariant (state.close number place store archive) number given? reopened
      { package with store? := none, linter? := none } [] := by
  cases ungiven
  let closed : Store := { store with isOpen := false, temporary := false }
  have kept : (state.exchange.putStore place closed).ReportsFrom _ _ [] :=
    invariant.reports.keep used rfl
  have isOpen_iff := Exchange.isOpen_putStore_iff used closed
  refine ⟨⟨?_, nofun, invariant.numbered, ?_, fun _ => rfl, fun _ => rfl, ?_⟩, ?_, ?_⟩
  · change (state.packages.modify _ _)[number]? = _
    rw [List.getElem?_modify_eq, invariant.there]
    rfl
  · exact ⟨nofun, (kept.nil none).registered⟩
  · intro group active
    cases inactive.symm.trans active
  · refine ⟨invariant.owns, nofun, nofun, nofun, ?_, ?_, ?_, nofun, nofun⟩
    · exact Nat.le_trans invariant.grown (Nat.le_of_eq List.length_set.symm)
    · intro query isOpen
      have before := Nat.lt_of_lt_of_le isOpen.lt_length (invariant.opened rfl place stored)
      apply (isOpen_iff query).mpr
      rw [if_neg (Nat.ne_of_lt before)]
      exact invariant.lasting query isOpen
    · intro query later
      apply (isOpen_iff query).trans
      by_cases same : query = place
      · have kept : query ∉ reopened := by
          rw [same]
          exact invariant.apart place stored
        simp [same, closed, same ▸ kept]
      · have other : some place ≠ some query := fun equal => same (Option.some.inj equal).symm
        rw [if_neg same, invariant.isOpen_iff query later, stored]
        simp [other]
  · intro active
    rw [inactive] at active
    cases active

theorem Invariant.provides
    (invariant : origin.Invariant state number given? reopened package own)
    (provides : state.Provides number package place ready) :
    origin.Invariant ready number given? reopened { package with store? := some place } own :=
  ⟨invariant.toObserved.provides provides, invariant.toStoreInvariant.provides provides,
    invariant.complete⟩

/-- A linter that is made for a package reads the store of the package. -/
def provideLinter (state : PackageState) (number : Nat) (made : Linter) : PackageState :=
  { state with
    linters := state.linters ++ [made]
    packages := state.packages.modify number fun package =>
      { package with linter? := some state.linters.length } }

theorem Invariant.provideLinter
    (invariant : origin.Invariant state number given? reopened package own) {made : Linter}
    (stored : package.store? = some made.store) :
    origin.Invariant (state.provideLinter number made) number given? reopened
      { package with linter? := some state.linters.length } own := by
  refine ⟨⟨?_, invariant.stored, invariant.numbered, invariant.reports, invariant.storeless,
    invariant.inactive, invariant.grouped⟩, ⟨invariant.owns, invariant.given, invariant.earlier,
      invariant.opened, invariant.grown, invariant.lasting, invariant.isOpen_iff,
        invariant.apart, ?_⟩, invariant.complete⟩
  · change (state.packages.modify _ _)[number]? = _
    rw [List.getElem?_modify_eq, invariant.there]
    rfl
  · rintro linter ⟨⟩
    exact ⟨made, List.getElem?_concat_length, stored⟩

/-- The stores of a package that have been reopened after a setting has been changed in one
more store. Its own stores are those from a number on. -/
def reopen (first : Nat) (used? : Option Nat) (place : Nat) (reopened : List Nat) : List Nat :=
  if place < first ∨ used? = some place then reopened else place :: reopened

theorem mem_reopen {used? : Option Nat} :
    query ∈ reopen first used? place reopened ↔
      query ∈ reopened ∨ query = place ∧ first ≤ place ∧ used? ≠ some place := by
  rw [reopen]
  split
  · rename_i elsewhere
    constructor
    · exact .inl
    · rintro (before | ⟨-, later, unused⟩)
      · exact before
      · rcases elsewhere with earlier | used
        · exact absurd earlier (Nat.not_lt_of_le later)
        · exact absurd used unused
  · rename_i reopens
    rcases not_or.mp reopens with ⟨later, unused⟩
    simp [List.mem_cons, or_comm, Nat.le_of_not_lt later, unused]

theorem Invariant.use {store : Store}
    (invariant : origin.Invariant state number given? reopened package own)
    (used : state.exchange.store? place = some store) (archive : Archive) :
    origin.Invariant
      { state with
        exchange :=
          { state.exchange.putStore place { store with isOpen := true } with archive } }
      number given? (reopen origin.exchange.stores.length package.store? place reopened) package
      own := by
  have kept : (state.exchange.putStore place { store with isOpen := true }).ReportsFrom _ _ own :=
    invariant.reports.keep used rfl
  have isOpen_iff := Exchange.isOpen_putStore_iff used { store with isOpen := true }
  refine ⟨⟨invariant.there, ?_, invariant.numbered, ⟨kept.reporting, kept.registered⟩,
    invariant.storeless, invariant.inactive, invariant.grouped⟩, ⟨invariant.owns,
      invariant.given, invariant.earlier, invariant.opened, ?_, ?_, ?_, ?_, invariant.reads⟩,
        invariant.complete⟩
  · intro query stored
    rcases invariant.stored query stored with ⟨other, there⟩
    by_cases same : query = place
    · exact ⟨_, (Exchange.store?_putStore used _ _).trans (if_pos same)⟩
    · exact ⟨other, (Exchange.store?_putStore used _ _).trans ((if_neg same).trans there)⟩
  · exact Nat.le_trans invariant.grown (Nat.le_of_eq List.length_set.symm)
  · intro query isOpen
    apply (isOpen_iff query).mpr
    split
    · rfl
    · exact invariant.lasting query isOpen
  · intro query later
    apply (isOpen_iff query).trans
    rw [mem_reopen]
    by_cases same : query = place
    · rw [if_pos same, ← same]
      by_cases stored : package.store? = some query
      · simp [stored]
      · simp [stored, later]
    · rw [if_neg same, invariant.isOpen_iff query later]
      simp [same]
  · intro query stored again
    rcases mem_reopen.mp again with before | ⟨rfl, -, unused⟩
    · exact invariant.apart query stored before
    · exact unused stored

/-- The stores of some earlier state, as they are now. -/
def asOf (origin state : PackageState) : PackageState :=
  { origin with
    exchange :=
      { state.exchange with
        stores := state.exchange.stores.take origin.exchange.stores.length } }

theorem isOpen_asOf_iff (origin state : PackageState) (place : Nat) :
    (origin.asOf state).exchange.IsOpen place ↔
      place < origin.exchange.stores.length ∧ state.exchange.IsOpen place := by
  simp only [Exchange.IsOpen, Exchange.store?, asOf, List.getElem?_take]
  split
  · rename_i earlier
    exact (and_iff_right earlier).symm
  · rename_i later
    constructor
    · rintro ⟨store, there, -⟩
      cases there
    · intro both
      exact absurd both.1 later

/-- Whether the earlier stores stay open can be asked at any time of the life. -/
theorem Invariant.asOf (invariant : origin.Invariant state number given? reopened package own) :
    (origin.asOf state).Invariant state number given? reopened package own := by
  have length : (origin.asOf state).exchange.stores.length = origin.exchange.stores.length :=
    List.length_take_of_le invariant.grown
  refine ⟨invariant.toObserved, ⟨invariant.owns, invariant.given, ?_, ?_, ?_, ?_, ?_,
    invariant.apart, invariant.reads⟩, invariant.complete⟩
  · rw [length]
    exact invariant.earlier
  · rw [length]
    exact invariant.opened
  · rw [length]
    exact invariant.grown
  · intro place isOpen
    exact ((isOpen_asOf_iff origin state place).mp isOpen).2
  · rw [length]
    exact invariant.isOpen_iff

end PackageState

namespace Host

variable {origin : PackageState} {host after : Host} {number : Nat} {given? : Option Nat}
  {reopened : List Nat} {package : Package} {own : List (Setting × Callback)}

/-- A package begins its life when it is opened on a host, with a store that there is or
without one. The reporters there are so far have been made before. -/
theorem invariant_opened {directory? : Option String} {project? : Option Nat}
    (there : host.packages[number]? =
      some ⟨given?, given?.isNone, directory?, project?, none, none⟩)
    (stored : ∀ place, given? = some place → ∃ store, host.exchange.store? place = some store)
    (fresh : ∀ place store, host.exchange.store? place = some store →
      ∀ registration ∈ store.registrations, registration.2.isFrom host.reporters = false) :
    host.packageState.Invariant host.packageState number given? []
      ⟨given?, given?.isNone, directory?, project?, none, none⟩ [] := by
  have earlier : ∀ place, given? = some place → place < host.exchange.stores.length := by
    intro place given
    rcases stored place given with ⟨store, there⟩
    exact (List.getElem?_eq_some_iff.mp there).1
  refine ⟨observed_of_inactive there rfl stored fresh,
    ⟨rfl, fun _ => id, earlier, ?_, Nat.le_refl _, fun _ => id, ?_, ?_, nofun⟩, nofun⟩
  · intro ungiven place given
    cases ungiven.symm.trans given
  · intro place later
    constructor
    · intro isOpen
      exact absurd later (Nat.not_le_of_lt isOpen.lt_length)
    · rintro (given | again)
      · exact absurd later (Nat.not_le_of_lt (earlier place given))
      · exact absurd again List.not_mem_nil
  · exact fun _ _ => List.not_mem_nil

/-! ## Activating and deactivating -/

theorem invariant_activate
    (invariant : origin.Invariant host.packageState number given? reopened package own)
    (ran : host.perform (activate number) = (.ok ⟨⟩, after)) :
    ∃ active reporters,
      origin.Invariant after.packageState number given? reopened active reporters ∧
      active.subscriptions?.isSome = true ∧ active.linter? = package.linter? ∧
      after.linters = host.linters := by
  cases subscribed : package.subscriptions? with
  | some group =>
      have isActive : package.subscriptions?.isSome = true := by rw [subscribed]; rfl
      cases ran.symm.trans (perform_activate_of_active invariant.there isActive)
      exact ⟨package, own, invariant, isActive, rfl, rfl⟩
  | none =>
      rcases activate_cases invariant.toObserved subscribed with
        ⟨fault, left, failed, -⟩ | ⟨place, ready, provides, ended⟩
      · cases ran.symm.trans failed
      · rcases ended with ⟨store, left, failed, -⟩ |
          ⟨result, left, reporters, done, observed, listed, reported⟩
        · cases ran.symm.trans failed
        · cases ran.symm.trans done
          have started : origin.StoreInvariant (host.packageState.start number) given? reopened
              { package with subscriptions? := some host.exchange.groups.length } := by
            apply PackageState.StoreInvariant.grow (invariant.toStoreInvariant.subscribes _)
            · exact Nat.le_refl _
            · exact fun _ isOpen => isOpen
            · exact fun _ isOpen => .inl isOpen
            · exact fun _ _ there => there
          have kept := (started.provides provides).reported rfl reported
          exact ⟨_, reporters, ⟨observed, kept, fun _ => listed⟩, rfl, rfl,
            reported.linters.trans provides.linters⟩

theorem packageState_removeTree (path : String) (host : Host) :
    (removeTree path host).packageState = host.packageState := by
  rw [removeTree]
  split <;> rfl

/-- A store that is closed is not open any more, and no other store is touched. -/
theorem closeStore_of_some {place : Nat} {store : Store}
    (there : host.exchange.store? place = some store) :
    ∃ answer left archive, host.perform (closeStore place) = (.ok answer, left) ∧
      left.packageState = { host.packageState with
        exchange :=
          { host.exchange.putStore place { store with isOpen := false, temporary := false } with
            archive } } := by
  rw [closeStore, perform_bind_of_ok (perform_get host), there]
  dsimp only
  rw [perform_bind_of_ok (perform_set _ _)]
  by_cases temporary : store.temporary = true
  · rw [if_pos temporary]
    exact ⟨_, _, _, rfl, packageState_removeTree _ _⟩
  · rw [if_neg temporary]
    exact ⟨_, _, _, rfl, rfl⟩

/-- The last part of a deactivation: a package closes a store of its own. -/
def leaveStore (number : Nat) (package : Package) : Action Unit :=
  match package.ownsStore, package.store? with
  | true, some store => do
      let _ ← closeStore store
      updatePackage number fun package => { package with store? := none, linter? := none }
  | _, _ => pure ()

theorem leaveStore_of_owns {place : Nat} {store : Store} (owns : package.ownsStore = true)
    (stored : package.store? = some place) (used : host.exchange.store? place = some store) :
    ∃ left archive, host.perform (leaveStore number package) = (.ok ⟨⟩, left) ∧
      left.packageState = host.packageState.close number place store archive := by
  rcases closeStore_of_some used with ⟨answer, closed, archive, ran, state⟩
  rw [leaveStore, owns, stored]
  dsimp only
  rw [perform_bind_of_ok ran, updatePackage, perform_modify]
  refine ⟨_, archive, rfl, ?_⟩
  exact congrArg
    (fun state : PackageState =>
      { state with
        packages := state.packages.modify number fun package =>
          { package with store? := none, linter? := none } })
    state

theorem perform_deactivate_of_inactive (there : host.packages[number]? = some package)
    (inactive : package.subscriptions? = none) :
    host.perform (deactivate number) = host.perform (leaveStore number package) := by
  rw [deactivate, perform_bind_of_ok (perform_packageAt there), inactive]
  rfl

theorem perform_deactivate_of_active {group : Nat} {exchange : Exchange}
    (there : host.packages[number]? = some package)
    (active : package.subscriptions? = some group)
    (undone : host.exchange.disposeGroup group = (true, exchange)) :
    host.perform (deactivate number) =
      perform
        { host with
          exchange
          packages := host.packages.modify number fun package =>
            { package with subscriptions? := none } }
        (leaveStore number package) := by
  rw [deactivate, perform_bind_of_ok (perform_packageAt there), active]
  dsimp only
  have disposed : host.perform (withExchange (·.disposeGroup group)) = _ :=
    perform_withExchange_of_found undone
  rw [perform_bind_of_ok disposed, updatePackage, perform_bind_of_ok (perform_modify _ _)]
  rfl

/-- What is left of a package after it has been deactivated: it is not active, and a store of
its own is closed. -/
structure Deactivated (origin : PackageState) (host left : Host) (number : Nat)
    (given? : Option Nat) (reopened : List Nat) (package rest : Package) : Prop where
  invariant : origin.Invariant left.packageState number given? reopened rest []
  inactive : rest.subscriptions? = none
  linter? : rest.linter? = if given?.isNone then none else package.linter?
  linters : left.linters = host.linters
  closed : given? = none → rest.store? = none ∧
    ∀ place, package.store? = some place → ¬ left.exchange.IsOpen place

theorem invariant_leaveStore
    (invariant : origin.Invariant host.packageState number given? reopened package [])
    (inactive : package.subscriptions? = none) :
    ∃ left rest, host.perform (leaveStore number package) = (.ok ⟨⟩, left) ∧
      Deactivated origin host left number given? reopened package rest := by
  cases given? with
  | some place =>
      rw [leaveStore, invariant.owns]
      exact ⟨host, package, rfl, invariant, inactive, rfl, rfl, nofun⟩
  | none =>
      cases stored : package.store? with
      | none =>
          have noLinter : package.linter? = none := by
            cases provided : package.linter? with
            | none => rfl
            | some linter =>
                rcases invariant.reads linter provided with ⟨made, -, reads⟩
                cases stored.symm.trans reads
          rw [leaveStore, invariant.owns, stored]
          refine ⟨host, package, rfl, invariant, inactive, noLinter, rfl, fun _ => ⟨stored, ?_⟩⟩
          intro place used
          cases stored.symm.trans used
      | some place =>
          rcases invariant.stored place stored with ⟨store, used⟩
          rcases leaveStore_of_owns invariant.owns stored used with ⟨left, archive, ran, state⟩
          have deactivated := invariant.close inactive rfl stored used archive
          rw [← state] at deactivated
          refine ⟨left, _, ran, deactivated, inactive, rfl, congrArg PackageState.linters state, ?_⟩
          refine fun _ => ⟨rfl, ?_⟩
          intro query same isOpen
          cases stored.symm.trans same
          have exchange : left.exchange = _ := congrArg PackageState.exchange state
          rw [exchange] at isOpen
          have stays := (Exchange.isOpen_putStore_iff used _ place).mp isOpen
          rw [if_pos rfl] at stays
          cases stays

/-- A package can always be deactivated. -/
theorem invariant_deactivate
    (invariant : origin.Invariant host.packageState number given? reopened package own) :
    ∃ left rest, host.perform (deactivate number) = (.ok ⟨⟩, left) ∧
      Deactivated origin host left number given? reopened package rest := by
  cases subscribed : package.subscriptions? with
  | none =>
      cases invariant.inactive subscribed
      rw [perform_deactivate_of_inactive invariant.there subscribed]
      exact invariant_leaveStore invariant subscribed
  | some group =>
      rcases invariant.dispose subscribed with ⟨exchange, undone, disposed⟩
      rw [perform_deactivate_of_active invariant.there subscribed undone]
      let unsubscribed : Host :=
        { host with
          exchange
          packages := host.packages.modify number fun package =>
            { package with subscriptions? := none } }
      have invariant :
        origin.Invariant unsubscribed.packageState number given? reopened _ [] := disposed
      rcases invariant_leaveStore invariant rfl with ⟨left, rest, ran, deactivated⟩
      exact ⟨left, rest, ran, deactivated.invariant, deactivated.inactive, deactivated.linter?,
        deactivated.linters, deactivated.closed⟩

/-! ## Stores, linters and changes -/

theorem invariant_packageStore {place : Nat}
    (invariant : origin.Invariant host.packageState number given? reopened package own)
    (ran : host.perform (packageStore number) = (.ok place, after)) :
    origin.Invariant after.packageState number given? reopened
        { package with store? := some place } own ∧
      after.linters = host.linters := by
  rcases packageStore_cases invariant.there with
    ⟨fault, left, failed, -⟩ | ⟨found, left, done, provides⟩
  · cases ran.symm.trans failed
  · cases ran.symm.trans done
    exact ⟨invariant.provides provides, provides.linters⟩

/-- A package provides the linter that it has, or else a new one. -/
theorem invariant_provideLinter {linter : Nat}
    (invariant : origin.Invariant host.packageState number given? reopened package own)
    (ran : host.perform (provideLinter number) = (.ok linter, after)) :
    ∃ provider, origin.Invariant after.packageState number given? reopened provider own ∧
      provider.linter? = some linter ∧ provider.subscriptions? = package.subscriptions? ∧
      (package.linter? = some linter ∧ after.linters = host.linters ∨
        package.linter? = none ∧ linter = host.linters.length ∧
          after.linters.length = host.linters.length + 1) := by
  rw [provideLinter, perform_bind_of_ok (perform_packageAt invariant.there)] at ran
  cases provided : package.linter? with
  | some cached =>
      rw [provided] at ran
      cases ran
      exact ⟨package, invariant, provided, rfl, .inl ⟨rfl, rfl⟩⟩
  | none =>
      rw [provided] at ran
      dsimp only at ran
      rcases packageStore_cases invariant.there with
        ⟨fault, left, failed, -⟩ | ⟨place, ready, done, provides⟩
      · rw [perform_bind_of_error failed] at ran
        cases ran
      · rw [perform_bind_of_ok done, perform_bind_of_ok (perform_modifyGet _ _), updatePackage,
          perform_bind_of_ok (perform_modify _ _)] at ran
        cases ran
        have made : origin.Invariant
            (ready.packageState.provideLinter number ⟨place, package.project?, none⟩) number
            given? reopened _ own := (invariant.provides provides).provideLinter rfl
        have linters : ready.linters = host.linters := provides.linters
        refine ⟨_, made, rfl, rfl, .inr ⟨rfl, congrArg List.length linters, ?_⟩⟩
        rw [← linters]
        exact List.length_append

/-- A setting can be changed if its store can be used. All observers of the setting are to
be told the new value, which is written to the log. -/
theorem invariant_change {place : Nat} {setting : Setting} {value? : Option String}
    {notice : Notice}
    (invariant : origin.Invariant host.packageState number given? reopened package own)
    (ran : host.perform (change place setting value?) = (.ok notice, after)) :
    ∃ store, host.exchange.store? place = some store ∧
      notice = ⟨setting, store.get after.exchange.archive setting, store.observers setting⟩ ∧
      after.log = host.log ++
        [.debug (s!"Setting {setting.key} changed to " ++ Text.quoted notice.value)] ∧
      origin.Invariant after.packageState number given?
        (PackageState.reopen origin.exchange.stores.length package.store? place reopened) package
        own ∧
      after.linters = host.linters := by
  rcases useStore_cases host place with ⟨store, used, ready⟩ | ⟨failed, -⟩
  · have changed := perform_change_of_useStore ready setting value?
    cases ran.symm.trans changed
    exact ⟨store, used, rfl, rfl, invariant.use used _, rfl⟩
  · rw [change, perform_bind_of_error failed] at ran
    cases ran

end Host

end LintBridge
