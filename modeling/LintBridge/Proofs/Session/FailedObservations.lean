import LintBridge.Proofs.Host.Package
import LintBridge.Proofs.Session.Observers
import LintBridge.Proofs.Session.Reentry
import LintBridge.Proofs.Settings.Unclaimed

/-!
# Observations that fail

A callback that is to observe a setting is registered before it is called for the first
time, and its subscription is made after that call. If the call fails there is no
subscription, but the registration stays. Callbacks may do anything with settings here,
also fail, and also observe and undo in turn.
-/

namespace LintBridge

/-- A step that observes settings, undoes this, or uses settings. What it makes callbacks do
are such steps as well. -/
inductive Step.OnSettings : Step → Prop where
  | observe (store key callback handle : String) {steps : List Step} (actAt : Nat)
      (failAt? : Option Nat) (acts : ∀ step ∈ steps, OnSettings step) :
      OnSettings (.observe store key callback handle steps actAt failAt?)
  | dispose (name : String) : OnSettings (.dispose name)
  | openGroup (name : String) : OnSettings (.openGroup name)
  | addToGroup (group subscription : String) : OnSettings (.addToGroup group subscription)
  | set (store key : String) (value : Value) : OnSettings (.set store key value)
  | unset (store key : String) : OnSettings (.unset store key)
  | get (store key : String) : OnSettings (.get store key)
  | close (store : String) : OnSettings (.close store)

namespace Session

variable {α : Type} {session : Session} {name : String} {number : Nat} {store : Store}
  {setting : Setting}

/-- All that callbacks do in a session is done with settings. -/
def ActsOnSettings (session : Session) : Prop :=
  ∀ act ∈ session.acts, ∀ step ∈ act.2, step.OnSettings

/-- What has been taken down stays, and so do registrations without a subscription, of which
there are no more unless something has failed. -/
structure GoesOn (session : Session) (isOk : Bool) (after : Session) : Prop where
  seen : session.seen <+: after.seen
  exchange : session.host.exchange.Accumulates isOk after.host.exchange

theorem goesOn_composes : Composes GoesOn := by
  refine ⟨fun session isOk => ⟨List.prefix_rfl, .refl _ _⟩, ?_⟩
  intro first middle last isOk earlier later
  exact ⟨earlier.seen.trans later.seen, earlier.exchange.trans later.exchange⟩

/-! ## Work that registers nothing -/

theorem leads_onHost {action : Action α}
    (keeps : ∀ host : Host, host.exchange.Accumulates (host.perform action).1.isOk
      (host.perform action).2.exchange) :
    Leads ActsOnSettings GoesOn (onHost action) :=
  fun session acts => ⟨acts, List.prefix_rfl, keeps session.host⟩

theorem leads_lookup (name : String) (select : Object → Option α) :
    Leads ActsOnSettings GoesOn (lookup name select) := by
  refine goesOn_composes.leads_bind (fun session acts => ⟨acts, goesOn_composes.refl _ _⟩) ?_
  intro session
  split
  · exact goesOn_composes.leads_pure _
  · exact goesOn_composes.leads_throw _

theorem leads_bind (name : String) (object : Object) :
    Leads ActsOnSettings GoesOn (bind name object) :=
  fun _ acts => ⟨acts, List.prefix_rfl, .refl _ _⟩

theorem leads_undo {act : Exchange → Bool × Exchange}
    (keeps : ∀ exchange : Exchange, exchange.Accumulates (act exchange).1 (act exchange).2) :
    Leads ActsOnSettings GoesOn (undo act) := by
  refine goesOn_composes.leads_bind (leads_onHost fun host => ?_) fun _ =>
    goesOn_composes.leads_pure _
  have kept := keeps host.exchange
  rw [Host.withExchange, Host.perform_bind_of_ok (Host.perform_modifyGet _ _)]
  generalize act host.exchange = undone at kept ⊢
  obtain ⟨found, exchange⟩ := undone
  cases found with
  | false => exact kept
  | true => exact kept

theorem accumulates_useStore (host : Host) (number : Nat) :
    host.exchange.Accumulates (host.perform (Host.useStore number)).1.isOk
      (host.perform (Host.useStore number)).2.exchange := by
  rcases Host.useStore_cases host number with ⟨store, there, used⟩ | ⟨failed, -⟩
  · rw [used]
    exact .of_unclaimed_eq fun _ _ _ => Exchange.unclaimed_putStore there rfl
  · rw [failed]
    exact .refl _ _

theorem accumulates_valueOf (host : Host) (number : Nat) (setting : Setting) :
    host.exchange.Accumulates (host.perform (Host.valueOf number setting)).1.isOk
      (host.perform (Host.valueOf number setting)).2.exchange := by
  have used := accumulates_useStore host number
  rw [Host.valueOf, Host.perform_bind]
  generalize host.perform (Host.useStore number) = moment at used
  obtain ⟨result, after⟩ := moment
  cases result with
  | error fault => exact used
  | ok store => exact used

theorem accumulates_closeStore (host : Host) (number : Nat) :
    host.exchange.Accumulates (host.perform (Host.closeStore number)).1.isOk
      (host.perform (Host.closeStore number)).2.exchange := by
  rw [Host.closeStore, Host.perform_bind_of_ok (Host.perform_get host)]
  cases there : host.exchange.store? number with
  | none => exact .refl _ _
  | some store =>
      have closed : host.exchange.Accumulates true
          (host.exchange.putStore number { store with isOpen := false, temporary := false }) :=
        .of_unclaimed_eq fun _ _ _ => Exchange.unclaimed_putStore there rfl
      dsimp only
      split
      · rw [Host.removeTree]
        split
        · exact closed
        · exact closed
      · exact closed

/-! ## What steps keep -/

theorem ActsOnSettings.behaving (acts : session.ActsOnSettings) (callback : String)
    {steps : List Step} (actAt : Nat) (failAt? : Option Nat)
    (more : ∀ step ∈ steps, step.OnSettings) :
    (session.behaving callback steps actAt failAt?).ActsOnSettings := by
  rcases behaving_eq_or callback steps actAt failAt? session with ⟨behaviors, same, known⟩
  rw [same]
  intro act there
  rcases List.mem_map.mp there with ⟨behavior, member, rfl⟩
  rcases known behavior member with before | new
  · exact acts _ (List.mem_map.mpr ⟨behavior, before, rfl⟩)
  · rw [new]
    exact more

theorem goesOn_behaving (session : Session) (callback : String) (steps : List Step) (actAt : Nat)
    (failAt? : Option Nat) (isOk : Bool) :
    session.GoesOn isOk (session.behaving callback steps actAt failAt?) := by
  rcases behaving_eq_or callback steps actAt failAt? session with ⟨behaviors, same, -⟩
  rw [same]
  exact ⟨List.prefix_rfl, .refl _ _⟩

section Calls

variable {bound : Nat}
  (steps : ∀ step : Step, step.OnSettings → Leads ActsOnSettings GoesOn (perform bound step))

include steps

theorem goesOn_call (acts : session.ActsOnSettings) (name value : String) :
    let ended := session.attempt (call (perform bound) value (.named name))
    ended.2.ActsOnSettings ∧ (session.counted name value).GoesOn ended.1.isOk ended.2 := by
  refine goesOn_composes.call_named ?_ fun act there _ step member => steps step ?_
  · rw [ActsOnSettings, acts_counted]
    exact acts
  · exact acts act there step member

theorem leads_call (value : String) (callback : Callback) :
    Leads ActsOnSettings GoesOn (call (perform bound) value callback) := by
  cases callback with
  | reporter number setting => exact leads_onHost fun host => .refl _ _
  | named name =>
      intro session acts
      rcases goesOn_call steps acts name value with ⟨kept, called⟩
      exact ⟨kept, (List.prefix_append _ _).trans called.seen, called.exchange⟩

theorem leads_changes {step : Step} (changes : step.Changes name) :
    Leads ActsOnSettings GoesOn (perform (bound + 1) step) := by
  refine goesOn_composes.leads_changes changes ?_
  intro session number store setting value? acts named there known
  refine ⟨⟨acts, List.prefix_rfl, ?_⟩, fun value callback _ => leads_call steps value callback⟩
  exact .of_unclaimed_eq fun _ _ _ => Exchange.unclaimed_putStore there rfl

/-- A registration gets its subscription if the first call ends well, and stays without one
if not. -/
theorem observe_known {key : String} (callback handle : String) {does : List Step} (actAt : Nat)
    (failAt? : Option Nat) (more : ∀ step ∈ does, step.OnSettings) (acts : session.ActsOnSettings)
    (named : session.objects.lookup name = some (.store number))
    (there : session.host.exchange.store? number = some store)
    (known : Setting.ofKey? key = some setting) :
    let ended := session.attempt
      (perform (bound + 1) (.observe name key callback handle does actAt failAt?))
    ended.2.ActsOnSettings ∧ session.seen <+: ended.2.seen ∧
      ∀ place query caller,
        if ended.1.isOk then
          ended.2.host.exchange.unclaimed place query caller =
            session.host.exchange.unclaimed place query caller
        else
          (session.host.exchange.unclaimed place query caller +
              if number = place ∧ setting = query ∧ .named callback = caller then 1 else 0) ≤
            ended.2.host.exchange.unclaimed place query caller := by
  intro ended
  let begun := session.behaving callback does actAt failAt?
  have begins : begun.ActsOnSettings := acts.behaving callback actAt failAt? more
  have same : begun.seen = session.seen ∧ begun.host = session.host := by
    rcases behaving_eq_or callback does actAt failAt? session with ⟨behaviors, same, -⟩
    rw [show begun = _ from same]
    exact ⟨rfl, rfl⟩
  have registered : ∀ isOpen place query caller,
      (begun.registering number { store with isOpen } setting callback).host.exchange.unclaimed
          place query caller =
        session.host.exchange.unclaimed place query caller +
          if number = place ∧ setting = query ∧ .named callback = caller then 1 else 0 := by
    intro isOpen place query caller
    rw [← same.2] at there ⊢
    exact Exchange.unclaimed_putStore_of_registered there rfl place query caller
  rcases attempt_observe_cases callback handle does actAt failAt? named there known bound with
    ⟨-, failed⟩ | ⟨result, after, called, ran⟩
  · rw [show ended = _ from failed]
    refine ⟨begins, by rw [← same.1]; exact List.prefix_rfl, fun place query caller => ?_⟩
    exact Int.le_of_eq (registered store.isOpen place query caller).symm
  · have registers : (begun.registering number { store with isOpen := true } setting
        callback).ActsOnSettings := begins
    have told := goesOn_call steps registers callback
      (store.get session.host.exchange.archive setting)
    rw [called] at told
    rcases told with ⟨kept, goesOn⟩
    have seen : session.seen <+: after.seen := by
      rw [← same.1]
      exact (List.prefix_append _ _).trans goesOn.seen
    cases result with
    | error fault =>
        rw [show ended = _ from ran]
        refine ⟨kept, seen, fun place query caller => ?_⟩
        have more := (goesOn.exchange place query caller).1
        have one := registered true place query caller
        exact Int.le_trans (Int.le_of_eq one.symm) more
    | ok _ =>
        rw [show ended = _ from ran]
        refine ⟨kept, seen, fun place query caller => ?_⟩
        have stays := (goesOn.exchange place query caller).2 rfl
        have one := registered true place query caller
        have claims := Exchange.unclaimed_subscribe after.host.exchange number setting
          (.named callback) place query caller
        change Exchange.unclaimed (Exchange.subscribe _ _ _ _).2 _ _ _ = _
        change after.host.exchange.unclaimed place query caller =
          (begun.registering number _ setting callback).host.exchange.unclaimed _ _ _ at stays
        omega

theorem leads_observe (name key callback handle : String) {does : List Step} (actAt : Nat)
    (failAt? : Option Nat) (more : ∀ step ∈ does, step.OnSettings) :
    Leads ActsOnSettings GoesOn
      (perform (bound + 1) (.observe name key callback handle does actAt failAt?)) := by
  intro session acts
  by_cases hasStore : session.HasStore name
  · rcases hasStore with ⟨number, named⟩
    cases known : Setting.ofKey? key with
    | none =>
        rw [attempt_observe_of_ofKey?_eq_none callback handle does actAt failAt? named known]
        exact ⟨acts.behaving callback actAt failAt? more, goesOn_behaving ..⟩
    | some setting =>
        cases there : session.host.exchange.store? number with
        | none =>
            rw [attempt_observe_of_store?_eq_none callback handle does actAt failAt? named known
              there]
            exact ⟨acts.behaving callback actAt failAt? more, goesOn_behaving ..⟩
        | some store =>
            rcases observe_known steps callback handle actAt failAt? more acts named there known
              with ⟨kept, seen, registered⟩
            refine ⟨kept, seen, fun place query caller => ?_⟩
            have one := registered place query caller
            split at one
            · rename_i isOk
              exact ⟨Int.le_of_eq one.symm, fun _ => one⟩
            · rename_i failed
              refine ⟨?_, fun isOk => absurd isOk failed⟩
              split at one <;> omega
  · have failed : session.attempt
        (perform (bound + 1) (.observe name key callback handle does actAt failAt?)) = _ :=
      attempt_storeNumber_bind_of_not_hasStore hasStore _
    rw [failed]
    exact ⟨acts, goesOn_composes.refl session false⟩

/-- Whoever is called about a change is called as often as it is registered, and perhaps more
often if changes are made in between. -/
theorem countP_seen_of_forM (callback value : String) {callbacks : List Callback}
    {after : Session} (acts : session.ActsOnSettings)
    (called : session.attempt (callbacks.forM (call (perform bound) value)) = (.ok ⟨⟩, after)) :
    session.seen.countP (·.1 = callback) + callbacks.count (.named callback) ≤
      after.seen.countP (·.1 = callback) := by
  rw [List.forM_eq_forM] at called
  induction callbacks generalizing session with
  | nil =>
      cases called
      exact Nat.le_refl _
  | cons first callbacks ih =>
      rw [List.forM_cons, attempt_bind] at called
      have kept := leads_call steps value first session acts
      rcases ran : session.attempt (call (perform bound) value first) with ⟨result, middle⟩
      rw [ran] at called kept
      cases result with
      | error fault => cases called
      | ok _ =>
          have later : middle.seen.countP (·.1 = callback) + callbacks.count (.named callback) ≤
              after.seen.countP (·.1 = callback) := ih kept.1 called
          have here : session.seen.countP (·.1 = callback) +
              (if first == .named callback then 1 else 0) ≤
                middle.seen.countP (·.1 = callback) := by
            cases first with
            | reporter number setting => exact kept.2.seen.sublist.countP_le
            | named name =>
                have goesOn := (goesOn_call steps acts name value).2
                rw [ran] at goesOn
                have counted : (session.seen ++ [(name, value)]).countP (·.1 = callback) ≤
                    middle.seen.countP (·.1 = callback) := goesOn.seen.sublist.countP_le
                rw [List.countP_append, List.countP_singleton] at counted
                simpa using counted
          rw [List.count_cons]
          omega

end Calls

/-- Whatever is done with settings, what is to be kept is kept. -/
theorem leads_perform (bound : Nat) :
    ∀ step : Step, step.OnSettings → Leads ActsOnSettings GoesOn (perform bound step) := by
  induction bound with
  | zero => exact fun step _ => goesOn_composes.leads_pure _
  | succ bound steps =>
      intro step onSettings
      cases onSettings with
      | observe store key callback handle actAt failAt? acts =>
          exact leads_observe steps store key callback handle actAt failAt? acts
      | set store key value => exact leads_changes steps (.set key value)
      | unset store key => exact leads_changes steps (.unset key)
      | dispose name =>
          refine goesOn_composes.leads_bind (leads_lookup name some) fun object => ?_
          cases object with
          | subscription number => exact leads_undo (Exchange.accumulates_dispose · number)
          | group number => exact leads_undo (Exchange.accumulates_disposeGroup · number)
          | _ => exact goesOn_composes.leads_throw _
      | openGroup name =>
          refine goesOn_composes.leads_bind (leads_onHost fun host => .refl _ _) fun number => ?_
          exact goesOn_composes.leads_bind (leads_bind name _) fun _ => goesOn_composes.leads_pure _
      | addToGroup group subscription =>
          refine goesOn_composes.leads_bind (leads_lookup group _) fun number => ?_
          refine goesOn_composes.leads_bind (leads_lookup subscription _) fun member => ?_
          exact leads_undo (Exchange.accumulates_addToGroup · number member)
      | get store key =>
          refine goesOn_composes.leads_bind (leads_lookup store _) fun number => ?_
          refine goesOn_composes.leads_bind (leads_onHost fun host => ?_) fun value =>
            goesOn_composes.leads_pure _
          rw [Host.perform_bind]
          cases known : Setting.ofKey? key with
          | none =>
              rw [Host.perform_settingOf_of_unknown known]
              exact .refl _ _
          | some setting =>
              rw [Host.perform_settingOf_of_known known]
              exact accumulates_valueOf host number setting
      | close store =>
          refine goesOn_composes.leads_bind (leads_lookup store _) fun number => ?_
          exact goesOn_composes.leads_bind (leads_onHost (accumulates_closeStore · number))
            fun there => goesOn_composes.leads_pure _

/-! ## Runs -/

theorem ActsOnSettings.advance (acts : session.ActsOnSettings) (bound : Nat) {step : Step}
    (onSettings : step.OnSettings) :
    let moment := session.advance bound step
    moment.2.ActsOnSettings ∧
      session.host.exchange.Accumulates moment.1.result.isOk moment.2.host.exchange := by
  rcases leads_perform bound step onSettings session acts with ⟨kept, goesOn⟩
  exact ⟨kept, goesOn.exchange⟩

theorem ActsOnSettings.runFrom (acts : session.ActsOnSettings) (bound : Nat) {steps : List Step}
    (onSettings : ∀ step ∈ steps, step.OnSettings) :
    let after := (session.runFrom bound steps).2
    after.ActsOnSettings ∧ ∀ place setting callback,
      session.host.exchange.unclaimed place setting callback ≤
        after.host.exchange.unclaimed place setting callback := by
  induction steps generalizing session with
  | nil => exact ⟨acts, fun _ _ _ => Int.le_refl _⟩
  | cons step steps ih =>
      rcases List.forall_mem_cons.mp onSettings with ⟨first, others⟩
      rcases acts.advance bound first with ⟨kept, accumulates⟩
      rcases ih kept others with ⟨left, more⟩
      rw [runFrom_cons]
      exact ⟨left, fun place setting callback =>
        Int.le_trans (accumulates place setting callback).1 (more place setting callback)⟩

/-- A change calls every callback as often as it is registered. -/
theorem registrationCount_le_calls (acts : session.ActsOnSettings) (bound : Nat) {step : Step}
    (changes : step.Changes name) (named : session.objects.lookup name = some (.store number))
    (known : step.setting? = some setting)
    (succeeded : (session.advance (bound + 1) step).1.result.isOk) (callback : String) :
    session.host.exchange.registrationCount number setting (.named callback) ≤
      (session.advance (bound + 1) step).1.seen.countP (·.1 = callback) := by
  rcases attempt_of_changes changes session bound with
    ⟨fault, ran⟩ | ⟨number', store, setting', value?, named', there, known', ran⟩
  · rw [advance_of_attempt session ran] at succeeded
    cases succeeded
  cases named.symm.trans named'
  cases known.symm.trans known'
  let told := session.changed number { store with isOpen := true } setting value?
  let value := store.get told.host.exchange.archive setting
  rcases delivered : told.attempt (deliver (perform bound)
    ⟨setting, value, store.observers setting⟩) with ⟨result, after⟩
  cases result with
  | error fault =>
      have ended := ran.trans (attempt_bind_of_error delivered _)
      rw [advance_of_attempt session ended] at succeeded
      cases succeeded
  | ok _ =>
      have ended := ran.trans (attempt_bind_of_ok delivered _)
      rw [advance_of_attempt session ended]
      have toldActs : told.ActsOnSettings := acts
      have called := countP_seen_of_forM (leads_perform bound) callback value toldActs delivered
      rw [Exchange.registrationCount, there]
      rw [Store.count_observers] at called
      exact Nat.le_trans (Nat.le_add_left _ _) called

/-- A failed observation. A callback that is to observe a setting and fails when it is called
for the first time stays registered without a subscription: whatever is done with settings
afterwards, it is registered for the setting more often than it has subscriptions that
stand, and is called more often than that at every change. Only if there is no such setting
is nothing left behind. -/
theorem failed_observation_lasts (session : Session) (name key callback handle : String)
    (number : Nat) (store : Store) (bound : Nat) (does : List Step) (actAt : Nat)
    (failAt? : Option Nat) (named : session.objects.lookup name = some (.store number))
    (there : session.host.exchange.store? number = some store)
    (backed : session.host.exchange.Backed) (acts : session.ActsOnSettings)
    (more : ∀ step ∈ does, step.OnSettings)
    (failed : (session.advance (bound + 1)
      (.observe name key callback handle does actAt failAt?)).1.result.isOk = false) :
    let left := (session.advance (bound + 1)
      (.observe name key callback handle does actAt failAt?)).2
    (left.host.exchange = session.host.exchange ↔ Setting.ofKey? key = none) ∧
      ∀ setting, Setting.ofKey? key = some setting →
        ∀ later, (∀ step ∈ later, step.OnSettings) →
          let last := (left.runFrom (bound + 1) later).2
          let standing := last.host.exchange.subscriptions.count
            ⟨number, setting, .named callback, false⟩
          standing < last.host.exchange.registrationCount number setting (.named callback) ∧
            ∀ other change, last.objects.lookup other = some (.store number) →
              change.Changes other → change.setting? = some setting →
                (last.advance (bound + 1) change).1.result.isOk →
                  standing <
                    (last.advance (bound + 1) change).1.seen.countP (·.1 = callback) := by
  intro left
  have stays : ∀ setting, Setting.ofKey? key = some setting →
      session.host.exchange.unclaimed number setting (.named callback) + 1 ≤
        left.host.exchange.unclaimed number setting (.named callback) := by
    intro setting known
    have unclaimed := (observe_known (leads_perform bound) callback handle actAt failAt? more acts
      named there known).2.2 number setting (.named callback)
    split at unclaimed
    · rename_i isOk
      cases failed.symm.trans isOk
    · rwa [if_pos ⟨rfl, rfl, rfl⟩] at unclaimed
  refine ⟨⟨fun same => ?_, fun unknown => ?_⟩, fun setting known later onSettings => ?_⟩
  · cases known : Setting.ofKey? key with
    | none => rfl
    | some setting =>
        have grown := stays setting known
        rw [same] at grown
        omega
  · have ran := attempt_observe_of_ofKey?_eq_none callback handle does actAt failAt? named unknown
      bound
    have same : (session.behaving callback does actAt failAt?).host.exchange =
        session.host.exchange :=
      congrArg Host.exchange (host_behaving callback does actAt failAt? session)
    rw [show left = _ from congrArg Prod.snd (advance_of_attempt session ran)]
    exact same
  · intro last standing
    have leftActs := (acts.advance (bound + 1)
      (.observe name key callback handle actAt failAt? more)).1
    rcases leftActs.runFrom (bound + 1) onSettings with ⟨lastActs, grown⟩
    have enough := Exchange.backed_iff.mp backed number setting (.named callback)
    have one := stays setting known
    have kept : left.host.exchange.unclaimed number setting (.named callback) ≤
        last.host.exchange.unclaimed number setting (.named callback) := grown number setting _
    have fewer : standing <
        last.host.exchange.registrationCount number setting (.named callback) := by
      have leftOver : last.host.exchange.unclaimed number setting (.named callback) =
        last.host.exchange.registrationCount number setting (.named callback) - standing := rfl
      omega
    refine ⟨fewer, fun other change named changes same succeeded => ?_⟩
    exact Nat.lt_of_lt_of_le fewer
      (registrationCount_le_calls lastActs bound changes named same succeeded callback)

/-- A callback that fails when it is called for the first time is to observe a setting. -/
def failingObserver : Step :=
  .observe "s" "linter-pylint.workingDirectory" "f" "handle" [] 0 (some 1)

/-- Whatever is done with settings afterwards, the callback stays registered. -/
theorem failed_observation_lasts_first :
    withStore.objects.lookup "s" = some (.store 0) ∧
      withStore.host.exchange.store? 0 = some (.opened "/s/d" "/s/d" false) ∧
      withStore.host.exchange.Backed ∧ withStore.ActsOnSettings ∧
      (∀ step ∈ ([] : List Step), step.OnSettings) ∧
      (withStore.advance 1 failingObserver).1.result.isOk = false ∧
      Setting.ofKey? "linter-pylint.workingDirectory" = some .workingDirectory ∧
      ∀ later, (∀ step ∈ later, step.OnSettings) →
        let last := ((withStore.advance 1 failingObserver).2.runFrom 1 later).2
        last.host.exchange.subscriptions.count ⟨0, .workingDirectory, .named "f", false⟩ <
          last.host.exchange.registrationCount 0 .workingDirectory (.named "f") := by
  have named : withStore.objects.lookup "s" = some (.store 0) := by
    rw [withStore_objects]
    rfl
  have backed : withStore.host.exchange.Backed := by
    have none : withStore.host.exchange.subscriptions = [] := by rfl
    intro place setting callback
    rw [none]
    exact Nat.zero_le _
  have acts : withStore.ActsOnSettings := by
    have idle : withStore.acts = [] := by rfl
    rw [ActsOnSettings, idle]
    exact nofun
  have failed : (withStore.advance 1 failingObserver).1.result.isOk = false := by
    decide +kernel
  have known : Setting.ofKey? "linter-pylint.workingDirectory" = some .workingDirectory := by
    decide +kernel
  refine ⟨named, withStore_store?, backed, acts, nofun, failed, known, ?_⟩
  intro later onSettings
  exact ((failed_observation_lasts withStore "s" "linter-pylint.workingDirectory" "f" "handle" 0
    _ 0 [] 0 (some 1) named withStore_store? backed acts nofun failed).2 _ known later
      onSettings).1

/-- After the failure a callback is registered that was not, nobody has a subscription, and
the next change calls the callback. -/
theorem exists_call_without_subscription :
    let left := (withStore.advance 1 failingObserver).2
    (withStore.advance 1 failingObserver).1.result.isOk = false ∧
      (withStore.host.exchange.store? 0).map (·.observers .workingDirectory) = some [] ∧
      (left.host.exchange.store? 0).map (·.observers .workingDirectory) =
        some [.named "f"] ∧
      left.host.exchange.subscriptions.length = 0 ∧
      (left.advance 1 (.set "s" "linter-pylint.workingDirectory" (.text "x"))).1.seen =
        [("f", "x")] := by
  decide +kernel

end Session

end LintBridge
