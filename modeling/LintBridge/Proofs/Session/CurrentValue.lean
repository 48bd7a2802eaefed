import LintBridge.Proofs.Session.Observers
import LintBridge.Proofs.Session.Reentry

/-!
# Who hears the current value last

A callback that is called about a change may make changes itself. All observers are told
about these at once, in the middle of being told about the first change, which goes on with
the value that there was before. So an observer hears the current value last if nobody who
is called before it changes the setting.
-/

namespace LintBridge

/-- The value that a callback has been called with last. -/
def Callback.lastHeard? (callback : String) (seen : List (String × String)) : Option String :=
  ((seen.filter (·.1 = callback)).getLast?).map (·.2)

theorem Callback.lastHeard?_concat (callback name value : String) (seen : List (String × String)) :
    lastHeard? callback (seen ++ [(name, value)]) =
      if name = callback then some value else lastHeard? callback seen := by
  by_cases same : name = callback <;> simp [lastHeard?, same]

theorem Callback.lastHeard?_append (callback : String) (earlier later : List (String × String)) :
    lastHeard? callback (earlier ++ later) =
      (lastHeard? callback later).or (lastHeard? callback earlier) := by
  simp [lastHeard?, List.getLast?_append, Option.map_or]

theorem Callback.lastHeard?_flatMap_heard (callback value : String) {called : List Callback}
    (member : .named callback ∈ called) :
    lastHeard? callback (called.flatMap (·.heard value)) = some value := by
  induction called with
  | nil => cases member
  | cons first others ih =>
      rw [List.flatMap_cons, lastHeard?_append]
      by_cases later : .named callback ∈ others
      · rw [ih later]
        rfl
      · have unheard : lastHeard? callback (others.flatMap (·.heard value)) = none := by
          rw [lastHeard?, Option.map_eq_none_iff, List.getLast?_eq_none_iff,
            List.filter_eq_nil_iff]
          rintro call there same
          rcases List.mem_flatMap.mp there with ⟨other, listed, heard⟩
          cases other with
          | reporter index setting => cases heard
          | named name =>
              cases List.mem_singleton.mp heard
              cases of_decide_eq_true same
              exact later listed
        cases (List.mem_cons.mp member).resolve_right later
        rw [unheard, heard, Option.none_or]
        simp [lastHeard?]

/-- A callback changes a setting of a store when it is called, itself or through those who
observe a setting that it changes. -/
inductive Store.Touches (store : Store) (acts : List (String × List Step)) (setting : Setting) :
    String → Prop where
  | itself {callback : String} {steps : List Step} {step : Step}
      (act : (callback, steps) ∈ acts) (does : step ∈ steps)
      (changes : step.setting? = some setting) : Touches store acts setting callback
  | through {callback next : String} {steps : List Step} {step : Step} {other : Setting}
      (act : (callback, steps) ∈ acts) (does : step ∈ steps)
      (changes : step.setting? = some other) (observes : .named next ∈ store.observers other)
      (touches : Touches store acts setting next) : Touches store acts setting callback

theorem Store.get_assign_self (store : Store) (archive : Archive) (setting : Setting)
    (value? : Option String) :
    store.get (Host.assign archive store.location setting value?) setting =
      normalize setting (value?.getD setting.default) := by
  rw [get, Host.get?_assign, if_pos rfl]

theorem Store.get_assign_of_ne (store : Store) (archive : Archive) {setting other : Setting}
    (different : setting ≠ other) (value? : Option String) :
    store.get (Host.assign archive store.location other value?) setting =
      store.get archive setting := by
  rw [get, get, Host.get?_assign, if_neg different]

/-- Whether a step changes a setting in a store. -/
def Step.changes (store : String) : Step → Bool
  | .set name _ _ | .unset name _ => name = store
  | _ => false

theorem Step.changes_iff {store : String} {step : Step} :
    step.changes store = true ↔ step.Changes store := by
  constructor
  · intro changes
    cases step with
    | set name key value =>
        cases of_decide_eq_true changes
        exact .set key value
    | unset name key =>
        cases of_decide_eq_true changes
        exact .unset key
    | _ => cases changes
  · rintro (⟨key, value⟩ | ⟨key⟩) <;> exact decide_eq_true rfl

instance (store : String) (step : Step) : Decidable (step.Changes store) :=
  decidable_of_iff _ Step.changes_iff

/-- Whether an object is the store with a number. -/
def Object.isStore (number : Nat) : Object → Bool
  | .store other => other = number
  | _ => false

theorem Object.eq_of_isStore {object : Object} {number : Nat}
    (found : object.isStore number = true) : object = .store number := by
  cases object with
  | store other => rw [of_decide_eq_true found]
  | _ => cases found

namespace Session

variable {session : Session} {acts : List (String × List Step)} {name callback : String}
  {number : Nat} {store : Store} {setting : Setting}

/-- A name stands for a store in a session whose callbacks do what they do. -/
structure Uses (acts : List (String × List Step)) (name : String) (number : Nat) (store : Store)
    (session : Session) : Prop where
  acts : session.acts = acts
  named : session.objects.lookup name = some (.store number)
  there : session.host.exchange.store? number = some store

/-- The value of a setting stays as it is. -/
def KeepsValue (store : Store) (setting : Setting) (session : Session) (_ : Bool)
    (after : Session) : Prop :=
  store.get after.host.exchange.archive setting = store.get session.host.exchange.archive setting

/-- What a callback has heard last is the value that a setting has. -/
def HearsCurrent (store : Store) (setting : Setting) (callback : String) (session : Session) :
    Prop :=
  Callback.lastHeard? callback session.seen =
    some (store.get session.host.exchange.archive setting)

/-- If a callback has heard the current value last, then this is so again if all goes well. -/
def StaysCurrent (store : Store) (setting : Setting) (callback : String) (session : Session)
    (isOk : Bool) (after : Session) : Prop :=
  isOk = true → session.HearsCurrent store setting callback →
    after.HearsCurrent store setting callback

theorem keepsValue_composes (store : Store) (setting : Setting) :
    Composes (KeepsValue store setting) :=
  ⟨fun _ _ => rfl, fun first second => second.trans first⟩

theorem staysCurrent_composes (store : Store) (setting : Setting) (callback : String) :
    Composes (StaysCurrent store setting callback) :=
  ⟨fun _ _ _ current => current, fun first second isOk current => second isOk (first rfl current)⟩

theorem Uses.counted (uses : session.Uses acts name number store) (callback value : String) :
    (session.counted callback value).Uses acts name number store :=
  ⟨(acts_counted session callback value).trans uses.acts, uses.named, uses.there⟩

theorem Uses.changed (uses : session.Uses acts name number store) (setting : Setting)
    (value? : Option String) :
    (session.changed number store setting value?).Uses acts name number store := by
  refine ⟨uses.acts, uses.named, ?_⟩
  have inside := (List.getElem?_eq_some_iff.mp uses.there).1
  exact List.getElem?_set_self inside

theorem Uses.eq (uses : session.Uses acts name number store) {place : Nat} {found : Store}
    (named : session.objects.lookup name = some (.store place))
    (there : session.host.exchange.store? place = some found) : place = number ∧ found = store := by
  cases uses.named.symm.trans named
  cases uses.there.symm.trans there
  exact ⟨rfl, rfl⟩

section Changes

variable (isOpen : store.isOpen = true)
  (changes : ∀ act ∈ acts, ∀ step ∈ act.2, step.Changes name)

include changes

/-! ## Callbacks that leave a setting alone -/

include isOpen in
/-- A callback that does not touch a setting leaves its value as it is. -/
theorem leads_call_of_not_touches (bound : Nat) (value : String)
    (untouched : ¬ store.Touches acts setting callback) :
    Leads (Uses acts name number store) (KeepsValue store setting)
      (call (perform bound) value (.named callback)) := by
  induction bound generalizing callback value with
  | zero =>
      intro session uses
      refine (keepsValue_composes store setting).call_named (uses.counted callback value) ?_
      exact fun _ _ _ _ _ => (keepsValue_composes store setting).leads_pure _
  | succ bound ih =>
      intro session uses
      refine (keepsValue_composes store setting).call_named (uses.counted callback value) ?_
      intro act member own step does
      rw [uses.acts] at member
      have listed : (callback, act.2) ∈ acts := by
        rw [← own]
        exact member
      refine (keepsValue_composes store setting).leads_changes (changes act member step does) ?_
      intro session place found other value? uses named there known
      rcases uses.eq named there with ⟨rfl, rfl⟩
      have different : setting ≠ other := by
        rintro rfl
        exact untouched (.itself listed does known)
      have same : { found with isOpen := true } = found := by rw [← isOpen]
      rw [same]
      refine ⟨⟨uses.changed other value?, found.get_assign_of_ne _ different value?⟩, ?_⟩
      intro value observer observes
      cases observer with
      | reporter index setting =>
          exact fun session uses => ⟨⟨uses.acts, uses.named, uses.there⟩, rfl⟩
      | named next =>
          exact ih value fun touches => untouched (.through listed does known observes touches)

/-! ## Changes that are heard -/

section Heard

variable {bound : Nat}
  (steps : ∀ step : Step, step.Changes name →
    Leads (Uses acts name number store) (StaysCurrent store setting callback) (perform bound step))

include steps

/-- Calling a callback brings it the value, and what it does then leaves it with the current
one. -/
theorem staysCurrent_call (uses : session.Uses acts name number store) (caller value : String) :
    let ended := session.attempt (call (perform bound) value (.named caller))
    ended.2.Uses acts name number store ∧
      (session.counted caller value).StaysCurrent store setting callback ended.1.isOk ended.2 := by
  refine (staysCurrent_composes store setting callback).call_named (uses.counted caller value) ?_
  intro act member _ step does
  rw [uses.acts] at member
  exact steps step (changes act member step does)

theorem leads_call_of_ne (value : String) {other : Callback} (different : other ≠ .named callback) :
    Leads (Uses acts name number store) (StaysCurrent store setting callback)
      (call (perform bound) value other) := by
  cases other with
  | reporter index setting =>
      exact fun session uses => ⟨⟨uses.acts, uses.named, uses.there⟩, fun _ current => current⟩
  | named caller =>
      intro session uses
      rcases staysCurrent_call changes steps uses caller value with ⟨kept, stays⟩
      refine ⟨kept, fun isOk current => stays isOk ?_⟩
      have elsewhere : ¬ caller = callback := fun same => different (congrArg _ same)
      rw [HearsCurrent, counted, Callback.lastHeard?_concat, if_neg elsewhere]
      exact current

section Told

variable {before after : List Callback}
  (observed : store.observers setting = before ++ .named callback :: after)
  (last : .named callback ∉ after)
  (untouched : ∀ caller, .named caller ∈ before → ¬ store.Touches acts setting caller)

include isOpen last untouched

/-- If nobody touches a setting who is called before a callback, then this is called with the
current value, and those who are called after it leave it with the current value. -/
theorem hearsCurrent_of_forM (uses : session.Uses acts name number store) {value : String}
    (current : store.get session.host.exchange.archive setting = value) :
    let ended := session.attempt
      ((before ++ .named callback :: after).forM (call (perform bound) value))
    ended.2.Uses acts name number store ∧
      (ended.1.isOk = true → ended.2.HearsCurrent store setting callback) := by
  have leaves : Leads (Uses acts name number store) (KeepsValue store setting)
      (before.forM (call (perform bound) value)) := by
    refine (keepsValue_composes store setting).leads_forM fun observer there => ?_
    cases observer with
    | reporter index setting =>
        exact fun session uses => ⟨⟨uses.acts, uses.named, uses.there⟩, rfl⟩
    | named caller =>
        exact leads_call_of_not_touches isOpen changes bound value (untouched caller there)
  have goesOn : Leads (Uses acts name number store) (StaysCurrent store setting callback)
      (after.forM (call (perform bound) value)) := by
    refine (staysCurrent_composes store setting callback).leads_forM fun observer there => ?_
    refine leads_call_of_ne changes steps value ?_
    rintro rfl
    exact last there
  dsimp only
  rw [List.forM_eq_forM, List.forM_append, List.forM_cons]
  have first := leaves session uses
  rw [List.forM_eq_forM] at first
  rcases ran : session.attempt (forM before (call (perform bound) value)) with ⟨result, middle⟩
  rw [ran] at first
  rcases first with ⟨uses, kept⟩
  cases result with
  | error fault =>
      rw [attempt_bind_of_error ran]
      exact ⟨uses, nofun⟩
  | ok _ =>
      rw [attempt_bind_of_ok ran]
      have second := staysCurrent_call changes steps uses callback value
      rcases ran : middle.attempt (call (perform bound) value (.named callback)) with
        ⟨result, told⟩
      rw [ran] at second
      rcases second with ⟨uses, stays⟩
      cases result with
      | error fault =>
          rw [attempt_bind_of_error ran]
          exact ⟨uses, nofun⟩
      | ok _ =>
          rw [attempt_bind_of_ok ran]
          have third := goesOn told uses
          rw [List.forM_eq_forM] at third
          refine ⟨third.1, fun isOk => third.2 isOk (stays rfl ?_)⟩
          have value' : store.get middle.host.exchange.archive setting = value :=
            kept.trans current
          rw [HearsCurrent, counted, Callback.lastHeard?_concat, if_pos rfl, value']

include observed

/-- After a change of a setting a callback that observes it has heard the current value last,
if nobody touches the setting who is called before. -/
theorem hearsCurrent_of_changes (uses : session.Uses acts name number store) {step : Step}
    (change : step.Changes name) (known : step.setting? = some setting) :
    let ended := session.attempt (perform (bound + 1) step)
    ended.2.Uses acts name number store ∧
      (ended.1.isOk = true → ended.2.HearsCurrent store setting callback) := by
  intro ended
  rcases attempt_of_changes change session bound with
    ⟨fault, ran⟩ | ⟨place, found, other, value?, named, there, known', ran⟩
  · rw [show ended = _ from ran]
    exact ⟨uses, nofun⟩
  rcases uses.eq named there with ⟨rfl, rfl⟩
  cases known.symm.trans known'
  have same : { found with isOpen := true } = found := by rw [← isOpen]
  rw [same] at ran
  have begun := uses.changed setting value?
  dsimp only at ran
  generalize session.changed place found setting value? = begins at begun ran
  have told := hearsCurrent_of_forM isOpen changes steps last untouched begun rfl
  rw [← observed] at told
  rcases delivered : begins.attempt ((found.observers setting).forM (call (perform bound)
    (found.get begins.host.exchange.archive setting))) with ⟨result, left⟩
  rw [delivered] at told
  rw [show ended = _ from ran]
  cases result with
  | error fault =>
      rw [deliver, attempt_bind_of_error delivered]
      exact ⟨told.1, nofun⟩
  | ok _ =>
      rw [deliver, attempt_bind_of_ok delivered]
      exact ⟨told.1, fun _ => told.2 rfl⟩

end Told

end Heard

section Only

variable {before after : List Callback}
  (observed : store.observers setting = before ++ .named callback :: after)
  (last : .named callback ∉ after)
  (untouched : ∀ caller, .named caller ∈ before → ¬ store.Touches acts setting caller)
  (only : ∀ other, other ≠ setting → .named callback ∉ store.observers other)

include isOpen observed last untouched only

/-- No change makes an observer hear an old value last. -/
theorem leads_staysCurrent (bound : Nat) :
    ∀ step : Step, step.Changes name →
      Leads (Uses acts name number store) (StaysCurrent store setting callback)
        (perform bound step) := by
  have composes := staysCurrent_composes store setting callback
  induction bound with
  | zero => exact fun _ _ => composes.leads_pure _
  | succ bound steps =>
      intro step change
      by_cases known : step.setting? = some setting
      · intro session uses
        rcases hearsCurrent_of_changes isOpen changes steps observed last untouched uses change
          known with ⟨kept, hears⟩
        exact ⟨kept, fun isOk _ => hears isOk⟩
      · refine composes.leads_changes change ?_
        intro session place found other value? uses named there known'
        rcases uses.eq named there with ⟨rfl, rfl⟩
        have different : setting ≠ other := by
          rintro rfl
          exact known known'
        have same : { found with isOpen := true } = found := by rw [← isOpen]
        rw [same]
        refine ⟨⟨uses.changed other value?, fun _ current => ?_⟩, fun value observer observes => ?_⟩
        · exact current.trans (congrArg some (found.get_assign_of_ne _ different value?).symm)
        · refine leads_call_of_ne changes steps value ?_
          rintro rfl
          exact only other different.symm observes

end Only

end Changes

/-- After a change a callback has been called last with what getting a setting answers. -/
def EndsCurrent (session : Session) (bound : Nat) (name : String) (setting : Setting)
    (callback : String) (change : Step) : Prop :=
  let moment := session.advance bound change
  ∃ value, Callback.lastHeard? callback moment.1.seen = some value ∧
    moment.2.shown? bound name setting = some value

theorem endsCurrent_of_changes (session : Session) {before after : List Callback}
    (named : session.objects.lookup name = some (.store number))
    (there : session.host.exchange.store? number = some store) (isOpen : store.isOpen = true)
    (changes : ∀ act ∈ session.acts, ∀ step ∈ act.2, step.Changes name)
    (observed : store.observers setting = before ++ .named callback :: after)
    (last : .named callback ∉ after)
    (untouched : ∀ caller, .named caller ∈ before → ¬ store.Touches session.acts setting caller)
    (only : ∀ other, other ≠ setting → .named callback ∉ store.observers other) (bound : Nat)
    {change : Step} (changes' : change.Changes name) (known : change.setting? = some setting)
    (succeeded : (session.advance (bound + 1) change).1.result.isOk) :
    session.EndsCurrent (bound + 1) name setting callback change := by
  have steps : ∀ step : Step, step.Changes name →
      Leads (Uses session.acts name number store) (StaysCurrent store setting callback)
        (perform bound step) :=
    leads_staysCurrent isOpen changes observed last untouched only bound
  rcases hearsCurrent_of_changes isOpen changes steps observed last untouched
    ⟨rfl, named, there⟩ changes' known with ⟨kept, hears⟩
  let left := (session.advance (bound + 1) change).2
  have leftNamed : left.objects.lookup name = some (.store number) := kept.named
  have shown : left.shown? (bound + 1) name setting =
      some (store.get left.host.exchange.archive setting) :=
    shown?_of_isOpen leftNamed kept.there isOpen bound setting
  exact ⟨_, hears succeeded, shown⟩

/-! ## A callback that makes a change before others are called -/

section Spent

variable {caller text : String} {steps : List Step} {calls : Nat}

theorem counted_of_behaves (behaves : session.behaviors = [⟨caller, calls, steps, 1, none⟩])
    (other value : String) :
    session.counted other value =
      session.called [⟨caller, if caller = other then calls + 1 else calls, steps, 1, none⟩]
        [(other, value)] [] := by
  rw [counted, called, behaves, List.append_nil]
  by_cases same : caller = other <;> simp [same]

/-- A callback that does something when it is called first does nothing more later. -/
theorem attempt_call_of_spent
    (behaves : session.behaviors = [⟨caller, calls, steps, 1, none⟩]) {observer : Callback}
    (spent : 0 < calls ∨ observer ≠ .named caller) (run : Step → Work Reply) (value : String) :
    ∃ more, calls ≤ more ∧ (observer ≠ .named caller → more = calls) ∧
      session.attempt (call run value observer) =
        (.ok ⟨⟩, session.called [⟨caller, more, steps, 1, none⟩] (observer.heard value)
          (observer.reported value)) := by
  cases observer with
  | reporter index setting =>
      refine ⟨calls, Nat.le_refl _, fun _ => rfl, ?_⟩
      rw [called, ← behaves, Callback.heard, List.append_nil]
      rfl
  | named other =>
      rw [attempt_call_named, counted_of_behaves behaves]
      by_cases same : caller = other
      · subst same
        have later : ¬ calls + 1 = 1 := by
          have positive := spent.resolve_right fun different => different rfl
          omega
        refine ⟨calls + 1, Nat.le_succ _, fun different => absurd rfl different, ?_⟩
        rw [if_pos rfl]
        have found : [Behavior.mk caller (calls + 1) steps 1 none].find? (·.name = caller) =
            some ⟨caller, calls + 1, steps, 1, none⟩ :=
          List.find?_cons_of_pos (decide_eq_true rfl)
        simp only [called, found, react, if_neg later, reduceCtorEq, if_false]
        rfl
      · refine ⟨calls, Nat.le_refl _, fun _ => rfl, ?_⟩
        rw [if_neg same]
        have unknown : [Behavior.mk caller calls steps 1 none].find? (·.name = other) = none :=
          List.find?_cons_of_neg (by simpa using same)
        simp only [called, unknown, react]
        rfl

/-- Whoever is called, the value is taken down once for each call. -/
theorem attempt_forM_of_spent (session : Session)
    (behaves : session.behaviors = [⟨caller, calls, steps, 1, none⟩]) (observers : List Callback)
    (spent : 0 < calls ∨ .named caller ∉ observers) (run : Step → Work Reply) (value : String) :
    ∃ more, calls ≤ more ∧ (.named caller ∉ observers → more = calls) ∧
      session.attempt (forM observers (call run value)) =
        (.ok ⟨⟩, session.called [⟨caller, more, steps, 1, none⟩]
          (observers.flatMap (·.heard value)) (observers.flatMap (·.reported value))) := by
  induction observers generalizing session calls with
  | nil =>
      refine ⟨calls, Nat.le_refl _, fun _ => rfl, ?_⟩
      rw [List.flatMap_nil, List.flatMap_nil, called, List.append_nil, List.append_nil, ← behaves]
      rfl
  | cons observer observers ih =>
      have first : 0 < calls ∨ observer ≠ .named caller :=
        spent.imp_right fun absent same => absent (same ▸ List.mem_cons_self)
      rcases attempt_call_of_spent behaves first run value with ⟨middle, grown, same, ran⟩
      have rest : 0 < middle ∨ .named caller ∉ observers :=
        spent.imp (Nat.lt_of_lt_of_le · grown)
          fun absent there => absent (List.mem_cons_of_mem _ there)
      rcases ih (session.called [⟨caller, middle, steps, 1, none⟩] _ _) rfl rest with
        ⟨more, grown', same', others⟩
      refine ⟨more, Nat.le_trans grown grown', fun absent => ?_, ?_⟩
      · rw [List.mem_cons, not_or] at absent
        rw [same' absent.2, same (Ne.symm absent.1)]
      · rw [List.forM_cons, attempt_bind_of_ok ran, others]
        simp only [called, List.flatMap_cons, List.append_assoc]

/-- A change of a setting of an open store is told to all who observe the setting. -/
theorem attempt_told (session : Session) (there : session.host.exchange.store? number = some store)
    (isOpen : store.isOpen = true) {action : Action Notice} {value? : Option String}
    (same : session.host.perform action =
      session.host.perform (Host.change number setting value?)) (run : Step → Work Reply) :
    let told := session.changed number store setting value?
    session.attempt (do
        deliver run (← onHost action)
        return Reply.done) =
      told.attempt (do
        deliver run ⟨setting, store.get told.host.exchange.archive setting,
          store.observers setting⟩
        return Reply.done) := by
  have done := Host.perform_change_of_useStore (Host.perform_useStore_of_isOpen there isOpen)
    setting value?
  rw [attempt_onHost_bind_of_ok (same.trans done), changed, Exchange.putStore_self there]

theorem attempt_call_setting (session : Session)
    (named : session.objects.lookup name = some (.store number))
    (there : session.host.exchange.store? number = some store) (isOpen : store.isOpen = true)
    (behaves : session.behaviors =
      [⟨caller, 0, [.set name setting.key (.text text)], 1, none⟩])
    (bound : Nat) (value : String) :
    ∃ more after, 0 < more ∧
      session.attempt (call (perform (bound + 1)) value (.named caller)) = (.ok ⟨⟩, after) ∧
      after.behaviors = [⟨caller, more, [.set name setting.key (.text text)], 1, none⟩] ∧
      after.objects = session.objects ∧
      after.host.exchange = (session.changed number store setting (some text)).host.exchange := by
  let does : List Step := [.set name setting.key (.text text)]
  let counted := session.called [⟨caller, 1, does, 1, none⟩] [(caller, value)] []
  let told := counted.changed number store setting (some text)
  let news := store.get told.host.exchange.archive setting
  have begins : counted.attempt (perform (bound + 1) (.set name setting.key (.text text))) =
      told.attempt (do
        deliver (perform bound) ⟨setting, news, store.observers setting⟩
        return Reply.done) := by
    have stillNamed : counted.objects.lookup name = some (.store number) := named
    rw [attempt_setSetting stillNamed]
    exact attempt_told counted there isOpen
      (Host.perform_setSetting_of_text text (Setting.ofKey?_key setting)) _
  rcases attempt_forM_of_spent told rfl (store.observers setting) (.inl Nat.one_pos)
    (perform bound) news with ⟨more, grown, -, delivered⟩
  let after := told.called [⟨caller, more, does, 1, none⟩]
    ((store.observers setting).flatMap (·.heard news))
    ((store.observers setting).flatMap (·.reported news))
  have sets : counted.attempt (perform (bound + 1) (.set name setting.key (.text text))) =
      (.ok .done, after) :=
    begins.trans (attempt_bind_of_ok delivered _)
  have acts : counted.attempt (does.forM fun step => do let _ ← perform (bound + 1) step) =
      (.ok ⟨⟩, after) := by
    rw [List.forM_eq_forM, List.forM_cons, attempt_bind_of_ok (attempt_bind_of_ok sets _)]
    rfl
  refine ⟨more, after, grown, ?_, rfl, rfl, rfl⟩
  have found : [Behavior.mk caller (0 + 1) does 1 none].find? (·.name = caller) =
      some ⟨caller, 0 + 1, does, 1, none⟩ :=
    List.find?_cons_of_pos (decide_eq_true rfl)
  rw [attempt_call_named, counted_of_behaves behaves, if_pos rfl]
  change counted.attempt (react _ caller ([Behavior.mk caller (0 + 1) does 1 none].find? _)) = _
  rw [found, react, if_pos rfl]
  exact attempt_bind_of_ok acts _

/-- Those who are called after a callback that sets a setting hear the value that there was
before. -/
theorem advance_of_setting (session : Session) {before after : List Callback}
    (named : session.objects.lookup name = some (.store number))
    (there : session.host.exchange.store? number = some store) (isOpen : store.isOpen = true)
    (observed : store.observers setting = before ++ .named caller :: after)
    (first : .named caller ∉ before) (heard : .named callback ∈ after)
    (behaves : session.behaviors =
      [⟨caller, 0, [.set name setting.key (.text text)], 1, none⟩]) :
    let moment := session.advance 2 (.unset name setting.key)
    moment.1.result.isOk ∧
      Callback.lastHeard? callback moment.1.seen =
        some (Store.normalize setting setting.default) ∧
      moment.2.shown? 2 name setting = some (Store.normalize setting text) := by
  let told := session.changed number store setting none
  let news := store.get told.host.exchange.archive setting
  have toldThere : told.host.exchange.store? number = some store :=
    List.getElem?_set_self (List.getElem?_eq_some_iff.mp there).1
  have begins : session.attempt (perform 2 (.unset name setting.key)) =
      told.attempt (do
        deliver (perform 1) ⟨setting, news, store.observers setting⟩
        return Reply.done) := by
    rw [attempt_unsetSetting named]
    exact attempt_told session there isOpen
      (Host.perform_unsetSetting_of_known (Setting.ofKey?_key setting)) _
  rcases attempt_forM_of_spent told behaves before (.inr first) (perform 1) news with
    ⟨calls, -, uncalled, ranBefore⟩
  cases uncalled first
  let early := told.called [⟨caller, 0, [.set name setting.key (.text text)], 1, none⟩]
    (before.flatMap (·.heard news)) (before.flatMap (·.reported news))
  rcases attempt_call_setting early named toldThere isOpen rfl 0 news with
    ⟨calls, middle, positive, ran, stillBehaves, objects, exchange⟩
  rcases attempt_forM_of_spent middle stillBehaves after (.inl positive) (perform 1) news with
    ⟨more, -, -, ranAfter⟩
  let final := middle.called [⟨caller, more, [.set name setting.key (.text text)], 1, none⟩]
    (after.flatMap (·.heard news)) (after.flatMap (·.reported news))
  have delivered : told.attempt (deliver (perform 1) ⟨setting, news, store.observers setting⟩) =
      (.ok ⟨⟩, final) := by
    rw [deliver]
    dsimp only
    rw [observed, List.forM_eq_forM, List.forM_append, List.forM_cons,
      attempt_bind_of_ok ranBefore, attempt_bind_of_ok ran]
    exact ranAfter
  rw [advance_of_attempt session (begins.trans (attempt_bind_of_ok delivered _))]
  refine ⟨rfl, ?_, ?_⟩
  · dsimp only [final, called]
    rw [Callback.lastHeard?_append, Callback.lastHeard?_flatMap_heard callback news heard]
    exact congrArg some (store.get_assign_self _ setting none)
  · let left : Session := { final with seen := [], host := { final.host with log := [] } }
    have leftNamed : left.objects.lookup name = some (.store number) :=
      (congrArg (List.lookup name) objects).trans named
    have leftThere : left.host.exchange.store? number = some store :=
      (congrArg (Exchange.store? · number) exchange).trans
        (List.getElem?_set_self (List.getElem?_eq_some_iff.mp toldThere).1)
    have shown : left.shown? 2 name setting =
        some (store.get final.host.exchange.archive setting) :=
      shown?_of_isOpen leftNamed leftThere isOpen 1 setting
    have archive : final.host.exchange.archive = _ := congrArg Exchange.archive exchange
    rw [archive] at shown
    exact shown.trans (congrArg some (store.get_assign_self _ setting (some text)))

end Spent

/-! ## Who is sure to hear the current value last -/

/-- The current value is heard last. When callbacks make changes while they are called, an
observer of a setting has been called last with the value that the setting has in the end,
if nobody who is called before it changes the setting, directly or through others. Whatever
callbacks do, this is sure exactly if no callback at all is called before it. -/
theorem endsCurrent_iff (session : Session) (name : String) (number : Nat) (store : Store)
    (setting : Setting) (callback : String) (before after : List Callback)
    (named : session.objects.lookup name = some (.store number))
    (there : session.host.exchange.store? number = some store) (isOpen : store.isOpen = true)
    (observed : store.observers setting = before ++ .named callback :: after)
    (last : .named callback ∉ after)
    (only : ∀ other, other ≠ setting → .named callback ∉ store.observers other) :
    (∀ bound change, (∀ act ∈ session.acts, ∀ step ∈ act.2, step.Changes name) →
        (∀ caller, .named caller ∈ before → ¬ store.Touches session.acts setting caller) →
        change.Changes name → change.setting? = some setting →
        (session.advance (bound + 1) change).1.result.isOk →
        session.EndsCurrent (bound + 1) name setting callback change) ∧
      ((∀ behaviors bound change,
          (∀ behavior ∈ behaviors, ∀ step ∈ behavior.steps, step.Changes name) →
          change.Changes name → change.setting? = some setting →
          (advance (bound + 1) { session with behaviors } change).1.result.isOk →
          EndsCurrent { session with behaviors } (bound + 1) name setting callback change) ↔
        ∀ caller, .named caller ∉ before) := by
  refine ⟨?_, ?_, ?_⟩
  · intro bound change changes untouched changes' known succeeded
    exact endsCurrent_of_changes session named there isOpen changes observed last untouched only
      bound changes' known succeeded
  · intro sure caller member
    rcases List.eq_append_cons_of_mem member with ⟨earlier, later, rfl, first⟩
    rw [List.append_assoc, List.cons_append] at observed
    let does : List Step := [.set name setting.key (.text "x")]
    have later : Callback.named callback ∈ later ++ .named callback :: after :=
      List.mem_append_right _ List.mem_cons_self
    rcases advance_of_setting { session with behaviors := [⟨caller, 0, does, 1, none⟩] } named there
      isOpen observed first later rfl with ⟨done, heard, shown⟩
    have changes : ∀ behavior ∈ [Behavior.mk caller 0 does 1 none], ∀ step ∈ behavior.steps,
        step.Changes name := by
      intro behavior listed step member
      cases List.mem_singleton.mp listed
      cases List.mem_singleton.mp member
      exact .set _ _
    rcases sure _ 1 _ changes (.unset setting.key) (Setting.ofKey?_key setting) done with
      ⟨value, lastHeard, lastShown⟩
    have same := Option.some.inj
      ((heard.symm.trans lastHeard).trans (lastShown.symm.trans shown))
    revert same
    cases setting <;> decide
  · intro unheard behaviors bound change changes changes' known succeeded
    refine endsCurrent_of_changes { session with behaviors } named there isOpen ?_
      observed last (fun caller member => absurd member (unheard caller)) only bound changes' known
      succeeded
    intro act listed step does
    rcases List.mem_map.mp listed with ⟨behavior, member, rfl⟩
    exact changes behavior member step does

/-- Two callbacks observe a setting, and the first one sets it when it is called for the second
time. -/
def watchedByTwo : Session :=
  (withStore.runFrom 2
    [.observe "s" "linter-pylint.workingDirectory" "f" "first"
        [.set "s" "linter-pylint.workingDirectory" (.text "b")] 2 none,
      .observe "s" "linter-pylint.workingDirectory" "g" "second" [] 0 none]).2

/-- The store of these observers. -/
def storeOfTwo : Store :=
  { Store.opened "/s/d" "/s/d" false with
    observed := [.workingDirectory]
    registrations := [(.workingDirectory, .named "f"), (.workingDirectory, .named "g")] }

/-- The one that is called first hears the current value last, though it changes the setting
itself. -/
theorem endsCurrent_iff_first :
    watchedByTwo.objects.lookup "s" = some (.store 0) ∧
      watchedByTwo.host.exchange.store? 0 = some storeOfTwo ∧
      storeOfTwo.observers .workingDirectory = [] ++ .named "f" :: [.named "g"] ∧
      (∀ other, other ≠ .workingDirectory → .named "f" ∉ storeOfTwo.observers other) ∧
      watchedByTwo.EndsCurrent 2 "s" .workingDirectory "f"
        (.set "s" "linter-pylint.workingDirectory" (.text "a")) := by
  have named : watchedByTwo.objects.lookup "s" = some (.store 0) := by
    have found : (watchedByTwo.objects.lookup "s").any (·.isStore 0) = true := by
      decide +kernel
    generalize watchedByTwo.objects.lookup "s" = object? at found ⊢
    cases object? with
    | none => cases found
    | some object => rw [Object.eq_of_isStore found]
  have there : watchedByTwo.host.exchange.store? 0 = some storeOfTwo := by
    decide +kernel
  have observed : storeOfTwo.observers .workingDirectory = [] ++ .named "f" :: [.named "g"] := by
    decide
  have only : ∀ other, other ≠ .workingDirectory → .named "f" ∉ storeOfTwo.observers other := by
    intro other
    cases other <;> decide
  have done : (watchedByTwo.advance 2
      (.set "s" "linter-pylint.workingDirectory" (.text "a"))).1.result.isOk := by
    decide +kernel
  refine ⟨named, there, observed, only, ?_⟩
  have changes : ∀ act ∈ watchedByTwo.acts, ∀ step ∈ act.2, step.Changes "s" := by
    decide +kernel
  have known : Step.setting? (.set "s" "linter-pylint.workingDirectory" (.text "a")) =
      some .workingDirectory := by
    decide +kernel
  have apart : Callback.named "f" ∉ [Callback.named "g"] := by
    decide
  have sure := (endsCurrent_iff watchedByTwo "s" 0 storeOfTwo .workingDirectory "f" []
    [.named "g"] named there rfl observed apart only).1
  have ends := sure 1 (.set "s" "linter-pylint.workingDirectory" (.text "a")) changes
    (fun _ member => absurd member List.not_mem_nil) (.set _ _) known
  rw [show 1 + 1 = 2 from rfl] at ends
  exact ends done

/-- The one that is called second hears an old value last. -/
theorem exists_observer_left_behind :
    let moment := watchedByTwo.advance 2
      (.set "s" "linter-pylint.workingDirectory" (.text "a"))
    moment.1.result.isOk ∧
      moment.1.seen = [("f", "a"), ("f", "b"), ("g", "b"), ("g", "a")] ∧
      moment.2.shown? 2 "s" .workingDirectory = some "b" ∧
      ¬watchedByTwo.EndsCurrent 2 "s" .workingDirectory "g"
        (.set "s" "linter-pylint.workingDirectory" (.text "a")) := by
  have done : (watchedByTwo.advance 2
      (.set "s" "linter-pylint.workingDirectory" (.text "a"))).1.result.isOk := by
    decide +kernel
  have seen : (watchedByTwo.advance 2
      (.set "s" "linter-pylint.workingDirectory" (.text "a"))).1.seen =
        [("f", "a"), ("f", "b"), ("g", "b"), ("g", "a")] := by
    decide +kernel
  have shown : (watchedByTwo.advance 2
      (.set "s" "linter-pylint.workingDirectory" (.text "a"))).2.shown? 2 "s" .workingDirectory =
        some "b" := by
    decide +kernel
  refine ⟨done, seen, shown, ?_⟩
  rintro ⟨value, heard, answered⟩
  rw [seen] at heard
  have same := heard.trans (answered.symm.trans shown)
  revert same
  decide

end Session

end LintBridge
