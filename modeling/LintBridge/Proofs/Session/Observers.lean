import LintBridge.Proofs.Session.Callbacks
import LintBridge.Proofs.Session.LastWriter
import LintBridge.Proofs.Settings.Exchange

/-!
# Observers of a store

Callbacks that only take down values observe the settings of one store, are undone, and
settings are set and unset. Who looks on from outside knows from the steps and their
results which observations there are and what each of them has to hear: the value at
its beginning, and the new value after every change until its end. This is what the
callbacks take down.
-/

namespace LintBridge

/-- An observation as it is seen from outside: the name of its handle, what is observed by
which callback, whether it has ended, and the values that it has to hear. -/
structure Observation where
  handle : String
  setting : Setting
  callback : String
  ended : Bool
  heard : List (Option String)

namespace Observation

/-- What an observation has to hear after a change of a setting. -/
def hear (setting : Setting) (value? : Option String) (observation : Observation) :
    Observation :=
  if observation.setting = setting ∧ observation.ended = false then
    { observation with heard := observation.heard ++ [value?] }
  else observation

/-- The last observation with a handle ends. The last one comes first. -/
def finish (handle : String) : List Observation → List Observation
  | [] => []
  | observation :: earlier =>
      if observation.handle = handle then { observation with ended := true } :: earlier
      else observation :: finish handle earlier

/-- The number of observations before the last one with a handle. -/
def indexOf? (handle : String) : List Observation → Option Nat
  | [] => none
  | observation :: earlier =>
      if observation.handle = handle then some earlier.length else indexOf? handle earlier

/-- The registrations of the observations that have not ended. -/
def registrations (observations : List Observation) : List (Setting × Callback) :=
  (observations.filter (!·.ended)).map fun observation =>
    (observation.setting, .named observation.callback)

/-- What a callback has to hear in all of its observations. -/
def heardBy (callback : String) (observations : List Observation) : List (Option String) :=
  (observations.filter (·.callback = callback)).flatMap (·.heard)

/-- The subscription to a store that an observation is. -/
def subscription (number : Nat) (observation : Observation) : Subscription :=
  ⟨number, observation.setting, .named observation.callback, observation.ended⟩

theorem indexOf?_eq_some {handle : String} {observations : List Observation} {index : Nat}
    (found : indexOf? handle observations = some index) :
    ∃ later observation earlier, observations = later ++ observation :: earlier ∧
      earlier.length = index ∧
      finish handle observations = later ++ { observation with ended := true } :: earlier := by
  induction observations with
  | nil => cases found
  | cons observation earlier ih =>
      rw [indexOf?] at found
      rw [finish]
      split at found
      · rename_i same
        cases found
        exact ⟨[], observation, earlier, rfl, rfl, if_pos same⟩
      · rename_i different
        rcases ih found with ⟨later, last, before, rfl, length, finished⟩
        refine ⟨observation :: later, last, before, rfl, length, ?_⟩
        rw [if_neg different, finished]
        rfl

theorem indexOf?_congr {handle : String} {left right : List Observation}
    (same : left.map (·.handle) = right.map (·.handle)) :
    indexOf? handle left = indexOf? handle right := by
  induction left generalizing right with
  | nil =>
      cases right with
      | nil => rfl
      | cons other right => cases same
  | cons observation left ih =>
      cases right with
      | nil => cases same
      | cons other right =>
          rw [List.map_cons, List.map_cons, List.cons.injEq] at same
          have lengths : left.length = right.length := by
            have counted := congrArg List.length same.2
            rwa [List.length_map, List.length_map] at counted
          rw [indexOf?, indexOf?, same.1, lengths, ih same.2]

theorem map_handle_finish (handle : String) (observations : List Observation) :
    (finish handle observations).map (·.handle) = observations.map (·.handle) := by
  induction observations with
  | nil => rfl
  | cons observation earlier ih =>
      rw [finish]
      split
      · rfl
      · rw [List.map_cons, List.map_cons, ih]

theorem registrations_cons (observation : Observation) (earlier : List Observation) :
    registrations (observation :: earlier) =
      (if observation.ended then [] else [(observation.setting, .named observation.callback)]) ++
        registrations earlier := by
  cases ended : observation.ended <;> simp [registrations, ended]

theorem registrations_append (later earlier : List Observation) :
    registrations (later ++ earlier) = registrations later ++ registrations earlier := by
  simp [registrations]

theorem count_registrations (setting : Setting) (callback : String)
    (observations : List Observation) :
    (registrations observations).count (setting, .named callback) =
      observations.countP fun observation =>
        observation.setting = setting ∧ observation.callback = callback ∧
          observation.ended = false := by
  induction observations with
  | nil => rfl
  | cons observation earlier ih =>
      rw [registrations_cons, List.count_append, ih, List.countP_cons, Nat.add_comm]
      congr 1
      cases observation.ended <;> simp [List.count_cons]

theorem registrations_map_hear (setting : Setting) (value? : Option String)
    (observations : List Observation) :
    registrations (observations.map (hear setting value?)) = registrations observations := by
  induction observations with
  | nil => rfl
  | cons observation earlier ih =>
      rw [List.map_cons, registrations_cons, registrations_cons, ih, hear]
      split <;> rfl

theorem subscription_hear (number : Nat) (setting : Setting) (value? : Option String)
    (observation : Observation) :
    (hear setting value? observation).subscription number = observation.subscription number := by
  rw [hear]
  split <;> rfl

theorem map_handle_hear (setting : Setting) (value? : Option String)
    (observations : List Observation) :
    (observations.map (hear setting value?)).map (·.handle) = observations.map (·.handle) := by
  rw [List.map_map]
  apply List.map_congr_left
  intro observation _
  rw [Function.comp_apply, hear]
  split <;> rfl

theorem heardBy_cons (callback : String) (observation : Observation)
    (earlier : List Observation) :
    heardBy callback (observation :: earlier) =
      (if observation.callback = callback then observation.heard else []) ++
        heardBy callback earlier := by
  by_cases same : observation.callback = callback <;> simp [heardBy, same]

theorem heardBy_finish (callback handle : String) (observations : List Observation) :
    heardBy callback (finish handle observations) = heardBy callback observations := by
  induction observations with
  | nil => rfl
  | cons observation earlier ih =>
      rw [finish]
      split
      · rw [heardBy_cons, heardBy_cons]
      · rw [heardBy_cons, heardBy_cons, ih]

/-- A change is heard once in every observation of the setting that has not ended. -/
theorem heardBy_map_hear (callback : String) (setting : Setting) (value? : Option String)
    (observations : List Observation) :
    (heardBy callback observations ++
        List.replicate ((registrations observations).count (setting, .named callback)) value?).Perm
      (heardBy callback (observations.map (hear setting value?))) := by
  apply List.perm_iff_count.mpr
  intro value
  induction observations with
  | nil => rfl
  | cons observation earlier ih =>
      simp only [List.count_append, List.count_replicate] at ih
      rw [List.map_cons, heardBy_cons, heardBy_cons, registrations_cons, hear]
      simp only [List.count_append, List.count_replicate, ← ih]
      by_cases heard : observation.setting = setting ∧ observation.ended = false
      · rw [if_pos heard, heard.1, heard.2]
        by_cases same : observation.callback = callback
        · by_cases equal : value? = value
          · simp [same, equal]
            omega
          · simp [same, equal]
        · simp [same]
      · rw [if_neg heard]
        have unheard : (if observation.ended then []
            else [(observation.setting, Callback.named observation.callback)]).count
              (setting, .named callback) = 0 := by
          cases ended : observation.ended with
          | true => rfl
          | false =>
              have different : observation.setting ≠ setting := fun equal => heard ⟨equal, ended⟩
              simp [different]
        rw [unheard, Nat.zero_add, Nat.add_assoc]

end Observation

/-! ## Steps and what they come to -/

/-- A step that begins or ends an observation of a store, or changes one of its settings.
Callbacks are given nothing to do. -/
inductive Step.Watches (store : String) : Step → Prop where
  | observe (key callback handle : String) (actAt : Nat) (other : handle ≠ store) :
      Watches store (.observe store key callback handle [] actAt none)
  | dispose (handle : String) : Watches store (.dispose handle)
  | set (key : String) (value : Value) : Watches store (.set store key value)
  | unset (key : String) : Watches store (.unset store key)

/-- The values that a callback has been called with, in calls that have been taken down. -/
def Callback.valuesIn (callback : String) (seen : List (String × String)) :
    List (Option String) :=
  (seen.filter (·.1 = callback)).map fun call => some call.2

theorem Callback.valuesIn_append (callback : String) (earlier later : List (String × String)) :
    valuesIn callback (earlier ++ later) = valuesIn callback earlier ++ valuesIn callback later := by
  simp [valuesIn]

theorem Callback.valuesIn_flatMap_heard (callback value : String) (called : List Callback) :
    valuesIn callback (called.flatMap (·.heard value)) =
      List.replicate (called.count (.named callback)) (some value) := by
  induction called with
  | nil => rfl
  | cons first others ih =>
      rw [List.flatMap_cons, valuesIn_append, ih]
      cases first with
      | reporter number setting => simp [heard, valuesIn]
      | named name =>
          by_cases same : name = callback
          · simp [heard, valuesIn, same, List.replicate_succ]
          · simp [heard, valuesIn, same]

namespace Session

/-- What getting a setting answers, if it answers with a text. -/
def shown? (session : Session) (bound : Nat) (store : String) (setting : Setting) :
    Option String :=
  match (session.advance bound (.get store setting.key)).1.result with
  | .ok (.text value) => some value
  | _ => none

/-- The observations that there are after a step, as told from the step and its result. -/
def watch (session : Session) (bound : Nat) (store : String) (step : Step)
    (observations : List Observation) : List Observation :=
  let (entry, after) := session.advance bound step
  match entry.result, step with
  | .error _, _ => observations
  | .ok _, .observe _ key callback handle _ _ _ =>
      match Setting.ofKey? key with
      | none => observations
      | some setting =>
          ⟨handle, setting, callback, false, [session.shown? bound store setting]⟩ :: observations
  | .ok _, .dispose handle => Observation.finish handle observations
  | .ok _, .set _ key _ | .ok _, .unset _ key =>
      match Setting.ofKey? key with
      | none => observations
      | some setting =>
          observations.map (Observation.hear setting (after.shown? bound store setting))
  | .ok _, _ => observations

/-- The observations that there are after some steps. -/
def watchFrom (session : Session) (bound : Nat) (store : String)
    (observations : List Observation) : List Step → List Observation
  | [] => observations
  | step :: steps =>
      (session.advance bound step).2.watchFrom bound store
        (session.watch bound store step observations) steps

/-- What a session is like in which there are some observations of a store: each is a
subscription, and those that have not ended are registered in the store. -/
structure Watched (session : Session) (name : String) (number : Nat)
    (others : List Subscription) (observations : List Observation) : Prop where
  named : session.objects.lookup name = some (.store number)
  recording : session.Recording
  registered : ∃ store, session.host.exchange.store? number = some store ∧
    store.isOpen = true ∧ store.registrations.Perm (Observation.registrations observations)
  subscribed : session.host.exchange.subscriptions =
    others ++ observations.reverse.map (·.subscription number)
  handles : ∀ handle index, session.objects.lookup handle = some (.subscription index) ↔
    (Observation.indexOf? handle observations).map (others.length + ·) = some index
  groupless : ∀ handle index, session.objects.lookup handle ≠ some (.group index)

variable {session : Session} {name : String} {number : Nat} {others : List Subscription}
  {observations : List Observation}

theorem shown?_of_isOpen {store : Store}
    (named : session.objects.lookup name = some (.store number))
    (there : session.host.exchange.store? number = some store) (isOpen : store.isOpen = true)
    (bound : Nat) (setting : Setting) :
    session.shown? (bound + 1) name setting =
      some (store.get session.host.exchange.archive setting) := by
  have answers : session.host.perform
        (do Host.valueOf number (← Host.settingOf setting.key)) =
      (.ok (store.get session.host.exchange.archive setting), session.host) := by
    rw [Host.perform_bind,
      Host.perform_settingOf_of_known (Setting.ofKey?_key setting)]
    exact Host.perform_valueOf_of_isOpen there isOpen setting
  have ran : session.attempt (perform (bound + 1) (.get name setting.key)) =
      (.ok (.text (store.get session.host.exchange.archive setting)), session) := by
    rw [attempt_getSetting named, attempt_onHost_bind_of_ok answers]
    rfl
  rw [shown?, advance_of_attempt session ran]

/-! ## One step -/

theorem Watched.settle (watched : session.Watched name number others observations)
    (seen : List (String × String)) (log : List LogRecord) :
    Watched { session with seen, host := { session.host with log } } name number others
      observations :=
  ⟨watched.named, watched.recording, watched.registered, watched.subscribed, watched.handles,
    watched.groupless⟩

/-- How a session is left when there are some observations after a step: callbacks have
taken down what they have had to hear since, and no registration was missing. -/
structure Told (after : Session) (name : String) (number : Nat) (others : List Subscription)
    (before observations : List Observation) (result : Except Fault Reply) : Prop where
  watched : after.Watched name number others observations
  heard : ∀ callback, (Observation.heardBy callback before ++
    Callback.valuesIn callback after.seen).Perm (Observation.heardBy callback observations)
  found : result ≠ .error .notRegistered

/-- Nothing is to be heard when no observation begins or ends and nothing changes. -/
theorem Watched.told (watched : session.Watched name number others observations)
    (quiet : session.seen = []) {before : List Observation} {result : Except Fault Reply}
    (same : ∀ callback, Observation.heardBy callback observations =
      Observation.heardBy callback before)
    (found : result ≠ .error .notRegistered) :
    session.Told name number others before observations result := by
  refine ⟨watched, ?_, found⟩
  intro callback
  rw [quiet, same]
  exact List.Perm.of_eq (List.append_nil _)

/-- A session in which a callback has been registered for a setting of a store, and has been
called with the value, under a handle for the subscription. -/
def observing (session : Session) (behaviors : List Behavior) (number : Nat) (store : Store)
    (setting : Setting) (callback handle : String) : Session :=
  let registered :=
    session.host.exchange.putStore number (store.register setting (.named callback))
  let (subscription, exchange) := registered.subscribe number setting (.named callback)
  { session with
    behaviors
    seen := session.seen ++ [(callback, store.get session.host.exchange.archive setting)]
    host := { session.host with exchange }
    objects := (handle, .subscription subscription) :: session.objects }

theorem attempt_observe_of_isOpen {store : Store} {key : String} {setting : Setting}
    (recording : session.Recording)
    (named : session.objects.lookup name = some (.store number))
    (there : session.host.exchange.store? number = some store) (isOpen : store.isOpen = true)
    (known : Setting.ofKey? key = some setting) (bound : Nat) (callback handle : String)
    (actAt : Nat) :
    ∃ behaviors, (∀ behavior ∈ behaviors, behavior.Records) ∧
      session.attempt (perform (bound + 1) (.observe name key callback handle [] actAt none)) =
        (.ok .done, session.observing behaviors number store setting callback handle) := by
  rcases recording.behaving callback actAt with ⟨added, records, begun⟩
  rcases attempt_observe_cases callback handle [] actAt none named there known bound with
    ⟨closed, -⟩ | ⟨result, after, called, ran⟩
  · cases isOpen.symm.trans closed
  rw [begun] at called
  let value := store.get session.host.exchange.archive setting
  let willing : Session := { session with behaviors := added }
  have recordingStill : (willing.registering number { store with isOpen := true } setting
    callback).Recording := records
  rcases recordingStill.call (perform bound) value (.named callback) with
    ⟨behaviors, lasting, tells⟩
  refine ⟨behaviors, lasting, ?_⟩
  cases called.symm.trans tells
  rw [ran, ← isOpen, Session.called, Callback.reported, List.append_nil]
  rfl

/-- An observation that begins is registered, and has its handle from then on. -/
theorem Watched.observing (watched : session.Watched name number others observations)
    {behaviors : List Behavior} (records : ∀ behavior ∈ behaviors, behavior.Records)
    {store : Store} (there : session.host.exchange.store? number = some store)
    (isOpen : store.isOpen = true)
    (registered : store.registrations.Perm (Observation.registrations observations))
    (setting : Setting) (callback : String) {handle : String} (other : handle ≠ name)
    (heard : List (Option String)) :
    (session.observing behaviors number store setting callback handle).Watched name number others
      (⟨handle, setting, callback, false, heard⟩ :: observations) := by
  refine ⟨?_, records, ?_, ?_, ?_, ?_⟩
  · exact (lookup_cons_of_ne other).trans watched.named
  · have inside := (List.getElem?_eq_some_iff.mp there).1
    refine ⟨store.register setting (.named callback), List.getElem?_set_self inside, isOpen, ?_⟩
    exact (registered.append_right _).trans List.perm_append_comm
  · change session.host.exchange.subscriptions ++ [_] = _
    rw [List.reverse_cons, List.map_append, ← List.append_assoc, ← watched.subscribed]
    rfl
  · intro query index
    change List.lookup query
      ((handle, .subscription session.host.exchange.subscriptions.length) :: session.objects) =
        _ ↔ _
    rw [Observation.indexOf?]
    by_cases same : handle = query
    · have length : session.host.exchange.subscriptions.length =
          others.length + observations.length := by
        rw [watched.subscribed, List.length_append, List.length_map, List.length_reverse]
      rw [same, List.lookup_cons_self, if_pos rfl, length]
      simp
    · rw [lookup_cons_of_ne same, if_neg same]
      exact watched.handles query index
  · intro query index
    change List.lookup query ((handle, _) :: session.objects) ≠ _
    rw [List.lookup_cons]
    split
    · simp
    · exact watched.groupless query index

theorem attempt_observe_of_unknown {key : String} (recording : session.Recording)
    (named : session.objects.lookup name = some (.store number))
    (unknown : Setting.ofKey? key = none) (bound : Nat) (callback handle : String) (actAt : Nat) :
    ∃ behaviors, (∀ behavior ∈ behaviors, behavior.Records) ∧
      session.attempt (perform (bound + 1) (.observe name key callback handle [] actAt none)) =
        (.error (unknownKey key), { session with behaviors }) := by
  rcases recording.behaving callback actAt with ⟨behaviors, records, begun⟩
  refine ⟨behaviors, records, ?_⟩
  rw [attempt_observe_of_ofKey?_eq_none callback handle [] actAt none named unknown, begun]

theorem Watched.observe (watched : session.Watched name number others observations)
    (quiet : session.seen = []) (bound : Nat) (key callback handle : String) (actAt : Nat)
    (other : handle ≠ name) :
    ∃ result after, session.attempt
        (perform (bound + 1) (.observe name key callback handle [] actAt none)) =
          (result, after) ∧
      after.Told name number others observations
        (session.watch (bound + 1) name (.observe name key callback handle [] actAt none)
          observations) result := by
  cases known : Setting.ofKey? key with
  | none =>
      rcases attempt_observe_of_unknown watched.recording watched.named known bound callback handle
        actAt with ⟨behaviors, records, ran⟩
      have kept : Watched { session with behaviors } name number others observations :=
        ⟨watched.named, records, watched.registered, watched.subscribed, watched.handles,
          watched.groupless⟩
      refine ⟨_, _, ran, ?_⟩
      rw [watch, advance_of_attempt session ran]
      refine kept.told quiet (fun _ => rfl) ?_
      rintro ⟨⟩
  | some setting =>
      rcases watched.registered with ⟨store, there, isOpen, registered⟩
      rcases attempt_observe_of_isOpen watched.recording watched.named there isOpen known bound
        callback handle actAt with ⟨behaviors, records, ran⟩
      refine ⟨_, _, ran, ?_⟩
      rw [watch, advance_of_attempt session ran]
      dsimp only
      rw [known]
      dsimp only
      rw [shown?_of_isOpen watched.named there isOpen bound setting]
      refine ⟨watched.observing records there isOpen registered setting callback other _, ?_, ?_⟩
      · intro query
        let value := store.get session.host.exchange.archive setting
        change (_ ++ Callback.valuesIn query (session.seen ++ [(callback, value)])).Perm _
        rw [quiet, Observation.heardBy_cons]
        apply List.perm_append_comm.trans
        by_cases same : callback = query
        · simp [Callback.valuesIn, same, value]
        · simp [Callback.valuesIn, same]
      · rintro ⟨⟩

theorem attempt_lookup_some (session : Session) (name : String) :
    session.attempt (lookup name some) =
      match session.objects.lookup name with
      | some object => (.ok object, session)
      | none => (.error (.unknownName name), session) := by
  rw [lookup, attempt_bind, attempt_get]
  dsimp only
  cases session.objects.lookup name with
  | none => rfl
  | some object => rfl

theorem attempt_undo_of_found {act : Exchange → Bool × Exchange} {exchange : Exchange}
    (found : act session.host.exchange = (true, exchange)) :
    session.attempt (undo act) =
      (.ok .done, { session with host := { session.host with exchange } }) := by
  rw [undo, attempt_onHost_bind_of_ok (Host.perform_withExchange_of_found found)]
  rfl

/-- An observation is found among the subscriptions by the number of those before it. -/
theorem Watched.getElem?_subscriptions {observation : Observation}
    {later earlier : List Observation}
    (watched : session.Watched name number others (later ++ observation :: earlier)) :
    session.host.exchange.subscriptions[others.length + earlier.length]? =
      some (observation.subscription number) := by
  rw [watched.subscribed, List.getElem?_append_right (Nat.le_add_right _ _),
    Nat.add_sub_cancel_left, List.getElem?_map]
  simp

/-- The end of an observation withdraws its registration, which is there unless the
observation has ended before. -/
theorem Watched.finish (watched : session.Watched name number others observations)
    {handle : String} {position : Nat}
    (located : Observation.indexOf? handle observations = some position) :
    ∃ exchange,
      session.host.exchange.dispose (others.length + position) = (true, exchange) ∧
        Watched { session with host := { session.host with exchange } } name number others
          (Observation.finish handle observations) := by
  rcases Observation.indexOf?_eq_some located with
    ⟨later, observation, earlier, rfl, rfl, finished⟩
  let before := others ++ earlier.reverse.map (·.subscription number)
  let behind := later.reverse.map (·.subscription number)
  have place : others.length + earlier.length = before.length := by simp [before]
  have subscribed : session.host.exchange.subscriptions =
      before ++ observation.subscription number :: behind := by
    rw [watched.subscribed]
    simp [before, behind]
  have there := watched.getElem?_subscriptions
  cases ended : observation.ended with
  | true =>
      have same : Observation.finish handle (later ++ observation :: earlier) =
          later ++ observation :: earlier := by
        rw [finished, ← ended]
      refine ⟨session.host.exchange, Exchange.dispose_of_disposed there ended, ?_⟩
      rw [same]
      exact watched
  | false =>
      rcases watched.registered with ⟨store, used, isOpen, registered⟩
      have standing : (Observation.registrations (later ++ observation :: earlier)).Perm
          ((observation.setting, .named observation.callback) ::
            Observation.registrations (later ++ earlier)) := by
        simp only [Observation.registrations_append, Observation.registrations_cons, ended]
        exact List.perm_middle
      refine ⟨_, Exchange.dispose_of_registered there ended used ?_, ⟨watched.named,
        watched.recording, ?_, ?_, ?_, watched.groupless⟩⟩
      · exact (registered.trans standing).mem_iff.mpr List.mem_cons_self
      · have inside := (List.getElem?_eq_some_iff.mp used).1
        refine ⟨_, List.getElem?_set_self inside, isOpen, ?_⟩
        have left : Observation.registrations (Observation.finish handle
            (later ++ observation :: earlier)) =
              Observation.registrations (later ++ earlier) := by
          simp [finished, Observation.registrations_append, Observation.registrations_cons]
        have erased := (registered.trans standing).erase
          (observation.setting, Callback.named observation.callback)
        rw [left]
        rwa [List.erase_cons_head] at erased
      · change session.host.exchange.subscriptions.set _ _ = _
        rw [finished, subscribed, place, List.set_append_right _ _ (Nat.le_refl _), Nat.sub_self]
        simp [before, behind, Observation.subscription]
      · intro query index
        rw [Observation.indexOf?_congr (Observation.map_handle_finish handle _)]
        exact watched.handles query index

/-- A handle ends the observation that it stands for, and nothing else is disposed of. -/
theorem Watched.attempt_dispose (watched : session.Watched name number others observations)
    (bound : Nat) (handle : String) :
    (∃ fault, Observation.indexOf? handle observations = none ∧ fault ≠ .notRegistered ∧
        session.attempt (perform (bound + 1) (.dispose handle)) = (.error fault, session)) ∨
      ∃ position exchange, Observation.indexOf? handle observations = some position ∧
        session.host.exchange.dispose (others.length + position) = (true, exchange) ∧
        session.attempt (perform (bound + 1) (.dispose handle)) =
          (.ok .done, { session with host := { session.host with exchange } }) ∧
        Watched { session with host := { session.host with exchange } } name number others
          (Observation.finish handle observations) := by
  have ran : session.attempt (perform (bound + 1) (.dispose handle)) = _ :=
    attempt_bind session (lookup handle some) _
  rw [attempt_lookup_some] at ran
  cases located : Observation.indexOf? handle observations with
  | none =>
      have unsubscribed : ∀ index, session.objects.lookup handle ≠ some (.subscription index) := by
        intro index found
        have there := (watched.handles handle index).mp found
        rw [located] at there
        cases there
      cases found : session.objects.lookup handle with
      | none =>
          rw [found] at ran
          exact .inl ⟨.unknownName handle, rfl, nofun, ran⟩
      | some object =>
          rw [found] at ran
          cases object with
          | subscription index => exact absurd found (unsubscribed index)
          | group index => exact absurd found (watched.groupless handle index)
          | _ => exact .inl ⟨.unknownName handle, rfl, nofun, ran⟩
  | some position =>
      have found := (watched.handles handle (others.length + position)).mpr (by rw [located]; rfl)
      rw [found] at ran
      rcases watched.finish located with ⟨exchange, undone, finished⟩
      have undoing : session.attempt (undo (·.dispose (others.length + position))) = _ :=
        attempt_undo_of_found undone
      exact .inr ⟨position, exchange, rfl, undone, ran.trans undoing, finished⟩

theorem Watched.dispose (watched : session.Watched name number others observations)
    (quiet : session.seen = []) (bound : Nat) (handle : String) :
    ∃ result after, session.attempt (perform (bound + 1) (.dispose handle)) = (result, after) ∧
      after.Told name number others observations
        (session.watch (bound + 1) name (.dispose handle) observations) result := by
  rcases watched.attempt_dispose bound handle with
    ⟨fault, -, otherwise, ran⟩ | ⟨position, exchange, -, -, ran, finished⟩
  · refine ⟨_, _, ran, ?_⟩
    rw [watch, advance_of_attempt session ran]
    exact watched.told quiet (fun _ => rfl) fun same => otherwise (by injection same)
  · refine ⟨_, _, ran, ?_⟩
    rw [watch, advance_of_attempt session ran]
    exact finished.told quiet (Observation.heardBy_finish · handle observations) nofun

/-- A change is heard once in every observation of the setting that has not ended. -/
theorem Watched.change (watched : session.Watched name number others observations)
    (quiet : session.seen = []) (run : Step → Work Reply) {action : Action Notice}
    {setting : Setting} {new? : Option String}
    (changes : session.host.perform action =
      session.host.perform (Host.change number setting new?)) :
    ∃ after value,
      session.attempt (do
          deliver run (← onHost action)
          return Reply.done) = (.ok .done, after) ∧
        (∀ bound,
          shown? { after with seen := [], host := { after.host with log := [] } } (bound + 1)
            name setting = some value) ∧
        after.Told name number others observations
          (observations.map (.hear setting (some value))) (.ok .done) := by
  rcases watched.registered with ⟨store, there, isOpen, registered⟩
  have told := Host.perform_change_of_useStore
    (Host.perform_useStore_of_isOpen there isOpen) setting new?
  dsimp only at told
  generalize Host.assign session.host.exchange.archive store.location setting new? = archive
    at told
  generalize noticed : (⟨setting, store.get archive setting, store.observers setting⟩ : Notice) =
    notice at told
  generalize changed : Host.mk .. = host at told
  have recording : Recording { session with host } := watched.recording
  rcases recording.deliver run notice with ⟨behaviors, records, delivered⟩
  let after := Session.called { session with host } behaviors
    (notice.callbacks.flatMap (·.heard notice.value))
    (notice.callbacks.flatMap (·.reported notice.value))
  refine ⟨after, notice.value, ?_, ?_, ⟨?_, records, ?_, ?_, ?_, ?_⟩, ?_, nofun⟩
  · rw [attempt_onHost_bind_of_ok (changes.trans told)]
    exact attempt_bind_of_ok delivered _
  · intro bound
    cases noticed
    cases changed
    apply shown?_of_isOpen
    · exact watched.named
    · exact there
    · exact isOpen
  · exact watched.named
  · cases changed
    refine ⟨store, there, isOpen, ?_⟩
    rw [Observation.registrations_map_hear]
    exact registered
  · cases changed
    rw [← List.map_reverse, List.map_map]
    simp only [Function.comp_def, Observation.subscription_hear]
    exact watched.subscribed
  · intro handle index
    rw [Observation.indexOf?_congr (Observation.map_handle_hear setting _ observations)]
    exact watched.handles handle index
  · exact watched.groupless
  · intro callback
    change (_ ++ Callback.valuesIn callback
      (session.seen ++ notice.callbacks.flatMap (·.heard notice.value))).Perm _
    rw [quiet, List.nil_append, Callback.valuesIn_flatMap_heard]
    cases noticed
    rw [Store.count_observers, registered.count_eq]
    exact Observation.heardBy_map_hear callback setting _ observations

theorem Watched.changes (watched : session.Watched name number others observations)
    (quiet : session.seen = []) (bound : Nat) {step : Step} (changes : step.Changes name) :
    ∃ result after, session.attempt (perform (bound + 1) step) = (result, after) ∧
      after.Told name number others observations
        (session.watch (bound + 1) name step observations) result := by
  rcases attempt_cases_of_changes watched.named bound changes with
    ⟨fault, ran, found⟩ | ⟨action, setting, new?, known, works, changed⟩
  · refine ⟨_, _, ran, ?_⟩
    rw [watch, advance_of_attempt session ran]
    exact watched.told quiet (fun _ => rfl) fun same => found (by injection same)
  · rcases watched.change quiet (perform bound) changed with ⟨after, shown, ran, shows, told⟩
    have done := works.trans ran
    refine ⟨_, _, done, ?_⟩
    rw [watch, advance_of_attempt session done]
    cases changes with
    | set key value =>
        have found : Setting.ofKey? key = some setting := known
        dsimp only
        rw [found]
        dsimp only
        rw [shows]
        exact told
    | unset key =>
        have found : Setting.ofKey? key = some setting := known
        dsimp only
        rw [found]
        dsimp only
        rw [shows]
        exact told

/-! ## Runs -/

theorem Watched.advance (watched : session.Watched name number others observations)
    (quiet : session.seen = []) (bound : Nat) {step : Step} (watches : step.Watches name) :
    let moment := session.advance (bound + 1) step
    let left := session.watch (bound + 1) name step observations
    moment.2.Watched name number others left ∧
      (∀ callback, (Observation.heardBy callback observations ++
        Callback.valuesIn callback moment.1.seen).Perm (Observation.heardBy callback left)) ∧
      moment.1.result ≠ .error .notRegistered := by
  have attempted : ∃ result after,
      session.attempt (perform (bound + 1) step) = (result, after) ∧
        after.Told name number others observations
          (session.watch (bound + 1) name step observations) result := by
    cases watches with
    | observe key callback handle actAt other =>
        exact watched.observe quiet bound key callback handle actAt other
    | dispose handle => exact watched.dispose quiet bound handle
    | set key value => exact watched.changes quiet bound (.set key value)
    | unset key => exact watched.changes quiet bound (.unset key)
  rcases attempted with ⟨result, after, ran, told⟩
  dsimp only
  rw [advance_of_attempt session ran]
  exact ⟨told.watched.settle [] [], told.heard, told.found⟩

theorem quiet_advance (session : Session) (bound : Nat) (step : Step) :
    (session.advance bound step).2.seen = [] := rfl

theorem Watched.runFrom (watched : session.Watched name number others observations)
    (quiet : session.seen = []) (bound : Nat) {steps : List Step}
    (watches : ∀ step ∈ steps, step.Watches name) :
    let run := session.runFrom (bound + 1) steps
    let left := session.watchFrom (bound + 1) name observations steps
    run.2.Watched name number others left ∧
      (∀ callback, (Observation.heardBy callback observations ++
        run.1.flatMap (Callback.valuesIn callback ·.seen)).Perm
          (Observation.heardBy callback left)) ∧
      ∀ entry ∈ run.1, entry.result ≠ .error .notRegistered := by
  induction steps generalizing session observations with
  | nil =>
      refine ⟨watched, ?_, fun _ there => absurd there List.not_mem_nil⟩
      intro callback
      exact List.Perm.of_eq (List.append_nil _)
  | cons step steps ih =>
      rcases List.forall_mem_cons.mp watches with ⟨first, later⟩
      rcases watched.advance quiet bound first with ⟨kept, heard, found⟩
      rcases ih kept (quiet_advance session _ step) later with ⟨left, others, foundLater⟩
      rw [runFrom_cons]
      refine ⟨left, ?_, List.forall_mem_cons.mpr ⟨found, foundLater⟩⟩
      intro callback
      dsimp only
      rw [List.flatMap_cons, ← List.append_assoc]
      exact ((heard callback).append_right _).trans (others callback)

theorem Watched.of_unobserved {store : Store}
    (named : session.objects.lookup name = some (.store number))
    (there : session.host.exchange.store? number = some store) (isOpen : store.isOpen = true)
    (unobserved : store.registrations = []) (recording : session.Recording)
    (noHandles : ∀ handle index, session.objects.lookup handle ≠ some (.subscription index) ∧
      session.objects.lookup handle ≠ some (.group index)) :
    session.Watched name number session.host.exchange.subscriptions [] := by
  refine ⟨named, recording, ⟨store, there, isOpen, ?_⟩, (List.append_nil _).symm, ?_, ?_⟩
  · rw [unobserved]
    exact List.Perm.refl _
  · intro handle index
    constructor
    · intro found
      exact absurd found (noHandles handle index).1
    · nofun
  · intro handle index
    exact (noHandles handle index).2

/-- Observers of a store hear every change exactly once. Whatever is observed, ended, set
and unset on a store: in the store each callback is registered for each setting as often
as there are observations of it that have not ended, no registration is ever missing when
an observation ends, and each callback is called with the values that it has to hear in
its observations and with nothing else. -/
theorem observers_hear_changes_once (session : Session) (name : String) (number : Nat)
    (store : Store) (bound : Nat) (steps : List Step)
    (named : session.objects.lookup name = some (.store number))
    (there : session.host.exchange.store? number = some store)
    (isOpen : store.isOpen = true) (unobserved : store.registrations = [])
    (recording : session.Recording) (quiet : session.seen = [])
    (noHandles : ∀ handle index, session.objects.lookup handle ≠ some (.subscription index) ∧
      session.objects.lookup handle ≠ some (.group index))
    (watches : ∀ step ∈ steps, step.Watches name) :
    let run := session.runFrom (bound + 1) steps
    let observations := session.watchFrom (bound + 1) name [] steps
    (∃ left, run.2.host.exchange.store? number = some left ∧
      ∀ setting callback, (left.observers setting).count (.named callback) =
        observations.countP fun observation =>
          observation.setting = setting ∧ observation.callback = callback ∧
            observation.ended = false) ∧
      (∀ entry ∈ run.1, entry.result ≠ .error .notRegistered) ∧
      ∀ callback, (run.1.flatMap (Callback.valuesIn callback ·.seen)).Perm
        (Observation.heardBy callback observations) := by
  have watched := Watched.of_unobserved named there isOpen unobserved recording noHandles
  rcases watched.runFrom quiet bound watches with ⟨kept, heard, found⟩
  refine ⟨?_, found, heard⟩
  rcases kept.registered with ⟨left, used, -, registered⟩
  refine ⟨left, used, ?_⟩
  intro setting callback
  rw [Store.count_observers, registered.count_eq, Observation.count_registrations]

/-- A session that has opened a store. -/
def withStore : Session :=
  ((start "/s").advance 1 (.openStore "s" (some "d"))).2

theorem withStore_objects : withStore.objects = [("s", .store 0)] := by rfl

theorem withStore_store? :
    withStore.host.exchange.store? 0 = some (.opened "/s/d" "/s/d" false) := by
  decide +kernel

theorem withStore_recording : withStore.Recording := by
  have idle : withStore.behaviors = [] := by rfl
  rw [Recording, idle]
  exact nofun

theorem withStore_noHandles (handle : String) (index : Nat) :
    withStore.objects.lookup handle ≠ some (.subscription index) ∧
      withStore.objects.lookup handle ≠ some (.group index) := by
  rw [withStore_objects, List.lookup_cons]
  split
  · exact ⟨nofun, nofun⟩
  · exact ⟨nofun, nofun⟩

/-- A callback observes a setting twice, and one of the observations ends early. -/
def watchingTwice : List Step :=
  [.observe "s" "linter-pylint.workingDirectory" "f" "first" [] 0 none,
    .set "s" "linter-pylint.workingDirectory" (.text "x:y"),
    .observe "s" "linter-pylint.workingDirectory" "f" "second" [] 0 none,
    .dispose "first",
    .dispose "first",
    .unset "s" "linter-pylint.workingDirectory"]

/-- The first observation hears two values and the second one two, and the second one is
all that is left in the store. -/
theorem observers_hear_changes_once_twice :
    withStore.objects.lookup "s" = some (.store 0) ∧
      withStore.host.exchange.store? 0 = some (.opened "/s/d" "/s/d" false) ∧
      withStore.Recording ∧ withStore.seen = [] ∧
      (∀ handle index, withStore.objects.lookup handle ≠ some (.subscription index) ∧
        withStore.objects.lookup handle ≠ some (.group index)) ∧
      (∀ step ∈ watchingTwice, step.Watches "s") ∧
      (∃ left, (withStore.runFrom 1 watchingTwice).2.host.exchange.store? 0 = some left ∧
        (left.observers .workingDirectory).count (.named "f") = 1) ∧
      ((withStore.runFrom 1 watchingTwice).1.flatMap (Callback.valuesIn "f" ·.seen)).Perm
        [some "xy", some "%p", some "%p", some "xy"] := by
  have named : withStore.objects.lookup "s" = some (.store 0) := by
    rw [withStore_objects]
    rfl
  have quiet : withStore.seen = [] := by rfl
  have watches : ∀ step ∈ watchingTwice, step.Watches "s" := by
    intro step there
    simp only [watchingTwice, List.mem_cons, List.not_mem_nil, or_false] at there
    rcases there with rfl | rfl | rfl | rfl | rfl | rfl
    · exact .observe _ _ _ _ (by decide)
    · exact .set _ _
    · exact .observe _ _ _ _ (by decide)
    · exact .dispose _
    · exact .dispose _
    · exact .unset _
  refine ⟨named, withStore_store?, withStore_recording, quiet, withStore_noHandles, watches, ?_⟩
  have told := observers_hear_changes_once withStore "s" 0 _ 0 watchingTwice named
    withStore_store? rfl rfl withStore_recording quiet withStore_noHandles watches
  rw [Nat.zero_add] at told
  rcases told with ⟨⟨left, used, counts⟩, -, heard⟩
  have standing : (withStore.watchFrom 1 "s" [] watchingTwice).countP (fun observation =>
      observation.setting = .workingDirectory ∧ observation.callback = "f" ∧
        observation.ended = false) = 1 := by
    decide +kernel
  have values : Observation.heardBy "f" (withStore.watchFrom 1 "s" [] watchingTwice) =
      [some "xy", some "%p", some "%p", some "xy"] := by
    decide +kernel
  refine ⟨⟨left, used, ?_⟩, ?_⟩
  · rw [counts]
    exact standing
  · rw [← values]
    exact heard "f"

end Session

end LintBridge
