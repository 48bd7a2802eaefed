import LintBridge.Proofs.Session.Observers
import LintBridge.Proofs.Session.Reentry
import Mathlib.Data.List.Perm.Subperm

/-!
# The order of calls

Observers are called in the order in which their callbacks are registered. The end of an
observation takes away the first registration of its callback, which need not be its own.
So of each callback it is the last observations that count, however many have ended, and
the calls are in the order of the observations that have not ended as long as no end of an
observation makes another callback change places with an equal one.
-/

namespace LintBridge

/-! ## Entries that are taken away -/

theorem concat_eq_cons_iff (items : List String) (item : String) :
    items ++ [item] = item :: items ↔ ∀ other ∈ items, other = item := by
  induction items with
  | nil => simp
  | cons first items ih =>
      rw [List.cons_append, List.cons.injEq, List.forall_mem_cons]
      constructor
      · rintro ⟨rfl, same⟩
        exact ⟨rfl, ih.mp same⟩
      · rintro ⟨rfl, same⟩
        exact ⟨rfl, ih.mpr same⟩

/-- Taking away the first entry of a kind comes to the same as taking away a later one if
there are only equal ones between them. -/
theorem erase_append_cons_iff (earlier later : List String) (item : String) :
    (earlier ++ item :: later).erase item = earlier ++ later ↔
      ∀ other ∈ earlier.dropWhile (· ≠ item), other = item := by
  induction earlier with
  | nil => simp
  | cons first earlier ih =>
      by_cases same : first = item
      · subst same
        rw [List.cons_append, List.erase_cons_head, List.dropWhile_cons_of_neg (by simp),
          List.forall_mem_cons, List.append_cons, List.append_left_inj, concat_eq_cons_iff]
        exact (and_iff_right rfl).symm
      · rw [List.cons_append, List.erase_cons_tail (by simpa using same), List.cons_append,
          List.cons.injEq, List.dropWhile_cons_of_pos (by simpa using same), ih]
        exact and_iff_right rfl

theorem diff_concat {items left : List String} (within : left.Subperm items) (item : String) :
    (items ++ [item]).diff left = items.diff left ++ [item] := by
  induction left generalizing items with
  | nil => rfl
  | cons first left ih =>
      have there : first ∈ items := within.subset List.mem_cons_self
      have rest := within.erase first
      rw [List.erase_cons_head] at rest
      rw [List.diff_cons, List.diff_cons, List.erase_append_left _ there, ih rest]

theorem Store.observers_erase (store : Store) (setting query : Setting) (callback : Callback) :
    observers { store with registrations := store.registrations.erase (setting, callback) }
        query =
      if query = setting then (store.observers query).erase callback
      else store.observers query := by
  rw [observers, observers]
  dsimp only
  induction store.registrations with
  | nil => simp
  | cons registration others ih =>
      by_cases same : registration = (setting, callback)
      · subst same
        by_cases here : query = setting
        · simp [here]
        · simp [here, Ne.symm here]
      · rw [List.erase_cons_tail (by simpa using same)]
        by_cases observes : registration.1 = query
        · rw [List.filter_cons_of_pos (by simpa using observes),
            List.filter_cons_of_pos (by simpa using observes), List.map_cons, List.map_cons, ih]
          by_cases here : query = setting
          · have different : registration.2 ≠ callback := fun equal =>
              same (Prod.ext (observes.trans here) equal)
            rw [if_pos here, if_pos here, List.erase_cons_tail (by simpa using different)]
          · rw [if_neg here, if_neg here]
        · rw [List.filter_cons_of_neg (by simpa using observes),
            List.filter_cons_of_neg (by simpa using observes), ih]

namespace Observation

/-! ## Lists of callbacks -/

/-- The callbacks of some observations, in the order in which these have begun. -/
def callbacks (select : Observation → Bool) (observations : List Observation) : List String :=
  ((observations.filter select).map (·.callback)).reverse

/-- The callbacks of all observations of a setting. -/
def begun (setting : Setting) : List Observation → List String :=
  callbacks fun observation => observation.setting = setting

/-- The callbacks of the observations of a setting that have ended. -/
def finished (setting : Setting) : List Observation → List String :=
  callbacks fun observation => observation.setting = setting && observation.ended

/-- The callbacks of the observations of a setting that have not ended. -/
def standing (setting : Setting) : List Observation → List String :=
  callbacks fun observation => observation.setting = setting && !observation.ended

/-- The callbacks of the observations of a setting, without the first ones of each callback,
as many as have ended. -/
def remaining (setting : Setting) (observations : List Observation) : List String :=
  (begun setting observations).diff (finished setting observations)

/-- Between the observation that ends with a handle and the first of its callback that has
not ended there is no observation of the setting with another callback. -/
def EndsInPlace (handle : String) : List Observation → Prop
  | [] => True
  | observation :: earlier =>
      if observation.handle = handle then
        observation.ended = false →
          ∀ callback ∈ (standing observation.setting earlier).dropWhile (· ≠ observation.callback),
            callback = observation.callback
      else EndsInPlace handle earlier

instance EndsInPlace.decidable (handle : String) :
    (observations : List Observation) → Decidable (EndsInPlace handle observations)
  | [] => .isTrue trivial
  | observation :: earlier =>
      have : Decidable (EndsInPlace handle earlier) := decidable handle earlier
      inferInstanceAs (Decidable (if observation.handle = handle then
          observation.ended = false →
            ∀ callback ∈
              (standing observation.setting earlier).dropWhile (· ≠ observation.callback),
              callback = observation.callback
        else EndsInPlace handle earlier))

variable {setting : Setting} {observations later earlier : List Observation}
  {observation : Observation}

theorem callbacks_append (select : Observation → Bool) (later earlier : List Observation) :
    callbacks select (later ++ earlier) = callbacks select earlier ++ callbacks select later := by
  simp [callbacks]

theorem callbacks_cons (select : Observation → Bool) (observation : Observation)
    (earlier : List Observation) :
    callbacks select (observation :: earlier) =
      callbacks select earlier ++ if select observation then [observation.callback] else [] := by
  cases selected : select observation <;> simp [callbacks, selected]

/-- Only what is observed by whom matters, and what has ended. -/
theorem callbacks_map_hear (select : Observation → Bool)
    (blind : ∀ observation heard, select { observation with heard } = select observation)
    (setting : Setting) (value? : Option String) (observations : List Observation) :
    callbacks select (observations.map (hear setting value?)) = callbacks select observations := by
  induction observations with
  | nil => rfl
  | cons observation earlier ih =>
      have same : select (hear setting value? observation) = select observation ∧
          (hear setting value? observation).callback = observation.callback := by
        rw [hear]
        split
        · exact ⟨blind _ _, rfl⟩
        · exact ⟨rfl, rfl⟩
      rw [List.map_cons, callbacks_cons, callbacks_cons, ih, same.1, same.2]

theorem remaining_map_hear (query : Setting) (value? : Option String) :
    remaining setting (observations.map (hear query value?)) = remaining setting observations := by
  rw [remaining, begun, finished, callbacks_map_hear _ (fun _ _ => rfl),
    callbacks_map_hear _ (fun _ _ => rfl)]
  rfl

theorem standing_map_hear (query : Setting) (value? : Option String) :
    standing setting (observations.map (hear query value?)) = standing setting observations :=
  callbacks_map_hear _ (fun _ _ => rfl) query value? observations

theorem finished_subperm_begun (setting : Setting) (observations : List Observation) :
    (finished setting observations).Subperm (begun setting observations) := by
  apply List.Sublist.subperm
  apply List.Sublist.reverse
  apply List.Sublist.map
  apply List.monotone_filter_right
  intro observation selected
  exact (Bool.and_eq_true_iff.mp selected).1

theorem remaining_cons (standing : observation.ended = false) (setting : Setting)
    (earlier : List Observation) :
    remaining setting (observation :: earlier) =
      remaining setting earlier ++
        if observation.setting = setting then [observation.callback] else [] := by
  rw [remaining, begun, finished, callbacks_cons, callbacks_cons, standing]
  by_cases same : observation.setting = setting
  · simp only [same, decide_true, if_true, Bool.and_false, Bool.false_eq_true, if_false,
      List.append_nil]
    exact diff_concat (finished_subperm_begun setting earlier) observation.callback
  · simp [same, remaining, begun, finished]

theorem standing_cons (standing : observation.ended = false) (setting : Setting)
    (earlier : List Observation) :
    Observation.standing setting (observation :: earlier) =
      Observation.standing setting earlier ++
        if observation.setting = setting then [observation.callback] else [] := by
  rw [Observation.standing, callbacks_cons, standing]
  by_cases same : observation.setting = setting <;> simp [same]

/-! ## The end of an observation -/

/-- The end of an observation takes away the first of its callback. -/
theorem remaining_finish (standing : observation.ended = false) (setting : Setting)
    (later earlier : List Observation) :
    remaining setting (later ++ { observation with ended := true } :: earlier) =
      if setting = observation.setting then
        (remaining setting (later ++ observation :: earlier)).erase observation.callback
      else remaining setting (later ++ observation :: earlier) := by
  have same : begun setting (later ++ { observation with ended := true } :: earlier) =
      begun setting (later ++ observation :: earlier) := by
    simp only [begun, callbacks_append, callbacks_cons]
  rw [remaining, same, remaining]
  split
  · rename_i here
    have more : (finished setting (later ++ { observation with ended := true } :: earlier)).Perm
        (observation.callback :: finished setting (later ++ observation :: earlier)) := by
      simp only [finished, callbacks_append, callbacks_cons, here, standing]
      simp [List.perm_middle]
    rw [List.Perm.diff_left _ more, List.diff_cons_right]
  · rename_i elsewhere
    have unchanged : finished setting (later ++ { observation with ended := true } :: earlier) =
        finished setting (later ++ observation :: earlier) := by
      simp [finished, callbacks_append, callbacks_cons, Ne.symm elsewhere]
    rw [unchanged]

theorem finish_eq_or (handle : String) (observations : List Observation) :
    (finish handle observations = observations ∧ EndsInPlace handle observations) ∨
      ∃ later observation earlier, observations = later ++ observation :: earlier ∧
        observation.ended = false ∧
        finish handle observations = later ++ { observation with ended := true } :: earlier ∧
        (EndsInPlace handle observations ↔
          ∀ callback ∈ (standing observation.setting earlier).dropWhile
            (· ≠ observation.callback), callback = observation.callback) := by
  induction observations with
  | nil => exact .inl ⟨rfl, trivial⟩
  | cons observation earlier ih =>
      rw [finish, EndsInPlace]
      by_cases same : observation.handle = handle
      · simp only [if_pos same]
        cases ended : observation.ended with
        | true =>
            refine .inl ⟨?_, fun standing => Bool.noConfusion standing⟩
            rw [← ended]
        | false => exact .inr ⟨[], observation, earlier, rfl, ended, rfl, forall_prop_of_true rfl⟩
      · simp only [if_neg same]
        rcases ih with ⟨unchanged, inPlace⟩ | ⟨later, last, before, rfl, standing, finished, iff⟩
        · exact .inl ⟨by rw [unchanged], inPlace⟩
        · exact .inr ⟨observation :: later, last, before, rfl, standing, by rw [finished]; rfl, iff⟩

theorem finish_of_indexOf?_eq_none {handle : String}
    (unknown : indexOf? handle observations = none) :
    finish handle observations = observations := by
  induction observations with
  | nil => rfl
  | cons observation earlier ih =>
      rw [indexOf?] at unknown
      rw [finish]
      split at unknown
      · cases unknown
      · rename_i different
        rw [if_neg different, ih unknown]

/-- If of each callback the first observations are those that have ended, then an observation
may end without disorder exactly if it ends in place. -/
theorem inOrder_finish_iff
    (inOrder : ∀ setting, remaining setting observations = standing setting observations)
    (handle : String) :
    (∀ setting, remaining setting (finish handle observations) =
        standing setting (finish handle observations)) ↔
      EndsInPlace handle observations := by
  rcases finish_eq_or handle observations with
    ⟨unchanged, inPlace⟩ | ⟨later, observation, earlier, rfl, stands, finished, iff⟩
  · rw [unchanged]
    exact iff_of_true inOrder inPlace
  · have before : ∀ setting, standing setting (later ++ observation :: earlier) =
        standing setting earlier ++ (if observation.setting = setting then
          [observation.callback] else []) ++ standing setting later := by
      intro setting
      rw [standing, callbacks_append]
      exact congrArg (· ++ _) (standing_cons stands setting earlier)
    have after : ∀ setting,
        standing setting (later ++ { observation with ended := true } :: earlier) =
          standing setting earlier ++ standing setting later := by
      intro setting
      simp [standing, callbacks_append, callbacks_cons]
    rw [finished, iff, ← erase_append_cons_iff _ (standing observation.setting later)]
    constructor
    · intro still
      have here := still observation.setting
      rw [remaining_finish stands, if_pos rfl, inOrder, before, after, if_pos rfl] at here
      simpa using here
    · intro same setting
      rw [remaining_finish stands, inOrder, before, after]
      split
      · rename_i here
        subst here
        simpa using same
      · rename_i elsewhere
        simp [Ne.symm elsewhere]

end Observation

namespace Session

variable {session : Session} {name : String} {number : Nat} {others : List Subscription}
  {observations : List Observation}

/-- The callbacks that are registered are, in order, those of the last observations of each
callback. -/
def Lists (session : Session) (number : Nat) (observations : List Observation) : Prop :=
  ∀ store, session.host.exchange.store? number = some store → ∀ setting,
    store.observers setting = (Observation.remaining setting observations).map .named

/-- Whatever setting is changed now, the callbacks that are called are those of the
observations of the setting that have not ended, in the order in which these have begun. -/
def CallsInOrder (session : Session) (bound : Nat) (name : String)
    (observations : List Observation) : Prop :=
  ∀ step setting, step.Changes name → step.setting? = some setting →
    (session.advance bound step).1.result.isOk →
    (session.advance bound step).1.seen.map (·.1) = Observation.standing setting observations

/-! ## One step -/

/-- What a change leaves behind when callbacks only take down values: all observers have
been called, in the order of their registrations. -/
theorem Watched.attempt_of_changes (watched : session.Watched name number others observations)
    (bound : Nat) {step : Step} (changes : step.Changes name) :
    (∃ fault, session.attempt (perform (bound + 1) step) = (.error fault, session)) ∨
      ∃ store setting value after, step.setting? = some setting ∧
        session.host.exchange.store? number = some store ∧
        session.attempt (perform (bound + 1) step) = (.ok .done, after) ∧
        after.host.exchange.store? number = some store ∧
        after.seen = session.seen ++ (store.observers setting).flatMap (·.heard value) := by
  rcases watched.registered with ⟨store, there, isOpen, -⟩
  rcases Session.attempt_of_changes changes session bound with
    failed | ⟨number', store', setting, value?, named', there', known, ran⟩
  · exact .inl failed
  cases watched.named.symm.trans named'
  cases there.symm.trans there'
  have same : { store with isOpen := true } = store := by rw [← isOpen]
  rw [same] at ran
  have told : (session.changed number store setting value?).Recording := watched.recording
  rcases told.deliver (perform bound) _ with ⟨behaviors, -, delivered⟩
  refine .inr ⟨store, setting, _, _, known, there,
    ran.trans (attempt_bind_of_ok delivered _), ?_, rfl⟩
  have inside := (List.getElem?_eq_some_iff.mp there).1
  exact List.getElem?_set_self inside

theorem map_fst_flatMap_heard (callbacks : List String) (value : String) :
    ((callbacks.map Callback.named).flatMap (·.heard value)).map (·.1) = callbacks := by
  induction callbacks with
  | nil => rfl
  | cons callback callbacks ih =>
      rw [List.map_cons, List.flatMap_cons, List.map_append, ih]
      rfl

/-- A change calls, in order, the last observers of each callback. -/
theorem Watched.seen_of_changes (watched : session.Watched name number others observations)
    (lists : session.Lists number observations) (quiet : session.seen = []) (bound : Nat)
    {step : Step} (changes : step.Changes name) {setting : Setting}
    (known : step.setting? = some setting)
    (succeeded : (session.advance (bound + 1) step).1.result.isOk) :
    (session.advance (bound + 1) step).1.seen.map (·.1) =
      Observation.remaining setting observations := by
  rcases watched.attempt_of_changes bound changes with
    ⟨fault, ran⟩ | ⟨store, changed, value, after, same, there, ran, -, seen⟩
  · rw [advance_of_attempt session ran] at succeeded
    cases succeeded
  · cases known.symm.trans same
    rw [advance_of_attempt session ran]
    dsimp only
    rw [seen, quiet, lists store there, List.nil_append, map_fst_flatMap_heard]

/-- A setting can always be changed: its default can be restored. -/
theorem Watched.result_unset (watched : session.Watched name number others observations)
    (quiet : session.seen = []) (bound : Nat) (setting : Setting) :
    (session.advance (bound + 1) (.unset name setting.key)).1.result.isOk := by
  rcases watched.change quiet (perform bound)
    (Host.perform_unsetSetting_of_known (Setting.ofKey?_key setting)) with ⟨after, -, ran, -⟩
  have done : session.attempt (perform (bound + 1) (.unset name setting.key)) =
      (.ok .done, after) :=
    (attempt_unsetSetting watched.named bound setting.key).trans ran
  rw [advance_of_attempt session done]
  rfl

theorem Watched.callsInOrder_iff (watched : session.Watched name number others observations)
    (lists : session.Lists number observations) (quiet : session.seen = []) (bound : Nat) :
    session.CallsInOrder (bound + 1) name observations ↔
      ∀ setting, Observation.remaining setting observations =
        Observation.standing setting observations := by
  constructor
  · intro inOrder setting
    have succeeded := watched.result_unset quiet bound setting
    have known : Step.setting? (.unset name setting.key) = some setting :=
      Setting.ofKey?_key setting
    rw [← watched.seen_of_changes lists quiet bound (.unset setting.key) known succeeded]
    exact inOrder _ setting (.unset setting.key) known succeeded
  · intro same step setting changes known succeeded
    rw [← same]
    exact watched.seen_of_changes lists quiet bound changes known succeeded

theorem watch_of_changes {step : Step} (changes : step.Changes name) (session : Session)
    (bound : Nat) (observations : List Observation) :
    session.watch bound name step observations = observations ∨
      ∃ setting value?, session.watch bound name step observations =
        observations.map (Observation.hear setting value?) := by
  have watched : session.watch bound name step observations = _ := watch.eq_def ..
  generalize session.advance bound step = moment at watched
  obtain ⟨⟨result, seen, log⟩, after⟩ := moment
  rw [watched]
  cases result with
  | error fault => exact .inl rfl
  | ok reply =>
      cases changes with
      | set key value =>
          dsimp only
          cases Setting.ofKey? key with
          | none => exact .inl rfl
          | some setting => exact .inr ⟨setting, _, rfl⟩
      | unset key =>
          dsimp only
          cases Setting.ofKey? key with
          | none => exact .inl rfl
          | some setting => exact .inr ⟨setting, _, rfl⟩

theorem watch_observe (session : Session) (bound : Nat) (key callback handle : String)
    (steps : List Step) (actAt : Nat) (failAt? : Option Nat) (observations : List Observation) :
    let left := session.watch bound name
      (.observe name key callback handle steps actAt failAt?) observations
    left = observations ∨
      ∃ observation, observation.ended = false ∧ left = observation :: observations := by
  intro left
  have watched : left = _ := watch.eq_def ..
  generalize session.advance bound _ = moment at watched
  obtain ⟨⟨result, seen, log⟩, after⟩ := moment
  rw [watched]
  cases result with
  | error fault => exact .inl rfl
  | ok reply =>
      dsimp only
      cases Setting.ofKey? key with
      | none => exact .inl rfl
      | some setting => exact .inr ⟨_, rfl, rfl⟩

theorem remaining_watch {step : Step} (changes : step.Changes name) (session : Session)
    (bound : Nat) (observations : List Observation) (setting : Setting) :
    Observation.remaining setting (session.watch bound name step observations) =
      Observation.remaining setting observations := by
  rcases watch_of_changes changes session bound observations with same | ⟨query, value?, hears⟩
  · rw [same]
  · rw [hears, Observation.remaining_map_hear]

theorem standing_watch {step : Step} (changes : step.Changes name) (session : Session)
    (bound : Nat) (observations : List Observation) (setting : Setting) :
    Observation.standing setting (session.watch bound name step observations) =
      Observation.standing setting observations := by
  rcases watch_of_changes changes session bound observations with same | ⟨query, value?, hears⟩
  · rw [same]
  · rw [hears, Observation.standing_map_hear]

theorem Watched.watch_dispose (watched : session.Watched name number others observations)
    (bound : Nat) (handle : String) :
    session.watch (bound + 1) name (.dispose handle) observations =
      Observation.finish handle observations := by
  rcases watched.attempt_dispose bound handle with
    ⟨fault, unknown, -, ran⟩ | ⟨position, exchange, -, -, ran, -⟩
  · rw [watch, advance_of_attempt session ran, Observation.finish_of_indexOf?_eq_none unknown]
  · rw [watch, advance_of_attempt session ran]

/-- Only the end of an observation, and only if it is not in place, brings disorder. -/
theorem Watched.inOrder_watch_iff (watched : session.Watched name number others observations)
    (inOrder : ∀ setting, Observation.remaining setting observations =
      Observation.standing setting observations)
    (bound : Nat) {step : Step} (watches : step.Watches name) :
    (∀ setting,
        Observation.remaining setting (session.watch (bound + 1) name step observations) =
          Observation.standing setting (session.watch (bound + 1) name step observations)) ↔
      ∀ handle, step = .dispose handle → Observation.EndsInPlace handle observations := by
  cases watches with
  | observe key callback handle actAt other =>
      refine iff_of_true (fun setting => ?_) nofun
      rcases watch_observe session (bound + 1) key callback handle [] actAt none observations with
        same | ⟨observation, standing, begins⟩
      · rw [same, inOrder]
      · rw [begins, Observation.remaining_cons standing, Observation.standing_cons standing,
          inOrder]
  | dispose handle =>
      rw [watched.watch_dispose, Observation.inOrder_finish_iff inOrder]
      constructor
      · rintro inPlace _ ⟨⟩
        exact inPlace
      · exact fun inPlace => inPlace handle rfl
  | set key value =>
      refine iff_of_true (fun setting => ?_) nofun
      rw [remaining_watch (.set key value), standing_watch (.set key value), inOrder]
  | unset key =>
      refine iff_of_true (fun setting => ?_) nofun
      rw [remaining_watch (.unset key), standing_watch (.unset key), inOrder]

theorem Watched.lists_finish (watched : session.Watched name number others observations)
    (lists : session.Lists number observations) {handle : String} {position : Nat}
    (located : Observation.indexOf? handle observations = some position) {exchange : Exchange}
    (undone : session.host.exchange.dispose (others.length + position) = (true, exchange)) :
    Lists { session with host := { session.host with exchange } } number
      (Observation.finish handle observations) := by
  rcases Observation.indexOf?_eq_some located with
    ⟨later, observation, earlier, rfl, rfl, finished⟩
  have there := watched.getElem?_subscriptions
  rcases Exchange.dispose_cases session.host.exchange (others.length + earlier.length) with
    ⟨nothing, ended⟩ | ⟨subscription, found, standing, failed | ⟨store, used, -, removed⟩⟩
  · have same : { observation with ended := true } = observation := by
      have ended : observation.ended = true := ended _ there
      rw [← ended]
    cases undone.symm.trans nothing
    rw [finished, same]
    exact lists
  · cases undone.symm.trans failed
  · cases there.symm.trans found
    cases undone.symm.trans removed
    intro left used' setting
    have inside := (List.getElem?_eq_some_iff.mp used).1
    cases used'.symm.trans (List.getElem?_set_self inside)
    rw [finished, Observation.remaining_finish standing, Store.observers_erase,
      lists store used setting]
    split
    · rename_i here
      rw [if_pos (show setting = observation.setting from here),
        List.map_erase fun _ _ same => by injection same]
      rfl
    · rename_i elsewhere
      rw [if_neg (show ¬setting = observation.setting from elsewhere)]

theorem Watched.lists_changes (watched : session.Watched name number others observations)
    (lists : session.Lists number observations) (bound : Nat) {step : Step}
    (changes : step.Changes name) :
    (session.advance (bound + 1) step).2.Lists number
      (session.watch (bound + 1) name step observations) := by
  have registered : ∀ store,
      (session.advance (bound + 1) step).2.host.exchange.store? number = some store →
        session.host.exchange.store? number = some store := by
    intro store used
    rcases watched.attempt_of_changes bound changes with
      ⟨fault, ran⟩ | ⟨left, _, value, after, -, there, ran, kept, -⟩
    · rwa [advance_of_attempt session ran] at used
    · rw [advance_of_attempt session ran] at used
      exact there.trans (kept.symm.trans used)
  intro store used setting
  rw [lists store (registered store used) setting, remaining_watch changes]

/-- What one step leaves registered. -/
theorem Watched.lists_watch (watched : session.Watched name number others observations)
    (lists : session.Lists number observations) (bound : Nat) {step : Step}
    (watches : step.Watches name) :
    (session.advance (bound + 1) step).2.Lists number
      (session.watch (bound + 1) name step observations) := by
  cases watches with
  | dispose handle =>
      rw [watched.watch_dispose]
      rcases watched.attempt_dispose bound handle with
        ⟨fault, unknown, -, ran⟩ | ⟨position, exchange, located, undone, ran, -⟩
      · rw [advance_of_attempt session ran, Observation.finish_of_indexOf?_eq_none unknown]
        exact lists
      · rw [advance_of_attempt session ran]
        exact watched.lists_finish lists located undone
  | observe key callback handle actAt other =>
      cases known : Setting.ofKey? key with
      | none =>
          rcases attempt_observe_of_unknown watched.recording watched.named known bound callback
            handle actAt with ⟨behaviors, -, ran⟩
          rw [watch, advance_of_attempt session ran]
          exact lists
      | some setting =>
          rcases watched.registered with ⟨store, there, isOpen, -⟩
          rcases attempt_observe_of_isOpen watched.recording watched.named there isOpen known
            bound callback handle actAt with ⟨behaviors, -, ran⟩
          rw [watch, advance_of_attempt session ran]
          dsimp only
          rw [known]
          intro left used query
          have inside := (List.getElem?_eq_some_iff.mp there).1
          cases used.symm.trans (List.getElem?_set_self inside)
          rw [Store.observers_register, Observation.remaining_cons rfl, lists store there query]
          split
          · rw [List.map_append]
            rfl
          · rw [List.append_nil]
  | set key value => exact watched.lists_changes lists bound (.set key value)
  | unset key => exact watched.lists_changes lists bound (.unset key)

/-! ## Runs -/

theorem Watched.lists_runFrom (watched : session.Watched name number others observations)
    (lists : session.Lists number observations) (quiet : session.seen = []) (bound : Nat)
    {steps : List Step} (watches : ∀ step ∈ steps, step.Watches name) :
    (session.runFrom (bound + 1) steps).2.Lists number
      (session.watchFrom (bound + 1) name observations steps) := by
  induction steps generalizing session observations with
  | nil => exact lists
  | cons step steps ih =>
      rcases List.forall_mem_cons.mp watches with ⟨first, later⟩
      rw [runFrom_cons]
      exact ih (watched.advance quiet bound first).1 (watched.lists_watch lists bound first)
        (quiet_advance session _ step) later

theorem quiet_runFrom (quiet : session.seen = []) (bound : Nat) (steps : List Step) :
    (session.runFrom bound steps).2.seen = [] := by
  induction steps generalizing session with
  | nil => exact quiet
  | cons step steps ih =>
      rw [runFrom_cons]
      exact ih (quiet_advance session bound step)

/-- As long as every observation ends in place, of each callback the first observations are
those that have ended, and no longer. -/
theorem Watched.inOrder_watchFrom_iff (watched : session.Watched name number others observations)
    (quiet : session.seen = []) (bound : Nat)
    (inOrder : ∀ setting, Observation.remaining setting observations =
      Observation.standing setting observations)
    {steps : List Step} (watches : ∀ step ∈ steps, step.Watches name) :
    (∀ earlier later, steps = earlier ++ later → ∀ setting,
        Observation.remaining setting
            (session.watchFrom (bound + 1) name observations earlier) =
          Observation.standing setting
            (session.watchFrom (bound + 1) name observations earlier)) ↔
      ∀ earlier handle later, steps = earlier ++ .dispose handle :: later →
        Observation.EndsInPlace handle
          (session.watchFrom (bound + 1) name observations earlier) := by
  induction steps generalizing session observations with
  | nil =>
      refine iff_of_true (fun earlier later split => ?_) fun earlier handle later split => ?_
      · rw [(List.append_eq_nil_iff.mp split.symm).1]
        exact inOrder
      · cases (List.append_eq_nil_iff.mp split.symm).2
  | cons step steps ih =>
      rcases List.forall_mem_cons.mp watches with ⟨first, others⟩
      have kept := (watched.advance quiet bound first).1
      have here := watched.inOrder_watch_iff inOrder bound first
      have rest := fun inOrder => ih kept (quiet_advance session _ step) inOrder others
      constructor
      · intro all earlier handle later split
        have next := all [step] steps rfl
        rcases List.cons_eq_append_iff.mp split with ⟨rfl, same⟩ | ⟨middle, rfl, tail⟩
        · exact here.mp next handle (List.cons.inj same).1.symm
        · refine (rest next).mp (fun before after same => ?_) middle handle later tail
          exact all (step :: before) after (congrArg (step :: ·) same)
      · intro inPlace earlier later split
        rcases List.cons_eq_append_iff.mp split with ⟨rfl, -⟩ | ⟨middle, rfl, tail⟩
        · exact inOrder
        · have next := here.mpr fun handle same =>
            inPlace [] handle steps (congrArg (· :: steps) same)
          refine (rest next).mpr (fun before handle after same => ?_) middle later tail
          exact inPlace (step :: before) handle after (congrArg (step :: ·) same)

/-- The order of calls. Whatever is observed, ended, set and unset on a store, a change calls
the callbacks of the last observations of each callback, as many as have not ended, in the
order in which these have begun. All changes that may be made in the course of some steps
call the callbacks of the observations that have not ended, in the order in which these
have begun, exactly if every observation that ends does so in place. -/
theorem calls_in_order_iff (session : Session) (name : String) (number : Nat)
    (store : Store) (bound : Nat) (steps : List Step)
    (named : session.objects.lookup name = some (.store number))
    (there : session.host.exchange.store? number = some store)
    (isOpen : store.isOpen = true) (unobserved : store.registrations = [])
    (recording : session.Recording) (quiet : session.seen = [])
    (noHandles : ∀ handle index, session.objects.lookup handle ≠ some (.subscription index) ∧
      session.objects.lookup handle ≠ some (.group index))
    (watches : ∀ step ∈ steps, step.Watches name) :
    (∀ change setting, change.Changes name → change.setting? = some setting →
        ((session.runFrom (bound + 1) steps).2.advance (bound + 1) change).1.result.isOk →
        ((session.runFrom (bound + 1) steps).2.advance (bound + 1) change).1.seen.map (·.1) =
          Observation.remaining setting (session.watchFrom (bound + 1) name [] steps)) ∧
      ((∀ earlier later, steps = earlier ++ later →
          (session.runFrom (bound + 1) earlier).2.CallsInOrder (bound + 1) name
            (session.watchFrom (bound + 1) name [] earlier)) ↔
        ∀ earlier handle later, steps = earlier ++ .dispose handle :: later →
          Observation.EndsInPlace handle
            (session.watchFrom (bound + 1) name [] earlier)) := by
  have watched := Watched.of_unobserved named there isOpen unobserved recording noHandles
  have lists : session.Lists number [] := by
    intro other used setting
    cases there.symm.trans used
    rw [Store.observers, unobserved]
    rfl
  have leaves : ∀ {earlier later}, steps = earlier ++ later →
      let after := (session.runFrom (bound + 1) earlier).2
      let left := session.watchFrom (bound + 1) name [] earlier
      after.Watched name number session.host.exchange.subscriptions left ∧
        after.Lists number left ∧ after.seen = [] := by
    rintro earlier later rfl
    have begins := fun step member => watches step (List.mem_append_left later member)
    exact ⟨(watched.runFrom quiet bound begins).1, watched.lists_runFrom lists quiet bound begins,
      quiet_runFrom quiet (bound + 1) earlier⟩
  constructor
  · intro change setting changes known succeeded
    rcases leaves (List.append_nil steps).symm with ⟨watched, lists, quiet⟩
    exact watched.seen_of_changes lists quiet bound changes known succeeded
  · rw [← watched.inOrder_watchFrom_iff quiet bound (fun _ => rfl) watches]
    apply forall_congr'
    intro earlier
    apply forall_congr'
    intro later
    apply forall_congr'
    intro split
    rcases leaves split with ⟨watched, lists, quiet⟩
    exact watched.callsInOrder_iff lists quiet bound

/-- Two observations with one callback end, with another observation between them: first the
one that began first, and then the other. -/
def endingInTurn : List Step :=
  [.observe "s" "linter-pylint.workingDirectory" "f" "first" [] 0 none,
    .observe "s" "linter-pylint.workingDirectory" "g" "second" [] 0 none,
    .observe "s" "linter-pylint.workingDirectory" "f" "third" [] 0 none,
    .dispose "first",
    .dispose "third"]

/-- These end in place, and so the calls are in order all the time. -/
theorem calls_in_order_iff_inTurn :
    withStore.objects.lookup "s" = some (.store 0) ∧
      withStore.host.exchange.store? 0 = some (.opened "/s/d" "/s/d" false) ∧
      withStore.Recording ∧ withStore.seen = [] ∧
      (∀ handle index, withStore.objects.lookup handle ≠ some (.subscription index) ∧
        withStore.objects.lookup handle ≠ some (.group index)) ∧
      (∀ step ∈ endingInTurn, step.Watches "s") ∧
      ∀ earlier later, endingInTurn = earlier ++ later →
        (withStore.runFrom 1 earlier).2.CallsInOrder 1 "s"
          (withStore.watchFrom 1 "s" [] earlier) := by
  have named : withStore.objects.lookup "s" = some (.store 0) := by
    rw [withStore_objects]
    rfl
  have quiet : withStore.seen = [] := by rfl
  have watches : ∀ step ∈ endingInTurn, step.Watches "s" := by
    intro step there
    simp only [endingInTurn, List.mem_cons, List.not_mem_nil, or_false] at there
    rcases there with rfl | rfl | rfl | rfl | rfl
    · exact .observe _ _ _ _ (by decide)
    · exact .observe _ _ _ _ (by decide)
    · exact .observe _ _ _ _ (by decide)
    · exact .dispose _
    · exact .dispose _
  refine ⟨named, withStore_store?, withStore_recording, quiet, withStore_noHandles, watches, ?_⟩
  refine (calls_in_order_iff withStore "s" 0 _ 0 endingInTurn named withStore_store? rfl rfl
    withStore_recording quiet withStore_noHandles watches).2.mpr ?_
  intro earlier handle later split
  have ending : (earlier = endingInTurn.take 3 ∧ handle = "first") ∨
      (earlier = endingInTurn.take 4 ∧ handle = "third") := by
    simp only [endingInTurn, List.cons_eq_append_iff, List.nil_eq, List.append_eq_nil_iff,
      List.cons.injEq, Step.dispose.injEq, reduceCtorEq, false_and, and_false, false_or, or_false,
      exists_const] at split
    rcases split with ⟨_, rfl, _, rfl, _, rfl, ⟨rfl, rfl, -⟩ | ⟨_, rfl, rfl, rfl, -⟩⟩
    · exact .inl ⟨rfl, rfl⟩
    · exact .inr ⟨rfl, rfl⟩
  rcases ending with ⟨rfl, rfl⟩ | ⟨rfl, rfl⟩
  · decide +kernel
  · decide +kernel

/-- Of two observations with one callback the second ends, with another observation between
them. -/
def endingOutOfTurn : List Step :=
  [.observe "s" "linter-pylint.workingDirectory" "f" "first" [] 0 none,
    .observe "s" "linter-pylint.workingDirectory" "g" "second" [] 0 none,
    .observe "s" "linter-pylint.workingDirectory" "f" "third" [] 0 none,
    .dispose "third"]

/-- The end of the third observation takes the place of the first one in the order, so that the
second one is called first. -/
theorem exists_calls_out_of_order :
    (∀ step ∈ endingOutOfTurn, step.Watches "s") ∧
      Observation.standing .workingDirectory
        (withStore.watchFrom 1 "s" [] endingOutOfTurn) = ["f", "g"] ∧
      ((withStore.runFrom 1 endingOutOfTurn).2.advance 1
        (.set "s" "linter-pylint.workingDirectory" (.text "x"))).1.seen =
          [("g", "x"), ("f", "x")] ∧
      ¬(withStore.runFrom 1 endingOutOfTurn).2.CallsInOrder 1 "s"
        (withStore.watchFrom 1 "s" [] endingOutOfTurn) := by
  have watches : ∀ step ∈ endingOutOfTurn, step.Watches "s" := by
    intro step there
    simp only [endingOutOfTurn, List.mem_cons, List.not_mem_nil, or_false] at there
    rcases there with rfl | rfl | rfl | rfl
    · exact .observe _ _ _ _ (by decide)
    · exact .observe _ _ _ _ (by decide)
    · exact .observe _ _ _ _ (by decide)
    · exact .dispose _
  have standing : Observation.standing .workingDirectory
      (withStore.watchFrom 1 "s" [] endingOutOfTurn) = ["f", "g"] := by
    decide +kernel
  have seen : ((withStore.runFrom 1 endingOutOfTurn).2.advance 1
      (.set "s" "linter-pylint.workingDirectory" (.text "x"))).1.seen =
        [("g", "x"), ("f", "x")] := by
    decide +kernel
  refine ⟨watches, standing, seen, fun inOrder => ?_⟩
  have done : ((withStore.runFrom 1 endingOutOfTurn).2.advance 1
      (.set "s" "linter-pylint.workingDirectory" (.text "x"))).1.result.isOk := by
    decide +kernel
  have known : Step.setting? (.set "s" "linter-pylint.workingDirectory" (.text "x")) =
      some .workingDirectory := by
    decide +kernel
  have called := inOrder _ .workingDirectory
    (.set "linter-pylint.workingDirectory" (.text "x")) known done
  rw [seen, standing] at called
  revert called
  decide

end Session

end LintBridge
