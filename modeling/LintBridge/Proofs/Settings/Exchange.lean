import LintBridge.Settings.Exchange
import Mathlib.Data.List.Basic

/-!
# Registrations and subscriptions

What an exchange is like after a subscription has been undone. Registrations are removed
by what they are and not by whose they are, so all that matters is how many of a kind
there are.
-/

namespace LintBridge

namespace Store

theorem count_observers (store : Store) (setting : Setting) (callback : Callback) :
    (store.observers setting).count callback =
      store.registrations.count (setting, callback) := by
  rw [observers]
  induction store.registrations with
  | nil => rfl
  | cons registration others ih =>
      by_cases same : registration.1 = setting
      · rw [List.filter_cons_of_pos (by simpa using same), List.map_cons, List.count_cons, ih,
          List.count_cons]
        simp [Prod.ext_iff, same]
      · have different : registration ≠ (setting, callback) := fun equal => same (by rw [equal])
        rw [List.filter_cons_of_neg (by simpa using same), ih,
          List.count_cons_of_ne different]

theorem withdraw?_of_mem {store : Store} {setting : Setting} {callback : Callback}
    (registered : (setting, callback) ∈ store.registrations) :
    store.withdraw? setting callback =
      some { store with registrations := store.registrations.erase (setting, callback) } := by
  rw [withdraw?, if_pos (List.contains_iff_mem.mpr registered)]

end Store

/-- Whether a callback is a reporter that has been made from a number on. -/
def Callback.isFrom (first : Nat) : Callback → Bool
  | .named _ => false
  | .reporter number _ => first ≤ number

namespace Exchange

variable {exchange : Exchange} {number : Nat} {subscription : Subscription}

theorem store?_putStore {store : Store} (there : exchange.store? number = some store)
    (replacement : Store) (place : Nat) :
    (exchange.putStore number replacement).store? place =
      if place = number then some replacement else exchange.store? place := by
  have inside := (List.getElem?_eq_some_iff.mp there).1
  by_cases same : place = number
  · rw [if_pos same, same]
    exact List.getElem?_set_self inside
  · rw [if_neg same]
    exact List.getElem?_set_ne (Ne.symm same)

theorem store?_openStore (exchange : Exchange) (store : Store) (place : Nat) :
    (exchange.openStore store).2.store? place =
      if place = exchange.stores.length then some store else exchange.store? place := by
  change (exchange.stores ++ [store])[place]? = _
  rw [List.getElem?_append]
  rcases Nat.lt_trichotomy place exchange.stores.length with before | same | behind
  · rw [if_pos before, if_neg (Nat.ne_of_lt before)]
    rfl
  · simp [same]
  · rw [if_neg (Nat.not_lt_of_gt behind), if_neg (Nat.ne_of_gt behind), store?,
      List.getElem?_eq_none (Nat.le_of_lt behind), List.getElem?_eq_none]
    exact Nat.sub_pos_of_lt behind

theorem putStore_self {store : Store} (there : exchange.store? number = some store) :
    exchange.putStore number store = exchange := by
  rcases List.getElem?_eq_some_iff.mp there with ⟨inside, rfl⟩
  rw [putStore, List.set_getElem_self]

theorem dispose_of_disposed (there : exchange.subscriptions[number]? = some subscription)
    (undone : subscription.disposed = true) : exchange.dispose number = (true, exchange) := by
  rw [dispose, there]
  dsimp only
  rw [if_pos undone]

theorem dispose_of_standing (there : exchange.subscriptions[number]? = some subscription)
    (standing : subscription.disposed = false) :
    exchange.dispose number =
      let marked := { exchange with
        subscriptions := exchange.subscriptions.set number { subscription with disposed := true } }
      match (exchange.store? subscription.store).bind
          (·.withdraw? subscription.setting subscription.callback) with
      | none => (false, marked)
      | some store => (true, marked.putStore subscription.store store) := by
  rw [dispose, there]
  dsimp only
  rw [standing, if_neg Bool.false_ne_true]
  rfl

/-- Undoing a subscription withdraws one registration of its kind. -/
theorem dispose_of_registered {store : Store}
    (there : exchange.subscriptions[number]? = some subscription)
    (standing : subscription.disposed = false)
    (used : exchange.store? subscription.store = some store)
    (registered : (subscription.setting, subscription.callback) ∈ store.registrations) :
    exchange.dispose number =
      (true,
        { exchange with
          subscriptions :=
            exchange.subscriptions.set number { subscription with disposed := true }
          stores :=
            exchange.stores.set subscription.store
              { store with
                registrations :=
                  store.registrations.erase (subscription.setting, subscription.callback) } }) := by
  rw [dispose_of_standing there standing, used, Option.bind_some,
    Store.withdraw?_of_mem registered]
  rfl

/-- All that undoing a subscription may do: nothing, if there is none or it has been undone,
or else the subscription is marked, and its registration withdrawn if it is there. -/
theorem dispose_cases (exchange : Exchange) (number : Nat) :
    (exchange.dispose number = (true, exchange) ∧
        ∀ subscription, exchange.subscriptions[number]? = some subscription →
          subscription.disposed = true) ∨
      ∃ subscription, exchange.subscriptions[number]? = some subscription ∧
        subscription.disposed = false ∧
        let marked := { exchange with
          subscriptions := exchange.subscriptions.set number { subscription with disposed := true } }
        (exchange.dispose number = (false, marked) ∨
          ∃ store, exchange.store? subscription.store = some store ∧
            (subscription.setting, subscription.callback) ∈ store.registrations ∧
            exchange.dispose number =
              (true, marked.putStore subscription.store
                { store with
                  registrations :=
                    store.registrations.erase (subscription.setting, subscription.callback) })) := by
  cases there : exchange.subscriptions[number]? with
  | none => exact .inl ⟨by rw [dispose, there], nofun⟩
  | some subscription =>
      cases standing : subscription.disposed with
      | true =>
          refine .inl ⟨dispose_of_disposed there standing, ?_⟩
          rintro other ⟨⟩
          exact standing
      | false =>
          refine .inr ⟨subscription, rfl, standing, ?_⟩
          rw [dispose_of_standing there standing]
          cases used : exchange.store? subscription.store with
          | none => exact .inl rfl
          | some store =>
              rw [Option.bind_some, Store.withdraw?]
              by_cases registered :
                  store.registrations.contains (subscription.setting, subscription.callback) = true
              · rw [if_pos registered]
                exact .inr ⟨store, rfl, List.contains_iff_mem.mp registered, rfl⟩
              · rw [if_neg registered]
                exact .inl rfl

/-- Undoing several subscriptions to a store withdraws the registrations of all of them. -/
theorem disposeAll_of_registered {members : List Nat} {place : Nat} {store : Store}
    {own others : List (Setting × Callback)} (used : exchange.store? place = some store)
    (nodup : members.Nodup)
    (subscribed : members.map (exchange.subscriptions[·]?) =
      own.map fun registration => some ⟨place, registration.1, registration.2, false⟩)
    (standing : store.registrations.Perm (own ++ others)) :
    ∃ subscriptions left,
      exchange.disposeAll members =
          (true, [], { exchange with subscriptions, stores := exchange.stores.set place left }) ∧
        left.isOpen = store.isOpen ∧ left.registrations.Perm others := by
  induction members generalizing exchange own store with
  | nil =>
      cases List.map_eq_nil_iff.mp subscribed.symm
      have same : exchange.stores.set place store = exchange.stores :=
        congrArg Exchange.stores (putStore_self used)
      refine ⟨exchange.subscriptions, store, ?_, rfl, standing⟩
      rw [same]
      rfl
  | cons member members ih =>
      cases own with
      | nil => cases subscribed
      | cons registration own =>
          rw [List.map_cons, List.map_cons, List.cons.injEq] at subscribed
          rcases subscribed with ⟨there, subscribed⟩
          rcases List.nodup_cons.mp nodup with ⟨apart, nodup⟩
          have inside := (List.getElem?_eq_some_iff.mp used).1
          have undone := dispose_of_registered there rfl used
            (standing.mem_iff.mpr List.mem_cons_self)
          have erased := standing.erase registration
          rw [List.cons_append, List.erase_cons_head] at erased
          have kept : members.map ((exchange.subscriptions.set member
              ⟨place, registration.1, registration.2, true⟩)[·]?) =
                members.map (exchange.subscriptions[·]?) := by
            apply List.map_congr_left
            intro other there
            have different : member ≠ other := by
              rintro rfl
              exact apart there
            exact List.getElem?_set_ne different
          rw [disposeAll, undone]
          dsimp only
          generalize undoing : ({ exchange with
            subscriptions := _, stores := exchange.stores.set place _ } : Exchange) = after
          have usable : after.store? place =
              some { store with registrations := store.registrations.erase registration } := by
            rw [← undoing]
            exact List.getElem?_set_self inside
          rcases ih usable nodup (by rw [← undoing]; exact kept.trans subscribed) erased with
            ⟨subscriptions, left, all, isOpen, rest⟩
          refine ⟨subscriptions, left, ?_, isOpen, rest⟩
          rw [all, ← undoing]
          dsimp only
          rw [List.set_set]

theorem addToGroup_of_standing {group : Nat} {members : List Nat}
    (grouped : exchange.groups[group]? = some ⟨members, false⟩) (number : Nat) :
    exchange.addToGroup group number =
      (true, { exchange with groups := exchange.groups.set group ⟨number :: members, false⟩ }) := by
  rw [addToGroup, grouped]
  rfl

/-! ## Reporters -/

/-- Of the reporters from a number on, those that are listed observe one store, and there
are no others in any store. -/
structure ReportsFrom (exchange : Exchange) (first : Nat) (place? : Option Nat)
    (own : List (Setting × Callback)) : Prop where
  reporting : ∀ registration ∈ own, ∃ number, first ≤ number ∧
    registration.2 = .reporter number registration.1
  registered : ∀ place store, exchange.store? place = some store →
    ∃ others, store.registrations.Perm ((if place? = some place then own else []) ++ others) ∧
      ∀ registration ∈ others, registration.2.isFrom first = false

variable {first place : Nat} {place? : Option Nat} {own : List (Setting × Callback)}
  {store replacement : Store}

theorem ReportsFrom.isFrom (reports : exchange.ReportsFrom first place? own)
    {registration : Setting × Callback} (member : registration ∈ own) :
    registration.2.isFrom first = true := by
  rcases reports.reporting registration member with ⟨number, later, reporter⟩
  rw [reporter]
  exact decide_eq_true later

theorem ReportsFrom.nil (reports : exchange.ReportsFrom first place? [])
    (other? : Option Nat) : exchange.ReportsFrom first other? [] := by
  refine ⟨nofun, ?_⟩
  intro place store there
  have before := reports.registered place store there
  rw [ite_self] at before ⊢
  exact before

theorem ReportsFrom.openStore (reports : exchange.ReportsFrom first place? [])
    (unobserved : store.registrations = []) :
    (exchange.openStore store).2.ReportsFrom first place? [] := by
  refine ⟨nofun, ?_⟩
  intro place found there
  rw [store?_openStore] at there
  split at there
  · cases there
    exact ⟨[], by rw [unobserved, ite_self]; exact List.Perm.refl _, nofun⟩
  · exact reports.registered place found there

theorem ReportsFrom.keep (reports : exchange.ReportsFrom first place? own)
    (there : exchange.store? place = some store)
    (same : replacement.registrations = store.registrations) :
    (exchange.putStore place replacement).ReportsFrom first place? own := by
  refine ⟨reports.reporting, ?_⟩
  intro query found used
  rw [store?_putStore there] at used
  split at used
  · rename_i equal
    cases used
    subst equal
    rw [same]
    exact reports.registered query store there
  · exact reports.registered query found used

/-- The store that is reported on may get other observers. -/
theorem ReportsFrom.replace (reports : exchange.ReportsFrom first (some place) own)
    (there : exchange.store? place = some store) {left : List (Setting × Callback)}
    (reporting : ∀ registration ∈ left, ∃ number, first ≤ number ∧
      registration.2 = .reporter number registration.1)
    (changes : ∀ others, store.registrations.Perm (own ++ others) →
      replacement.registrations.Perm (left ++ others)) :
    (exchange.putStore place replacement).ReportsFrom first (some place) left := by
  refine ⟨reporting, ?_⟩
  intro query found used
  rw [store?_putStore there] at used
  split at used
  · rename_i equal
    cases used
    subst equal
    rcases reports.registered query store there with ⟨others, standing, foreign⟩
    rw [if_pos rfl] at standing ⊢
    exact ⟨others, changes others standing, foreign⟩
  · rename_i different
    rcases reports.registered query found used with ⟨others, standing, foreign⟩
    have apart : some place ≠ some query := fun equal => different (Option.some.inj equal).symm
    rw [if_neg apart] at standing ⊢
    exact ⟨others, standing, foreign⟩

/-- How many of the reporters observe a setting of a store. -/
theorem ReportsFrom.countP (reports : exchange.ReportsFrom first place? own)
    (there : exchange.store? place = some store) (setting : Setting) :
    (store.observers setting).countP (·.isFrom first) =
      if place? = some place then (own.map (·.1)).count setting else 0 := by
  rcases reports.registered place store there with ⟨others, standing, foreign⟩
  let observes := fun registration : Setting × Callback =>
    registration.2.isFrom first && decide (registration.1 = setting)
  have listed : own.countP observes = (own.map (·.1)).count setting := by
    rw [List.count, List.countP_map]
    apply List.countP_congr
    intro registration member
    simp [observes, reports.isFrom member]
  have unlisted : others.countP observes = 0 := by
    apply List.countP_eq_zero.mpr
    intro registration member
    simp [observes, foreign registration member]
  rw [Store.observers, List.countP_map, List.countP_filter]
  apply (standing.countP_eq observes).trans
  rw [List.countP_append, unlisted]
  split
  · exact listed
  · rfl

/-- The reporters that observe a setting are reporters of this setting. -/
theorem ReportsFrom.eq_reporter (reports : exchange.ReportsFrom first place? own)
    (there : exchange.store? place = some store) {setting : Setting} {callback : Callback}
    (observes : callback ∈ store.observers setting) (isFrom : callback.isFrom first = true) :
    ∃ number, callback = .reporter number setting := by
  rcases List.mem_map.mp observes with ⟨registration, member, rfl⟩
  rcases List.mem_filter.mp member with ⟨registered, same⟩
  cases of_decide_eq_true same
  rcases reports.registered place store there with ⟨others, standing, foreign⟩
  rcases List.mem_append.mp (standing.mem_iff.mp registered) with listed | other
  · split at listed
    · rcases reports.reporting registration listed with ⟨number, -, reporter⟩
      exact ⟨number, reporter⟩
    · cases listed
  · rw [foreign registration other] at isFrom
    cases isFrom

end Exchange

end LintBridge
