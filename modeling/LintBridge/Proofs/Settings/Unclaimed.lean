import LintBridge.Proofs.Settings.Groups

/-!
# Registrations without a subscription

A registration goes with the subscription that is made after it. If none is made, there is
nothing to withdraw it with: whatever is undone afterwards withdraws one registration of a
kind for each subscription of that kind, so as many are left over as there have been
without one.
-/

namespace LintBridge.Exchange

/-- How many registrations of a callback for a setting are left over when all subscriptions
that stand have been undone. -/
def unclaimed (exchange : Exchange) (place : Nat) (setting : Setting) (callback : Callback) :
    Int :=
  exchange.registrationCount place setting callback -
    exchange.subscriptions.count ⟨place, setting, callback, false⟩

/-- Registrations without a subscription stay, and there are no more of them unless something
has failed. -/
def Accumulates (exchange : Exchange) (isOk : Bool) (after : Exchange) : Prop :=
  ∀ place setting callback,
    exchange.unclaimed place setting callback ≤ after.unclaimed place setting callback ∧
      (isOk = true →
        after.unclaimed place setting callback = exchange.unclaimed place setting callback)

variable {exchange middle after : Exchange} {isOk : Bool} {number place : Nat}
  {setting : Setting} {callback : Callback}

theorem backed_iff : exchange.Backed ↔
    ∀ place setting callback, 0 ≤ exchange.unclaimed place setting callback := by
  simp only [Backed, unclaimed, Int.sub_nonneg, Int.ofNat_le]

theorem Accumulates.refl (exchange : Exchange) (isOk : Bool) : exchange.Accumulates isOk exchange :=
  fun _ _ _ => ⟨Int.le_refl _, fun _ => rfl⟩

theorem Accumulates.trans (first : exchange.Accumulates true middle)
    (second : middle.Accumulates isOk after) : exchange.Accumulates isOk after := by
  intro place setting callback
  have before := (first place setting callback).2 rfl
  have rest := second place setting callback
  rwa [before] at rest

theorem Accumulates.of_unclaimed_eq
    (same : ∀ place setting callback,
      after.unclaimed place setting callback = exchange.unclaimed place setting callback) :
    exchange.Accumulates isOk after :=
  fun place setting callback =>
    ⟨Int.le_of_eq (same place setting callback).symm, fun _ => same place setting callback⟩

theorem unclaimed_putStore {store replacement : Store}
    (there : exchange.store? number = some store)
    (same : replacement.registrations = store.registrations) :
    (exchange.putStore number replacement).unclaimed place setting callback =
      exchange.unclaimed place setting callback := by
  rw [unclaimed, unclaimed, registrationCount, registrationCount, store?_putStore there]
  by_cases here : place = number
  · subst here
    rw [if_pos rfl, there]
    simp only [same]
    rfl
  · rw [if_neg here]
    rfl

/-- A registration has no subscription at first. -/
theorem unclaimed_putStore_of_registered {store replacement : Store}
    (there : exchange.store? number = some store)
    (registered : replacement.registrations = store.registrations ++ [(setting, callback)])
    (otherPlace : Nat) (otherSetting : Setting) (otherCallback : Callback) :
    (exchange.putStore number replacement).unclaimed otherPlace otherSetting otherCallback =
      exchange.unclaimed otherPlace otherSetting otherCallback +
        if number = otherPlace ∧ setting = otherSetting ∧ callback = otherCallback
          then 1 else 0 := by
  have same : (exchange.putStore number replacement).registrationCount otherPlace otherSetting
        otherCallback =
      (exchange.putStore number (store.register setting callback)).registrationCount otherPlace
        otherSetting otherCallback := by
    rw [registrationCount, registrationCount, store?_putStore there, store?_putStore there]
    by_cases here : otherPlace = number
    · rw [if_pos here, if_pos here]
      simp only [registered]
      rfl
    · rw [if_neg here, if_neg here]
  rw [unclaimed, same, registrationCount_putStore_register there, unclaimed]
  change _ - (exchange.subscriptions.count _ : Int) = _
  split <;> omega

theorem unclaimed_subscribe (exchange : Exchange) (number : Nat) (setting : Setting)
    (callback : Callback) (otherPlace : Nat) (otherSetting : Setting) (otherCallback : Callback) :
    (exchange.subscribe number setting callback).2.unclaimed otherPlace otherSetting
          otherCallback +
        (if number = otherPlace ∧ setting = otherSetting ∧ callback = otherCallback
          then 1 else 0) =
      exchange.unclaimed otherPlace otherSetting otherCallback := by
  have more : (exchange.subscribe number setting callback).2.subscriptions.count
      ⟨otherPlace, otherSetting, otherCallback, false⟩ =
        exchange.subscriptions.count ⟨otherPlace, otherSetting, otherCallback, false⟩ +
          if number = otherPlace ∧ setting = otherSetting ∧ callback = otherCallback
            then 1 else 0 := by
    rw [subscribe, List.count_append, List.count_singleton]
    simp
  rw [unclaimed, unclaimed, more]
  change (exchange.registrationCount _ _ _ : Int) - _ + _ = _
  split <;> omega

/-- A subscription is undone together with its registration, if that is there. -/
theorem accumulates_dispose (exchange : Exchange) (number : Nat) :
    exchange.Accumulates (exchange.dispose number).1 (exchange.dispose number).2 := by
  rcases exchange.dispose_cases number with
    ⟨nothing, -⟩ | ⟨subscription, there, standing, undone⟩
  · rw [nothing]
    exact .refl exchange true
  obtain ⟨place, setting, callback, disposed⟩ := subscription
  cases standing
  intro otherPlace otherSetting otherCallback
  have marked := count_set_add there ⟨place, setting, callback, true⟩
    ⟨otherPlace, otherSetting, otherCallback, false⟩
  simp only [Subscription.mk.injEq, and_true, reduceCtorEq, and_false, if_false] at marked
  rcases undone with missing | ⟨store, used, registered, removed⟩
  · rw [missing, unclaimed, unclaimed]
    refine ⟨?_, nofun⟩
    change (exchange.registrationCount _ _ _ : Int) - _ ≤ exchange.registrationCount _ _ _ - _
    dsimp only
    omega
  · have withdrawn := registrationCount_putStore_erase used registered otherPlace otherSetting
      otherCallback
    rw [removed, unclaimed, unclaimed]
    change ((exchange.registrationCount _ _ _ : Int) - _ ≤
      (exchange.putStore place _).registrationCount _ _ _ - _) ∧ (_ →
        ((exchange.putStore place _).registrationCount _ _ _ : Int) - _ = _)
    dsimp only [putStore] at withdrawn ⊢
    constructor
    · omega
    · intro _
      omega

theorem accumulates_disposeAll (exchange : Exchange) (numbers : List Nat) :
    exchange.Accumulates (exchange.disposeAll numbers).1 (exchange.disposeAll numbers).2.2 := by
  induction numbers generalizing exchange with
  | nil => exact .refl exchange true
  | cons number numbers ih =>
      have first := exchange.accumulates_dispose number
      rw [disposeAll]
      generalize exchange.dispose number = undone at first
      obtain ⟨found, middle⟩ := undone
      cases found with
      | false => exact first
      | true => exact first.trans (ih middle)

theorem accumulates_disposeGroup (exchange : Exchange) (number : Nat) :
    exchange.Accumulates (exchange.disposeGroup number).1 (exchange.disposeGroup number).2 := by
  rw [disposeGroup]
  cases exchange.groups[number]? with
  | none => exact .refl exchange true
  | some group => exact exchange.accumulates_disposeAll group.members

theorem accumulates_addToGroup (exchange : Exchange) (number subscription : Nat) :
    exchange.Accumulates (exchange.addToGroup number subscription).1
      (exchange.addToGroup number subscription).2 := by
  rw [addToGroup]
  cases exchange.groups[number]? with
  | none => exact .refl exchange true
  | some group =>
      dsimp only
      split
      · exact exchange.accumulates_dispose subscription
      · exact .refl exchange true

end LintBridge.Exchange
