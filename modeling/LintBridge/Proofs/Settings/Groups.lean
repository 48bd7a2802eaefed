import LintBridge.Proofs.Settings.Exchange

/-!
# Groups of subscriptions

Subscriptions are undone one by one or in groups, and they may be added to a group before
or after it has been undone. However this is mixed, each registration is withdrawn once,
for the first of the calls that undo its subscription.
-/

namespace LintBridge.Exchange

/-! ## Calls -/

/-- A call that undoes subscriptions, or may do so. -/
inductive Call where
  | dispose (subscription : Nat)
  | add (group subscription : Nat)
  | disposeGroup (group : Nat)
  deriving DecidableEq, Repr

/-- Make a call. The answer is false if a registration is not there. -/
def call (exchange : Exchange) : Call → Bool × Exchange
  | .dispose number => exchange.dispose number
  | .add group number => exchange.addToGroup group number
  | .disposeGroup group => exchange.disposeGroup group

/-- Whether there is a subscription that has not been undone. -/
def isStanding (exchange : Exchange) (number : Nat) : Bool :=
  exchange.subscriptions[number]?.any (!·.disposed)

/-- The subscriptions whose registrations are withdrawn when some are undone one after the
other. -/
def withdrawnOf (exchange : Exchange) : List Nat → List Nat
  | [] => []
  | number :: numbers =>
      (if exchange.isStanding number then [number] else []) ++
        (exchange.dispose number).2.withdrawnOf numbers

/-- The subscriptions that a call undoes, whether they have been undone before or not. -/
def reached (exchange : Exchange) : Call → List Nat
  | .dispose number => [number]
  | .add group number =>
      if (exchange.groups[group]?.any (·.disposed)) then [number] else []
  | .disposeGroup group => (exchange.groups[group]?.map (·.members)).getD []

/-- Some calls one after the other: their answers, the subscriptions whose registrations
have been withdrawn, in order, and what is left in the end. -/
structure Course where
  answers : List Bool
  withdrawn : List Nat
  exchange : Exchange

/-- Make some calls one after the other. -/
def callAll (exchange : Exchange) : List Call → Course
  | [] => ⟨[], [], exchange⟩
  | call :: calls =>
      let (found, after) := exchange.call call
      let rest := after.callAll calls
      ⟨found :: rest.answers, exchange.withdrawnOf (exchange.reached call) ++ rest.withdrawn,
        rest.exchange⟩

/-! ## What calls start from -/

/-- Something that is made before subscriptions are undone. An observation fails if the
callback does, which leaves a registration without a subscription. -/
inductive Preparation where
  | openStore (directory location : String) (temporary : Bool)
  | observe (place : Nat) (setting : Setting) (callback : Callback) (fails : Bool)
  | openGroup
  deriving Repr

/-- Make something. -/
def prepare (exchange : Exchange) : Preparation → Exchange
  | .openStore directory location temporary =>
      (exchange.openStore (.opened directory location temporary)).2
  | .observe place setting callback fails =>
      match exchange.store? place with
      | none => exchange
      | some store =>
          let registered := exchange.putStore place (store.register setting callback)
          if fails then registered else (registered.subscribe place setting callback).2
  | .openGroup => exchange.openGroup.2

/-- Make several things one after the other. -/
def prepareAll (exchange : Exchange) (preparations : List Preparation) : Exchange :=
  preparations.foldl prepare exchange

/-! ## Registrations that are withdrawn -/

/-- How often a callback is registered for a setting of a store. -/
def registrationCount (exchange : Exchange) (place : Nat) (setting : Setting)
    (callback : Callback) : Nat :=
  match exchange.store? place with
  | none => 0
  | some store => store.registrations.count (setting, callback)

/-- Whether every subscription that has not been undone has a registration of its own. -/
def Backed (exchange : Exchange) : Prop :=
  ∀ place setting callback, exchange.subscriptions.count ⟨place, setting, callback, false⟩ ≤
    exchange.registrationCount place setting callback

/-- What an exchange is like when the registrations of some subscriptions have been
withdrawn, once each. -/
structure Withdraws (exchange : Exchange) (numbers : List Nat) (after : Exchange) : Prop where
  backed : after.Backed
  nodup : numbers.Nodup
  standing : ∀ number ∈ numbers, exchange.isStanding number = true
  left : ∀ number, after.isStanding number = true ↔
    exchange.isStanding number = true ∧ number ∉ numbers
  length : after.subscriptions.length = exchange.subscriptions.length
  kept : ∀ place setting callback,
    after.registrationCount place setting callback +
        after.subscriptions.count ⟨place, setting, callback, true⟩ =
      exchange.registrationCount place setting callback +
        exchange.subscriptions.count ⟨place, setting, callback, true⟩

variable {exchange after last : Exchange} {number : Nat} {numbers others : List Nat}

theorem Withdraws.refl (backed : exchange.Backed) : exchange.Withdraws [] exchange :=
  ⟨backed, List.nodup_nil, nofun, by simp, rfl, fun _ _ _ => rfl⟩

/-- What has been withdrawn is not withdrawn again later. -/
theorem Withdraws.trans (first : exchange.Withdraws numbers after)
    (second : after.Withdraws others last) : exchange.Withdraws (numbers ++ others) last := by
  have still : ∀ number ∈ others, exchange.isStanding number = true ∧ number ∉ numbers :=
    fun number member => (first.left number).mp (second.standing number member)
  refine ⟨second.backed, ?_, ?_, ?_, second.length.trans first.length, ?_⟩
  · refine List.nodup_append.mpr ⟨first.nodup, second.nodup, ?_⟩
    rintro number earlier _ later rfl
    exact (still number later).2 earlier
  · rw [List.forall_mem_append]
    exact ⟨first.standing, fun number member => (still number member).1⟩
  · intro number
    rw [second.left, first.left, List.mem_append, not_or, and_assoc]
  · intro place setting callback
    rw [second.kept, first.kept]

theorem Withdraws.regroup (withdraws : exchange.Withdraws numbers after) (groups : List Group) :
    exchange.Withdraws numbers { after with groups } :=
  ⟨withdraws.backed, withdraws.nodup, withdraws.standing, withdraws.left, withdraws.length,
    withdraws.kept⟩

theorem isStanding_iff :
    exchange.isStanding number = true ↔
      ∃ subscription, exchange.subscriptions[number]? = some subscription ∧
        subscription.disposed = false := by
  rw [isStanding]
  cases exchange.subscriptions[number]? with
  | none => simp
  | some subscription => simp

theorem dispose_of_not_standing (settled : ¬ exchange.isStanding number = true) :
    exchange.dispose number = (true, exchange) := by
  cases there : exchange.subscriptions[number]? with
  | none => rw [dispose, there]
  | some subscription =>
      apply dispose_of_disposed there
      by_contra standing
      exact settled (isStanding_iff.mpr ⟨subscription, there, Bool.eq_false_iff.mpr standing⟩)

/-- The registration of a subscription that has not been undone is there. -/
theorem Backed.registered (backed : exchange.Backed) {subscription : Subscription}
    (there : exchange.subscriptions[number]? = some subscription)
    (standing : subscription.disposed = false) :
    ∃ store, exchange.store? subscription.store = some store ∧
      (subscription.setting, subscription.callback) ∈ store.registrations := by
  obtain ⟨place, setting, callback, disposed⟩ := subscription
  cases standing
  have counted := backed place setting callback
  have one := List.count_pos_iff.mpr (List.mem_of_getElem? there)
  rw [registrationCount] at counted
  split at counted
  · omega
  · rename_i store used
    exact ⟨store, used, List.count_pos_iff.mp (Nat.lt_of_lt_of_le one counted)⟩

theorem count_set_add {entries : List Subscription} {old : Subscription}
    (there : entries[number]? = some old) (new sought : Subscription) :
    (entries.set number new).count sought + (if old = sought then 1 else 0) =
      entries.count sought + if new = sought then 1 else 0 := by
  rcases List.getElem?_eq_some_iff.mp there with ⟨inside, rfl⟩
  have present : entries[number] = sought → 0 < entries.count sought := by
    rintro rfl
    exact List.count_pos_iff.mpr (List.getElem_mem inside)
  rw [List.count_set inside]
  simp only [beq_iff_eq]
  split
  · rename_i same
    have := present same
    omega
  · rfl

theorem registrationCount_putStore_erase {place : Nat} {setting : Setting} {callback : Callback}
    {store : Store} (used : exchange.store? place = some store)
    (registered : (setting, callback) ∈ store.registrations) (otherPlace : Nat)
    (otherSetting : Setting) (otherCallback : Callback) :
    (exchange.putStore place
          { store with
            registrations := store.registrations.erase (setting, callback) }).registrationCount
            otherPlace otherSetting otherCallback +
        (if place = otherPlace ∧ setting = otherSetting ∧ callback = otherCallback then 1 else 0) =
      exchange.registrationCount otherPlace otherSetting otherCallback := by
  rw [registrationCount, registrationCount, store?_putStore used]
  by_cases here : otherPlace = place
  · subst here
    rw [if_pos rfl, used]
    have present := List.count_pos_iff.mpr registered
    simp only [List.count_erase, beq_iff_eq, Prod.mk.injEq, true_and]
    split
    · rename_i same
      rw [same.1, same.2] at present
      exact Nat.sub_add_cancel present
    · rfl
  · rw [if_neg here, if_neg fun same => here same.1.symm]
    rfl

theorem isStanding_set {old new : Subscription} (entries : Exchange)
    (there : entries.subscriptions[number]? = some old) (undone : new.disposed = true)
    (other : Nat) :
    { entries with subscriptions := entries.subscriptions.set number new }.isStanding other = true ↔
      entries.isStanding other = true ∧ other ∉ [number] := by
  rw [isStanding_iff, isStanding_iff, List.mem_singleton]
  by_cases same : other = number
  · have inside := (List.getElem?_eq_some_iff.mp there).1
    simp [same, inside, undone]
  · simp [same, List.getElem?_set_ne (Ne.symm same)]

theorem Backed.dispose_of_standing (backed : exchange.Backed)
    (standing : exchange.isStanding number = true) :
    (exchange.dispose number).1 = true ∧
      (exchange.dispose number).2.groups = exchange.groups ∧
      exchange.Withdraws [number] (exchange.dispose number).2 := by
  rcases isStanding_iff.mp standing with ⟨⟨place, setting, callback, disposed⟩, there, rfl⟩
  rcases backed.registered there rfl with ⟨store, used, registered⟩
  have undone := dispose_of_registered there rfl used registered
  have withdrawn : ∀ otherPlace otherSetting otherCallback,
      (exchange.dispose number).2.registrationCount otherPlace otherSetting otherCallback +
          (if place = otherPlace ∧ setting = otherSetting ∧ callback = otherCallback
            then 1 else 0) =
        exchange.registrationCount otherPlace otherSetting otherCallback := by
    rw [undone]
    exact registrationCount_putStore_erase used registered
  have marked : ∀ sought,
      (exchange.dispose number).2.subscriptions.count sought +
          (if ⟨place, setting, callback, false⟩ = sought then 1 else 0) =
        exchange.subscriptions.count sought +
          if ⟨place, setting, callback, true⟩ = sought then 1 else 0 := by
    rw [undone]
    exact count_set_add there ⟨place, setting, callback, true⟩
  refine ⟨by rw [undone], by rw [undone], ?_, List.pairwise_singleton _ number, ?_, ?_, ?_, ?_⟩
  · -- One that stands and its registration go together, so that the others keep theirs.
    intro otherPlace otherSetting otherCallback
    have before := backed otherPlace otherSetting otherCallback
    have fewer := withdrawn otherPlace otherSetting otherCallback
    have unmarked := marked ⟨otherPlace, otherSetting, otherCallback, false⟩
    simp only [Subscription.mk.injEq, and_true, reduceCtorEq, and_false, if_false] at unmarked
    omega
  · intro other member
    rw [List.mem_singleton.mp member]
    exact standing
  · intro other
    rw [undone]
    exact isStanding_set exchange there rfl other
  · rw [undone]
    exact List.length_set
  · intro otherPlace otherSetting otherCallback
    have fewer := withdrawn otherPlace otherSetting otherCallback
    have more := marked ⟨otherPlace, otherSetting, otherCallback, true⟩
    simp only [Subscription.mk.injEq, and_true, reduceCtorEq, and_false, if_false] at more
    omega

/-- Undoing a subscription withdraws its registration, unless it has been undone. -/
theorem Backed.dispose (backed : exchange.Backed) (number : Nat) :
    (exchange.dispose number).1 = true ∧
      (exchange.dispose number).2.groups = exchange.groups ∧
      exchange.Withdraws (if exchange.isStanding number then [number] else [])
        (exchange.dispose number).2 := by
  by_cases standing : exchange.isStanding number = true
  · rw [if_pos standing]
    exact backed.dispose_of_standing standing
  · rw [dispose_of_not_standing standing, if_neg standing]
    exact ⟨rfl, rfl, .refl backed⟩

theorem mem_withdrawnOf (backed : exchange.Backed) (numbers : List Nat) (number : Nat) :
    number ∈ exchange.withdrawnOf numbers ↔
      exchange.isStanding number = true ∧ number ∈ numbers := by
  induction numbers generalizing exchange with
  | nil => simp [withdrawnOf]
  | cons first numbers ih =>
      have withdraws := (backed.dispose first).2.2
      rw [withdrawnOf, List.mem_append, ih withdraws.backed, withdraws.left, List.mem_cons]
      by_cases same : number = first
      · subst same
        split <;> simp_all
      · split <;> simp [same]

/-- Undoing some subscriptions withdraws the registrations of those that stand. -/
theorem Backed.disposeAll (backed : exchange.Backed) (numbers : List Nat) :
    ∃ after, exchange.disposeAll numbers = (true, [], after) ∧
      after.groups = exchange.groups ∧
      exchange.Withdraws (exchange.withdrawnOf numbers) after := by
  induction numbers generalizing exchange with
  | nil => exact ⟨exchange, rfl, rfl, .refl backed⟩
  | cons number numbers ih =>
      rcases backed.dispose number with ⟨found, same, withdraws⟩
      rcases ih withdraws.backed with ⟨after, all, kept, others⟩
      refine ⟨after, ?_, kept.trans same, withdraws.trans others⟩
      rw [Exchange.disposeAll, ← all]
      generalize exchange.dispose number = disposed at found
      cases disposed
      cases found
      rfl

/-! ## Calls and groups -/

/-- What a call does to the groups. -/
def Call.regroup : Call → List Group → List Group
  | .dispose _, groups => groups
  | .add place number, groups =>
      groups.modify place fun group =>
        if group.disposed then group else { group with members := number :: group.members }
  | .disposeGroup place, groups => groups.modify place fun _ => ⟨[], true⟩

/-- A call withdraws the registrations of what it reaches. -/
theorem Backed.call (backed : exchange.Backed) (call : Call) :
    (exchange.call call).1 = true ∧
      (exchange.call call).2.groups = call.regroup exchange.groups ∧
      exchange.Withdraws (exchange.withdrawnOf (exchange.reached call))
        (exchange.call call).2 := by
  cases call with
  | dispose number =>
      rcases backed.dispose number with ⟨found, same, withdraws⟩
      refine ⟨found, same, ?_⟩
      rw [reached, withdrawnOf, withdrawnOf, List.append_nil]
      exact withdraws
  | add place number =>
      rw [Exchange.call, addToGroup, Call.regroup, reached, List.modify_eq_set_getElem?]
      cases grouped : exchange.groups[place]? with
      | none => exact ⟨rfl, rfl, .refl backed⟩
      | some group =>
          cases undone : group.disposed with
          | false => simpa [undone, withdrawnOf] using (Withdraws.refl backed).regroup _
          | true =>
              rcases backed.dispose number with ⟨found, same, withdraws⟩
              rcases List.getElem?_eq_some_iff.mp grouped with ⟨inside, rfl⟩
              simpa [undone, withdrawnOf] using ⟨found, same, withdraws⟩
  | disposeGroup place =>
      rw [Exchange.call, Exchange.disposeGroup, Call.regroup, reached,
        List.modify_eq_set_getElem?]
      cases grouped : exchange.groups[place]? with
      | none => exact ⟨rfl, rfl, .refl backed⟩
      | some group =>
          rcases backed.disposeAll group.members with ⟨after, all, same, withdraws⟩
          dsimp only
          rw [all]
          exact ⟨rfl, by rw [← same]; rfl, withdraws.regroup _⟩

/-- What a group is like after some calls: they say whether it has been undone, and what is
in it if it has not. -/
structure Gathers (calls : List Call) (place : Nat) (group : Group) : Prop where
  disposed : group.disposed = true ↔ .disposeGroup place ∈ calls
  members : ∀ number,
    number ∈ group.members ↔ group.disposed = false ∧ .add place number ∈ calls

/-- Whether all groups are as they should be after some calls. -/
def Gathered (calls : List Call) (groups : List Group) : Prop :=
  ∀ place group, groups[place]? = some group → Gathers calls place group

variable {calls : List Call} {groups : List Group}

theorem Gathered.regroup (gathered : Gathered calls groups) (call : Call) :
    Gathered (calls ++ [call]) (call.regroup groups) := by
  intro place group there
  cases call with
  | dispose number =>
      rcases gathered place group there with ⟨disposed, members⟩
      exact ⟨by simpa using disposed, by simpa using members⟩
  | add target number =>
      rw [Call.regroup, List.getElem?_modify] at there
      rcases Option.map_eq_some_iff.mp there with ⟨before, found, rfl⟩
      rcases gathered place before found with ⟨disposed, members⟩
      by_cases here : target = place
      · rw [if_pos here]
        cases undone : before.disposed with
        | false =>
            refine ⟨by simpa [undone] using disposed, fun other => ?_⟩
            simp [undone, members, here, or_comm]
        | true =>
            refine ⟨by simpa [undone] using disposed, fun other => ?_⟩
            simp [undone, members]
      · rw [if_neg here]
        exact ⟨by simpa using disposed, by simpa [Ne.symm here] using members⟩
  | disposeGroup target =>
      rw [Call.regroup, List.getElem?_modify] at there
      rcases Option.map_eq_some_iff.mp there with ⟨before, found, rfl⟩
      rcases gathered place before found with ⟨disposed, members⟩
      by_cases here : target = place
      · rw [if_pos here]
        exact ⟨by simp [here], by simp⟩
      · rw [if_neg here]
        exact ⟨by simpa [Ne.symm here] using disposed, by simpa using members⟩

/-- Whether calls undo a subscription, by itself or with a group that it has been added to.
There are so many groups. -/
def IsUndone (calls : List Call) (count number : Nat) : Prop :=
  .dispose number ∈ calls ∨
    ∃ place < count, .add place number ∈ calls ∧ .disposeGroup place ∈ calls

theorem Gathered.mem_reached_add (gathered : Gathered calls exchange.groups)
    (place other number : Nat) :
    number ∈ exchange.reached (.add place other) ↔
      number = other ∧ place < exchange.groups.length ∧ .disposeGroup place ∈ calls := by
  rw [reached]
  cases there : exchange.groups[place]? with
  | none =>
      have outside := Nat.not_lt_of_le (List.getElem?_eq_none_iff.mp there)
      simp [outside]
  | some group =>
      have inside := (List.getElem?_eq_some_iff.mp there).1
      simp [inside, (gathered place group there).disposed, and_comm]

theorem Gathered.mem_reached_disposeGroup (gathered : Gathered calls exchange.groups)
    (place number : Nat) :
    number ∈ exchange.reached (.disposeGroup place) ↔
      place < exchange.groups.length ∧ .disposeGroup place ∉ calls ∧
        .add place number ∈ calls := by
  rw [reached]
  cases there : exchange.groups[place]? with
  | none =>
      have outside := Nat.not_lt_of_le (List.getElem?_eq_none_iff.mp there)
      simp [outside]
  | some group =>
      have inside := (List.getElem?_eq_some_iff.mp there).1
      have gathers := gathered place group there
      simp [inside, gathers.members, ← gathers.disposed]

/-- A call undoes what it reaches. -/
theorem Gathered.isUndone_append_iff (gathered : Gathered calls exchange.groups) (call : Call)
    (number : Nat) :
    IsUndone (calls ++ [call]) exchange.groups.length number ↔
      IsUndone calls exchange.groups.length number ∨ number ∈ exchange.reached call := by
  cases call with
  | dispose other => simp [IsUndone, reached, or_right_comm]
  -- What is added is undone now if the group has been undone, and with the group if not.
  | add place other =>
      simp only [IsUndone, List.mem_append, List.mem_singleton, reduceCtorEq, or_false,
        Call.add.injEq, gathered.mem_reached_add]
      grind
  | disposeGroup place =>
      simp only [IsUndone, List.mem_append, List.mem_singleton, reduceCtorEq, or_false,
        Call.disposeGroup.injEq, gathered.mem_reached_disposeGroup]
      grind

/-! ## A whole course -/

/-- What an exchange is like after some calls: it knows which subscriptions they undo. -/
structure Follows (exchange : Exchange) (size count : Nat) (calls : List Call) : Prop where
  backed : exchange.Backed
  groups : exchange.groups.length = count
  gathered : Gathered calls exchange.groups
  standing : ∀ number,
    exchange.isStanding number = true ↔ number < size ∧ ¬ IsUndone calls count number

theorem Call.length_regroup (call : Call) (groups : List Group) :
    (call.regroup groups).length = groups.length := by
  cases call with
  | dispose number => rfl
  | add place number => exact List.length_modify ..
  | disposeGroup place => exact List.length_modify ..

variable {size count : Nat}

theorem Follows.call (follows : exchange.Follows size count calls) (call : Call) :
    (exchange.call call).2.Follows size count (calls ++ [call]) := by
  rcases follows.backed.call call with ⟨-, regrouped, withdraws⟩
  refine ⟨withdraws.backed, ?_, ?_, ?_⟩
  · rw [regrouped, call.length_regroup, follows.groups]
  · rw [regrouped]
    exact follows.gathered.regroup call
  · intro number
    rw [withdraws.left, mem_withdrawnOf follows.backed, not_and, follows.standing, ← follows.groups,
      follows.gathered.isUndone_append_iff call number]
    tauto

/-- Making several more calls: all their registrations are found, and withdrawn once. -/
theorem Follows.callAll (follows : exchange.Follows size count calls) (more : List Call) :
    (∀ answer ∈ (exchange.callAll more).answers, answer = true) ∧
      exchange.Withdraws (exchange.callAll more).withdrawn (exchange.callAll more).exchange ∧
      (exchange.callAll more).exchange.Follows size count (calls ++ more) := by
  induction more generalizing exchange calls with
  | nil =>
      rw [List.append_nil]
      exact ⟨nofun, .refl follows.backed, follows⟩
  | cons call more ih =>
      rcases follows.backed.call call with ⟨found, -, withdraws⟩
      rcases ih (follows.call call) with ⟨answers, others, still⟩
      rw [List.append_assoc] at still
      refine ⟨?_, withdraws.trans others, still⟩
      exact List.forall_mem_cons.mpr ⟨found, answers⟩

/-! ## Before any calls -/

/-- Nothing has been undone, and nothing is in a group. -/
structure Prepared (exchange : Exchange) : Prop where
  backed : exchange.Backed
  standing : ∀ subscription ∈ exchange.subscriptions, subscription.disposed = false
  groups : ∀ group ∈ exchange.groups, group = ⟨[], false⟩

theorem registrationCount_openStore (directory location : String) (temporary : Bool)
    (place : Nat) (setting : Setting) (callback : Callback) :
    (exchange.openStore (.opened directory location temporary)).2.registrationCount place
        setting callback =
      exchange.registrationCount place setting callback := by
  rw [registrationCount, registrationCount, store?_openStore]
  by_cases last : place = exchange.stores.length
  · have outside : exchange.store? place = none := List.getElem?_eq_none (Nat.le_of_eq last.symm)
    rw [if_pos last, outside]
    exact List.count_nil
  · rw [if_neg last]

theorem registrationCount_putStore_register {place : Nat} {store : Store}
    (used : exchange.store? place = some store) (setting : Setting) (callback : Callback)
    (otherPlace : Nat) (otherSetting : Setting) (otherCallback : Callback) :
    (exchange.putStore place (store.register setting callback)).registrationCount otherPlace
        otherSetting otherCallback =
      exchange.registrationCount otherPlace otherSetting otherCallback +
        if place = otherPlace ∧ setting = otherSetting ∧ callback = otherCallback
          then 1 else 0 := by
  rw [registrationCount, registrationCount, store?_putStore used]
  by_cases here : otherPlace = place
  · subst here
    rw [if_pos rfl, used]
    simp [Store.register, List.count_append, List.count_singleton]
  · rw [if_neg here, if_neg fun same => here same.1.symm]
    rfl

theorem Prepared.prepare (prepared : exchange.Prepared) (preparation : Preparation) :
    (exchange.prepare preparation).Prepared := by
  rcases prepared with ⟨backed, standing, groups⟩
  cases preparation with
  | openStore directory location temporary =>
      refine ⟨?_, standing, groups⟩
      intro place setting callback
      rw [Exchange.prepare, registrationCount_openStore]
      exact backed place setting callback
  | observe place setting callback fails =>
      rw [Exchange.prepare]
      cases used : exchange.store? place with
      | none => exact ⟨backed, standing, groups⟩
      | some store =>
          have registered := registrationCount_putStore_register used setting callback
          cases fails with
          | true =>
              change (exchange.putStore place _).Prepared
              refine ⟨?_, standing, groups⟩
              intro otherPlace otherSetting otherCallback
              rw [registered]
              exact Nat.le_add_right_of_le (backed _ _ _)
          | false =>
              refine ⟨?_, ?_, groups⟩
              · intro otherPlace otherSetting otherCallback
                have before := backed otherPlace otherSetting otherCallback
                have more := registered otherPlace otherSetting otherCallback
                change List.count _ (exchange.subscriptions ++ [_]) ≤
                  (exchange.putStore place _).registrationCount _ _ _
                rw [List.count_append, List.count_singleton, more]
                simp only [beq_iff_eq, Subscription.mk.injEq, and_true]
                omega
              · intro subscription member
                rcases List.mem_append.mp member with earlier | new
                · exact standing subscription earlier
                · rw [List.mem_singleton.mp new]
  | openGroup =>
      refine ⟨backed, standing, ?_⟩
      intro group member
      rcases List.mem_append.mp member with earlier | new
      · exact groups group earlier
      · exact List.mem_singleton.mp new

theorem Prepared.prepareAll (prepared : exchange.Prepared) (preparations : List Preparation) :
    (exchange.prepareAll preparations).Prepared := by
  induction preparations generalizing exchange with
  | nil => exact prepared
  | cons preparation preparations ih => exact ih (prepared.prepare preparation)

theorem prepared_empty : empty.Prepared :=
  ⟨fun _ _ _ => Nat.zero_le _, fun _ member => absurd member List.not_mem_nil,
    fun _ member => absurd member List.not_mem_nil⟩

theorem Prepared.isStanding_iff (prepared : exchange.Prepared) :
    exchange.isStanding number = true ↔ number < exchange.subscriptions.length := by
  rw [Exchange.isStanding_iff]
  constructor
  · rintro ⟨subscription, there, -⟩
    exact (List.getElem?_eq_some_iff.mp there).1
  · intro inside
    exact ⟨_, List.getElem?_eq_getElem inside, prepared.standing _ (List.getElem_mem inside)⟩

theorem Prepared.count_disposed (prepared : exchange.Prepared) (place : Nat) (setting : Setting)
    (callback : Callback) :
    exchange.subscriptions.count ⟨place, setting, callback, true⟩ = 0 := by
  rw [List.count_eq_zero]
  intro member
  exact Bool.noConfusion (prepared.standing _ member)

theorem Prepared.follows (prepared : exchange.Prepared) :
    exchange.Follows exchange.subscriptions.length exchange.groups.length [] := by
  refine ⟨prepared.backed, rfl, ?_, ?_⟩
  · intro place group there
    rw [prepared.groups group (List.mem_of_getElem? there)]
    exact ⟨by simp, by simp⟩
  · intro number
    rw [prepared.isStanding_iff]
    simp [IsUndone]

/-! ## After all calls -/

theorem isDisposed_eq_true_iff :
    exchange.isDisposed number = true ↔
      number < exchange.subscriptions.length ∧ ¬ exchange.isStanding number = true := by
  rw [isDisposed, isStanding]
  cases there : exchange.subscriptions[number]? with
  | none => simp [List.getElem?_eq_none_iff.mp there]
  | some subscription => simp [(List.getElem?_eq_some_iff.mp there).1]

/-- If nothing has been undone before, then what has been undone has been withdrawn. -/
theorem Prepared.mem_iff_isDisposed (prepared : exchange.Prepared)
    (withdraws : exchange.Withdraws numbers after) :
    number ∈ numbers ↔ after.isDisposed number = true := by
  rw [isDisposed_eq_true_iff, withdraws.left, withdraws.length, prepared.isStanding_iff]
  constructor
  · intro withdrawn
    exact ⟨prepared.isStanding_iff.mp (withdraws.standing number withdrawn),
      fun remaining => remaining.2 withdrawn⟩
  · rintro ⟨inside, undone⟩
    by_contra remaining
    exact undone ⟨inside, remaining⟩

theorem Follows.isDisposed_iff
    (follows : exchange.Follows exchange.subscriptions.length count calls) :
    exchange.isDisposed number = true ↔
      number < exchange.subscriptions.length ∧ IsUndone calls count number := by
  rw [isDisposed_eq_true_iff, follows.standing]
  constructor
  · rintro ⟨inside, settled⟩
    exact ⟨inside, by_contra fun standing => settled ⟨inside, standing⟩⟩
  · rintro ⟨inside, undone⟩
    exact ⟨inside, fun standing => standing.2 undone⟩

/-- Whatever subscriptions have been made, and in whatever order they are undone, put into
groups and undone with these, every registration is found, and it is withdrawn once, when
its subscription is undone; no other registrations are withdrawn. At any moment, which may
be after some of the calls, the subscriptions that have been undone are those that have
been undone by themselves and those that have been added, before or after, to a group that
has been undone. -/
theorem undone_exactly_once (preparations : List Preparation) (calls : List Call) :
    let start := empty.prepareAll preparations
    let course := start.callAll calls
    (∀ answer ∈ course.answers, answer = true) ∧
      course.withdrawn.Nodup ∧
      (∀ number, number ∈ course.withdrawn ↔ course.exchange.isDisposed number = true) ∧
      (∀ number, course.exchange.isDisposed number = true ↔
        number < start.subscriptions.length ∧
          (.dispose number ∈ calls ∨
            ∃ group < start.groups.length,
              .add group number ∈ calls ∧ .disposeGroup group ∈ calls)) ∧
      ∀ place setting callback,
        course.exchange.registrationCount place setting callback +
            course.exchange.subscriptions.count ⟨place, setting, callback, true⟩ =
          start.registrationCount place setting callback := by
  intro start course
  have prepared : start.Prepared := prepared_empty.prepareAll preparations
  rcases prepared.follows.callAll calls with ⟨answers, withdraws, follows⟩
  rw [List.nil_append, ← withdraws.length] at follows
  refine ⟨answers, withdraws.nodup, fun number => prepared.mem_iff_isDisposed withdraws, ?_, ?_⟩
  · intro number
    rw [← withdraws.length]
    exact follows.isDisposed_iff
  · intro place setting callback
    rw [withdraws.kept, prepared.count_disposed, Nat.add_zero]

-- The first of two subscriptions is undone by itself, with its group, and when it is added
-- to the group again.
example :
    let preparations := [.openStore "s" "/s" false, .observe 0 .executable (.named "f") false,
      .observe 0 .executable (.named "f") false, .openGroup]
    let calls := [.add 0 0, .add 0 1, .dispose 0, .add 0 0, .disposeGroup 0, .add 0 0]
    ((empty.prepareAll preparations).callAll calls).withdrawn = [0, 1] := by
  decide

end LintBridge.Exchange
