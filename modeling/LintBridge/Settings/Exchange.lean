import LintBridge.Settings.Store

/-!
# The exchange

All stores with the archive behind them, the subscriptions to them, and groups of
subscriptions. A change answers with a notice: the new value and who is to be called
with it. Calling them is up to whoever made the change.
-/

namespace LintBridge

/-- A registration that can be undone once. -/
structure Subscription where
  store : Nat
  setting : Setting
  callback : Callback
  disposed : Bool
  deriving DecidableEq, Repr

/-- Subscriptions that are undone together, the last one first. -/
structure Group where
  members : List Nat
  disposed : Bool
  deriving DecidableEq, Repr

/-- A value, and the callbacks to call with it, in order. -/
structure Notice where
  setting : Setting
  value : String
  callbacks : List Callback
  deriving DecidableEq, Repr

/-- All stores, subscriptions and groups. They are referred to by number, in the order
in which they were made. -/
structure Exchange where
  archive : Archive
  stores : List Store
  subscriptions : List Subscription
  groups : List Group
  deriving DecidableEq, Repr

namespace Exchange

/-- Nothing is open and nothing has been set. -/
def empty : Exchange := ⟨.empty, [], [], []⟩

/-- A store by its number. -/
def store? (exchange : Exchange) (number : Nat) : Option Store :=
  exchange.stores[number]?

/-- Replace a store. -/
def putStore (exchange : Exchange) (number : Nat) (store : Store) : Exchange :=
  { exchange with stores := exchange.stores.set number store }

/-- Open a store; it gets the next number. -/
def openStore (exchange : Exchange) (store : Store) : Nat × Exchange :=
  (exchange.stores.length, { exchange with stores := exchange.stores ++ [store] })

/-- The notice about a setting of a store as it is now. -/
def notice (exchange : Exchange) (store : Store) (setting : Setting) : Notice :=
  ⟨setting, store.get exchange.archive setting, store.observers setting⟩

/-- Set a setting through a store. -/
def set (exchange : Exchange) (store : Store) (setting : Setting) (value : String) :
    Notice × Exchange :=
  let exchange := { exchange with archive := exchange.archive.set store.location setting value }
  (exchange.notice store setting, exchange)

/-- Restore the default of a setting through a store. -/
def unset (exchange : Exchange) (store : Store) (setting : Setting) : Notice × Exchange :=
  let exchange := { exchange with archive := exchange.archive.erase store.location setting }
  (exchange.notice store setting, exchange)

/-- Add a subscription; it gets the next number. -/
def subscribe (exchange : Exchange) (store : Nat) (setting : Setting) (callback : Callback) :
    Nat × Exchange :=
  (exchange.subscriptions.length,
    { exchange with
      subscriptions := exchange.subscriptions ++ [⟨store, setting, callback, false⟩] })

/-- Undo a subscription, unless that has been done. The answer is false if the
registration is not there; the subscription counts as undone even so. -/
def dispose (exchange : Exchange) (number : Nat) : Bool × Exchange :=
  match exchange.subscriptions[number]? with
  | none => (true, exchange)
  | some subscription =>
      if subscription.disposed then (true, exchange)
      else
        let exchange :=
          { exchange with
            subscriptions :=
              exchange.subscriptions.set number { subscription with disposed := true } }
        match (exchange.store? subscription.store).bind
            (·.withdraw? subscription.setting subscription.callback) with
        | none => (false, exchange)
        | some store => (true, exchange.putStore subscription.store store)

/-- Undo some subscriptions one after the other, up to the first one whose registration
is not there: whether all were there, and which ones are left. -/
def disposeAll (exchange : Exchange) : List Nat → Bool × List Nat × Exchange
  | [] => (true, [], exchange)
  | number :: numbers =>
      match exchange.dispose number with
      | (false, exchange) => (false, numbers, exchange)
      | (true, exchange) => disposeAll exchange numbers

/-- Make a group; it gets the next number. -/
def openGroup (exchange : Exchange) : Nat × Exchange :=
  (exchange.groups.length, { exchange with groups := exchange.groups ++ [⟨[], false⟩] })

/-- Add a subscription to a group. It is undone at once if the group has been. -/
def addToGroup (exchange : Exchange) (number subscription : Nat) : Bool × Exchange :=
  match exchange.groups[number]? with
  | none => (true, exchange)
  | some group =>
      if group.disposed then exchange.dispose subscription
      else
        let group := { group with members := subscription :: group.members }
        (true, { exchange with groups := exchange.groups.set number group })

/-- Undo all subscriptions of a group. -/
def disposeGroup (exchange : Exchange) (number : Nat) : Bool × Exchange :=
  match exchange.groups[number]? with
  | none => (true, exchange)
  | some group =>
      let (found, left, exchange) := exchange.disposeAll group.members
      (found, { exchange with groups := exchange.groups.set number ⟨left, true⟩ })

/-- Whether a subscription has been undone. -/
def isDisposed (exchange : Exchange) (subscription : Nat) : Bool :=
  (exchange.subscriptions[subscription]?.map (·.disposed)).getD false

/-- The number of callbacks of every setting of a store that has ever been observed. -/
def observerCounts (store : Store) : List (Setting × Nat) :=
  store.observed.map fun setting => (setting, (store.observers setting).length)

end Exchange

end LintBridge
